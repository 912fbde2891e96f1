/-
# Followers of pointers

What follows a pointer into a document is left open.  A `Follower` keeps to what pointers mean: the empty
one means the document, a name leads to the member of that name and an index in decimal digits to the
item, and nothing is found but what stands in the document.  What becomes of other texts is up to it.

`Follower.standard` reads the segments and walks the document.  It keeps to this because a pointer is read
back as the path that was written (`segments?_pointer`): no slash is left in an escaped segment, and an
index is not the sign for the place behind the last item.
-/
import Conform.Reference.Pointer

namespace Conform.Reference

open Unicode (splitAt)

/-! ## 1. Segments are read back -/

/-- The escape of one character. -/
def escapeChar (c : Char) : List Char :=
  if c = '~' then ['~', '0'] else if c = '/' then ['~', '1'] else [c]

theorem escape_eq_flatMap (cs : List Char) : escape cs = cs.flatMap escapeChar := by
  rw [escape, substitute, substitute, List.flatMap_assoc]
  refine congrArg (List.flatMap · cs) (funext fun c => ?_)
  rw [escapeChar]
  split
  · rfl
  · exact List.flatMap_singleton ..

/-- **Segments are read back**, a segment as it was before it was escaped. -/
theorem unescape?_escape (cs : List Char) : unescape? (escape cs) = some cs := by
  rw [escape_eq_flatMap]
  induction cs with
  | nil => rfl
  | cons c cs ih =>
    rw [List.flatMap_cons, escapeChar]
    split
    · next h =>
      rw [h]
      exact congrArg (Option.map _) ih
    · next tilde =>
      split
      · next h =>
        rw [h]
        exact congrArg (Option.map _) ih
      · rw [List.singleton_append, unescape?, ih]
        · rfl
        · rintro _ rfl _
          exact absurd rfl tilde
        · rintro _ rfl _
          exact absurd rfl tilde
        · rintro rfl
          exact absurd rfl tilde

/-- An escaped segment has no slash. -/
theorem slash_not_mem_escape (cs : List Char) : '/' ∉ escape cs := by
  rw [escape_eq_flatMap]
  intro h
  obtain ⟨c, -, hc⟩ := List.mem_flatMap.1 h
  rw [escapeChar] at hc
  split at hc
  · exact absurd hc (by decide)
  · split at hc
    · exact absurd hc (by decide)
    · next other => exact other (List.mem_singleton.1 hc).symm

/-- Before the first sign, one piece grows. -/
theorem foldr_split {sep : Char} {cs piece : List Char} {pieces : List (List Char)} (h : sep ∉ cs) :
    cs.foldr (fun c (piece, pieces) => if c == sep then ([], piece :: pieces) else (c :: piece, pieces))
      (piece, pieces) = (cs ++ piece, pieces) := by
  induction cs with
  | nil => rfl
  | cons c cs ih =>
    have other : (c == sep) = false := beq_eq_false_iff_ne.2 (List.ne_of_not_mem_cons h).symm
    rw [List.foldr_cons, ih (List.not_mem_of_not_mem_cons h), other]
    rfl

/-- A text without the sign is one piece. -/
theorem splitAt_of_not_mem {sep : Char} {cs : List Char} (h : sep ∉ cs) : splitAt sep cs = [cs] := by
  rw [splitAt, foldr_split h, List.append_nil]

/-- What stands before the first sign is the first piece. -/
theorem splitAt_append_cons {sep : Char} {cs rest : List Char} (h : sep ∉ cs) :
    splitAt sep (cs ++ sep :: rest) = cs :: splitAt sep rest := by
  rw [splitAt, List.foldr_append, List.foldr_cons, beq_self_eq_true]
  show (fun (piece, pieces) => piece :: pieces) (cs.foldr _ ([], splitAt sep rest)) = _
  rw [foldr_split h, List.append_nil]

/-- **The segments of a pointer are the names and indices that it was made of.** -/
theorem segments?_pointer (path : Path) : segments? (pointer path) = some (path.map String.toList) := by
  cases path with
  | nil => rfl
  | cons name rest =>
    rw [pointer, List.flatMap_cons, List.cons_append, segments?]
    show (splitAt '/' (escape name.toList ++ pointer rest)).mapM unescape? = _
    induction rest generalizing name with
    | nil =>
      rw [pointer, List.flatMap_nil, List.append_nil, splitAt_of_not_mem (slash_not_mem_escape _),
        List.mapM_cons, unescape?_escape]
      rfl
    | cons next rest ih =>
      rw [pointer, List.flatMap_cons, List.cons_append, splitAt_append_cons (slash_not_mem_escape _),
        List.mapM_cons, unescape?_escape]
      have others := ih next
      rw [pointer] at others
      rw [others]
      rfl

/-- The decimal digits of a positive number do not begin with a zero. -/
theorem head_toDigits {n : Nat} (h : 0 < n) : ∃ d ds, Nat.toDigits 10 n = d :: ds ∧ d ≠ '0' := by
  induction n using Nat.strongRecOn with
  | ind n ih =>
    rw [Nat.toDigits_eq_if (by decide)]
    split
    · next small =>
      refine ⟨_, _, rfl, ?_⟩
      have nonzero : ∀ m < 10, 0 < m → m.digitChar ≠ '0' := by decide
      exact nonzero n small h
    · obtain ⟨d, ds, hd, nonzero⟩ := ih (n / 10) (by omega) (by omega)
      exact ⟨d, ds ++ [(n % 10).digitChar], by rw [hd]; rfl, nonzero⟩

/-- **An index is read back from its digits.** -/
theorem index?_repr (i : Nat) : index? (Nat.repr i).toList = some i := by
  rw [Nat.toList_repr]
  rcases Nat.eq_zero_or_pos i with rfl | positive
  · rfl
  obtain ⟨d, ds, hd, nonzero⟩ := head_toDigits positive
  have digits : (Nat.toDigits 10 i).all Char.isDigit = true :=
    List.all_eq_true.2 fun c => Nat.isDigit_of_mem_toDigits (by decide) (by decide)
  have number : (Nat.toDigits 10 i).foldl (fun n c => 10 * n + (c.toNat - 48)) 0 = i :=
    Nat.ofDigitChars_eq_foldl.symm.trans Nat.ofDigitChars_ten_toDigits
  rw [hd] at digits number ⊢
  rw [index?, if_pos digits, number]
  · exact fun h => nonzero (List.cons.inj h).1
  · exact fun _ h => nonzero (List.cons.inj h).1
  · exact nofun

/-- Digits are not the sign for the place behind the last item. -/
theorem repr_ne_dash (i : Nat) : (Nat.repr i).toList ≠ ['-'] := by
  rw [Nat.toList_repr]
  intro h
  have digit : Char.isDigit '-' = true :=
    Nat.isDigit_of_mem_toDigits (n := i) (by decide) (by decide) (h ▸ List.mem_cons_self)
  exact absurd digit (by decide)

/-! ## 2. Followers -/

/-- **What follows pointers into a document** (`resolve_pointer`). -/
structure Follower where
  follow : (text : List Char) → (root : Json) → Option Target
  /-- The empty pointer means the document itself. -/
  whole : ∀ root, follow [] root = some (.node root)
  /-- A name leads to the member of that name. -/
  member : ∀ {tag : Tag} {fields : Fields} {name : String} {x : Json} (rest : Path),
    Fields.get? fields name = some x →
      follow (pointer (name :: rest)) (.obj tag fields) = follow (pointer rest) x
  /-- An index in decimal digits leads to the item. -/
  item : ∀ {tag : Tag} {items : List Json} {i : Nat} {x : Json} (rest : Path), items[i]? = some x →
    follow (pointer (Nat.repr i :: rest)) (.arr tag items) = follow (pointer rest) x
  /-- What is found stands in the document. -/
  inside : ∀ {text : List Char} {root x : Json}, follow text root = some (.node x) →
    ∃ path, root.Leads path x

/-- **A pointer leads where its path leads.** -/
theorem Follower.follow_pointer (follower : Follower) {root x : Json} {path : Path}
    (leads : root.Leads path x) : follower.follow (pointer path) root = some (.node x) := by
  induction leads with
  | here x => exact follower.whole x
  | member found _ ih => exact (follower.member _ found).trans ih
  | item found _ ih => exact (follower.item _ found).trans ih

/-- Segments lead to what stands in the document. -/
theorem exists_leads_of_walk? {root x : Json} {segments : List (List Char)}
    (h : walk? root segments = some (.node x)) : ∃ path, root.Leads path x := by
  induction segments generalizing root with
  | nil =>
    obtain rfl : root = x := by cases root <;> exact Target.node.inj (Option.some.inj h)
    exact ⟨[], .here root⟩
  | cons segment rest ih =>
    cases root with
    | obj tag fields =>
      rw [walk?, Option.bind_eq_some_iff] at h
      obtain ⟨y, found, h⟩ := h
      obtain ⟨path, leads⟩ := ih h
      exact ⟨_, .member found leads⟩
    | arr tag items =>
      rw [walk?] at h
      split at h
      · split at h <;> cases h
      · rw [Option.bind_eq_some_iff] at h
        obtain ⟨y, hy, h⟩ := h
        obtain ⟨i, -, found⟩ := Option.bind_eq_some_iff.1 hy
        obtain ⟨path, leads⟩ := ih h
        exact ⟨_, .item found leads⟩
    | _ => cases h

/-- The follower that walks where the segments lead. -/
def Follower.standard : Follower where
  follow text root := (segments? text).bind (walk? root)
  whole root := by cases root <;> rfl
  member rest found := by
    rw [segments?_pointer, segments?_pointer, Option.bind_some, Option.bind_some, List.map_cons, walk?,
      String.ofList_toList, found]
    rfl
  item {_ items i _} rest found := by
    rw [segments?_pointer, segments?_pointer, Option.bind_some, Option.bind_some, List.map_cons, walk?,
      if_neg (repr_ne_dash i), index?_repr]
    show (items[i]?).bind _ = _
    rw [found]
    rfl
  inside h := by
    obtain ⟨segments, -, h⟩ := Option.bind_eq_some_iff.1 h
    exact exists_leads_of_walk? h

end Conform.Reference
