/-
# Merging where nulls are replaced

Schemas in which nulls are replaced by true merge to schemas in which they are (`mirrors_merge`), and so do
documents that are united (`Replaced.unite`).  Merging does not look at a schema that is no object, so a null
and a `true` merge alike; what it does look at are the names of required members, which it lists without
repetition, and the occurrences in lists of schemas.

Two checks are `Mirrors` of each other if they stop with the same fault or have related answers.  Only where
a null for additional members may be replaced, the first may stop because it reads a reference of it.
-/
import Conform.Proofs.Firsts
import Conform.Proofs.Replacing

namespace Conform

open Fields (get? Aligned)

/-! ## 1. Lists without repetition -/

namespace Json

/-- Lists that are matched up, their members told apart alike, are without repetition. -/
theorem forall₂_distinct {R : Json → Json → Prop} {xs ys : List Json}
    (apart : ∀ {u v u' v'}, R u v → R u' v' → (u.canonical = u'.canonical ↔ v.canonical = v'.canonical))
    (h : List.Forall₂ R xs ys) : List.Forall₂ R (distinct xs) (distinct ys) := by
  have from_seen : ∀ seen seen' : List String,
      (∀ u v, R u v → (u.canonical ∈ seen ↔ v.canonical ∈ seen')) →
      List.Forall₂ R (distinctFrom seen xs) (distinctFrom seen' ys) := by
    induction h with
    | nil => exact fun _ _ _ => .nil
    | @cons u v xs ys huv _ ih =>
      intro seen seen' alike
      rw [distinctFrom, distinctFrom]
      by_cases hu : u.canonical ∈ seen
      · rw [if_pos (List.contains_iff_mem.2 hu), if_pos (List.contains_iff_mem.2 ((alike u v huv).1 hu))]
        exact ih seen seen' alike
      · rw [if_neg (mt List.contains_iff_mem.1 hu),
          if_neg (mt List.contains_iff_mem.1 (mt (alike u v huv).2 hu))]
        refine .cons huv (ih _ _ fun u' v' huv' => ?_)
        rw [List.mem_cons, List.mem_cons, apart huv' huv, alike u' v' huv']
  exact from_seen [] [] fun _ _ _ => by simp

end Json

namespace Schema

/-! ## 2. Checks with the same answers -/

/-- **Both checks stop with the same fault, or both are answered, and the answers are related**; but the
first may stop at a null for additional members, if one is replaced. -/
inductive Mirrors (manner : Manner) {α β : Type} (R : α → β → Prop) :
    Except Fault α → Except Fault β → Prop
  | fault {fault : Fault} : Mirrors manner R (.error fault) (.error fault)
  | answer {a : α} {b : β} (h : R a b) : Mirrors manner R (.ok a) (.ok b)
  | unreadable {y : Except Fault β} (h : manner.additional = true) :
      Mirrors manner R (.error .notReadable) y

namespace Mirrors

variable {manner : Manner} {α β γ δ : Type} {R : α → β → Prop} {S : γ → δ → Prop}
  {x : Except Fault α} {y : Except Fault β}

theorem bind (h : Mirrors manner R x y) {f : α → Except Fault γ} {g : β → Except Fault δ}
    (hn : ∀ a b, R a b → Mirrors manner S (f a) (g b)) : Mirrors manner S (x >>= f) (y >>= g) := by
  cases h with
  | fault => exact .fault
  | answer h => exact hn _ _ h
  | unreadable ha => exact .unreadable ha

/-- The same, for whoever needs to know the first answer. -/
theorem bind_ok (h : Mirrors manner R x y) {f : α → Except Fault γ} {g : β → Except Fault δ}
    (hn : ∀ a b, x = .ok a → R a b → Mirrors manner S (f a) (g b)) :
    Mirrors manner S (x >>= f) (y >>= g) := by
  cases h with
  | fault => exact .fault
  | answer h => exact hn _ _ rfl h
  | unreadable ha => exact .unreadable ha

theorem same (x : Except Fault α) : Mirrors manner Eq x x := by
  cases x with
  | error fault => exact .fault
  | ok a => exact .answer rfl

theorem eq_or {x y : Except Fault α} (h : Mirrors manner Eq x y) :
    x = y ∨ manner.additional = true ∧ x = .error .notReadable := by
  cases h with
  | fault => exact .inl rfl
  | answer h => exact .inl (h ▸ rfl)
  | unreadable ha => exact .inr ⟨ha, rfl⟩

theorem eq_of {x y : Except Fault α} (h : Mirrors manner Eq x y) (ha : manner.additional = false) :
    x = y :=
  h.eq_or.resolve_right fun hx => by simp [ha] at hx

/-- One check, and what comes after it. -/
theorem after (x : Except Fault α) {f : α → Except Fault γ} {g : α → Except Fault δ}
    (hn : ∀ a, Mirrors manner S (f a) (g a)) : Mirrors manner S (x >>= f) (x >>= g) :=
  (same x).bind fun a _ he => he ▸ hn a

/-- Two checks with one answer, and what comes after them. -/
theorem then_ {x y : Except Fault α} (h : Mirrors manner Eq x y) {f : α → Except Fault γ}
    {g : α → Except Fault δ} (hn : ∀ a, Mirrors manner S (f a) (g a)) :
    Mirrors manner S (x >>= f) (y >>= g) :=
  h.bind fun a _ he => he ▸ hn a

theorem ite {p : Prop} [Decidable p] {x' : Except Fault α} {y' : Except Fault β}
    (h : Mirrors manner R x y) (h' : Mirrors manner R x' y') :
    Mirrors manner R (if p then x else x') (if p then y else y') := by
  split
  · exact h
  · exact h'

end Mirrors

variable {manner : Manner} {use : Use} {a a' b b' r r' x x' y y' z z' : Json}
  {f f' g g' : Fields} {k : String}

/-! ## 3. Documents united -/

section United

open Json (unite uniteFields)

/-- Unless both are objects or both are lists, the second document stands alone. -/
theorem unite_eq_right (ho : x.isObject = false ∨ y.isObject = false)
    (ha : (∀ tag xs, x ≠ .arr tag xs) ∨ ∀ tag xs, y ≠ .arr tag xs) : unite x y = y := by
  rcases unite_cases x y with ⟨_, _, _, _, rfl, rfl, _⟩ | ⟨_, _, _, _, rfl, rfl, _⟩ | h
  · exact ho.elim nofun nofun
  · exact ha.elim (fun ha => absurd rfl (ha _ _)) fun ha => absurd rfl (ha _ _)
  · exact h

theorem unite_obj_left {tag : Tag} (hy : y.isObject = false) : unite (.obj tag f) y = y :=
  unite_eq_right (.inr hy) (.inl fun _ _ h => nomatch h)

theorem unite_obj_right {tag : Tag} (hx : x.isObject = false) : unite x (.obj tag f) = .obj tag f :=
  unite_eq_right (.inl hx) (.inr fun _ _ h => nomatch h)

theorem unite_null_or_true (hx : x = .null ∨ x = .bool true) :
    unite x y = y ∧ unite y x = x := by
  rcases hx with rfl | rfl
  · exact ⟨unite_eq_right (.inl rfl) (.inl fun _ _ h => nomatch h),
      unite_eq_right (.inr rfl) (.inr fun _ _ h => nomatch h)⟩
  · exact ⟨unite_eq_right (.inl rfl) (.inl fun _ _ h => nomatch h),
      unite_eq_right (.inr rfl) (.inr fun _ _ h => nomatch h)⟩

theorem eq_null_of_unite (h : unite x y = .null) : y = .null := by
  rcases unite_cases x y with ⟨_, _, _, _, -, -, he⟩ | ⟨_, _, _, _, -, -, he⟩ | he
  · exact nomatch he.symm.trans h
  · exact nomatch he.symm.trans h
  · exact he.symm.trans h

theorem Referring.uniteFields (hf : Referring manner f) (hg : Referring manner g) :
    Referring manner (uniteFields f g) := by
  induction g generalizing f with
  | nil => exact hf
  | cons m g ih =>
    obtain ⟨k, v⟩ := m
    have later : Referring manner g := fun ref hr => hg ref (List.mem_cons_of_mem _ hr)
    rw [Json.uniteFields]
    refine ih (fun ref hr => ?_) later
    rcases Fields.mem_put hr with ⟨rfl, rfl⟩ | hr
    · obtain ⟨s, rfl, hs⟩ := hg v (List.mem_cons_self ..)
      -- a text stands alone, whatever it is united with
      refine ⟨s, ?_, hs⟩
      split
      · exact unite_eq_right (.inr rfl) (.inr fun _ _ => Json.noConfusion)
      · rfl
    · exact hf ref hr

/-- What is united has no references of its own. -/
theorem Referring.unite (hx : Referring manner (fieldsOf x)) (hy : Referring manner (fieldsOf y)) :
    Referring manner (fieldsOf (unite x y)) := by
  rcases unite_cases x y with ⟨_, _, _, _, rfl, rfl, h⟩ | ⟨_, _, _, _, rfl, rfl, h⟩ | h <;> rw [h]
  · exact hx.uniteFields hy
  · exact nofun
  · exact hy

/-- Members united name by name. -/
theorem aligned_uniteFields {C : String → Json → Json → Prop} (hf : Aligned C f f')
    (hg : Aligned C g g')
    (hC : ∀ k u u' v v', (k, v) ∈ g → C k u u' → C k v v' → C k (unite u v) (unite u' v')) :
    Aligned C (uniteFields f g) (uniteFields f' g') := by
  induction hg generalizing f f' with
  | nil => exact hf
  | @cons k v v' g g' first _ ih =>
    rw [uniteFields, uniteFields]
    refine ih (hf.put ?_) fun k u u' w w' hm => hC k u u' w w' (List.mem_cons_of_mem _ hm)
    rcases hf.get? k with ⟨hn, hn'⟩ | ⟨u, u', hu, hu', huu⟩
    · rw [hn, hn']
      exact first
    · rw [hu, hu']
      exact hC k u u' v v' (List.mem_cons_self ..) huu first

/-- Lists in documents that are united are joined alike. -/
theorem forall₂_joined {xs xs' ys ys' : List Json}
    (h : List.Forall₂ (PairReplaced manner .united k) xs xs')
    (h' : List.Forall₂ (PairReplaced manner .united k) ys ys') :
    List.Forall₂ (PairReplaced manner .united k) (Json.distinct (xs ++ ys))
      (Json.distinct (xs' ++ ys')) :=
  Json.forall₂_distinct (fun huv huv' => manner.listed_apart huv.1.1 huv'.1.1) (List.rel_append h h')

/-- What a keyword holds in united documents, if what is smaller is known. -/
theorem ReplacedAt.unite {bound : Nat} {u u' v v' : Json}
    (ih : ∀ {p p' q q' : Json}, q.size < bound → Replaced manner .united p p' →
      Replaced manner .united q q' → Replaced manner .united (unite p q) (unite p' q'))
    (hv : v.size < bound) (h : ReplacedAt manner .united k u u')
    (h' : ReplacedAt manner .united k v v') :
    ReplacedAt manner .united k (unite u v) (unite u' v') := by
  cases h' with
  | schema hk hvv ha' =>
    obtain ⟨huu, ha⟩ := h.itself hk
    refine .schema hk (ih hv huu hvv) fun he => ⟨fun hn => ?_, (ha he).referring.unite (ha' he).referring⟩
    refine ((ha' he).replaced (eq_null_of_unite hn)).imp_left ?_
    rintro rfl
    exact (unite_null_or_true (.inl rfl)).2
  | lone hk hx hvv =>
    have hy : ∀ tag ys, v' ≠ .arr tag ys := fun tag ys he => hx tag ys (hvv.eq_arr_iff.2 he)
    rcases h.items (List.mem_pair.2 (.inr hk)) fun _ => rfl with ⟨tag, xs, ys, rfl, rfl, -⟩ | ⟨-, hux, huu⟩
    · rw [unite_eq_right (.inl rfl) (.inr hx), unite_eq_right (.inl rfl) (.inr hy)]
      exact .lone hk hx hvv
    · refine .lone hk (fun tag xs he => ?_) (ih hv huu hvv)
      rcases unite_cases u v with ⟨_, _, _, _, -, -, e⟩ | ⟨_, _, _, _, rfl, -, -⟩ | e
      · exact nomatch e.symm.trans he
      · exact hux _ _ rfl
      · exact hx _ _ (e.symm.trans he)
  | list hk items =>
    rcases h.items hk fun _ => rfl with ⟨tag, xs, ys, rfl, rfl, hxy⟩ | ⟨-, hux, huu⟩
    · simp only [Json.unite]
      exact .list hk (.of_forall₂ (forall₂_joined hxy items.forall₂))
    · have hux' : ∀ tag ys, u' ≠ .arr tag ys := fun tag ys he => hux tag ys (huu.eq_arr_iff.2 he)
      rw [unite_eq_right (.inr rfl) (.inl hux), unite_eq_right (.inr rfl) (.inl hux')]
      exact .list hk items
  | composed _ hu => exact absurd rfl hu
  | table hk table =>
    obtain ⟨tag, f, g, rfl, rfl, hfg⟩ := h.tabled hk
    simp only [Json.unite]
    refine .table hk (.of_aligned (aligned_uniteFields hfg table.aligned ?_))
    intro j p p' q q' hq hpp hqq
    exact ih (Nat.lt_trans (Json.size_lt_of_mem_fields _ hq) hv) hpp hqq
  | required hk names' =>
    subst hk
    obtain ⟨tag, xs, tag', ys, rfl, rfl, names⟩ := h.named
    simp only [Json.unite]
    exact .required rfl (congrArg Json.distinct (Json.distinct_append_congr names names'))
  | same hk hr =>
    rw [h.eq hk hr]
    exact .same hk hr

/-- **Documents in which nulls are replaced unite to such documents.** -/
theorem Replaced.unite (hx : Replaced manner .united x x') (hy : Replaced manner .united y y') :
    Replaced manner .united (unite x y) (unite x' y') := by
  induction y using Json.sizeInduction generalizing x x' y' with
  | step y ih =>
    cases hy with
    | leaf ho =>
      cases hx with
      | leaf ho' =>
        refine .leaf ?_
        rcases unite_cases x y with ⟨_, _, _, _, rfl, _, _⟩ | ⟨_, _, _, _, -, -, e⟩ | e
        · cases ho'
        · rw [e]
          rfl
        · rwa [e]
      | null =>
        rw [(unite_null_or_true (.inl rfl)).1, (unite_null_or_true (.inr rfl)).1]
        exact .leaf ho
      | node =>
        rw [unite_obj_left ho, unite_obj_left ho]
        exact .leaf ho
    | null =>
      rw [(unite_null_or_true (.inl rfl)).2, (unite_null_or_true (.inr rfl)).2]
      exact .null
    | node hg =>
      cases hx with
      | leaf ho =>
        rw [unite_obj_right ho, unite_obj_right ho]
        exact .node hg
      | null =>
        rw [unite_obj_right rfl, unite_obj_right rfl]
        exact .node hg
      | node hf =>
        simp only [Json.unite]
        refine replaced_obj (aligned_uniteFields hf.aligned hg.aligned ?_)
        intro k u u' v v' hv huu hvv
        refine ReplacedAt.unite (fun hq hp hq' => ih _ hq hp hq') ?_ huu hvv
        exact Json.size_lt_of_mem_fields _ hv

end United

/-! ## 4. Lists of schemas joined -/

section Joined

variable {xs ys acc : List Json}

/-- A schema is added to a list unless the same occurrence is there. -/
def addOccurrence (acc : List Json) (x : Json) : List Json :=
  if acc.any (Json.sameOccurrence x) then acc else acc ++ [x]

theorem isTrivial_of_sameOccurrence (h : Json.sameOccurrence x y = true) : isTrivial x = isTrivial y := by
  rcases x with _ | b | (n | d) | s | ⟨_ | i, xs⟩ | ⟨_ | i, f⟩ <;>
    rcases y with _ | c | (m | e) | t | ⟨_ | j, ys⟩ | ⟨_ | j, g⟩ <;>
    simp_all [Json.sameOccurrence, isTrivial]

theorem thin_cons_of_trivial (hx : isTrivial x = true) (xs : List Json) :
    thin (x :: xs) = x :: xs.filter (!isTrivial ·) := if_pos hx

theorem thin_cons (hx : isTrivial x = false) (xs : List Json) : thin (x :: xs) = x :: thin xs :=
  if_neg (by simp [hx])

theorem thin_sublist (xs : List Json) : (thin xs).Sublist xs := by
  induction xs with
  | nil => exact .slnil
  | cons x xs ih =>
    rw [thin]
    split
    · exact (List.filter_sublist).cons_cons x
    · exact ih.cons_cons x

/-- Two lists of schemas put together, without what is behind the first that asks for nothing. -/
theorem thin_append (xs ys : List Json) :
    thin (xs ++ ys) =
      if xs.any isTrivial then thin xs ++ ys.filter (!isTrivial ·) else xs ++ thin ys := by
  induction xs with
  | nil => rfl
  | cons x xs ih =>
    rw [List.cons_append, thin, ih, thin, List.any_cons]
    by_cases hx : isTrivial x = true
    · simp [hx]
    · simp only [hx, Bool.false_eq_true, if_false, Bool.false_or]
      split <;> rfl

theorem thin_of_any_eq_false (h : xs.any isTrivial = false) : thin xs = xs := by
  simpa [h, thin] using thin_append xs []

theorem filter_thin (xs : List Json) :
    (thin xs).filter (!isTrivial ·) = xs.filter (!isTrivial ·) := by
  induction xs with
  | nil => rfl
  | cons x xs ih =>
    rw [thin]
    split
    · next hx => simp [hx]
    · next hx => simp [hx, ih]

theorem any_thin (xs : List Json) : (thin xs).any isTrivial = xs.any isTrivial := by
  induction xs with
  | nil => rfl
  | cons x xs ih =>
    rw [thin]
    split
    · next hx => simp [hx]
    · next hx => simp [hx, ih]

/-- Whether an occurrence is there does not depend on schemas that ask for nothing, unless it is one. -/
theorem any_sameOccurrence_thin (hx : isTrivial x = false) (xs : List Json) :
    (thin xs).any (Json.sameOccurrence x) = xs.any (Json.sameOccurrence x) := by
  have unlike : ∀ {y}, isTrivial y = true → Json.sameOccurrence x y = false := by
    intro y hy
    refine Bool.eq_false_iff.2 fun h => ?_
    rw [isTrivial_of_sameOccurrence h, hy] at hx
    cases hx
  have filtered : ∀ ys : List Json, (ys.filter (!isTrivial ·)).any (Json.sameOccurrence x) =
      ys.any (Json.sameOccurrence x) := by
    intro ys
    induction ys with
    | nil => rfl
    | cons y ys ih =>
      by_cases hy : isTrivial y = true
      · simp [hy, unlike hy, ih]
      · simp [hy, ih]
  induction xs with
  | nil => rfl
  | cons y xs ih =>
    rw [thin]
    split
    · rw [List.any_cons, List.any_cons, filtered]
    · rw [List.any_cons, List.any_cons, ih]

/-- A schema that asks for nothing is not there where none is. -/
theorem addOccurrence_of_trivial (hx : isTrivial x = true) (hacc : acc.any isTrivial = false) :
    addOccurrence acc x = acc ++ [x] := by
  rw [addOccurrence, if_neg]
  intro h
  obtain ⟨y, hy, he⟩ := List.any_eq_true.1 h
  rw [isTrivial_of_sameOccurrence he] at hx
  exact List.any_eq_false.1 hacc y hy hx

/-- **Occurrences are told apart before or after what asks for nothing is left out.** -/
theorem thin_foldl (acc xs : List Json) :
    thin (xs.foldl addOccurrence acc) =
      (if acc.any isTrivial then xs.filter (!isTrivial ·) else thin xs).foldl addOccurrence (thin acc) := by
  induction xs generalizing acc with
  | nil => simp [thin]
  | cons x xs ih =>
    rw [List.foldl_cons, ih]
    by_cases hx : isTrivial x = true
    · by_cases hacc : acc.any isTrivial = true
      · have stays : thin (addOccurrence acc x) = thin acc ∧
            (addOccurrence acc x).any isTrivial = true := by
          rw [addOccurrence]
          split
          · exact ⟨rfl, hacc⟩
          · rw [thin_append, if_pos hacc]
            simp [hx, hacc]
        simp [stays.1, stays.2, hx, hacc]
      · rw [Bool.not_eq_true] at hacc
        have added : (acc ++ [x]).any isTrivial = true := by simp [hx]
        rw [addOccurrence_of_trivial hx hacc, thin_append, if_neg (by simp [hacc]), added, if_pos rfl,
          if_neg (by simp [hacc]), thin_cons_of_trivial hx, thin_cons_of_trivial hx, List.foldl_cons,
          thin_of_any_eq_false hacc, addOccurrence_of_trivial hx hacc]
        rfl
    · rw [Bool.not_eq_true] at hx
      have added : thin (addOccurrence acc x) = addOccurrence (thin acc) x := by
        rw [addOccurrence, addOccurrence, any_sameOccurrence_thin hx]
        split
        · rfl
        · by_cases hacc : acc.any isTrivial = true
          · rw [thin_append, if_pos hacc, List.filter_cons_of_pos (by simp [hx]), List.filter_nil]
          · have whole : thin acc = acc := thin_of_any_eq_false (Bool.eq_false_iff.2 hacc)
            rw [thin_append, if_neg hacc, thin_cons hx, whole]
            rfl
      have any_added : (addOccurrence acc x).any isTrivial = acc.any isTrivial := by
        rw [addOccurrence]
        split
        · rfl
        · simp [hx]
      rw [added, any_added]
      split
      · rw [List.filter_cons_of_pos (by simp [hx]), List.foldl_cons]
      · rw [thin_cons hx, List.foldl_cons]

/-- What is thin stays so. -/
theorem thin_thin (xs : List Json) : thin (thin xs) = thin xs := by
  induction xs with
  | nil => rfl
  | cons x xs ih =>
    by_cases hx : isTrivial x = true
    · rw [thin_cons_of_trivial hx, thin_cons_of_trivial hx, List.filter_filter]
      simp
    · rw [Bool.not_eq_true] at hx
      rw [thin_cons hx, thin_cons hx, ih]

/-- Schemas that ask for something are told apart alike. -/
theorem Replaced.sameOccurrence_eq {u u' : Json} (h : Replaced manner use x x')
    (h' : Replaced manner use u u') (hx : isTrivial x = false) :
    Json.sameOccurrence x u = Json.sameOccurrence x' u' := by
  have unlike : ∀ {y z}, isTrivial y = false → isTrivial z = true → Json.sameOccurrence y z = false := by
    intro y z hy hz
    refine Bool.eq_false_iff.2 fun h => ?_
    rw [isTrivial_of_sameOccurrence h, hz] at hy
    cases hy
  have apart : ∀ {y z : Json} {tag : Tag} {f : Fields}, y.isObject = false → z = .obj tag f →
      Json.sameOccurrence y z = false ∧ Json.sameOccurrence z y = false := by
    rintro y _ tag f hy rfl
    rcases tag with _ | tag <;> rcases y with _ | c | (n | d) | s | ⟨_ | i, ys⟩ | ⟨_ | i, g⟩ <;>
      first | (simp [Json.sameOccurrence]; done) | cases hy
  cases h with
  | leaf hxo =>
    cases h' with
    | leaf => rfl
    | null => rw [unlike hx rfl, unlike hx rfl]
    | node => rw [(apart hxo rfl).1, (apart hxo rfl).1]
  | null => cases hx
  | @node _ tag =>
    cases h' with
    | leaf huo => rw [(apart huo rfl).2, (apart huo rfl).2]
    | null => rw [unlike rfl rfl, unlike rfl rfl]
    | @node _ tag' => cases tag <;> cases tag' <;> rfl

/-- Occurrences in lists that are matched up are told apart alike, if they are one by one. -/
theorem forall₂_distinctOccurrences {R : Json → Json → Prop}
    (apart : ∀ {u v u' v'}, R u v → R u' v' → Json.sameOccurrence u u' = Json.sameOccurrence v v')
    (h : List.Forall₂ R xs ys) : List.Forall₂ R (distinctOccurrences xs) (distinctOccurrences ys) := by
  have found : ∀ {u v acc acc'}, R u v → List.Forall₂ R acc acc' →
      acc.any (Json.sameOccurrence u) = acc'.any (Json.sameOccurrence v) := by
    intro u v acc acc' huv hacc
    induction hacc with
    | nil => rfl
    | cons first _ ih => rw [List.any_cons, List.any_cons, apart huv first, ih]
  have from_acc : ∀ {acc acc'}, List.Forall₂ R acc acc' →
      List.Forall₂ R (xs.foldl addOccurrence acc) (ys.foldl addOccurrence acc') := by
    induction h with
    | nil => exact id
    | cons first _ ih =>
      intro acc acc' hacc
      rw [List.foldl_cons, List.foldl_cons]
      refine ih ?_
      rw [addOccurrence, addOccurrence, found first hacc]
      split
      · exact hacc
      · exact List.rel_append hacc (.cons first .nil)
  exact from_acc .nil

theorem any_isTrivial_eq {zs zs' : List Json} (h : List.Forall₂ (PairReplaced manner use k) zs zs') :
    zs.any isTrivial = zs'.any isTrivial := by
  induction h with
  | nil => rfl
  | cons first _ ih => rw [List.any_cons, List.any_cons, isTrivial_eq first.2, ih]

/-- Of thin lists that are matched up the same occurrences are kept: of what asks for nothing there is one
at most. -/
theorem forall₂_occurrences_of_thin {zs zs' : List Json} (hthin : thin zs = zs)
    (h : List.Forall₂ (PairReplaced manner use k) zs zs') :
    List.Forall₂ (PairReplaced manner use k) (distinctOccurrences zs) (distinctOccurrences zs') := by
  have found : ∀ {u v acc acc'}, isTrivial u = false → Replaced manner use u v →
      List.Forall₂ (PairReplaced manner use k) acc acc' →
      acc.any (Json.sameOccurrence u) = acc'.any (Json.sameOccurrence v) := by
    intro u v acc acc' hu huv hacc
    induction hacc with
    | nil => rfl
    | cons first _ ih => rw [List.any_cons, List.any_cons, huv.sameOccurrence_eq first.2 hu, ih]
  have from_acc : ∀ {acc acc'}, List.Forall₂ (PairReplaced manner use k) acc acc' →
      (acc.any isTrivial = true → ∀ z ∈ zs, isTrivial z = false) →
      List.Forall₂ (PairReplaced manner use k) (zs.foldl addOccurrence acc)
        (zs'.foldl addOccurrence acc') := by
    induction h with
    | nil => exact fun hacc _ => hacc
    | @cons u v zs zs' first _ ih =>
      intro acc acc' hacc alone
      rw [List.foldl_cons, List.foldl_cons]
      by_cases hu : isTrivial u = true
      · have none : acc.any isTrivial = false := by
          refine Bool.eq_false_iff.2 fun h => ?_
          rw [alone h u (List.mem_cons_self ..)] at hu
          cases hu
        have rest : ∀ z ∈ zs, isTrivial z = false := by
          rw [thin_cons_of_trivial hu, List.cons.injEq] at hthin
          simpa using List.filter_eq_self.1 hthin.2
        rw [addOccurrence_of_trivial hu none, addOccurrence_of_trivial (isTrivial_eq first.2 ▸ hu)
          (any_isTrivial_eq hacc ▸ none)]
        refine ih (thin_of_any_eq_false (by simpa using rest)) (List.rel_append hacc (.cons first .nil)) ?_
        exact fun _ => rest
      · rw [Bool.not_eq_true] at hu
        rw [thin_cons hu, List.cons.injEq] at hthin
        have later := fun h z hz => alone h z (List.mem_cons_of_mem _ hz)
        rw [addOccurrence, addOccurrence, found hu first.2 hacc]
        split
        · exact ih hthin.2 hacc later
        · refine ih hthin.2 (List.rel_append hacc (.cons first .nil)) ?_
          simpa [hu] using later
  exact from_acc .nil nofun

/-- **Lists of schemas that are matched up but for what is behind the first that asks for nothing** are so
when they are joined. -/
theorem forall₂_thin_joined {xs xs' ys ys' : List Json}
    (h : List.Forall₂ (PairReplaced manner use k) (thin xs) (thin xs'))
    (h' : List.Forall₂ (PairReplaced manner use k) (thin ys) (thin ys')) :
    List.Forall₂ (PairReplaced manner use k) (thin (distinctOccurrences (xs ++ ys)))
      (thin (distinctOccurrences (xs' ++ ys'))) := by
  have filtered : List.Forall₂ (PairReplaced manner use k) (ys.filter (!isTrivial ·))
      (ys'.filter (!isTrivial ·)) := by
    rw [← filter_thin ys, ← filter_thin ys']
    exact forall₂_filter h'
  have put : List.Forall₂ (PairReplaced manner use k) (thin (xs ++ ys)) (thin (xs' ++ ys')) := by
    have trivials : xs.any isTrivial = xs'.any isTrivial := by
      rw [← any_thin xs, ← any_thin xs', any_isTrivial_eq h]
    rw [thin_append, thin_append, trivials]
    split
    · exact List.rel_append h filtered
    · next hx =>
      have whole : thin xs = xs := thin_of_any_eq_false (trivials ▸ Bool.eq_false_iff.2 hx)
      have whole' : thin xs' = xs' := thin_of_any_eq_false (Bool.eq_false_iff.2 hx)
      rw [← whole, ← whole']
      exact List.rel_append h h'
  have thinned : ∀ zs, thin (distinctOccurrences zs) = distinctOccurrences (thin zs) :=
    fun zs => thin_foldl [] zs
  rw [thinned, thinned]
  exact forall₂_occurrences_of_thin (thin_thin _) put

end Joined

/-! ## 5. Members merged -/

section Rules

variable {conjunction : Bool} {a a' b b' r r' : Fields}

/-- Two checks whose answers are members with nulls replaced. -/
abbrev MirrorsMembers (manner : Manner) : Except Fault Fields → Except Fault Fields → Prop :=
  Mirrors manner (MembersReplaced manner .resolved)

/-- Names that are required, where none need be. -/
theorem mirrors_required (h : MembersReplaced manner use f g) :
    Mirrors manner (fun xs ys => Json.distinct xs = Json.distinct ys)
      (entries ((get? f "required").getD (.arr none [])))
      (entries ((get? g "required").getD (.arr none []))) := by
  rcases h.required with ⟨hf, hg⟩ | ⟨tag, xs, tag', ys, hf, hg, names⟩
  · rw [hf, hg]
    exact .answer rfl
  · rw [hf, hg]
    exact .answer names

variable (ha : MembersReplaced manner .resolved a a') (hb : MembersReplaced manner .resolved b b')
  (hr : MembersReplaced manner .resolved r r')

include ha hb hr

theorem mirrors_mergeTypes :
    MirrorsMembers manner (mergeTypes conjunction a b r) (mergeTypes conjunction a' b' r') := by
  have same : ∀ {f f'}, MembersReplaced manner .resolved f f' → get? f "type" = get? f' "type" :=
    fun h => h.get?_eq rfl (by decide)
  rw [mergeTypes, mergeTypes, same ha, same hb]
  split
  · split
    · exact .after _ fun common => .answer (hr.put (.same rfl (by decide)))
    · exact .answer (hr.put (.same rfl (by decide)))
  · exact .answer hr

theorem mirrors_mergePinned :
    MirrorsMembers manner (mergePinned a b r) (mergePinned a' b' r') := by
  have same : ∀ {f f'}, MembersReplaced manner .resolved f f' →
      get? f "enum" = get? f' "enum" ∧ pinned? f = pinned? f' := by
    intro f f' h
    have enum := h.get?_eq (k := "enum") rfl (by decide)
    exact ⟨enum, by rw [pinned?, pinned?, enum, h.get?_eq (k := "const") rfl (by decide)]⟩
  simp only [mergePinned, (same ha).1, (same hb).1, (same ha).2, (same hb).2]
  -- enumerations are joined alike, unless both pin down one value
  split
  on_goal 1 => split; · exact .answer ((Aligned.erase hr "enum").put (.same rfl (by decide)))
  all_goals
    split
    · exact .after _ fun left => .after _ fun right => .answer (hr.put (.same rfl (by decide)))
    · exact .answer hr

theorem mirrors_mergeRequired :
    MirrorsMembers manner (mergeRequired a b r) (mergeRequired a' b' r') := by
  rw [mergeRequired, mergeRequired, ha.has_eq, hb.has_eq]
  split
  · refine (mirrors_required ha).bind fun left left' hleft => ?_
    refine (mirrors_required hb).bind fun right right' hright => .answer (hr.put ?_)
    exact .required rfl (congrArg Json.distinct (Json.distinct_append_congr hleft hright))
  · exact .answer hr

theorem replaced_uniteKeyword (hk : k ∈ ["patternProperties", "dependentSchemas"]) :
    MembersReplaced manner .resolved (uniteKeyword k a b r) (uniteKeyword k a' b' r') := by
  have place : (Shape.ofKeyword k).place = .table := by rcases List.mem_pair.1 hk with rfl | rfl <;> rfl
  have below : Use.resolved.below k = .united := if_pos hk
  have table : ∀ {f f'}, MembersReplaced manner .resolved f f' →
      (get? f k = none ∧ get? f' k = none) ∨ ∃ tag t t', get? f k = some (.obj tag t) ∧
        get? f' k = some (.obj tag t') ∧ Aligned (fun _ => Replaced manner .united) t t' :=
    fun h => below ▸ h.table place
  rcases table ha with ⟨hn, hn'⟩ | ⟨tag, t, t', ht, ht', htt⟩
  · rw [uniteKeyword, uniteKeyword, hn, hn']
    exact hr
  · rcases table hb with ⟨hn, hn'⟩ | ⟨tag', u, u', hu, hu', huu⟩
    · rw [uniteKeyword, uniteKeyword, ht, ht', hn, hn']
      exact hr
    · rw [uniteKeyword, uniteKeyword, ht, ht', hu, hu']
      simp only [Json.unite]
      refine hr.put (.table place (below ▸ .of_aligned (aligned_uniteFields htt huu ?_)))
      exact fun _ _ _ _ _ _ => Replaced.unite

omit ha in
theorem replaced_mergeConditions :
    MembersReplaced manner .resolved (mergeConditions b r) (mergeConditions b' r') := by
  rw [mergeConditions, mergeConditions, hb.has_eq]
  split
  · refine List.rel_foldl (P := MembersReplaced manner .resolved)
      (R := fun k k' => k = k' ∧ k ∈ ["if", "then", "else"]) ?_ hr (List.forall₂_same.2 fun k hk => ⟨rfl, hk⟩)
    rintro acc acc' hacc k _ ⟨rfl, hk⟩
    have places : (Shape.ofKeyword k).place = .itself ∧ k ≠ "additionalProperties" := by
      simp only [List.mem_cons, List.not_mem_nil, or_false] at hk
      rcases hk with rfl | rfl | rfl <;> exact ⟨rfl, by decide⟩
    rcases hb.schema places.1 with ⟨hn, hn'⟩ | ⟨x, x', hx, hx', hxx⟩
    · simp only [hn, hn']
      exact hacc.erase k
    · simp only [hx, hx']
      exact hacc.put (.schema places.1 hxx fun he => absurd he places.2)
  · exact hr

theorem mirrors_mergeComposition (hk : k ∈ ["allOf", "anyOf", "oneOf"]) :
    MirrorsMembers manner (mergeComposition k a b r) (mergeComposition k a' b' r') := by
  have left : get? a k = none → get? a' k = none →
      MirrorsMembers manner (mergeComposition k a b r) (mergeComposition k a' b' r') := by
    intro hn hn'
    rw [mergeComposition, mergeComposition, hn, hn']
    exact .answer hr
  have right : get? b k = none → get? b' k = none →
      MirrorsMembers manner (mergeComposition k a b r) (mergeComposition k a' b' r') := by
    intro hn hn'
    rw [mergeComposition, mergeComposition, hn, hn']
    cases get? a k <;> cases get? a' k <;> exact .answer hr
  by_cases hone : k = "oneOf"
  · subst hone
    rcases ha.list (k := "oneOf") rfl (by decide) with ⟨hn, hn'⟩ | ⟨tag, xs, xs', hx, hx', hxx⟩
    · exact left hn hn'
    rcases hb.list (k := "oneOf") rfl (by decide) with ⟨hn, hn'⟩ | ⟨tag', ys, ys', hy, hy', hyy⟩
    · exact right hn hn'
    rw [mergeComposition, mergeComposition, hx, hx', hy, hy']
    refine .answer (hr.put (.list (List.mem_pair.2 (.inl rfl)) (.of_forall₂ ?_)))
    refine forall₂_distinctOccurrences (fun huv huv' => ?_) (List.rel_append hxx hyy)
    exact manner.counted_apart (huv.1 rfl) (huv'.1 rfl)
  · have thinned : k ∈ ["allOf", "anyOf"] := by
      simp only [List.mem_cons, List.not_mem_nil, or_false] at hk ⊢
      exact hk.imp_right (·.resolve_right hone)
    rcases ha.composed thinned with ⟨hn, hn'⟩ | ⟨tag, xs, xs', hx, hx', hxx⟩
    · exact left hn hn'
    rcases hb.composed thinned with ⟨hn, hn'⟩ | ⟨tag', ys, ys', hy, hy', hyy⟩
    · exact right hn hn'
    rw [mergeComposition, mergeComposition, hx, hx', hy, hy']
    exact .answer (hr.put (.composed thinned nofun (.of_forall₂ (forall₂_thin_joined hxx hyy))))

end Rules

/-! ## 6. Schemas merged -/

section Merging

variable {conjunction : Bool} {a a' b b' r r' : Fields}

/-- One turn of merging members into those of another table. -/
theorem mergeMembers_cons {left rest acc : Fields} :
    mergeMembers left (fun u v _ => merge conjunction u v) ((k, y) :: rest) acc =
      match get? left k with
      | some x => do
        let z ← merge conjunction x y
        mergeMembers left (fun u v _ => merge conjunction u v) rest (Fields.put acc k z)
      | none => mergeMembers left (fun u v _ => merge conjunction u v) rest (Fields.put acc k y) := by
  rw [mergeMembers]
  split <;> next h => rw [h]

/-- Keywords whose schemas are merged where both are objects. -/
theorem mergeObjects_eq : mergeObjects k a b (fun u v _ => merge conjunction u v) r =
    match get? a k, get? b k with
    | some x, some y =>
      if x.isObject && y.isObject then do
        let z ← merge conjunction x y
        .ok (Fields.put r k z)
      else .ok r
    | _, _ => .ok r := by
  unfold mergeObjects
  split
  · next hx hy => simp only [hx, hy]
  · next h =>
    split
    · next hx hy => exact absurd hy (h _ _ hx)
    · rfl

theorem mergeNegated_eq : mergeNegated a b (fun u v _ => merge conjunction u v) r =
    match get? a "not", get? b "not" with
    | some x, some y => do
      let z ← merge conjunction x y
      .ok (Fields.put r "not" z)
    | _, _ => .ok r := by
  unfold mergeNegated
  split
  · next hx hy => simp only [hx, hy]
  · next h =>
    split
    · next hx hy => exact absurd hy (h _ _ hx)
    · rfl

theorem mergeProperties_eq : mergeProperties a b (fun u v _ => merge conjunction u v) r =
    match get? a "properties", get? b "properties" with
    | some x, some y => do
      let left ← copiedMembers x
      let right ← members y
      let merged ← mergeMembers left (fun u v _ => merge conjunction u v) right left
      .ok (Fields.put r "properties" (.obj none merged))
    | _, _ => .ok r := by
  unfold mergeProperties
  split
  · next hx hy =>
    simp only [hx, hy]
    split
    · next hl =>
      simp only [hl]
      rfl
    · next hl =>
      simp only [hl]
      rfl
  · next h =>
    split
    · next hx hy => exact absurd hy (h _ _ hx)
    · rfl

/-- What comes of a merge is not null, and has no references of its own. -/
theorem additional_of_merge (h : merge conjunction x y = .ok z)
    (hx : Referring manner (fieldsOf x)) (hy : Referring manner (fieldsOf y)) :
    Additional manner z z' := by
  rcases merge_sourced h with rfl | ⟨r, rfl, sourced⟩
  · exact ⟨nofun, nofun⟩
  · refine ⟨nofun, fun ref hm => ?_⟩
    rcases sourced.source _ _ hm with hm | hm | hm
    · exact hx ref hm
    · exact hy ref hm
    · generalize hk : "$ref" = name at hm
      cases hm with
      | united hm | merged hm | composed hm =>
        subst hk
        simp at hm
      | _ => exact absurd hk (by decide)

variable (ih : ∀ {x x' y y' : Json}, x.size < Json.sizeFields a → Replaced manner .resolved x x' →
    Replaced manner .resolved y y' →
    Mirrors manner (Replaced manner .resolved) (merge conjunction x y) (merge conjunction x' y'))
  (ha : MembersReplaced manner .resolved a a') (hb : MembersReplaced manner .resolved b b')
  (hr : MembersReplaced manner .resolved r r')

include ih ha hb hr

theorem mirrors_mergeProperties : MirrorsMembers manner
    (mergeProperties a b (fun u v _ => merge conjunction u v) r)
    (mergeProperties a' b' (fun u v _ => merge conjunction u v) r') := by
  rcases ha.table (k := "properties") rfl with ⟨hn, hn'⟩ | ⟨tag, left, left', hl, hl', left_replaced⟩
  · rw [mergeProperties_eq, mergeProperties_eq, hn, hn']
    exact .answer hr
  rcases hb.table (k := "properties") rfl with ⟨hn, hn'⟩ | ⟨tag', right, right', hy, hy', right_replaced⟩
  · rw [mergeProperties_eq, mergeProperties_eq, hn, hn', hl, hl']
    exact .answer hr
  have smaller : Json.sizeFields left ≤ Json.sizeFields a := by
    have := Json.size_lt_sizeFields_of_get? hl
    simp only [Json.size] at this
    omega
  have turns : ∀ {acc acc'}, Aligned (fun _ => Replaced manner .resolved) acc acc' →
      Mirrors manner (Aligned fun _ => Replaced manner .resolved)
        (mergeMembers left (fun u v _ => merge conjunction u v) right acc)
        (mergeMembers left' (fun u v _ => merge conjunction u v) right' acc') := by
    replace right_replaced : Aligned (fun _ => Replaced manner .resolved) right right' := right_replaced
    clear hy hy'
    induction right_replaced with
    | nil =>
      intro acc acc' hacc
      exact .answer hacc
    | @cons k y y' _ _ first _ next =>
      intro acc acc' hacc
      rw [mergeMembers_cons, mergeMembers_cons]
      rcases left_replaced.get? k with ⟨hn, hn'⟩ | ⟨u, u', hu, hu', huu⟩
      · rw [hn, hn']
        exact next (hacc.put first)
      · rw [hu, hu']
        have hsize := Nat.lt_of_lt_of_le (Json.size_lt_sizeFields_of_get? hu) smaller
        exact (ih hsize huu first).bind fun z z' hz => next (hacc.put hz)
  rw [mergeProperties_eq, mergeProperties_eq, hl, hl', hy, hy']
  refine (turns left_replaced).bind fun merged merged' hm => .answer (hr.put ?_)
  exact .table rfl (.of_aligned hm)

theorem mirrors_mergeObjects (hk : k ∈ ["additionalProperties", "items"]) : MirrorsMembers manner
    (mergeObjects k a b (fun u v _ => merge conjunction u v) r)
    (mergeObjects k a' b' (fun u v _ => merge conjunction u v) r') := by
  have object_eq : ∀ {x x'}, ReplacedAt manner .resolved k x x' → x.isObject = x'.isObject := by
    intro x x' h
    cases h with
    | schema _ h | lone _ _ h => exact h.isObject_eq
    | list | composed | table | required | same => rfl
  have schema : ∀ {x x'}, ReplacedAt manner .resolved k x x' → x.isObject = true →
      Replaced manner .resolved x x' ∧ (k = "additionalProperties" → Referring manner (fieldsOf x)) := by
    intro x x' h ho
    rcases List.mem_pair.1 hk with rfl | rfl
    · exact ⟨(h.itself rfl).1, fun he => ((h.itself rfl).2 he).referring⟩
    · rcases h.items (List.mem_pair.2 (.inr rfl)) nofun with ⟨tag, xs, ys, rfl, -, -⟩ | ⟨-, -, h⟩
      · cases ho
      · exact ⟨h, nofun⟩
  rcases ha.get? k with ⟨hn, hn'⟩ | ⟨x, x', hx, hx', hxx⟩
  · rw [mergeObjects_eq, mergeObjects_eq, hn, hn']
    exact .answer hr
  rcases hb.get? k with ⟨hn, hn'⟩ | ⟨y, y', hy, hy', hyy⟩
  · rw [mergeObjects_eq, mergeObjects_eq, hn, hn', hx, hx']
    exact .answer hr
  rw [mergeObjects_eq, mergeObjects_eq, hx, hx', hy, hy']
  simp only [object_eq hxx, object_eq hyy]
  split
  · next ho =>
    obtain ⟨hox, hoy⟩ := Bool.and_eq_true_iff.1 ho
    obtain ⟨hx₁, hx₂⟩ := schema hxx (object_eq hxx ▸ hox)
    obtain ⟨hy₁, hy₂⟩ := schema hyy (object_eq hyy ▸ hoy)
    refine (ih (Json.size_lt_sizeFields_of_get? hx) hx₁ hy₁).bind_ok fun z z' hz hzz => ?_
    refine .answer (hr.put ?_)
    rcases List.mem_pair.1 hk with rfl | rfl
    · exact .schema rfl hzz fun _ => additional_of_merge hz (hx₂ rfl) (hy₂ rfl)
    · refine .lone rfl ?_ hzz
      rcases merge_sourced hz with rfl | ⟨_, rfl, -⟩ <;> exact fun _ _ he => nomatch he
  · exact .answer hr

theorem mirrors_mergeNegated : MirrorsMembers manner
    (mergeNegated a b (fun u v _ => merge conjunction u v) r)
    (mergeNegated a' b' (fun u v _ => merge conjunction u v) r') := by
  rcases ha.schema (k := "not") rfl with ⟨hn, hn'⟩ | ⟨x, x', hx, hx', hxx⟩
  · rw [mergeNegated_eq, mergeNegated_eq, hn, hn']
    exact .answer hr
  rcases hb.schema (k := "not") rfl with ⟨hn, hn'⟩ | ⟨y, y', hy, hy', hyy⟩
  · rw [mergeNegated_eq, mergeNegated_eq, hn, hn', hx, hx']
    exact .answer hr
  rw [mergeNegated_eq, mergeNegated_eq, hx, hx', hy, hy']
  refine (ih (Json.size_lt_sizeFields_of_get? hx) hxx hyy).bind fun z z' hz => ?_
  exact .answer (hr.put (.schema rfl hz (by simp)))

omit hr in
theorem mirrors_mergeFields : MirrorsMembers manner
    (mergeFields conjunction a b (fun u v _ => merge conjunction u v))
    (mergeFields conjunction a' b' (fun u v _ => merge conjunction u v)) := by
  unfold mergeFields
  refine (mirrors_mergeTypes ha hb (ha.union hb)).bind fun _ _ h₁ => ?_
  refine (mirrors_mergePinned ha hb h₁).bind fun _ _ h₂ => ?_
  refine (mirrors_mergeRequired ha hb h₂).bind fun _ _ h₃ => ?_
  refine (mirrors_mergeProperties ih ha hb h₃).bind fun _ _ h₄ => ?_
  have united := replaced_uniteKeyword ha hb (replaced_uniteKeyword ha hb h₄
    (k := "patternProperties") (by simp)) (k := "dependentSchemas") (by simp)
  refine (mirrors_mergeObjects ih ha hb united (by simp)).bind fun _ _ h₅ => ?_
  refine (mirrors_mergeObjects ih ha hb h₅ (by simp)).bind fun _ _ h₆ => ?_
  refine (mirrors_mergeNegated ih ha hb (replaced_mergeConditions hb h₆)).bind fun _ _ h₇ => ?_
  refine (mirrors_mergeComposition ha hb h₇ (by simp)).bind fun _ _ h₈ => ?_
  refine (mirrors_mergeComposition ha hb h₈ (by simp)).bind fun _ _ h₉ => ?_
  exact mirrors_mergeComposition ha hb h₉ (by simp)

end Merging

/-- **Schemas in which nulls are replaced merge to such schemas.** -/
theorem mirrors_merge {conjunction : Bool} (hx : Replaced manner .resolved x x')
    (hy : Replaced manner .resolved y y') :
    Mirrors manner (Replaced manner .resolved) (merge conjunction x y) (merge conjunction x' y') := by
  induction x using Json.sizeInduction generalizing x' y y' with
  | step x ih =>
    rw [merge, merge, hx.isFalse_eq, hy.isFalse_eq]
    split
    · exact .answer (.leaf rfl)
    · refine (mirrors_mergeFields (fun hu huu hvv => ih _ ?_ huu hvv) hx.fieldsOf hy.fieldsOf).bind
        fun r r' hr => .answer (replaced_obj hr)
      exact Nat.lt_of_lt_of_le hu (sizeFields_fieldsOf_le x)

/-- Members with the required names listed anew, as merging lists them. -/
def relisted (f : Fields) : Fields :=
  match get? f "required" with
  | some (.arr _ xs) => Fields.put f "required" (.arr none (Json.distinct xs))
  | _ => f

/-- A schema without keywords adds nothing, but the required names are listed anew. -/
theorem mergeFields_nil {conjunction : Bool} {self : MergeBelow (Json.sizeFields f)} :
    mergeFields conjunction f [] self = mergeRequired f [] f := by
  have properties : ∀ r, mergeProperties f [] self r = .ok r := by
    intro r
    unfold mergeProperties
    simp
  have objects : ∀ k r, mergeObjects k f [] self r = .ok r := by
    intro k r
    unfold mergeObjects
    simp
  have negated : ∀ r, mergeNegated f [] self r = .ok r := by
    intro r
    unfold mergeNegated
    simp
  have composed : ∀ k r, mergeComposition k f [] r = .ok r := by
    intro k r
    simp [mergeComposition]
  have united : ∀ k r, uniteKeyword k f [] r = r := by
    intro k r
    simp [uniteKeyword]
  have conditions : ∀ r, mergeConditions [] r = r := fun r => rfl
  have types : mergeTypes conjunction f [] f = .ok f := by simp [mergeTypes]
  have pinned : mergePinned f [] f = .ok f := by simp [mergePinned, pinned?]
  simp only [mergeFields, Fields.union_nil, types, pinned, ok_bind, properties, objects, negated,
    composed, united, conditions]
  cases mergeRequired f [] f <;> rfl

/-- **What asks for nothing changes nothing** but how the required names are listed. -/
theorem merge_of_trivial {conjunction : Bool} {tag : Tag} {u : Json} (hu : isTrivial u = true)
    (hf : ∀ x, get? f "required" = some x → ∃ tag xs, x = .arr tag xs) :
    merge conjunction (.obj tag f) u = .ok (.obj none (relisted f)) := by
  have empty : fieldsOf u = [] ∧ isFalse u = false := by
    cases u with
    | bool b =>
      cases b with
      | true => exact ⟨rfl, rfl⟩
      | false => cases hu
    | null => exact ⟨rfl, rfl⟩
    | _ => cases hu
  rw [merge, empty.1, empty.2, if_neg (by simp [isFalse]), fieldsOf, mergeFields_nil]
  cases hr : get? f "required" with
  | none =>
    simp [mergeRequired, relisted, Fields.has, hr]
    rfl
  | some x =>
    obtain ⟨tag', xs, rfl⟩ := hf x hr
    simp [mergeRequired, relisted, Fields.has, hr, entries, Json.entries?, ok_bind]

/-- Names listed anew are the same names. -/
theorem MembersReplaced.relisted (h : MembersReplaced manner use f g) :
    MembersReplaced manner use (relisted f) g ∧ MembersReplaced manner use f (relisted g) := by
  rcases h.required with ⟨hf, hg⟩ | ⟨tag, xs, tag', ys, hf, hg, names⟩
  · simp only [Schema.relisted, hf, hg]
    exact ⟨h, h⟩
  · simp only [Schema.relisted, hf, hg]
    refine ⟨h.put_left hf fun y hy => ?_, h.put_right hg fun x hx => ?_⟩
    · cases hg.symm.trans hy
      exact .required rfl (by rw [Json.distinct_distinct, names])
    · cases hf.symm.trans hx
      exact .required rfl (by rw [Json.distinct_distinct, names])

end Schema

end Conform
