/-
# Canonical texts can be taken apart

A canonical text says where it ends: as long as it is followed by nothing, by a comma or by a closing
bracket, no other canonical text begins in the same way and goes on differently (`canonical_append_inj`).
Words and numbers end with their characters, strings with the quote that is not escaped, lists and objects
with their own closing bracket.

So the texts of two values can be the same only if the values are matched up part by part: scalars are
equal, lists have the same texts in the same order, objects under the same names.  Numbers are the
exception.  Those of one whole number are of one worth, but that a double which is no whole number can be
told from its text is a property of how doubles are written, and `fractions` lists the doubles for which
it matters.
-/
import Conform.Proofs.Likeness

namespace Conform

/-! ## 1. Strings -/

namespace Text

/-- A character is escaped in short or by its number, or stays. -/
theorem minimal_cases (c : Char) :
    (∃ e, shortEscape? c = some e ∧ e ≠ 'u' ∧ minimal c = ['\\', e]) ∨
      c.toNat < 32 ∧ minimal c = '\\' :: 'u' :: hex 4 c.toNat ∨
      c ≠ '\\' ∧ c ≠ '"' ∧ minimal c = [c] := by
  unfold minimal
  cases h : shortEscape? c with
  | some e =>
    refine .inl ⟨e, rfl, ?_, rfl⟩
    rintro rfl
    unfold shortEscape? at h
    split at h <;> simp_all
  | none =>
    by_cases hc : c < ' '
    · exact .inr (.inl ⟨hc, by simp [hc]⟩)
    · refine .inr (.inr ⟨?_, ?_, by simp [hc]⟩) <;> rintro rfl <;> cases h

theorem shortEscape?_injective {c d e : Char} (hc : shortEscape? c = some e)
    (hd : shortEscape? d = some e) : c = d := by
  unfold shortEscape? at hc hd
  split at hc <;> cases hc <;> split at hd <;> first | rfl | cases hd

/-- The number of a control character can be read back. -/
theorem hexNumber?_hex : ∀ n < 32, hexNumber? (hex 4 n) = some n := by decide +kernel

/-- No escape is the beginning of another one. -/
theorem minimal_append_inj {c d : Char} {xs ys : List Char}
    (h : minimal c ++ xs = minimal d ++ ys) : c = d ∧ xs = ys := by
  rcases minimal_cases c with ⟨e, hc, hu, hm⟩ | ⟨hc, hm⟩ | ⟨hc, -, hm⟩ <;>
    rcases minimal_cases d with ⟨e', hd, hu', hm'⟩ | ⟨hd, hm'⟩ | ⟨hd, -, hm'⟩ <;>
    rw [hm, hm'] at h <;>
    simp only [List.cons_append, List.nil_append, List.cons.injEq, true_and] at h
  · obtain ⟨rfl, rfl⟩ := h
    exact ⟨shortEscape?_injective hc hd, rfl⟩
  · exact absurd h.1 hu
  · exact absurd h.1.symm hd
  · exact absurd h.1.symm hu'
  · obtain ⟨hn, rfl⟩ := List.append_inj h (by simp [hex])
    have same : some c.toNat = some d.toNat := by
      rw [← hexNumber?_hex _ hc, ← hexNumber?_hex _ hd, hn]
    exact ⟨Char.toNat_inj.1 (Option.some.inj same), rfl⟩
  · exact absurd h.1.symm hd
  · exact absurd h.1 hc
  · exact absurd h.1 hc
  · exact h

/-- No escape begins with a quote. -/
theorem exists_minimal_eq (c : Char) : ∃ e rest, minimal c = e :: rest ∧ e ≠ '"' := by
  rcases minimal_cases c with ⟨e, -, -, hm⟩ | ⟨-, hm⟩ | ⟨-, hq, hm⟩
  · exact ⟨_, _, hm, by decide⟩
  · exact ⟨_, _, hm, by decide⟩
  · exact ⟨c, [], hm, hq⟩

/-- **A quoted text ends with its quote**: what follows two that begin alike is the same. -/
theorem quoted_append_inj {s t : String} {u v : List Char}
    (h : (quoted minimal s).toList ++ u = (quoted minimal t).toList ++ v) : s = t ∧ u = v := by
  have escaped : ∀ cs ds : List Char,
      cs.flatMap minimal ++ '"' :: u = ds.flatMap minimal ++ '"' :: v → cs = ds ∧ u = v := by
    intro cs
    induction cs with
    | nil =>
      intro ds hcs
      cases ds with
      | nil => exact ⟨rfl, by simpa using hcs⟩
      | cons d ds =>
        obtain ⟨e, rest, hd, hq⟩ := exists_minimal_eq d
        rw [List.flatMap_cons, hd] at hcs
        exact absurd (List.cons.inj hcs).1.symm hq
    | cons c cs ih =>
      intro ds hcs
      cases ds with
      | nil =>
        obtain ⟨e, rest, hc, hq⟩ := exists_minimal_eq c
        rw [List.flatMap_cons, hc] at hcs
        exact absurd (List.cons.inj hcs).1 hq
      | cons d ds =>
        simp only [List.flatMap_cons, List.append_assoc] at hcs
        obtain ⟨rfl, hrest⟩ := minimal_append_inj hcs
        obtain ⟨rfl, huv⟩ := ih ds hrest
        exact ⟨rfl, huv⟩
  have inner : s.toList.flatMap minimal ++ '"' :: u = t.toList.flatMap minimal ++ '"' :: v := by
    simpa [quoted] using h
  obtain ⟨hst, huv⟩ := escaped _ _ inner
  exact ⟨String.toList_injective hst, huv⟩

/-- Texts that are quoted alike are equal. -/
theorem quoted_injective {s t : String} (h : quoted minimal s = quoted minimal t) : s = t :=
  (quoted_append_inj (u := []) (v := []) (by rw [h])).1

end Text

/-! ## 2. Numbers -/

namespace Double

theorem isDigit_of_mem_toDigits {n : Nat} {c : Char} (h : c ∈ Nat.toDigits 10 n) :
    c.isDigit = true := Nat.isDigit_of_mem_toDigits (by decide) (by decide) h

theorem mem_positional {ds : List Char} {point : Int} {c : Char}
    (h : c ∈ (positional ds point).toList) : c ∈ ['0', '.'] ∨ c ∈ ds := by
  unfold positional at h
  split at h
  · simp only [String.toList_ofList, List.mem_append, List.mem_replicate] at h
    rcases h with (h | ⟨-, rfl⟩) | h
    · exact .inl h
    · exact .inl (List.mem_cons_self ..)
    · exact .inr h
  · split at h
    · simp only [String.toList_ofList, List.mem_append, List.mem_replicate] at h
      rcases h with (h | ⟨-, rfl⟩) | h
      · exact .inr h
      · exact .inl (List.mem_cons_self ..)
      · exact .inl (List.mem_reverse.1 h)
    · simp only [String.toList_ofList, List.mem_append, List.mem_cons] at h
      rcases h with h | rfl | h
      · exact .inr (List.mem_of_mem_take h)
      · exact .inl (by decide)
      · exact .inr (List.mem_of_mem_drop h)

theorem point_mem_positional (ds : List Char) (point : Int) : '.' ∈ (positional ds point).toList := by
  unfold positional
  split
  · simp
  · split <;> simp

theorem mem_scientific {ds : List Char} {exponent : Int} {c : Char}
    (h : c ∈ (scientific ds exponent).toList) :
    c ∈ ['.', 'e', '-', '+', '0'] ∨ c.isDigit = true ∨ c ∈ ds := by
  simp only [scientific, String.toList_ofList, List.mem_append, List.mem_cons] at h
  rcases h with h | rfl | rfl | h
  · split at h
    · cases h
    · exact .inr (.inr h)
    · simp only [List.mem_cons] at h
      rcases h with rfl | rfl | h
      · exact .inr (.inr (List.mem_cons_self ..))
      · exact .inl (List.mem_cons_self ..)
      · exact .inr (.inr (List.mem_cons_of_mem _ h))
  · exact .inl (by decide)
  · split <;> exact .inl (by decide)
  · rw [Nat.toList_repr] at h
    split at h
    · rcases List.mem_cons.1 h with rfl | h
      · exact .inl (by decide)
      · exact .inr (.inl (isDigit_of_mem_toDigits h))
    · exact .inr (.inl (isDigit_of_mem_toDigits h))

theorem exponent_mem_scientific (ds : List Char) (exponent : Int) :
    'e' ∈ (scientific ds exponent).toList := by
  simp [scientific]

end Double

namespace Number

/-- The characters that numbers are written with: digits, signs, points, and the letters of `NaN`,
`Infinity` and powers of ten. -/
def isNumeral (c : Char) : Bool :=
  c.isDigit || ['-', '+', '.', 'e', 'N', 'a', 'I', 'n', 'f', 'i', 't', 'y'].contains c

/-- The characters that whole numbers are written with. -/
def isWholeNumeral (c : Char) : Bool := c.isDigit || c == '-'

theorem isNumeral_of_isDigit {c : Char} (h : c.isDigit = true) : isNumeral c = true := by
  rw [isNumeral, h, Bool.true_or]

theorem isNumeral_of_isWholeNumeral {c : Char} (h : isWholeNumeral c = true) : isNumeral c = true := by
  rcases Bool.or_eq_true_iff.1 h with h | h
  · exact isNumeral_of_isDigit h
  · obtain rfl : c = '-' := by simpa using h
    decide

theorem toList_intText (n : Int) :
    (intText n).toList = (if n < 0 then ['-'] else []) ++ Nat.toDigits 10 n.natAbs := by
  unfold intText
  split
  · rw [String.toList_append, Nat.toList_repr]
    rfl
  · exact Nat.toList_repr

theorem isWholeNumeral_of_mem_intText {n : Int} {c : Char} (h : c ∈ (intText n).toList) :
    isWholeNumeral c = true := by
  rw [toList_intText] at h
  rcases List.mem_append.1 h with h | h
  · split at h
    · obtain rfl := List.mem_singleton.1 h
      decide
    · cases h
  · rw [isWholeNumeral, Double.isDigit_of_mem_toDigits h, Bool.true_or]

/-- **A whole number can be told from its text.** -/
theorem intText_injective {m n : Int} (h : intText m = intText n) : m = n := by
  have hl := congrArg String.toList h
  rw [toList_intText, toList_intText] at hl
  have no_sign : ∀ {k : Nat} {ds : List Char}, '-' :: ds ≠ Nat.toDigits 10 k := by
    intro k ds hk
    have digit := Double.isDigit_of_mem_toDigits (hk ▸ List.mem_cons_self ..)
    exact absurd digit (by decide)
  have digits_inj : ∀ {j k : Nat}, Nat.toDigits 10 j = Nat.toDigits 10 k → j = k := by
    intro j k hjk
    rw [← Nat.ofDigitChars_toDigits (n := j) (b := 10) (by decide) (by decide), hjk,
      Nat.ofDigitChars_toDigits (by decide) (by decide)]
  split at hl <;> split at hl
  · have same := digits_inj (List.append_cancel_left hl)
    omega
  · exact absurd hl no_sign
  · exact absurd hl.symm no_sign
  · have same := digits_inj hl
    omega

/-- **A double is written with numerals**, and not with those of whole numbers alone. -/
theorem render_spec (x : Double) :
    (∀ c ∈ (x.render Double.documentStyle).toList, isNumeral c = true) ∧
      ∃ c ∈ (x.render Double.documentStyle).toList, isWholeNumeral c = false := by
  -- a sign before the text changes nothing
  have signed : ∀ (negative : Bool) (body : String),
      (∀ c ∈ body.toList, isNumeral c = true) ∧ (∃ c ∈ body.toList, isWholeNumeral c = false) →
      (∀ c ∈ (if negative then "-" ++ body else body).toList, isNumeral c = true) ∧
        ∃ c ∈ (if negative then "-" ++ body else body).toList, isWholeNumeral c = false := by
    rintro negative body ⟨all, c, hc, hw⟩
    cases negative with
    | false => exact ⟨all, c, hc, hw⟩
    | true =>
      simp only [if_true, String.toList_append]
      refine ⟨fun d hd => ?_, c, List.mem_append_right _ hc, hw⟩
      rcases List.mem_append.1 hd with hd | hd
      · obtain rfl := List.mem_singleton.1 hd
        decide
      · exact all d hd
  cases x with
  | nan => exact ⟨List.all_eq_true.1 (show "NaN".toList.all isNumeral = true by decide), 'N', by decide,
      by decide⟩
  | infinite negative =>
    have all : "Infinity".toList.all isNumeral = true := by decide
    have word : (∀ c ∈ "Infinity".toList, isNumeral c = true) ∧
        ∃ c ∈ "Infinity".toList, isWholeNumeral c = false :=
      ⟨List.all_eq_true.1 all, 'I', by decide, by decide⟩
    cases negative
    · exact word
    · exact signed true _ word
  | finite negative m e fits =>
    refine signed negative _ ?_
    split
    · exact ⟨List.all_eq_true.1 (show "0.0".toList.all isNumeral = true by decide), '.', by decide,
        by decide⟩
    · extract_lets x ds point
      have digits : ∀ c ∈ ds, isNumeral c = true := fun c hc =>
        isNumeral_of_isDigit (Double.isDigit_of_mem_toDigits hc)
      have marks : ∀ c ∈ ['.', 'e', '-', '+', '0'], isNumeral c = true :=
        List.all_eq_true.1 (show ['.', 'e', '-', '+', '0'].all isNumeral = true by decide)
      split
      · refine ⟨fun c hc => ?_, '.', Double.point_mem_positional .., by decide⟩
        rcases Double.mem_positional hc with hc | hc
        · refine marks c ?_
          rcases List.mem_cons.1 hc with rfl | hc
          · decide
          · exact List.mem_of_mem_take (i := 1) hc
        · exact digits c hc
      · refine ⟨fun c hc => ?_, 'e', Double.exponent_mem_scientific .., by decide⟩
        rcases Double.mem_scientific hc with hc | hc | hc
        · exact marks c hc
        · exact isNumeral_of_isDigit hc
        · exact digits c hc

end Number

namespace Json

/-- The text of a number is that of the whole number that it is, or that of a double that is none. -/
theorem canonicalNumber_cases (n : Number) :
    (∃ k, n.toInt? = some k ∧ canonicalNumber n = Number.intText k) ∨
      ∃ x, n = .float x ∧ n.toInt? = none ∧ canonicalNumber n = x.render Double.documentStyle := by
  unfold canonicalNumber
  cases hn : n.toInt? with
  | some k => exact .inl ⟨k, rfl, rfl⟩
  | none =>
    cases n with
    | int k => cases hn
    | float x => exact .inr ⟨x, rfl, rfl, rfl⟩

theorem canonicalNumber_spec (n : Number) :
    (∀ c ∈ (canonicalNumber n).toList, Number.isNumeral c = true) ∧ (canonicalNumber n).toList ≠ [] := by
  rcases canonicalNumber_cases n with ⟨k, -, h⟩ | ⟨x, -, -, h⟩ <;> rw [h]
  · refine ⟨fun c hc => Number.isNumeral_of_isWholeNumeral (Number.isWholeNumeral_of_mem_intText hc), ?_⟩
    rw [Number.toList_intText]
    exact List.append_ne_nil_of_right_ne_nil _ Nat.toDigits_ne_nil
  · obtain ⟨all, c, hc, -⟩ := Number.render_spec x
    exact ⟨all, List.ne_nil_of_mem hc⟩

/-! ## 3. Where a text ends -/

/-- What may follow a canonical text for its end to be seen: nothing, a comma or a closing bracket. -/
def Stops (u : List Char) : Prop := ∀ c ∈ u.head?, c ∈ [',', ']', '\x7d']

/-- The character that the text of a string, a list or an object begins with. -/
def mark : Json → Option Char
  | .str _ => some '"'
  | .arr _ _ => some '['
  | .obj _ _ => some '\x7b'
  | _ => none

/-- The characters that words and numbers are written with. -/
def isWordChar (c : Char) : Bool := Number.isNumeral c || ['u', 'l', 'r', 's'].contains c

variable {x y : Json} {u v : List Char} {tag tag' : Tag} {xs ys : List Json} {f g : Fields}

/-- Nothing that may follow a text is a character of a word. -/
theorem isWordChar_of_stop {c : Char} (h : c ∈ [',', ']', '\x7d']) : isWordChar c = false := by
  have none_is : [',', ']', '\x7d'].all (fun c => !isWordChar c) = true := by decide
  simpa using List.all_eq_true.1 none_is c h

theorem stops_cons {c : Char} (h : c ∈ [',', ']', '\x7d']) : Stops (c :: u) := by
  intro d hd
  cases hd
  exact h

theorem toList_canonical_arr : (canonical (.arr tag xs)).toList =
    '[' :: (List.intercalate [',', ' '] ((xs.map canonical).map String.toList) ++ [']']) := by
  rw [canonical, canonicalItems_eq_map]
  simp [String.toList_append, String.toList_intercalate, Function.comp_def]

theorem toList_canonical_obj : (canonical (.obj tag f)).toList =
    '\x7b' :: (List.intercalate [',', ' ']
      ((sortByName (canonicalFields f)).map fun m => (canonicalField m).toList) ++ ['\x7d']) := by
  rw [canonical]
  simp [String.toList_append, String.toList_intercalate, Function.comp_def]

theorem exists_of_mark {c : Char} (h : mark x = some c) : ∃ rest, x.canonical.toList = c :: rest := by
  cases x with
  | str s =>
    cases h
    exact ⟨_, by rw [canonical, Text.quoted, String.toList_ofList, List.cons_append]⟩
  | arr tag xs =>
    cases h
    exact ⟨_, toList_canonical_arr⟩
  | obj tag f =>
    cases h
    exact ⟨_, toList_canonical_obj⟩
  | _ => cases h

/-- **A text without a mark is a word or a number.** -/
theorem word_of_mark (h : mark x = none) :
    (∀ c ∈ x.canonical.toList, isWordChar c = true) ∧ x.canonical.toList ≠ [] := by
  cases x with
  | null => exact ⟨List.all_eq_true.1 (show "null".toList.all isWordChar = true by decide), by decide⟩
  | bool b =>
    cases b
    · exact ⟨List.all_eq_true.1 (show "false".toList.all isWordChar = true by decide), by decide⟩
    · exact ⟨List.all_eq_true.1 (show "true".toList.all isWordChar = true by decide), by decide⟩
  | num n =>
    obtain ⟨all, hne⟩ := canonicalNumber_spec n
    rw [canonical]
    exact ⟨fun c hc => by rw [isWordChar, all c hc, Bool.true_or], hne⟩
  | _ => cases h

/-- No text begins with what may follow a text. -/
theorem exists_canonical_eq (x : Json) :
    ∃ c rest, x.canonical.toList = c :: rest ∧ c ∉ [',', ']', '\x7d'] := by
  cases hm : mark x with
  | some c =>
    obtain ⟨rest, h⟩ := exists_of_mark hm
    refine ⟨c, rest, h, ?_⟩
    cases x <;> cases hm <;> decide
  | none =>
    obtain ⟨all, hne⟩ := word_of_mark hm
    obtain ⟨c, rest, h⟩ := List.exists_cons_of_ne_nil hne
    refine ⟨c, rest, h, fun hc => ?_⟩
    have word := all c (h ▸ List.mem_cons_self ..)
    rw [isWordChar_of_stop hc] at word
    cases word

/-- Texts that begin alike have the same mark. -/
theorem mark_eq (h : x.canonical.toList ++ u = y.canonical.toList ++ v) : mark x = mark y := by
  have no_word : ∀ {z : Json} {c : Char}, mark z = some c → isWordChar c = false := by
    intro z c hz
    cases z <;> cases hz <;> decide
  have differ : ∀ {x y : Json} {c : Char} {u v : List Char}, mark x = none → mark y = some c →
      x.canonical.toList ++ u ≠ y.canonical.toList ++ v := by
    intro x y c u v hx hy h
    obtain ⟨all, hne⟩ := word_of_mark hx
    obtain ⟨d, rest, hd⟩ := List.exists_cons_of_ne_nil hne
    obtain ⟨rest', hc⟩ := exists_of_mark hy
    rw [hd, hc] at h
    have word := all d (hd ▸ List.mem_cons_self ..)
    rw [(List.cons.inj h).1, no_word hy] at word
    cases word
  cases hx : mark x with
  | none =>
    cases hy : mark y with
    | none => rfl
    | some c => exact absurd h (differ hx hy)
  | some c =>
    cases hy : mark y with
    | none => exact absurd h.symm (differ hy hx)
    | some d =>
      obtain ⟨rest, hc⟩ := exists_of_mark hx
      obtain ⟨rest', hd⟩ := exists_of_mark hy
      rw [hc, hd] at h
      rw [(List.cons.inj h).1]

/-- **A word ends with its characters.** -/
theorem word_append_inj {w w' : List Char} (hw : ∀ c ∈ w, isWordChar c = true)
    (hw' : ∀ c ∈ w', isWordChar c = true) (hu : Stops u) (hv : Stops v) (h : w ++ u = w' ++ v) :
    w = w' ∧ u = v := by
  have cut : ∀ {w u : List Char}, (∀ c ∈ w, isWordChar c = true) → Stops u →
      (w ++ u).takeWhile isWordChar = w := by
    intro w u hw hu
    rw [List.takeWhile_append_of_pos hw]
    cases u with
    | nil => simp
    | cons c rest =>
      rw [List.takeWhile_cons, isWordChar_of_stop (hu c rfl), if_neg Bool.false_ne_true, List.append_nil]
  have same : w = w' := by rw [← cut hw hu, h, cut hw' hv]
  subst same
  exact ⟨rfl, List.append_cancel_left h⟩

/-! ## 4. Texts between commas -/

section Commas

variable {α : Type} {text : α → List Char} {as as' : List α}

/-- The texts behind the first one, each with a comma before it. -/
def behind (text : α → List Char) (as : List α) : List Char := as.flatMap fun a => ',' :: ' ' :: text a

theorem intercalate_cons (a : α) (as : List α) :
    List.intercalate [',', ' '] ((a :: as).map text) = text a ++ behind text as := by
  induction as generalizing a with
  | nil => simp [List.intercalate, behind]
  | cons a' as ih =>
    have next := ih a'
    simp only [List.intercalate, behind, List.map_cons, List.intersperse_cons_cons, List.flatten_cons,
      List.flatMap_cons, List.cons_append, List.nil_append] at next ⊢
    rw [next]

/-- **Texts between commas can be told apart** up to the closing bracket, if each of them can. -/
theorem intercalate_append_inj {b : Char} (hb : b ∈ [']', '\x7d'])
    (begins : ∀ a, a ∈ as ∨ a ∈ as' → ∃ c rest, text a = c :: rest ∧ c ≠ b)
    (apart : ∀ a ∈ as, ∀ a' ∈ as', ∀ u v, Stops u → Stops v → text a ++ u = text a' ++ v →
      a = a' ∧ u = v)
    (h : List.intercalate [',', ' '] (as.map text) ++ b :: u =
      List.intercalate [',', ' '] (as'.map text) ++ b :: v) : as = as' ∧ u = v := by
  have comma : ',' ≠ b := by
    rintro rfl
    exact absurd hb (by decide)
  have behind_stops : ∀ (as : List α) (u : List Char), Stops (behind text as ++ b :: u) := by
    intro as u
    cases as with
    | nil => exact stops_cons (List.mem_cons_of_mem _ hb)
    | cons => exact stops_cons (List.mem_cons_self ..)
  -- what stands behind the first text, by induction on the texts
  have behind_inj : ∀ (as as' : List α),
      (∀ a ∈ as, ∀ a' ∈ as', ∀ u v, Stops u → Stops v → text a ++ u = text a' ++ v →
        a = a' ∧ u = v) →
      behind text as ++ b :: u = behind text as' ++ b :: v → as = as' ∧ u = v := by
    intro as
    induction as with
    | nil =>
      intro as' _ h
      cases as' with
      | nil => exact ⟨rfl, (List.cons.inj h).2⟩
      | cons a' as' => exact absurd (List.cons.inj h).1.symm comma
    | cons a as ih =>
      intro as' apart h
      cases as' with
      | nil => exact absurd (List.cons.inj h).1 comma
      | cons a' as' =>
        simp only [behind, List.flatMap_cons, List.cons_append, List.append_assoc, List.cons.injEq,
          true_and] at h
        obtain ⟨rfl, hrest⟩ := apart a (List.mem_cons_self ..) a' (List.mem_cons_self ..) _ _
          (behind_stops as u) (behind_stops as' v) h
        obtain ⟨rfl, huv⟩ := ih as' (fun t ht t' ht' =>
          apart t (List.mem_cons_of_mem _ ht) t' (List.mem_cons_of_mem _ ht')) hrest
        exact ⟨rfl, huv⟩
  cases as with
  | nil =>
    cases as' with
    | nil => exact ⟨rfl, (List.cons.inj h).2⟩
    | cons a' as' =>
      obtain ⟨c, rest, ha, hc⟩ := begins a' (.inr (List.mem_cons_self ..))
      rw [intercalate_cons, ha] at h
      exact absurd (List.cons.inj h).1.symm hc
  | cons a as =>
    cases as' with
    | nil =>
      obtain ⟨c, rest, ha, hc⟩ := begins a (.inl (List.mem_cons_self ..))
      rw [intercalate_cons, ha] at h
      exact absurd (List.cons.inj h).1 hc
    | cons a' as' =>
      rw [intercalate_cons, intercalate_cons, List.append_assoc, List.append_assoc] at h
      obtain ⟨rfl, hrest⟩ := apart a (List.mem_cons_self ..) a' (List.mem_cons_self ..) _ _
        (behind_stops as u) (behind_stops as' v) h
      obtain ⟨rfl, huv⟩ := behind_inj as as' (fun t ht t' ht' =>
        apart t (List.mem_cons_of_mem _ ht) t' (List.mem_cons_of_mem _ ht')) hrest
      exact ⟨rfl, huv⟩

end Commas

/-! ## 5. Texts of whole values -/

/-- **No other text begins like that of the value** and goes on differently. -/
def Apart (x : Json) : Prop :=
  ∀ (y : Json) (u v : List Char), Stops u → Stops v → x.canonical.toList ++ u = y.canonical.toList ++ v →
    x.canonical = y.canonical ∧ u = v

/-- The texts of the items can be read off that of the list. -/
theorem texts_of_items (hx : ∀ x ∈ xs, Apart x)
    (h : (canonical (.arr tag xs)).toList ++ u = (canonical (.arr tag' ys)).toList ++ v) :
    xs.map canonical = ys.map canonical ∧ u = v := by
  rw [toList_canonical_arr, toList_canonical_arr] at h
  simp only [List.cons_append, List.append_assoc, List.nil_append, List.cons.injEq, true_and] at h
  refine intercalate_append_inj (by decide) (fun t ht => ?_) (fun t ht t' ht' u v hu hv htt => ?_) h
  · have any : ∀ x : Json, ∃ c rest, x.canonical.toList = c :: rest ∧ c ≠ ']' := by
      intro x
      obtain ⟨c, rest, hc, hn⟩ := exists_canonical_eq x
      exact ⟨c, rest, hc, fun e => hn (by rw [e]; decide)⟩
    rcases ht with ht | ht <;> obtain ⟨x, -, rfl⟩ := List.mem_map.1 ht <;> exact any x
  · obtain ⟨x, hm, rfl⟩ := List.mem_map.1 ht
    obtain ⟨y, -, rfl⟩ := List.mem_map.1 ht'
    exact hx x hm y u v hu hv htt

theorem toList_canonicalField (m : String × String) : (canonicalField m).toList =
    (Text.quoted Text.minimal m.1).toList ++ (':' :: ' ' :: m.2.toList) := by
  simp [canonicalField, String.toList_append]

/-- **The names of the members and their texts can be read off the text of the object.**  A name ends with
its quote, and what follows it as the value does. -/
theorem texts_of_members (hx : ∀ m ∈ f, Apart m.2)
    (h : (canonical (.obj tag f)).toList ++ u = (canonical (.obj tag' g)).toList ++ v) :
    sortByName (canonicalFields f) = sortByName (canonicalFields g) ∧ u = v := by
  rw [toList_canonical_obj, toList_canonical_obj] at h
  simp only [List.cons_append, List.append_assoc, List.nil_append, List.cons.injEq, true_and] at h
  refine intercalate_append_inj (by decide) (fun m _ => ?_) (fun m hm m' hm' u v hu hv hmm => ?_) h
  · have quote : ∃ rest, (canonicalField m).toList = '"' :: rest := by
      rw [toList_canonicalField, Text.quoted, String.toList_ofList]
      exact ⟨_, rfl⟩
    obtain ⟨rest, hr⟩ := quote
    exact ⟨'"', rest, hr, by decide⟩
  · have hm := (sortByName_perm _).subset hm
    have hm' := (sortByName_perm _).subset hm'
    rw [canonicalFields_eq_map] at hm hm'
    obtain ⟨⟨k, x⟩, hk, rfl⟩ := List.mem_map.1 hm
    obtain ⟨⟨k', y⟩, -, rfl⟩ := List.mem_map.1 hm'
    rw [toList_canonicalField, toList_canonicalField, List.append_assoc, List.append_assoc] at hmm
    obtain ⟨hname, hrest⟩ := Text.quoted_append_inj hmm
    simp only [List.cons_append, List.cons.injEq, true_and] at hrest
    obtain ⟨htext, huv⟩ := hx (k, x) hk y u v hu hv hrest
    exact ⟨Prod.ext hname htext, huv⟩

/-- **A canonical text ends where it can be seen to end.** -/
theorem apart (x : Json) : Apart x := by
  induction x using Json.induction with
  | step x ih =>
    intro y u v hu hv h
    have hm := mark_eq h
    cases hx : mark x with
    | none =>
      obtain ⟨same, huv⟩ := word_append_inj (word_of_mark hx).1 (word_of_mark (hm ▸ hx)).1 hu hv h
      exact ⟨String.toList_injective same, huv⟩
    | some c =>
      cases x with
      | str s =>
        cases y <;> cases hm
        rw [canonical, canonical] at h
        obtain ⟨rfl, huv⟩ := Text.quoted_append_inj h
        exact ⟨rfl, huv⟩
      | arr tag xs =>
        cases y <;> cases hm
        have inside : ∀ x ∈ xs, Apart x := ih
        obtain ⟨same, huv⟩ := texts_of_items inside h
        rw [canonical, canonical, canonicalItems_eq_map, canonicalItems_eq_map, same]
        exact ⟨rfl, huv⟩
      | obj tag f =>
        cases y <;> cases hm
        obtain ⟨same, huv⟩ := texts_of_members (fun m hm => ih m.2 (List.mem_map.2 ⟨m, hm, rfl⟩)) h
        rw [canonical, canonical, same]
        exact ⟨rfl, huv⟩
      | _ => cases hx

/-! ## 6. Values of one text -/

/-- **Lists of one text have the same texts in the same order.** -/
theorem items_of_canonical_eq (h : canonical (.arr tag xs) = canonical (.arr tag' ys)) :
    xs.map canonical = ys.map canonical :=
  (texts_of_items (u := []) (v := []) (fun x _ => apart x) (by rw [h])).1

/-- **Objects of one text have the same texts under the same names.** -/
theorem members_of_canonical_eq (hg : Fields.Distinct g)
    (h : canonical (.obj tag f) = canonical (.obj tag' g)) (k : String) :
    Option.Rel (fun x y => x.canonical = y.canonical) (Fields.get? f k) (Fields.get? g k) := by
  have sorted := (texts_of_members (f := f) (g := g) (u := []) (v := []) (fun m _ => apart m.2)
    (by rw [h])).1
  have perm : (canonicalFields f).Perm (canonicalFields g) :=
    (sortByName_perm _).symm.trans (sorted ▸ sortByName_perm _)
  cases hx : Fields.get? f k with
  | none =>
    have names : k ∉ Fields.names g := by
      rw [← names_canonicalFields, ← (perm.map Prod.fst).mem_iff, names_canonicalFields]
      exact Fields.get?_eq_none_iff.1 hx
    rw [Fields.get?_eq_none_iff.2 names]
    exact .none
  | some x =>
    have hm : (k, x.canonical) ∈ canonicalFields g := by
      refine perm.subset ?_
      rw [canonicalFields_eq_map]
      exact List.mem_map.2 ⟨(k, x), mem_of_get? hx, rfl⟩
    rw [canonicalFields_eq_map] at hm
    obtain ⟨⟨j, y⟩, hy, he⟩ := List.mem_map.1 hm
    obtain ⟨rfl, hxy⟩ := Prod.mk.inj he
    rw [Fields.get?_of_mem hg hy]
    exact .some hxy.symm

theorem mkRat_of_eq_mul {n k : Int} {d : Nat} (hd : d ≠ 0) (h : n = k * d) : mkRat n d = k := by
  rw [h, ← Rat.mkRat_one, ← Rat.mkRat_mul_right (n := k) (d := 1) hd, Nat.one_mul]

/-- A number that is whole is worth that whole number. -/
theorem value_of_toInt? {n : Number} {k : Int} (h : n.toInt? = some k) : n.value = .exact k := by
  cases n with
  | int m =>
    cases h
    rfl
  | float x =>
    cases x with
    | nan | infinite => cases h
    | finite negative m e fits =>
      simp only [Number.toInt?, Double.toInt?] at h
      simp only [Number.value, Double.toRat?]
      split at h
      · next he =>
        cases h
        rw [if_pos he, Rat.mkRat_one]
      · next he =>
        split at h
        · next hm =>
          cases h
          have whole := Nat.div_mul_cancel (Nat.dvd_of_mod_eq_zero hm)
          have power : Nat.pow 2 (-e).toNat ≠ 0 := Nat.ne_of_gt (Nat.pow_pos (Nat.zero_lt_two))
          rw [if_neg he, mkRat_of_eq_mul power]
          split
          · rw [Int.neg_mul, ← Int.natCast_mul, whole]
          · rw [← Int.natCast_mul, whole]
        · cases h

/-- **Numbers of one text are of one worth**, if doubles that are no whole numbers can be told apart. -/
theorem akin_of_text {m n : Number} (h : canonicalNumber m = canonicalNumber n)
    (told : ∀ d e, m = .float d → n = .float e → d.isIntegral = false → e.isIntegral = false →
      d.render Double.documentStyle = e.render Double.documentStyle → d = e) : m.Akin n := by
  -- a whole number is written with other numerals than a double that is none
  have differ : ∀ {k : Int} {x : Double}, Number.intText k ≠ x.render Double.documentStyle := by
    intro k x he
    obtain ⟨-, c, hc, hw⟩ := Number.render_spec x
    rw [← he] at hc
    rw [Number.isWholeNumeral_of_mem_intText hc] at hw
    cases hw
  rcases canonicalNumber_cases m with ⟨k, hk, hm⟩ | ⟨d, rfl, hd, hm⟩ <;>
    rcases canonicalNumber_cases n with ⟨l, hl, hn⟩ | ⟨e, rfl, he, hn⟩
  · obtain rfl : k = l := Number.intText_injective (hm ▸ hn ▸ h)
    refine ⟨(value_of_toInt? hk).trans (value_of_toInt? hl).symm, ?_, h⟩
    rw [Number.isIntegral, Number.isIntegral, hk, hl]
  · exact absurd (hm ▸ hn ▸ h) differ
  · exact absurd (hm ▸ hn ▸ h).symm differ
  · obtain rfl : d = e := told d e rfl rfl (congrArg Option.isSome hd) (congrArg Option.isSome he)
      (hm ▸ hn ▸ h)
    exact ⟨rfl, rfl, rfl⟩

mutual

/-- **The doubles in a value that are no whole numbers**, those that are no numbers at all among them. -/
def fractions : Json → List Double
  | .num (.float x) => if x.isIntegral then [] else [x]
  | .arr _ items => fractionsOfItems items
  | .obj _ fields => fractionsOfFields fields
  | _ => []

def fractionsOfItems : List Json → List Double
  | [] => []
  | x :: rest => fractions x ++ fractionsOfItems rest

def fractionsOfFields : Fields → List Double
  | [] => []
  | (_, x) :: rest => fractions x ++ fractionsOfFields rest

end

theorem mem_fractions_of_mem_children {d : Double} (hy : y ∈ children x) (hd : d ∈ fractions y) :
    d ∈ fractions x := by
  cases x with
  | arr tag items =>
    rw [fractions]
    replace hy : y ∈ items := hy
    induction items with
    | nil => cases hy
    | cons z rest ih =>
      rw [fractionsOfItems, List.mem_append]
      rcases List.mem_cons.1 hy with rfl | hy
      · exact .inl hd
      · exact .inr (ih hy)
  | obj tag fields =>
    rw [fractions]
    obtain ⟨⟨k, z⟩, hm, rfl⟩ := List.mem_map.1 hy
    clear hy
    induction fields with
    | nil => cases hm
    | cons m rest ih =>
      obtain ⟨j, w⟩ := m
      rw [fractionsOfFields, List.mem_append]
      rcases List.mem_cons.1 hm with he | hm
      · cases he
        exact .inl hd
      · exact .inr (ih hm)
  | _ => cases hy

theorem mem_children_of_get? {k : String} (h : Fields.get? f k = some x) : x ∈ children (.obj tag f) :=
  List.mem_map.2 ⟨(k, x), mem_of_get? h, rfl⟩

/-- **Two proper values of one text**, with doubles that can be told apart by their texts. -/
structure Equated (x y : Json) : Prop where
  text : x.canonical = y.canonical
  proper : x.Proper
  proper' : y.Proper
  told : ∀ d ∈ fractions x, ∀ e ∈ fractions y,
    d.render Double.documentStyle = e.render Double.documentStyle → d = e

namespace Equated

/-- What stands inside is equated if its texts are equal. -/
theorem inner (h : Equated x y) {a b : Json} (ha : a ∈ children x) (hb : b ∈ children y)
    (hab : a.canonical = b.canonical) : Equated a b :=
  ⟨hab, h.proper.inner ha, h.proper'.inner hb, fun d hd e he =>
    h.told d (mem_fractions_of_mem_children ha hd) e (mem_fractions_of_mem_children hb he)⟩

/-- Items of one text each are matched up in their order. -/
theorem items {xs ys : List Json} (h : xs.map canonical = ys.map canonical)
    (inner : ∀ a ∈ xs, ∀ b ∈ ys, a.canonical = b.canonical → Equated a b) :
    List.Forall₂ Equated xs ys := by
  induction xs generalizing ys with
  | nil =>
    cases ys with
    | nil => exact .nil
    | cons => cases h
  | cons a xs ih =>
    cases ys with
    | nil => cases h
    | cons b ys =>
      obtain ⟨hab, hrest⟩ := List.cons.inj h
      refine .cons (inner a (List.mem_cons_self ..) b (List.mem_cons_self ..) hab) ?_
      exact ih hrest fun a ha b hb =>
        inner a (List.mem_cons_of_mem _ ha) b (List.mem_cons_of_mem _ hb)

/-- **Values of one text are matched up part by part.** -/
theorem matched (h : Equated x y) : Matched Equated x y := by
  have hm : mark x = mark y := mark_eq (u := []) (v := []) (by rw [h.text])
  have no_number : ∀ (n : Number) (w : String), w.toList.all Number.isNumeral = false →
      w ≠ canonicalNumber n := by
    rintro n _ hw rfl
    rw [List.all_eq_true.2 (canonicalNumber_spec n).1] at hw
    cases hw
  cases x with
  | null =>
    cases y with
    | null => exact .scalar rfl
    | bool b => cases b <;> exact absurd h.text (by decide)
    | num n => exact absurd h.text (no_number n "null" (by decide))
    | _ => cases hm
  | bool b =>
    cases y with
    | null => cases b <;> exact absurd h.text (by decide)
    | bool b' =>
      cases b <;> cases b' <;> first | exact .scalar rfl | exact absurd h.text (by decide)
    | num n =>
      cases b
      · exact absurd h.text (no_number n "false" (by decide))
      · exact absurd h.text (no_number n "true" (by decide))
    | _ => cases hm
  | num m =>
    cases y with
    | null => exact absurd h.text.symm (no_number m "null" (by decide))
    | bool b =>
      cases b
      · exact absurd h.text.symm (no_number m "false" (by decide))
      · exact absurd h.text.symm (no_number m "true" (by decide))
    | num n =>
      refine .numbers (akin_of_text h.text fun d e hd he hdi hei => h.told d ?_ e ?_)
      · rw [hd, fractions, hdi]
        exact List.mem_singleton_self _
      · rw [he, fractions, hei]
        exact List.mem_singleton_self _
    | _ => cases hm
  | str s =>
    cases y <;> cases hm
    obtain rfl := Text.quoted_injective h.text
    exact .scalar rfl
  | arr tag xs =>
    cases y with
    | arr tag' ys =>
      exact .lists (items (items_of_canonical_eq h.text) fun a ha b hb => h.inner ha hb)
    | _ => cases hm
  | obj tag f =>
    cases y with
    | obj tag' g =>
      refine .objects ⟨h.proper.distinct, h.proper'.distinct, fun k => ?_⟩
      have hk := members_of_canonical_eq h.proper'.distinct h.text k
      cases hx : Fields.get? f k <;> cases hy : Fields.get? g k <;> rw [hx, hy] at hk <;> cases hk
      · exact .none
      · next hab =>
        exact .some (h.inner (mem_children_of_get? hx) (mem_children_of_get? hy) hab)
    | _ => cases hm

theorem likeness : Likeness Equated :=
  ⟨matched, fun s => ⟨rfl, proper_str s, proper_str s, fun _ h => nomatch h⟩⟩

end Equated

end Json

end Conform
