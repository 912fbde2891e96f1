/-
# Numerals denote decimals

A text takes part in a division as the decimal it denotes, and the texts that denote one are many: digits of
any script, blanks, marks between digits.  Numbers are written with few characters, though (`IsSpelled`), and
among these the digits are the usual ones, nothing is a blank and nothing is a mark.  So a numeral is read as it
stands: its digits, its point, its power of ten (`ofText?_numeral`).

The tables of digits and blanks enter in one way only.  A code point that a table holds lies in one of its
ranges (`exists_of_searchBetween`), and that no range meets the characters of numbers, but for one digit zero,
is decided on the table.
-/
import Conform.Proofs.Rereading
import Conform.Number.Numeral

namespace Conform.Decimal

open Json (Numeral powerText padded signText)

variable {c : Char} {cs ds : List Char} {n : Nat}

/-! ## 1. Digits -/

/-- A code point that a set holds lies in one of its ranges. -/
theorem exists_of_searchBetween {bounds : Array (Nat × Nat)} {low high : Nat}
    (h : Unicode.Ranges.searchBetween bounds n low high = true) :
    ∃ r ∈ bounds.toList, r.1 ≤ n ∧ n ≤ r.2 := by
  fun_induction Unicode.Ranges.searchBetween bounds n low high with
  | case1 low high inside mid absent => cases h
  | case2 low high inside mid a b found below ih => exact ih h
  | case3 low high inside mid a b found below above ih => exact ih h
  | case4 low high inside mid a b found below above =>
    refine ⟨(a, b), ?_, by omega, by omega⟩
    obtain ⟨hm, he⟩ := Array.getElem?_eq_some_iff.1 found
    exact he ▸ Array.getElem_mem_toList hm
  | case5 low high outside => cases h

/-- Of the zeros only one stands among the characters that numbers are written with. -/
theorem contains_zeros (hn : n < 102) : Unicode.zeros.contains n = decide (n = 48) := by
  have apart : ∀ r ∈ Unicode.zeros.bounds.toList, r = (48, 48) ∨ 102 ≤ r.1 := by
    rw [Unicode.zeros, Unicode.Ranges.ofText, String.toList_ofList]
    decide +kernel
  have zero : Unicode.zeros.contains 48 = true := by
    rw [Unicode.zeros, Unicode.Ranges.ofText, String.toList_ofList]
    decide +kernel
  by_cases h : n = 48
  · rw [h, zero]
    rfl
  · rw [decide_eq_false h, Bool.eq_false_iff]
    intro held
    obtain ⟨r, hr, low, high⟩ := exists_of_searchBetween held
    rcases apart r hr with rfl | far
    · exact h (Nat.le_antisymm high low)
    · omega

/-- A digit has its value. -/
theorem digitValue?_digit (low : 48 ≤ n) (high : n ≤ 57) : Unicode.digitValue? n = some (n - 48) := by
  rw [Unicode.digitValue?, List.find?_range_eq_some]
  refine ⟨?_, List.mem_range.2 (by omega), fun d hd => ?_⟩
  · rw [contains_zeros (by omega)]
    simp
    omega
  · rw [contains_zeros (by omega)]
    simp
    omega

/-- Other characters that numbers are written with are no digits. -/
theorem digitValue?_other (hn : n < 102) (h : n < 48 ∨ 57 < n) : Unicode.digitValue? n = none := by
  rw [Unicode.digitValue?, List.find?_eq_none]
  intro d hd
  have small := List.mem_range.1 hd
  rw [contains_zeros (by omega)]
  simp
  omega

theorem isNumeralDigit_of_isDigit (h : c.isDigit = true) : isNumeralDigit c = true := by
  obtain ⟨low, high⟩ := Char.isDigit_iff_toNat.1 h
  rw [isNumeralDigit, digitValue?_digit low high]
  rfl

theorem isNumeralDigit_other (hc : c.toNat < 102) (h : c.toNat < 48 ∨ 57 < c.toNat) :
    isNumeralDigit c = false := by
  rw [isNumeralDigit, digitValue?_other hc h]
  rfl

/-- Digits have one value for either reader. -/
theorem digitsValue_eq (hd : ∀ c ∈ ds, c.isDigit = true) : digitsValue ds = Json.digitsValue ds := by
  unfold digitsValue Json.digitsValue
  refine List.foldl_ext _ _ 0 fun n c hc => ?_
  obtain ⟨low, high⟩ := Char.isDigit_iff_toNat.1 (hd c hc)
  rw [digitValue?_digit low high]
  rfl

/-! ## 2. What stands around a numeral -/

/-- The characters that numbers are written with. -/
def IsSpelled (c : Char) : Prop := c.isDigit = true ∨ c ∈ ['.', 'e', '-', '+']

theorem toNat_of_isSpelled (h : IsSpelled c) : 33 ≤ c.toNat ∧ c.toNat < 102 := by
  rcases h with digit | sign
  · obtain ⟨low, high⟩ := Char.isDigit_iff_toNat.1 digit
    change 48 ≤ c.toNat at low
    change c.toNat ≤ 57 at high
    omega
  · simp only [List.mem_cons, List.not_mem_nil, or_false] at sign
    rcases sign with rfl | rfl | rfl | rfl <;> decide

theorem not_isNumeralBlank (h : IsSpelled c) : ¬isNumeralBlank c = true := by
  have apart : ∀ r ∈ numeralBlanks.bounds.toList, r.2 < 33 ∨ 102 ≤ r.1 := by
    rw [numeralBlanks, Unicode.Ranges.ofText, String.toList_ofList]
    decide +kernel
  intro blank
  obtain ⟨r, hr, low, high⟩ := exists_of_searchBetween blank
  obtain ⟨above, below⟩ := toNat_of_isSpelled h
  rcases apart r hr with before | behind
  · omega
  · omega

theorem ne_mark (h : IsSpelled c) : c ≠ '_' := by
  rintro rfl
  rcases h with digit | sign
  · exact absurd digit (by decide)
  · exact absurd sign (by decide)

/-- **What numbers are written with has neither blanks around it nor marks inside.** -/
theorem numeralCore_of_isSpelled (h : ∀ c ∈ cs, IsSpelled c) : numeralCore cs = cs := by
  have solid : ∀ l : List Char, (∀ c ∈ l, IsSpelled c) → l.dropWhile isNumeralBlank = l := by
    intro l hl
    cases l with
    | nil => rfl
    | cons c l => exact List.dropWhile_cons_of_neg (not_isNumeralBlank (hl c List.mem_cons_self))
  unfold numeralCore
  rw [solid cs h]
  dsimp only
  rw [solid cs.reverse fun c hc => h c (List.mem_reverse.1 hc), List.reverse_reverse]
  exact List.filter_eq_self.2 fun c hc => bne_iff_ne.2 (ne_mark (h c hc))

/-- The characters of a power of ten. -/
theorem isSpelled_powerText (power : Int) : ∀ c ∈ powerText power, IsSpelled c := by
  rw [Json.powerText_eq]
  refine List.forall_mem_cons.2 ⟨.inr (by decide), List.forall_mem_cons.2 ⟨?_, ?_⟩⟩
  · split
    · exact .inr (by decide)
    · exact .inr (by decide)
  · exact fun c hc => .inl (Json.isDigit_padded _ c hc)

/-- The characters of a numeral. -/
theorem isSpelled_text (numeral : Numeral) (negative : Bool) :
    ∀ c ∈ signText negative ++ numeral.text, IsSpelled c := by
  have sign : ∀ c ∈ signText negative, IsSpelled c := by
    cases negative with
    | false => exact fun c hc => nomatch hc
    | true => exact List.forall_mem_singleton.2 (.inr (by decide))
  have tail : ∀ c ∈ numeral.tail, IsSpelled c := by
    unfold Numeral.tail
    cases numeral.power with
    | none => exact fun c hc => nomatch hc
    | some power => exact isSpelled_powerText power
  have fraction := numeral.isDigit_fraction
  refine List.forall_mem_append.2 ⟨sign, ?_⟩
  unfold Numeral.text
  refine List.forall_mem_append.2 ⟨fun c hc => .inl (numeral.isDigit_whole c hc), ?_⟩
  cases hf : numeral.fraction with
  | none => exact tail
  | some ds =>
    rw [hf] at fraction
    exact List.forall_mem_cons.2
      ⟨.inr (by decide), List.forall_mem_append.2 ⟨fun c hc => .inl (fraction c hc), tail⟩⟩

/-! ## 3. The parts of a numeral -/

theorem padded_ne_nil (n : Nat) : padded n ≠ [] := by
  unfold padded
  split
  · exact List.cons_ne_nil _ _
  · rw [Nat.toList_repr]
    exact Nat.toDigits_ne_nil

/-- **A power of ten is read from its text.** -/
theorem powerOf?_powerText (power : Int) : powerOf? (powerText power) = some power := by
  have some_digit := padded_ne_nil power.natAbs
  have digits := Json.isDigit_padded power.natAbs
  have all : (padded power.natAbs).all isNumeralDigit = true :=
    List.all_eq_true.2 fun c hc => isNumeralDigit_of_isDigit (digits c hc)
  have value : digitsValue (padded power.natAbs) = power.natAbs :=
    (digitsValue_eq digits).trans (Json.digitsValue_padded power.natAbs)
  rw [Json.powerText_eq]
  by_cases h : power < 0
  · rw [if_pos h]
    simp [powerOf?, signed, some_digit, all, value, abs_of_neg h]
  · rw [if_neg h]
    simp [powerOf?, signed, some_digit, all, value, abs_of_nonneg (Int.not_lt.1 h)]

theorem powerOf?_tail (numeral : Numeral) : powerOf? numeral.tail = some (numeral.power.getD 0) := by
  unfold Numeral.tail
  cases numeral.power with
  | none => rfl
  | some power => exact powerOf?_powerText power

/-- The power of ten begins with its letter. -/
theorem isNumeralDigit_head?_tail (numeral : Numeral) :
    ∀ c ∈ numeral.tail.head?, isNumeralDigit c = false := by
  rcases numeral.tail_cases with h | ⟨rest, h⟩
  · rw [h]
    exact fun c hc => nomatch hc
  · rw [h]
    rintro _ ⟨⟩
    exact isNumeralDigit_other (by decide) (.inr (by decide))

/-- What is written before the digits of a numeral is read as its sign. -/
theorem signed_text (numeral : Numeral) (negative : Bool) :
    signed (signText negative ++ numeral.text) = (negative, numeral.text) :=
  Json.signedDigits_signText negative numeral.whole_ne_nil numeral.isDigit_whole

/-- A digit has no other case. -/
theorem toLower_of_isDigit (h : c.isDigit = true) : c.toLower = c := by
  refine dif_neg fun upper => ?_
  have low : 65 ≤ c.toNat := UInt32.le_iff_toNat_le.1 upper.1
  have high : c.toNat ≤ 57 := (Char.isDigit_iff_toNat.1 h).2
  omega

/-- **A numeral is no word**: it begins with a digit. -/
theorem exists_map_toLower_text (numeral : Numeral) :
    ∃ d ds, d.isDigit = true ∧ numeral.text.map Char.toLower = d :: ds := by
  have digits := numeral.isDigit_whole
  unfold Numeral.text
  cases hn : numeral.whole with
  | nil => exact absurd hn numeral.whole_ne_nil
  | cons d ds =>
    rw [hn] at digits
    have digit := digits d List.mem_cons_self
    rw [List.cons_append, List.map_cons, toLower_of_isDigit digit]
    exact ⟨d, _, digit, rfl⟩

/-! ## 4. What a numeral denotes -/

/-- The decimal of the digits of a numeral, with a sign and at its power of ten. -/
def ofNumeral (numeral : Numeral) (negative : Bool) : Decimal :=
  ⟨if negative then -(numeral.digits : Int) else numeral.digits, numeral.exponent⟩

/-- **A numeral denotes the decimal of its digits**, if that can be read. -/
theorem ofText?_numeral (numeral : Numeral) (negative : Bool)
    (readable : (ofNumeral numeral negative).isReadable = true) :
    Operand.ofText? (String.ofList (signText negative ++ numeral.text)) =
      some (.finite (ofNumeral numeral negative)) := by
  have last := powerOf?_tail numeral
  have letter := isNumeralDigit_head?_tail numeral
  have whole : ∀ c ∈ numeral.whole, isNumeralDigit c = true := fun c hc =>
    isNumeralDigit_of_isDigit (numeral.isDigit_whole c hc)
  have value : digitsValue (numeral.whole ++ numeral.fraction.getD []) = numeral.digits :=
    digitsValue_eq (List.forall_mem_append.2 ⟨numeral.isDigit_whole, numeral.isDigit_fraction⟩)
  -- what is done with the digits behind the point, if any, and with the power of ten
  have assembled : ∀ fraction, numeral.fraction.getD [] = fraction →
      (let a : Decimal := ⟨if negative then -(digitsValue (numeral.whole ++ fraction) : Int)
          else digitsValue (numeral.whole ++ fraction), numeral.power.getD 0 - fraction.length⟩
        if ((numeral.whole ++ fraction).isEmpty || !a.isReadable) = true then (none : Option Operand)
        else some (.finite a)) =
      some (.finite (ofNumeral numeral negative)) := by
    rintro _ rfl
    dsimp only
    rw [value]
    have some_digit : (numeral.whole ++ numeral.fraction.getD []).isEmpty = false := by
      rw [Bool.eq_false_iff, Ne, List.isEmpty_iff]
      exact List.append_ne_nil_of_left_ne_nil numeral.whole_ne_nil _
    rw [some_digit, Bool.false_or]
    refine if_neg ?_
    change ¬(!(ofNumeral numeral negative).isReadable) = true
    rw [readable]
    decide
  obtain ⟨d, ds, digit, spelled⟩ := exists_map_toLower_text numeral
  have no_infinity : ¬((numeral.text.map Char.toLower == "inf".toList) ||
      (numeral.text.map Char.toLower == "infinity".toList)) = true := by
    rw [spelled, Bool.or_eq_true, beq_iff_eq, beq_iff_eq, not_or]
    constructor
    · rintro ⟨⟩
      exact absurd digit (by decide)
    · rintro ⟨⟩
      exact absurd digit (by decide)
  have no_word : ¬isUndefinedWord (numeral.text.map Char.toLower) = true := by
    have other : ∀ c : Char, c.isDigit = false → c ≠ d := by
      rintro c hc rfl
      rw [hc] at digit
      cases digit
    have n := other 'n' (by decide)
    have s := other 's' (by decide)
    rw [spelled]
    simp [isUndefinedWord, n, s]
  rw [Operand.ofText?, String.toList_ofList, numeralCore_of_isSpelled (isSpelled_text numeral negative),
    signed_text]
  dsimp only
  rw [if_neg no_infinity, if_neg no_word]
  unfold Numeral.text
  cases hf : numeral.fraction with
  | some fraction =>
    have inner : ∀ c ∈ fraction, isNumeralDigit c = true := fun c hc =>
      isNumeralDigit_of_isDigit (numeral.isDigit_fraction c (by rw [hf]; exact hc))
    have point : ∀ c ∈ ('.' :: (fraction ++ numeral.tail)).head?, isNumeralDigit c = false := by
      rintro _ ⟨⟩
      exact isNumeralDigit_other (by decide) (.inl (by decide))
    simp only [Json.span_append whole point, Json.span_append inner letter, last]
    exact assembled fraction (by rw [hf]; rfl)
  | none =>
    simp only [Json.span_append whole letter]
    -- no point begins what is left
    rcases numeral.tail_cases with h | ⟨rest, h⟩
    · rw [h] at last ⊢
      simp only [last]
      exact assembled [] (by rw [hf]; rfl)
    · rw [h] at last ⊢
      split
      · next power read =>
        obtain rfl := Option.some.inj (last.symm.trans read)
        exact assembled [] (by rw [hf]; rfl)
      · next read => exact absurd (last.symm.trans read) (Option.some_ne_none _)

end Conform.Decimal
