/-
# Doubles are read back from their texts

A double is written with its shortest digits, in one of two layouts, and reading the text gives the double
again (`numberOfToken?_render`).  The two halves do not meet digit by digit.  The digits that are found may
end with zeros that are then left off, and a whole number gets zeros and a point that were not there: what
is read is another decimal than what was chosen, but of the same value, and nothing else matters to reading.

Writing and reading are kept apart by the form of what is written, a `Numeral`: each layout is one, of the
value of its digits (`exists_layout`), and any numeral is read as its digits and its power of ten.

So every finite double has a text of its own, and since the words for the other values are no numbers, any
two doubles can be told apart by their texts (`render_injective`).
-/
import Conform.Proofs.Rounding
import Conform.Json.Reader
import Mathlib.Tactic.FieldSimp

namespace Conform

namespace Double

variable {m digits : Nat} {e exponent : Int} {negative : Bool}

/-! ## 1. Signs -/

/-- The double with another sign. -/
def withSign (negative : Bool) : Double → Double
  | .nan => .nan
  | .infinite _ => .infinite negative
  | .finite _ m e fits => .finite negative m e fits

/-- The sign is taken over. -/
theorem ofDecimal_withSign (negative negative' : Bool) (digits : Nat) (exponent : Int) :
    ofDecimal negative digits exponent = withSign negative (ofDecimal negative' digits exponent) := by
  have ratio : ∀ num den, ofRatio negative num den = withSign negative (ofRatio negative' num den) := by
    intro num den
    rw [ofRatio_eq, ofRatio_eq]
    unfold placed
    split_ifs <;> rfl
  unfold ofDecimal
  simp only [ratio]
  split_ifs <;> rfl

/-! ## 2. The shortest digits -/

/-- Leaving off zeros at the end leaves the value. -/
theorem Digits.value_trim (fuel : Nat) (x : Digits) :
    ((x.trim fuel).digits : ℚ) * 10 ^ (x.trim fuel).exponent = x.digits * 10 ^ x.exponent := by
  induction fuel generalizing x with
  | zero => rfl
  | succ fuel ih =>
    rw [Digits.trim]
    split
    · next h =>
      rw [ih]
      have tens : (x.digits : ℚ) = (x.digits / 10 : Nat) * 10 := by
        exact_mod_cast (Nat.div_mul_cancel (Nat.dvd_of_mod_eq_zero h.2)).symm
      rw [tens, mul_assoc, zpow_add₀ (by norm_num), zpow_one]
      push_cast
      ring
    · rfl

/-- **A candidate is read as the double.** -/
theorem ofDecimal_of_candidate? {num den : Nat} {g : Int} {x : Digits} (negative : Bool) (fits : Fits m e)
    (h : candidate? m e num den g = some x) :
    ofDecimal negative x.digits x.exponent = .finite negative m e fits := by
  unfold candidate? at h
  extract_lets readsBack at h
  have reads : ∀ c, readsBack c = true → ofDecimal negative c g = .finite negative m e fits := by
    intro c hc
    simp only [readsBack] at hc
    split at hc
    · next hx =>
      simp only [Bool.and_eq_true, beq_iff_eq] at hc
      obtain ⟨rfl, rfl⟩ := hc
      rw [ofDecimal_withSign negative false, hx, withSign]
    · cases hc
  split at h
  extract_lets low nearest other at h
  split_ifs at h with back back
  · cases h
    exact reads nearest back
  · cases h
    exact reads other back

/-- **The exact value is read as the double.** -/
theorem ofDecimal_exactDigits (negative : Bool) (fits : Fits m e) (hm : 0 < m) :
    ofDecimal negative (exactDigits m e).digits (exactDigits m e).exponent = .finite negative m e fits := by
  refine ofDecimal_of_fits negative fits hm ?_
  unfold exactDigits
  split
  · next he =>
    obtain ⟨k, rfl⟩ := Int.eq_ofNat_of_zero_le he
    rw [Int.toNat_natCast, zpow_natCast, Nat.pow_eq, zpow_zero, mul_one]
    push_cast
    rfl
  · next he =>
    obtain ⟨k, rfl⟩ : ∃ k : Nat, e = -(k : Int) := ⟨(-e).toNat, by omega⟩
    rw [neg_neg, Int.toNat_natCast, zpow_neg, zpow_neg, zpow_natCast, zpow_natCast, Nat.pow_eq,
      show (10 : ℚ) = 5 * 2 by norm_num, mul_pow]
    push_cast
    field_simp

/-- The shortest digits are a candidate's or the exact value's, without the zeros at the end. -/
theorem exists_shortest_eq (m : Nat) (e : Int) :
    ∃ found fuel, shortest m e = Digits.trim fuel found ∧
      (found = exactDigits m e ∨ ∃ num den g, -1074 ≤ g ∧ candidate? m e num den g = some found) := by
  let grids := (List.range 17).map fun n : Nat => magnitude (fraction m e).1 (fraction m e).2 - (n + 1 : Nat)
  refine ⟨(grids.findSome? (candidate? m e (fraction m e).1 (fraction m e).2)).getD (exactDigits m e), _,
    rfl, ?_⟩
  cases hx : List.findSome? _ _ with
  | none => exact .inl rfl
  | some x =>
    obtain ⟨g, grid, hg⟩ := List.exists_of_findSome?_eq_some hx
    refine .inr ⟨_, _, g, ?_, hg⟩
    obtain ⟨n, places, rfl⟩ := List.mem_map.1 grid
    have few := List.mem_range.1 places
    rw [magnitude]
    omega

/-- **The shortest digits are read as the double.** -/
theorem ofDecimal_shortest (negative : Bool) (fits : Fits m e) (hm : 0 < m) :
    ofDecimal negative (shortest m e).digits (shortest m e).exponent = .finite negative m e fits := by
  obtain ⟨found, fuel, short, origin⟩ := exists_shortest_eq m e
  rw [short, ofDecimal_congr negative (Digits.value_trim fuel found)]
  rcases origin with rfl | ⟨num, den, g, -, candidate⟩
  · exact ofDecimal_exactDigits negative fits hm
  · exact ofDecimal_of_candidate? negative fits candidate

/-- Leaving off zeros at the end raises the power of ten of the last digit. -/
theorem Digits.exponent_le_trim (fuel : Nat) (x : Digits) : x.exponent ≤ (x.trim fuel).exponent := by
  induction fuel generalizing x with
  | zero => exact le_rfl
  | succ fuel ih =>
    rw [Digits.trim]
    split
    · exact (Int.le_add_one le_rfl).trans (ih _)
    · exact le_rfl

theorem exponent_of_candidate? {num den : Nat} {g : Int} {x : Digits}
    (h : candidate? m e num den g = some x) : x.exponent = g := by
  unfold candidate? at h
  extract_lets readsBack at h
  split at h
  extract_lets low nearest other at h
  split_ifs at h <;> cases h <;> rfl

/-- **The last of the shortest digits** is no lower than the last digit of any double. -/
theorem le_exponent_shortest (fits : Fits m e) : -1074 ≤ (shortest m e).exponent := by
  obtain ⟨found, fuel, short, origin⟩ := exists_shortest_eq m e
  have last := Digits.exponent_le_trim fuel found
  rw [short]
  refine le_trans ?_ last
  rcases origin with rfl | ⟨num, den, g, floor, candidate⟩
  · have lowest := fits.2.1
    unfold exactDigits
    split
    · exact Int.neg_nonpos_of_nonneg (Int.natCast_nonneg 1074)
    · exact lowest
  · rw [exponent_of_candidate? candidate]
    exact floor

end Double

/-! ## 3. Tokens -/

namespace Json

variable {ds rest : List Char}

theorem digitsValue_eq (ds : List Char) : digitsValue ds = Nat.ofDigitChars 10 ds 0 :=
  Nat.ofDigitChars_eq_foldl.symm

/-- Zeros before digits are worth nothing. -/
theorem digitsValue_zeros_append (k : Nat) (ds : List Char) :
    digitsValue (List.replicate k '0' ++ ds) = digitsValue ds := by
  rw [digitsValue_eq, digitsValue_eq, Nat.ofDigitChars_append, Nat.ofDigitChars_replicate_zero,
    Nat.mul_zero]

/-- Zeros behind digits are powers of ten. -/
theorem digitsValue_append_zeros (ds : List Char) (k : Nat) :
    digitsValue (ds ++ List.replicate k '0') = 10 ^ k * digitsValue ds := by
  rw [digitsValue_eq, digitsValue_eq, Nat.ofDigitChars_append, Nat.ofDigitChars_replicate_zero]

/-- The digits of a number have its value. -/
theorem digitsValue_toDigits (n : Nat) : digitsValue (Nat.toDigits 10 n) = n := by
  rw [digitsValue_eq, Nat.ofDigitChars_ten_toDigits]

/-- A run of characters of one sort ends where something else begins. -/
theorem span_append {sort : Char → Bool} (hd : ∀ c ∈ ds, sort c = true)
    (hr : ∀ c ∈ rest.head?, sort c = false) :
    (ds ++ rest).takeWhile sort = ds ∧ (ds ++ rest).dropWhile sort = rest := by
  rw [List.takeWhile_append_of_pos hd, List.dropWhile_append_of_pos hd]
  cases rest with
  | nil => exact ⟨List.append_nil ds, rfl⟩
  | cons c rest =>
    have other := hr c rfl
    rw [List.takeWhile_cons_of_neg (by rw [other]; decide),
      List.dropWhile_cons_of_neg (by rw [other]; decide)]
    exact ⟨List.append_nil ds, rfl⟩

/-- The sign of a negative number. -/
def signText (negative : Bool) : List Char := if negative then ['-'] else []

/-- The sign is read off what begins with a digit. -/
theorem signedDigits_signText (negative : Bool) (hne : ds ≠ []) (hd : ∀ c ∈ ds, c.isDigit = true) :
    signedDigits (signText negative ++ (ds ++ rest)) = (negative, ds ++ rest) := by
  cases negative with
  | true => rfl
  | false =>
    cases ds with
    | nil => exact absurd rfl hne
    | cons d ds =>
      have digit := hd d List.mem_cons_self
      show signedDigits (d :: (ds ++ rest)) = _
      unfold signedDigits
      split
      · next h =>
        rw [(List.cons.inj h).1] at digit
        cases digit
      · next h =>
        rw [(List.cons.inj h).1] at digit
        cases digit
      · rfl

/-- The power of ten that a token ends with. -/
def powerOf : List Char → Int
  | [] => 0
  | _ :: rest =>
    if (signedDigits rest).1 then -(digitsValue (signedDigits rest).2 : Int)
    else digitsValue (signedDigits rest).2

/-- **Digits with a point among them** are a double. -/
theorem numberOfToken?_point (negative : Bool) (whole fraction tail : List Char) (hne : whole ≠ [])
    (hw : ∀ c ∈ whole, c.isDigit = true) (hf : ∀ c ∈ fraction, c.isDigit = true)
    (ht : ∀ c ∈ tail.head?, c.isDigit = false) :
    numberOfToken? (signText negative ++ (whole ++ '.' :: (fraction ++ tail))) =
      some (.float (Double.ofDecimal negative (digitsValue (whole ++ fraction))
        (powerOf tail - fraction.length))) := by
  have point : ∀ c ∈ ('.' :: (fraction ++ tail)).head?, c.isDigit = false := by
    rintro _ ⟨⟩
    rfl
  rw [numberOfToken?, signedDigits_signText negative hne hw]
  simp only [span_append hw point, span_append hf ht, List.isEmpty_iff, hne, if_false]
  cases tail <;> rfl

/-- **Digits before a power of ten** are a double. -/
theorem numberOfToken?_power (negative : Bool) (whole : List Char) (c : Char) (rest : List Char)
    (hne : whole ≠ []) (hw : ∀ c ∈ whole, c.isDigit = true) (hc : c.isDigit = false) (hp : c ≠ '.') :
    numberOfToken? (signText negative ++ (whole ++ c :: rest)) =
      some (.float (Double.ofDecimal negative (digitsValue whole) (powerOf (c :: rest)))) := by
  have other : ∀ d ∈ (c :: rest).head?, d.isDigit = false := by
    rintro _ ⟨⟩
    exact hc
  rw [numberOfToken?, signedDigits_signText negative hne hw]
  simp only [span_append hw other, List.isEmpty_iff, hne, if_false]
  split
  · next h => exact absurd (List.cons.inj h).1 hp
  · rw [List.append_nil, List.length_nil, Int.natCast_zero, Int.sub_zero]
    rfl

/-! ## 4. Numerals -/

/-- A power of ten, of at least two digits. -/
def powerText (power : Int) : List Char :=
  let digits := (Nat.repr power.natAbs).toList
  'e' :: (if power < 0 then '-' else '+') :: (if digits.length < 2 then '0' :: digits else digits)

/-- The digits of a power of ten, as they are written. -/
def padded (power : Nat) : List Char :=
  if (Nat.repr power).toList.length < 2 then '0' :: (Nat.repr power).toList else (Nat.repr power).toList

theorem powerText_eq (power : Int) :
    powerText power = 'e' :: (if power < 0 then '-' else '+') :: padded power.natAbs := rfl

theorem isDigit_padded (power : Nat) : ∀ c ∈ padded power, c.isDigit = true := by
  have digits : ∀ c ∈ (Nat.repr power).toList, c.isDigit = true := by
    intro c hc
    rw [Nat.toList_repr] at hc
    exact Nat.isDigit_of_mem_toDigits (by decide) (by decide) hc
  unfold padded
  split
  · exact List.forall_mem_cons.2 ⟨rfl, digits⟩
  · exact digits

theorem digitsValue_padded (power : Nat) : digitsValue (padded power) = power := by
  have digits : digitsValue (Nat.repr power).toList = power := by
    rw [Nat.toList_repr, digitsValue_toDigits]
  unfold padded
  split
  · exact (digitsValue_zeros_append 1 _).trans digits
  · exact digits

/-- **A power of ten is read from its text.** -/
theorem powerOf_powerText (power : Int) : powerOf (powerText power) = power := by
  rw [powerText_eq]
  by_cases h : power < 0
  · simp only [if_pos h, powerOf, signedDigits, if_true, digitsValue_padded]
    omega
  · simp only [if_neg h, powerOf, signedDigits, Bool.false_eq_true, if_false, digitsValue_padded]
    omega

/-- **How a number is written**, its sign aside: digits, perhaps a point and more digits behind it, perhaps a
power of ten. -/
structure Numeral where
  whole : List Char
  fraction : Option (List Char)
  power : Option Int
  whole_ne_nil : whole ≠ []
  isDigit_whole : ∀ c ∈ whole, c.isDigit = true
  isDigit_fraction : ∀ c ∈ fraction.getD [], c.isDigit = true

namespace Numeral

/-- The power of ten of a numeral, written. -/
def tail (numeral : Numeral) : List Char := (numeral.power.map powerText).getD []

/-- The characters of a numeral. -/
def text (numeral : Numeral) : List Char :=
  numeral.whole ++ match numeral.fraction with
    | none => numeral.tail
    | some fraction => '.' :: (fraction ++ numeral.tail)

/-- The number that the digits of a numeral stand for, the point aside. -/
def digits (numeral : Numeral) : Nat := digitsValue (numeral.whole ++ numeral.fraction.getD [])

/-- The power of ten of the last digit. -/
def exponent (numeral : Numeral) : Int := numeral.power.getD 0 - (numeral.fraction.getD []).length

/-- What a numeral is worth. -/
def value (numeral : Numeral) : ℚ := numeral.digits * 10 ^ numeral.exponent

theorem powerOf_tail (numeral : Numeral) : powerOf numeral.tail = numeral.power.getD 0 := by
  unfold tail
  cases numeral.power with
  | none => rfl
  | some power => exact powerOf_powerText power

/-- The power of ten begins with its letter. -/
theorem tail_cases (numeral : Numeral) : numeral.tail = [] ∨ ∃ rest, numeral.tail = 'e' :: rest := by
  unfold tail
  cases numeral.power with
  | none => exact .inl rfl
  | some power => exact .inr ⟨_, rfl⟩

theorem isDigit_head?_tail (numeral : Numeral) : ∀ c ∈ numeral.tail.head?, c.isDigit = false := by
  rcases numeral.tail_cases with h | ⟨rest, h⟩
  · rw [h]
    exact fun c hc => nomatch hc
  · rw [h]
    rintro _ ⟨⟩
    rfl

/-- **A numeral with a point or a power of ten is read as a double.** -/
theorem numberOfToken?_text (numeral : Numeral) (negative : Bool)
    (h : numeral.fraction ≠ none ∨ numeral.power ≠ none) :
    numberOfToken? (signText negative ++ numeral.text) =
      some (.float (Double.ofDecimal negative numeral.digits numeral.exponent)) := by
  have last := numeral.powerOf_tail
  have letter := numeral.isDigit_head?_tail
  obtain ⟨whole, fraction, power, hne, hw, hf⟩ := numeral
  cases fraction with
  | some fraction =>
    rw [text, numberOfToken?_point negative whole fraction _ hne hw hf letter, last]
    rfl
  | none =>
    obtain ⟨power, rfl⟩ := Option.ne_none_iff_exists'.1 (h.resolve_left (absurd rfl))
    have read := numberOfToken?_power negative whole 'e' (powerText power).tail hne hw rfl (by decide)
    have exponent : powerOf ('e' :: (powerText power).tail) = power - (([] : List Char).length : Int) := by
      rw [List.length_nil, Int.natCast_zero, Int.sub_zero]
      exact powerOf_powerText power
    rw [exponent] at read
    rw [digits, Option.getD_none, List.append_nil]
    exact read

/-! ### Layouts -/

variable {ds : List Char}

theorem isDigit_zeros (k : Nat) : ∀ c ∈ List.replicate k '0', c.isDigit = true := by
  intro c hc
  rw [List.eq_of_mem_replicate hc]
  rfl

/-- **The positional layout is a numeral** worth the digits at the power of ten that the point gives the last
one.  A zero may stand behind that one. -/
theorem exists_positional (point : Int) (hne : ds ≠ []) (hd : ∀ c ∈ ds, c.isDigit = true) :
    ∃ numeral : Numeral, (Double.positional ds point).toList = numeral.text ∧ numeral.fraction ≠ none ∧
      (numeral.exponent = point - ds.length ∨ numeral.exponent = -1) ∧
      numeral.value = digitsValue ds * 10 ^ (point - ds.length) := by
  unfold Double.positional
  split
  · next low =>
    -- all digits are behind the point, and some zeros before them
    have power : (0 : Int) - ((List.replicate (-point).toNat '0' ++ ds).length : Int) =
        point - ds.length := by
      rw [List.length_append, List.length_replicate]
      omega
    refine ⟨⟨['0'], some (List.replicate (-point).toNat '0' ++ ds), none, List.cons_ne_nil _ _,
      isDigit_zeros 1, List.forall_mem_append.2 ⟨isDigit_zeros _, hd⟩⟩, ?_, by simp, ?_, ?_⟩
    · simp [text, tail]
    · exact .inl power
    · have worth : digitsValue (['0'] ++ (List.replicate (-point).toNat '0' ++ ds)) = digitsValue ds :=
        (digitsValue_zeros_append 1 _).trans (digitsValue_zeros_append _ ds)
      simp only [value, digits, exponent, Option.getD_some, Option.getD_none, worth, power]
  · split
    · next low high =>
      -- all digits are before the point, and some zeros behind them
      obtain ⟨k, rfl⟩ : ∃ k : Nat, point = ds.length + k := ⟨point.toNat - ds.length, by omega⟩
      refine ⟨⟨ds ++ List.replicate k '0', some ['0'], none, List.append_ne_nil_of_left_ne_nil hne _,
        List.forall_mem_append.2 ⟨hd, isDigit_zeros k⟩, isDigit_zeros 1⟩, ?_, by simp, .inr rfl, ?_⟩
      · rw [String.toList_ofList, show ((ds.length : Int) + k).toNat - ds.length = k by omega]
        rfl
      · rw [value, digits, exponent, Option.getD_some, Option.getD_none, List.append_assoc,
          ← List.replicate_succ', digitsValue_append_zeros, show (0 : Int) - (['0'].length : Int) = -1 by rfl,
          show (ds.length : Int) + k - ds.length = k by omega, zpow_natCast]
        push_cast
        ring
    · next low high =>
      have first : ds.take point.toNat ≠ [] := by
        rw [Ne, List.take_eq_nil_iff, not_or]
        exact ⟨by omega, hne⟩
      have power : (0 : Int) - ((ds.drop point.toNat).length : Int) = point - ds.length := by
        rw [List.length_drop]
        omega
      refine ⟨⟨ds.take point.toNat, some (ds.drop point.toNat), none, first,
        fun c hc => hd c (List.mem_of_mem_take hc), fun c hc => hd c (List.mem_of_mem_drop hc)⟩,
        ?_, by simp, .inl power, ?_⟩
      · simp [text, tail]
      · simp only [value, digits, exponent, Option.getD_some, Option.getD_none, List.take_append_drop, power]

/-- **The scientific layout is a numeral** worth the digits, the point behind the first one. -/
theorem exists_scientific (power : Int) (hne : ds ≠ []) (hd : ∀ c ∈ ds, c.isDigit = true) :
    ∃ numeral : Numeral, (Double.scientific ds power).toList = numeral.text ∧ numeral.power ≠ none ∧
      numeral.exponent = power + 1 - ds.length ∧
      numeral.value = digitsValue ds * 10 ^ (power + 1 - ds.length) := by
  cases ds with
  | nil => exact absurd rfl hne
  | cons d rest =>
    have one : ∀ c ∈ [d], c.isDigit = true := List.forall_mem_singleton.2 (hd d List.mem_cons_self)
    cases rest with
    | nil =>
      refine ⟨⟨[d], none, some power, hne, one, fun c hc => nomatch hc⟩, String.toList_ofList,
        Option.some_ne_none _, ?_, ?_⟩
      · simp [exponent]
      · simp [value, digits, exponent]
    | cons d' more =>
      have last : power - ((d' :: more).length : Int) = power + 1 - ((d :: d' :: more).length : Int) := by
        rw [List.length_cons (a := d)]
        omega
      refine ⟨⟨[d], some (d' :: more), some power, List.cons_ne_nil d [], one,
        fun c hc => hd c (List.mem_cons_of_mem d hc)⟩, String.toList_ofList, Option.some_ne_none _, ?_, ?_⟩
      · simp only [exponent, Option.getD_some, last]
      · simp only [value, digits, exponent, Option.getD_some, last, List.singleton_append]

end Numeral

/-- Digits in the layout of the style. -/
def layout (style : Double.Style) (x : Double.Digits) : String :=
  let ds := Nat.toDigits 10 x.digits
  let point := x.exponent + ds.length
  if style.positionalFrom ≤ point - 1 ∧ point - 1 < style.positionalBelow then Double.positional ds point
  else Double.scientific ds (point - 1)

/-- **Digits in either layout are a numeral** of their value, at most one place longer. -/
theorem exists_layout (style : Double.Style) (x : Double.Digits) :
    ∃ numeral : Numeral, (layout style x).toList = numeral.text ∧
      (numeral.fraction ≠ none ∨ numeral.power ≠ none) ∧ numeral.value = x.digits * 10 ^ x.exponent ∧
      (numeral.exponent = x.exponent ∨ numeral.exponent = -1) := by
  obtain ⟨digits, exponent⟩ := x
  have hd : ∀ c ∈ Nat.toDigits 10 digits, c.isDigit = true := fun c =>
    Nat.isDigit_of_mem_toDigits (by decide) (by decide)
  unfold layout
  dsimp only
  split
  · obtain ⟨numeral, text, point, last, value⟩ :=
      Numeral.exists_positional (exponent + (Nat.toDigits 10 digits).length) Nat.toDigits_ne_nil hd
    rw [Int.add_sub_cancel] at value last
    refine ⟨numeral, text, .inl point, ?_, last⟩
    rw [value, digitsValue_toDigits]
  · obtain ⟨numeral, text, power, last, value⟩ :=
      Numeral.exists_scientific (exponent + (Nat.toDigits 10 digits).length - 1) Nat.toDigits_ne_nil hd
    rw [Int.sub_add_cancel, Int.add_sub_cancel] at value last
    refine ⟨numeral, text, .inr power, ?_, .inl last⟩
    rw [value, digitsValue_toDigits]

/-! ## 5. Doubles -/

/-- The place of the point among the digits of a double. -/
theorem shortest_in_range {m : Nat} {e : Int} (fits : Double.Fits m e) (hm : 0 < m) :
    (Double.shortest m e).exponent + (Nat.toDigits 10 (Double.shortest m e).digits).length ≤ 400 := by
  have read := Double.ofDecimal_shortest false fits hm
  unfold Double.ofDecimal at read
  extract_lets magnitude at read
  split_ifs at read with none high low
  · -- the digits would be read as zero
    unfold Double.zero at read
    injection read with _ significand
    omega
  all_goals
    simp only [magnitude] at high
    omega

/-- **A finite double is written as a numeral** worth its shortest digits, behind its sign. -/
theorem exists_render (style : Double.Style) (negative : Bool) {m : Nat} {e : Int} (fits : Double.Fits m e) :
    ∃ numeral : Numeral, (Double.render style (.finite negative m e fits)).toList =
        signText negative ++ numeral.text ∧
      (numeral.fraction ≠ none ∨ numeral.power ≠ none) ∧
      numeral.value =
        (if m = 0 then 0 else ((Double.shortest m e).digits : ℚ) * 10 ^ (Double.shortest m e).exponent) ∧
      -1074 ≤ numeral.exponent ∧ numeral.exponent ≤ 400 := by
  have signed : ∀ body : String, (if negative then "-" ++ body else body).toList =
      signText negative ++ body.toList := by
    intro body
    cases negative with
    | false => rfl
    | true => exact String.toList_append
  rw [Double.render, signed]
  split
  · refine ⟨⟨['0'], some ['0'], none, List.cons_ne_nil _ _, Numeral.isDigit_zeros 1,
      Numeral.isDigit_zeros 1⟩, rfl, .inl (Option.some_ne_none _), ?_, by decide⟩
    rw [Numeral.value, show Numeral.digits _ = 0 from rfl, Nat.cast_zero, zero_mul]
  · next nonzero =>
    obtain ⟨numeral, text, spelled, value, last⟩ := exists_layout style (Double.shortest m e)
    have low := Double.le_exponent_shortest fits
    have high := shortest_in_range fits (Nat.pos_of_ne_zero nonzero)
    exact ⟨numeral, congrArg _ text, spelled, value, by omega, by omega⟩

/-- **What a double is written as is read as the double**, in whatever style. -/
theorem numberOfToken?_render (style : Double.Style) (negative : Bool) {m : Nat} {e : Int}
    (fits : Double.Fits m e) :
    numberOfToken? (Double.render style (.finite negative m e fits)).toList =
      some (.float (.finite negative m e fits)) := by
  obtain ⟨numeral, text, spelled, value, -⟩ := exists_render style negative fits
  rw [text, numeral.numberOfToken?_text negative spelled]
  split at value
  · next zero =>
    have same : Double.ofDecimal negative numeral.digits numeral.exponent = Double.ofDecimal negative 0 0 :=
      Double.ofDecimal_congr negative (by rw [Nat.cast_zero, zero_mul]; exact value)
    subst zero
    obtain rfl : e = -1074 := fits.2.2.2.resolve_left (Nat.not_le.2 (Nat.pow_pos Nat.two_pos))
    rw [same]
    rfl
  · next nonzero =>
    rw [Double.ofDecimal_congr negative value,
      Double.ofDecimal_shortest negative fits (Nat.pos_of_ne_zero nonzero)]

end Json

/-- **Doubles are told apart by their texts**, zeros by their signs and the values that are no numbers by
their words. -/
theorem Double.render_injective : Function.Injective (Double.render Double.documentStyle) := by
  intro x y h
  have same := congrArg (fun s => Json.numberOfToken? s.toList) h
  -- the words of the other values are no numbers
  have nan : Json.numberOfToken? (Double.nan.render documentStyle).toList = none := by decide
  have infinite : ∀ negative, Json.numberOfToken? ((Double.infinite negative).render documentStyle).toList =
      none := by decide
  cases x with
  | finite =>
    rw [Json.numberOfToken?_render] at same
    cases y with
    | finite =>
      rw [Json.numberOfToken?_render] at same
      exact Number.float.inj (Option.some.inj same)
    | nan => exact absurd (same.trans nan) (Option.some_ne_none _)
    | infinite => exact absurd (same.trans (infinite _)) (Option.some_ne_none _)
  | nan =>
    cases y with
    | finite =>
      rw [Json.numberOfToken?_render] at same
      exact absurd (same.symm.trans nan) (Option.some_ne_none _)
    | nan => rfl
    | infinite negative => cases negative <;> exact absurd h (by decide)
  | infinite negative =>
    cases y with
    | finite =>
      rw [Json.numberOfToken?_render] at same
      exact absurd (same.symm.trans (infinite _)) (Option.some_ne_none _)
    | nan => cases negative <;> exact absurd h (by decide)
    | infinite negative' =>
      cases negative <;> cases negative' <;> first | rfl | exact absurd h (by decide)

end Conform
