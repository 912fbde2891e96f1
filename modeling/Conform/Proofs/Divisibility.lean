/-
# Divisibility of decimals

A number is a multiple of another if the remainder of their division is zero, and the division is one of
decimals in a context of 28 digits.  Four things could come between that and divisibility.  The two decimals
are brought to one exponent, which may be far from either; the quotient may have more digits than the context,
and then there is no remainder; the remainder is rounded to the context; and it may lie beyond the powers of
ten of the context.

The first does not matter, since the coefficients at one exponent have the quotient of the decimals
(`coefficientAt_spec`), nor does the third: rounding keeps the leading digit, so that a remainder that is
not zero stays so (`keptFrom_ne_zero`).  The fourth is a fault, but one that stands for the right answer: a
remainder that is too large is not zero, and it takes a dividend of a million digits (`settle?_cases`).  What is
left is the second, exactly (`Operand.divide_finite`): the quotient is a whole number, and one of at most 28
digits.

A number takes part in a division as a decimal that is worth as much as its text (`exists_operand_denotes`): a
whole number is itself, and a double is written with the shortest digits, though a point and zeros may come to
them.  The last section puts the two together, and with them the fault of a number that has no text.
-/
import Conform.Json.Operand
import Conform.Proofs.Numerals
import Conform.Proofs.Printing

namespace Conform.Decimal

variable {a b : Decimal} {e : Int} {precision : Nat}

/-! ## 1. Coefficients at one exponent -/

/-- The value of a decimal. -/
theorem toRat_eq (a : Decimal) : a.toRat = a.coefficient * (10 : ℚ) ^ a.exponent := by
  unfold toRat
  split
  · next he =>
    obtain ⟨k, hk⟩ := Int.eq_ofNat_of_zero_le he
    rw [hk, Int.toNat_natCast, zpow_natCast, Rat.mkRat_eq_div, Nat.pow_eq]
    push_cast
    rw [div_one]
  · next he =>
    obtain ⟨k, hk⟩ : ∃ k : Nat, a.exponent = -(k : Int) := ⟨(-a.exponent).toNat, by omega⟩
    rw [hk, neg_neg, Int.toNat_natCast, zpow_neg, zpow_natCast, Rat.mkRat_eq_div, Nat.pow_eq,
      ← div_eq_mul_inv]
    push_cast
    rfl

/-- The value of a decimal whose sign is apart from its digits. -/
theorem toRat_signed (negative : Bool) (n : Nat) (e : Int) :
    toRat ⟨if negative then -(n : Int) else n, e⟩ = (if negative then -1 else 1) * (n * 10 ^ e) := by
  rw [toRat_eq]
  cases negative
  · simp
  · simp

/-- **A finer exponent keeps the value.** -/
theorem coefficientAt_spec (he : e ≤ a.exponent) : (a.coefficientAt e : ℚ) * 10 ^ e = a.toRat := by
  obtain ⟨k, hk⟩ := Int.eq_ofNat_of_zero_le (Int.sub_nonneg_of_le he)
  have exponent : a.exponent = k + e := by omega
  rw [coefficientAt, hk, Int.toNat_natCast, toRat_eq, exponent, zpow_add₀ (by norm_num), zpow_natCast,
    Nat.pow_eq]
  push_cast
  ring

theorem toRat_eq_zero_iff : a.toRat = 0 ↔ a.coefficient = 0 := by
  have power : (10 : ℚ) ^ a.exponent ≠ 0 := zpow_ne_zero _ (by norm_num)
  rw [toRat_eq, mul_eq_zero, or_iff_left power, Int.cast_eq_zero]

/-- **The leading digit is known from the value.** -/
theorem lead_eq_log (ha : a.coefficient ≠ 0) : a.lead = Int.log 10 |a.toRat| := by
  have size : |a.toRat| = (a.coefficient.natAbs : ℚ) * 10 ^ a.exponent := by
    rw [toRat_eq, abs_mul, abs_of_pos (zpow_pos (by norm_num : (0 : ℚ) < 10) _), Nat.cast_natAbs, Int.cast_abs]
  have digits := Double.length_add_exponent (Int.natAbs_pos.2 ha) a.exponent
  rw [size, lead, digitCount]
  omega

theorem exponent_le_lead (a : Decimal) : a.exponent ≤ a.lead := by
  have some_digit : 0 < digitCount a.coefficient.natAbs := Nat.length_toDigits_pos
  rw [lead]
  omega

theorem pow_le_of_le_lead (ha : a.coefficient ≠ 0) (he : e ≤ a.lead) : (10 : ℚ) ^ e ≤ |a.toRat| := by
  rw [lead_eq_log ha] at he
  have positive : 0 < |a.toRat| := abs_pos.2 (mt toRat_eq_zero_iff.1 ha)
  calc (10 : ℚ) ^ e ≤ 10 ^ Int.log 10 |a.toRat| := zpow_le_zpow_right₀ (by norm_num) he
    _ ≤ |a.toRat| := Int.zpow_log_le_self (by decide) positive

/-- What is no larger has no higher leading digit. -/
theorem lead_le_lead (ha : a.coefficient ≠ 0) (h : |a.toRat| ≤ |b.toRat|) : a.lead ≤ b.lead := by
  have positive : 0 < |a.toRat| := abs_pos.2 (mt toRat_eq_zero_iff.1 ha)
  have hb : b.coefficient ≠ 0 := mt toRat_eq_zero_iff.2 (abs_pos.1 (positive.trans_le h))
  rw [lead_eq_log ha, lead_eq_log hb]
  exact Int.log_mono_right positive h

/-! ## 2. Results -/

/-- What has a digit before the place that is rounded to keeps one. -/
theorem dropDigits_pos {n places : Nat} (h : 10 ^ places ≤ n) : 0 < dropDigits n places := by
  have whole : 0 < n / Nat.pow 10 places := Nat.div_pos h (Nat.pow_pos (by decide))
  unfold dropDigits
  dsimp only
  split_ifs <;> omega

theorem dropDigits_le (n places : Nat) : dropDigits n places ≤ n / 10 ^ places + 1 := by
  unfold dropDigits
  rw [Nat.pow_eq]
  dsimp only
  split_ifs <;> omega

/-- The digits that are dropped from the power `e` on are not all, if the leading one stands there. -/
theorem dropped_lt (he : e ≤ a.lead) (below : a.exponent < e) :
    (e - a.exponent).toNat < digitCount a.coefficient.natAbs := by
  rw [lead] at he
  omega

/-- **Rounding makes nothing zero**, as long as the leading digit is kept. -/
theorem keptFrom_ne_zero (ha : a.coefficient ≠ 0) (he : e ≤ a.lead) :
    (a.keptFrom e).coefficient ≠ 0 := by
  unfold keptFrom
  split
  · exact ha
  · next below =>
    rw [if_neg (by omega)]
    have fewer := dropped_lt he (by omega)
    have leading : 10 ^ (e - a.exponent).toNat ≤ a.coefficient.natAbs := by
      refine Nat.le_of_not_lt fun short => ?_
      have digits := (Nat.length_toDigits_le_iff (b := 10) (by decide) (by omega)).2 short
      rw [digitCount] at fewer
      omega
    have kept : (dropDigits a.coefficient.natAbs (e - a.exponent).toNat : Int) ≠ 0 := by
      have := dropDigits_pos leading
      omega
    exact mul_ne_zero (mt Int.sign_eq_zero_iff_zero.1 ha) kept

/-- **Rounding raises the leading digit by one place** at most. -/
theorem lead_keptFrom_le (he : e ≤ a.lead) : (a.keptFrom e).lead ≤ a.lead + 1 := by
  unfold keptFrom
  split
  · exact Int.le_add_one le_rfl
  · next below =>
    rw [if_neg (by omega), lead]
    generalize hk : (e - a.exponent).toNat = k
    obtain ⟨l, hl⟩ : ∃ l, digitCount a.coefficient.natAbs = k + (l + 1) := by
      have := dropped_lt he (by omega)
      exact ⟨digitCount a.coefficient.natAbs - k - 1, by omega⟩
    -- the digits that stay are `l + 1`, and rounding up can make them one more
    have size : a.coefficient.natAbs < 10 ^ (k + (l + 1)) :=
      (Nat.length_toDigits_le_iff (b := 10) (by decide) (by omega)).1 hl.le
    have kept : a.coefficient.natAbs / 10 ^ k < 10 ^ (l + 1) := by
      rw [Nat.div_lt_iff_lt_mul (by positivity), ← pow_add, Nat.add_comm]
      exact size
    have rounded : dropDigits a.coefficient.natAbs k < 10 ^ (l + 2) :=
      calc dropDigits a.coefficient.natAbs k ≤ a.coefficient.natAbs / 10 ^ k + 1 := dropDigits_le _ k
        _ ≤ 10 ^ (l + 1) := kept
        _ < 10 ^ (l + 2) := Nat.pow_lt_pow_right (by decide) (by omega)
    have signed : (a.coefficient.sign * (dropDigits a.coefficient.natAbs k : Int)).natAbs < 10 ^ (l + 2) := by
      rw [Int.natAbs_mul, Int.natAbs_natCast, Int.natAbs_sign]
      split
      · rw [Nat.zero_mul]
        positivity
      · rw [Nat.one_mul]
        exact rounded
    have digits := (Nat.length_toDigits_le_iff (b := 10) (by decide) (by omega)).2 signed
    simp only [lead, hl]
    rw [digitCount]
    omega

/-- **A decimal is made a result by rounding**, which makes it zero only if it was, unless its leading digit
stands too high. -/
theorem settle?_cases (floor : contextFloor ≤ a.exponent) :
    (∃ r, a.settle? = some r ∧ (r.coefficient = 0 ↔ a.coefficient = 0)) ∨
      a.settle? = none ∧ a.coefficient ≠ 0 ∧ contextReach ≤ a.lead := by
  unfold settle?
  by_cases ha : a.coefficient = 0
  · exact .inl ⟨a, if_pos ha, Iff.rfl⟩
  rw [if_neg ha]
  have least : max (a.lead + 1 - contextPrecision) contextFloor ≤ a.lead := by
    have := exponent_le_lead a
    rw [contextPrecision]
    omega
  have high := lead_keptFrom_le least
  by_cases beyond : contextReach < (a.keptFrom (max (a.lead + 1 - contextPrecision) contextFloor)).lead
  · exact .inr ⟨if_pos beyond, ha, by omega⟩
  · exact .inl ⟨_, if_neg beyond, iff_of_false (keptFrom_ne_zero ha least) ha⟩

/-! ## 3. The remainder -/

/-- **A quotient of whole numbers** that is a whole number itself, and how large it is. -/
theorem dvd_and_lt_iff {n d : Int} (hd : d ≠ 0) (bound : Nat) :
    (n.natAbs / d.natAbs < bound ∧ n.tmod d = 0) ↔ ∃ k : Int, (n : ℚ) / d = k ∧ |k| < bound := by
  have hd' : (d : ℚ) ≠ 0 := by exact_mod_cast hd
  rw [← Int.dvd_iff_tmod_eq_zero]
  constructor
  · rintro ⟨small, k, rfl⟩
    refine ⟨k, ?_, ?_⟩
    · rw [Int.cast_mul, mul_div_cancel_left₀ _ hd']
    · rw [Int.natAbs_mul, Nat.mul_div_cancel_left _ (Int.natAbs_pos.2 hd)] at small
      rw [Int.abs_eq_natAbs]
      exact_mod_cast small
  · rintro ⟨k, quotient, small⟩
    have product : n = d * k := by
      rw [div_eq_iff hd', mul_comm] at quotient
      exact_mod_cast quotient
    refine ⟨?_, k, product⟩
    rw [product, Int.natAbs_mul, Nat.mul_div_cancel_left _ (Int.natAbs_pos.2 hd)]
    rw [Int.abs_eq_natAbs] at small
    exact_mod_cast small

/-- A quotient that is a whole number within the context keeps the leading digits close together. -/
theorem lead_of_quotient (ha : a.coefficient ≠ 0) (hb : b.coefficient ≠ 0) {k : Int}
    (quotient : a.toRat / b.toRat = k) (small : |k| < 10 ^ precision) :
    b.lead ≤ a.lead ∧ a.lead ≤ b.lead + precision := by
  have x : a.toRat ≠ 0 := mt toRat_eq_zero_iff.1 ha
  have y : b.toRat ≠ 0 := mt toRat_eq_zero_iff.1 hb
  have product : |a.toRat| = |(k : ℚ)| * |b.toRat| := by
    rw [← abs_mul, ← quotient, div_mul_cancel₀ _ y]
  have whole : (1 : ℚ) ≤ |(k : ℚ)| := by
    have nonzero : k ≠ 0 := by
      rintro rfl
      exact div_ne_zero x y (quotient.trans Int.cast_zero)
    exact_mod_cast Int.one_le_abs nonzero
  constructor
  · refine lead_le_lead hb ?_
    rw [product]
    exact le_mul_of_one_le_left (abs_nonneg _) whole
  · have bound : |(k : ℚ)| < 10 ^ (precision : Int) := by exact_mod_cast small
    have digit : |b.toRat| < 10 ^ (b.lead + 1) := by
      rw [lead_eq_log hb]
      exact Int.lt_zpow_succ_log_self (by decide) _
    have less : |a.toRat| < 10 ^ (precision + (b.lead + 1)) := by
      rw [product, zpow_add₀ (by norm_num)]
      gcongr
    rw [lead_eq_log ha] at *
    have := (Int.lt_zpow_iff_log_lt (b := 10) (by decide) (abs_pos.2 x)).1 less
    omega

/-- **There is a remainder and it is zero** if and only if the quotient is a whole number of no more digits
than the context holds. -/
theorem remainder?_eq_zero_iff (precision : Nat) (a b : Decimal) :
    (∃ r, remainder? precision a b = some r ∧ r.coefficient = 0) ↔
      b.toRat ≠ 0 ∧ ∃ k : Int, a.toRat / b.toRat = k ∧ |k| < 10 ^ precision := by
  unfold remainder?
  extract_lets e n d
  rw [Ne, toRat_eq_zero_iff]
  by_cases hb : b.coefficient = 0
  · simp [hb]
  by_cases ha : a.coefficient = 0
  · rw [if_neg hb, if_pos ha, toRat_eq_zero_iff.2 ha, zero_div]
    refine iff_of_true ⟨_, rfl, rfl⟩ ⟨hb, 0, Int.cast_zero.symm, ?_⟩
    rw [abs_zero]
    positivity
  rw [if_neg hb, if_neg ha]
  by_cases shorter : a.lead < b.lead
  · rw [if_pos shorter]
    constructor
    · rintro ⟨r, hr, zero⟩
      cases hr
      exact absurd zero ha
    · rintro ⟨-, k, quotient, small⟩
      have := (lead_of_quotient ha hb quotient small).1
      omega
  by_cases longer : b.lead + precision < a.lead
  · rw [if_neg shorter, if_pos longer]
    refine iff_of_false (by simp) ?_
    rintro ⟨-, k, quotient, small⟩
    have := (lead_of_quotient ha hb quotient small).2
    omega
  -- the coefficients at one exponent have the quotient of the decimals
  have power : (10 : ℚ) ^ e ≠ 0 := zpow_ne_zero _ (by norm_num)
  have dividend : (n : ℚ) * 10 ^ e = a.toRat := coefficientAt_spec (min_le_left _ _)
  have divisor : (d : ℚ) * 10 ^ e = b.toRat := coefficientAt_spec (min_le_right _ _)
  have hd : d ≠ 0 := by
    intro zero
    rw [zero, Int.cast_zero, zero_mul] at divisor
    exact hb (toRat_eq_zero_iff.1 divisor.symm)
  have quotients := dvd_and_lt_iff (n := n) hd (10 ^ precision)
  rw [← dividend, ← divisor, mul_div_mul_right _ _ power, if_neg shorter, if_neg longer, Nat.pow_eq]
  push_cast at quotients
  rw [← quotients, and_iff_right hb]
  split
  · next large => simp [Nat.not_lt.2 large]
  · next small => simp [Nat.lt_of_not_le small]

/-- **The remainder** has no digits below those of the operands, and is no larger than the dividend. -/
theorem remainder?_bounds {r : Decimal} (h : remainder? precision a b = some r) :
    min a.exponent b.exponent ≤ r.exponent ∧ |r.toRat| ≤ |a.toRat| := by
  unfold remainder? at h
  extract_lets e n d at h
  split_ifs at h <;> cases h
  · refine ⟨le_rfl, ?_⟩
    rw [toRat_eq_zero_iff.2 rfl, abs_zero]
    exact abs_nonneg _
  · exact ⟨min_le_left _ _, le_rfl⟩
  · refine ⟨le_rfl, ?_⟩
    have dividend : (n : ℚ) * 10 ^ e = a.toRat := coefficientAt_spec (min_le_left _ _)
    have less : |((n.tmod d : Int) : ℚ)| ≤ |(n : ℚ)| := by
      have shorter : (n.tmod d).natAbs ≤ n.natAbs := by
        rw [Int.natAbs_tmod]
        exact Nat.mod_le _ _
      rw [← Int.cast_abs, ← Int.cast_abs, Int.abs_eq_natAbs, Int.abs_eq_natAbs]
      exact_mod_cast shorter
    rw [← dividend, toRat_eq, abs_mul, abs_mul]
    exact mul_le_mul_of_nonneg_right less (abs_nonneg _)

/-- **One decimal is a multiple of another** if and only if their quotient is a whole number of no more digits
than the context holds.  Where the remainder is too large to be a result, it is not zero, and the dividend is
as large. -/
theorem Operand.divide_finite (ha : -1074 ≤ a.exponent) (hb : -1074 ≤ b.exponent) :
    ((divide (.finite a) (.finite b)).isExact = true ↔
        b.toRat ≠ 0 ∧ ∃ k : Int, a.toRat / b.toRat = k ∧ |k| < 10 ^ 28) ∧
      (divide (.finite a) (.finite b) = .overflows →
        contextReach ≤ a.lead ∧ 10 ^ contextReach ≤ |a.toRat|) := by
  have zero := remainder?_eq_zero_iff contextPrecision a b
  rw [contextPrecision] at zero
  rw [← zero, divide, contextPrecision]
  cases h : remainder? 28 a b with
  | none => simp [Division.isExact]
  | some r =>
    obtain ⟨digits, size⟩ := remainder?_bounds h
    have floor : contextFloor ≤ r.exponent := by
      rw [contextFloor, contextReach, contextPrecision]
      omega
    obtain ⟨s, hs, same⟩ | ⟨hs, nonzero, high⟩ := settle?_cases floor
    · simp [Division.leaving, hs, Division.isExact, same]
    · have high' : contextReach ≤ a.lead := high.trans (lead_le_lead nonzero size)
      have large : 10 ^ contextReach ≤ |a.toRat| := (pow_le_of_le_lead nonzero high).trans size
      simp [Division.leaving, hs, Division.isExact, nonzero, high', large]

end Conform.Decimal

namespace Conform

open Decimal (Operand)
open Json (Numeral signText)

/-! ## 4. Numbers and their texts -/

namespace Double

/-- A finite double divides as its shortest digits. -/
theorem toDecimal?_finite (negative : Bool) {m : Nat} {e : Int} (fits : Fits m e) :
    toDecimal? (.finite negative m e fits) = some (if m = 0 then ⟨0, 0⟩ else
      ⟨if negative then -((shortest m e).digits : Int) else (shortest m e).digits,
        (shortest m e).exponent⟩) := by
  unfold toDecimal?
  dsimp only
  split <;> rfl

/-- The powers of ten of the digits are among those that doubles are written with. -/
structure Moderate (a : Decimal) : Prop where
  floor : -1074 ≤ a.exponent
  reach : a.lead ≤ 400

/-- A moderate decimal can be read. -/
theorem Moderate.isReadable {a : Decimal} (ha : Moderate a) : a.isReadable = true := by
  have := ha.floor
  have := ha.reach
  rw [Decimal.isReadable, Bool.and_eq_true, decide_eq_true_eq, decide_eq_true_eq]
  omega

/-- Digits within the range of doubles are a moderate decimal. -/
theorem moderate_signed (negative : Bool) {x : Digits} (low : -1074 ≤ x.exponent)
    (high : x.exponent + (Nat.toDigits 10 x.digits).length ≤ 400) :
    Moderate ⟨if negative then -(x.digits : Int) else x.digits, x.exponent⟩ := by
  have digits : (if negative then -(x.digits : Int) else x.digits).natAbs = x.digits := by
    split <;> omega
  refine ⟨low, ?_⟩
  rw [Decimal.lead, digits, Decimal.digitCount]
  dsimp only
  omega

/-- **What a finite double divides as** is moderate, and worth its shortest digits. -/
theorem exists_toDecimal? (negative : Bool) {m : Nat} {e : Int} (fits : Fits m e) :
    ∃ x, toDecimal? (.finite negative m e fits) = some x ∧ Moderate x ∧
      x.toRat = (if negative then -1 else 1) *
        (if m = 0 then 0 else ((shortest m e).digits : ℚ) * 10 ^ (shortest m e).exponent) := by
  refine ⟨_, toDecimal?_finite negative fits, ?_⟩
  split
  · refine ⟨⟨Int.neg_nonpos_of_nonneg (Int.natCast_nonneg 1074), ?_⟩, ?_⟩
    · rw [Decimal.lead, Int.natAbs_zero, Decimal.digitCount, Nat.toDigits_zero]
      decide
    · rw [Decimal.toRat_eq, Int.cast_zero, zero_mul, mul_zero]
  · next nonzero =>
    have high := Json.shortest_in_range fits (Nat.pos_of_ne_zero nonzero)
    exact ⟨moderate_signed negative (le_exponent_shortest fits) high, Decimal.toRat_signed negative _ _⟩

/-- **The text of a finite double denotes a decimal** that is worth as much as what the double divides as. -/
theorem exists_ofText? (negative : Bool) {m : Nat} {e : Int} (fits : Fits m e) :
    ∃ x d : Decimal, toDecimal? (.finite negative m e fits) = some x ∧ Moderate x ∧
      Operand.ofText? (render displayStyle (.finite negative m e fits)) = some (.finite d) ∧
      d.toRat = x.toRat := by
  obtain ⟨numeral, text, -, value, low, high⟩ := Json.exists_render displayStyle negative fits
  obtain ⟨x, chosen, moderate, worth⟩ := exists_toDecimal? negative fits
  let d := Decimal.ofNumeral numeral negative
  have same : d.toRat = x.toRat := by
    rw [worth, ← value]
    exact Decimal.toRat_signed negative _ _
  have reach : d.lead ≤ 400 := by
    by_cases zero : d.coefficient = 0
    · rw [Decimal.lead, zero]
      change numeral.exponent + 1 - 1 ≤ 400
      omega
    · have size : |d.toRat| ≤ |x.toRat| := by rw [same]
      exact (Decimal.lead_le_lead zero size).trans moderate.reach
  have read := Decimal.ofText?_numeral numeral negative (Moderate.isReadable ⟨low, reach⟩)
  rw [← text, String.ofList_toList] at read
  exact ⟨x, d, chosen, moderate, read, same⟩

end Double

namespace Number

variable {a b : Number}

/-- Neither infinite nor undefined. -/
def IsFinite : Number → Prop
  | .int _ => True
  | .float (.finite ..) => True
  | .float _ => False

/-- **What a number denotes as it is written**: a whole number itself, a double the decimal that its text
stands for. -/
def Denotes : Number → ℚ → Prop
  | .int n, q => q = n
  | .float x, q =>
    ∃ d : Decimal, Operand.ofText? (x.render Double.displayStyle) = some (.finite d) ∧ d.toRat = q

/-- **A finite number denotes what it divides as.**  The leading digit of a double stands below those of the
results that are too large. -/
theorem exists_operand_denotes (ha : a.IsFinite) :
    ∃ x : Decimal, a.operand = .finite x ∧ -1074 ≤ x.exponent ∧ a.Denotes x.toRat ∧
      (Decimal.contextReach ≤ x.lead → ∃ n, a = .int n) := by
  cases a with
  | int n =>
    refine ⟨Decimal.ofInt n, rfl, Int.neg_nonpos_of_nonneg (Int.natCast_nonneg 1074), ?_, fun _ => ⟨n, rfl⟩⟩
    rw [Denotes, Decimal.toRat_eq, Decimal.ofInt, zpow_zero, mul_one]
  | float x =>
    cases x with
    | nan => exact ha.elim
    | infinite negative => exact ha.elim
    | finite negative m e fits =>
      obtain ⟨x, d, chosen, moderate, read, same⟩ := Double.exists_ofText? negative fits
      refine ⟨x, ?_, moderate.floor, ⟨d, read, same⟩, fun high => ?_⟩
      · unfold operand
        dsimp only
        rw [chosen]
      · have := moderate.reach
        rw [Decimal.contextReach] at high
        omega

/-- Numbers divide as they are printed. -/
theorem isMultipleOf_num (limit : Option Nat) (a b : Number) :
    (Json.num a).isMultipleOf limit (.num b) =
      if a.isPrintable limit = true ∧ b.isPrintable limit = true then
        match a.operand.divide b.operand with
        | .overflows => .error .exponentOverflow
        | division => .ok division.isExact
      else .error .tooManyDigits := by
  rw [Json.isMultipleOf, Json.operand?, Json.operand?, Json.isPrintable, Json.isPrintable]
  by_cases pa : a.isPrintable limit = true
  · by_cases pb : b.isPrintable limit = true
    · rw [if_pos pa, if_pos pb, if_pos ⟨pa, pb⟩]
      rfl
    · rw [if_pos pa, if_neg pb, if_neg (not_and_of_not_right _ pb)]
      rfl
  · rw [if_neg pa, if_neg (not_and_of_not_left _ pa)]
    rfl

/-- Numbers have an answer, which a check of bounds has as well, or a remainder that is too large. -/
theorem isMultipleOf_none (a b : Number) :
    a.operand.divide b.operand ≠ .overflows ∧
        (Json.num a).isMultipleOf none (.num b) = .ok (a.isMultipleOf b) ∨
      a.operand.divide b.operand = .overflows ∧
        (Json.num a).isMultipleOf none (.num b) = .error .exponentOverflow := by
  rw [isMultipleOf_num, if_pos ⟨isPrintable_none a, isPrintable_none b⟩, isMultipleOf]
  cases a.operand.divide b.operand with
  | leaves r => exact .inl ⟨nofun, rfl⟩
  | fails => exact .inl ⟨nofun, rfl⟩
  | overflows => exact .inr ⟨rfl, rfl⟩

/-- The double that is written `0.3`. -/
def threeTenths : Double := .finite false 5404319552844595 (-54) (by decide)

/-- The double that is written `0.1`. -/
def oneTenth : Double := .finite false 7205759403792794 (-56) (by decide)

theorem denotes_tenths {x : Double} {c : Char} {n : Nat} {q : ℚ} (hc : c.isDigit = true)
    (hn : c.toNat - 48 = n) (text : (x.render Double.displayStyle).toList = ['0', '.', c])
    (h : (Number.float x).Denotes q) : q = n / 10 := by
  let numeral : Numeral := ⟨['0'], some [c], none, List.cons_ne_nil _ _, Numeral.isDigit_zeros 1,
    List.forall_mem_singleton.2 hc⟩
  have digits : numeral.digits = n := by
    rw [← hn, ← Nat.zero_add (c.toNat - 48)]
    exact Json.digitsValue_zeros_append 1 [c]
  have exponent : numeral.exponent = -1 := rfl
  have value : (Decimal.ofNumeral numeral false).toRat = n / 10 := by
    rw [Decimal.ofNumeral, Decimal.toRat_signed, digits, exponent]
    norm_num [div_eq_mul_inv]
  have readable : Double.Moderate (Decimal.ofNumeral numeral false) := by
    have few : Decimal.digitCount n ≤ 1 := by
      have last : c.toNat ≤ 57 := (Char.isDigit_iff_toNat.1 hc).2
      exact (Nat.length_toDigits_le_iff (by decide) (by decide)).2 (by omega)
    constructor
    · rw [Decimal.ofNumeral, exponent]
      dsimp only
      omega
    · rw [Decimal.lead, Decimal.ofNumeral, exponent, digits, if_neg Bool.false_ne_true]
      dsimp only [Int.natAbs_natCast]
      omega
  have denoted := Decimal.ofText?_numeral numeral false readable.isReadable
  obtain ⟨d, read, rfl⟩ := h
  rw [← String.ofList_toList (s := x.render Double.displayStyle), text] at read
  obtain rfl := Operand.finite.inj (Option.some.inj (read.symm.trans denoted))
  exact value

end Number

end Conform
