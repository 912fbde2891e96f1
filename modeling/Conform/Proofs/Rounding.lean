/-
# Rounding depends on the value alone

A double is read from a numerator and a denominator, or from digits and a power of ten, and the reading
looks at how they are written: at their lengths in binary and in decimal digits.  It is shown here that
nothing but the value matters.  The exponent is that of the value (`exponentOf_eq`), rounding a quotient
does not change when the fraction is expanded (`roundDiv_congr`), and so equal fractions are the same
double (`ofRatio_congr`), and equal decimals too (`ofDecimal_congr`).

The other half is that rounding leaves alone what needs none: the value of a double rounds to that double
(`ofRatio_of_fits`, `ofDecimal_of_fits`).  So a double other than zero is known from its value
(`eq_of_toRat?_eq`), and whether it is a whole number as well (`isIntegral_of_toRat?`).
-/
import Conform.Number.Shortest
import Mathlib.Algebra.Order.Field.Power
import Mathlib.Data.Int.Log
import Mathlib.Data.Rat.Floor
import Mathlib.Tactic.Linarith
import Mathlib.Tactic.Positivity
import Mathlib.Tactic.Ring

namespace Conform.Double

/-! ## 1. Exponents -/

variable {num den num' den' : Nat} {e : Int} {q : ℚ}

/-- The number `n * b ^ e` as a fraction of whole numbers. -/
def powered (n b : Nat) (e : Int) : Nat × Nat :=
  if 0 ≤ e then (n * Nat.pow b e.toNat, 1) else (n, Nat.pow b (-e).toNat)

theorem powered_pos {n b : Nat} (hn : 0 < n) (hb : 0 < b) (e : Int) : 0 < (powered n b e).1 := by
  unfold powered
  split
  · exact Nat.mul_pos hn (Nat.pow_pos hb)
  · exact hn

/-- **The fraction has the value.** -/
theorem powered_spec (n : Nat) {b : Nat} (hb : 0 < b) (e : Int) :
    0 < (powered n b e).2 ∧ ((powered n b e).1 : ℚ) / (powered n b e).2 = n * (b : ℚ) ^ e := by
  unfold powered
  split
  · next he =>
    obtain ⟨k, rfl⟩ := Int.eq_ofNat_of_zero_le he
    refine ⟨Nat.one_pos, ?_⟩
    rw [Int.toNat_natCast, zpow_natCast, Nat.pow_eq]
    push_cast
    rw [div_one]
  · next he =>
    obtain ⟨k, rfl⟩ : ∃ k : Nat, e = -(k : Int) := ⟨(-e).toNat, by omega⟩
    refine ⟨Nat.pow_pos hb, ?_⟩
    rw [neg_neg, Int.toNat_natCast, zpow_neg, zpow_natCast, Nat.pow_eq, ← div_eq_mul_inv]
    push_cast
    rfl

/-- **Scaling divides the value by a power of two.** -/
theorem scaled_spec (num : Nat) (hd : 0 < den) (e : Int) :
    0 < (scaled num den e).2 ∧
      ((scaled num den e).1 : ℚ) / (scaled num den e).2 = (num : ℚ) / den / 2 ^ e := by
  unfold scaled
  split
  · next he =>
    obtain ⟨k, rfl⟩ := Int.eq_ofNat_of_zero_le he
    refine ⟨Nat.mul_pos hd (Nat.pow_pos (by decide)), ?_⟩
    rw [zpow_natCast, Int.toNat_natCast, Nat.pow_eq, div_div]
    push_cast
    rfl
  · next he =>
    obtain ⟨k, rfl⟩ : ∃ k : Nat, e = -(k : Int) := ⟨(-e).toNat, by omega⟩
    refine ⟨hd, ?_⟩
    rw [zpow_neg, zpow_natCast, neg_neg, Int.toNat_natCast, Nat.pow_eq, div_inv_eq_mul]
    push_cast
    ring

/-- The binary logarithm of a quotient is known up to one from those of its parts. -/
theorem log_bounds (hn : 0 < num) (hd : 0 < den) :
    (num.log2 : Int) - den.log2 - 1 ≤ Int.log 2 ((num : ℚ) / den) ∧
      Int.log 2 ((num : ℚ) / den) ≤ (num.log2 : Int) - den.log2 := by
  have hn' : (0 : ℚ) < num := by exact_mod_cast hn
  have hd' : (0 : ℚ) < den := by exact_mod_cast hd
  have positive : (0 : ℚ) < num / den := div_pos hn' hd'
  have num_low : (2 : ℚ) ^ (num.log2 : Int) ≤ num := by
    exact_mod_cast Nat.log2_self_le (Nat.pos_iff_ne_zero.1 hn)
  have num_high : (num : ℚ) < 2 ^ ((num.log2 : Int) + 1) := by
    exact_mod_cast Nat.lt_log2_self (n := num)
  have den_low : (2 : ℚ) ^ (den.log2 : Int) ≤ den := by
    exact_mod_cast Nat.log2_self_le (Nat.pos_iff_ne_zero.1 hd)
  have den_high : (den : ℚ) < 2 ^ ((den.log2 : Int) + 1) := by
    exact_mod_cast Nat.lt_log2_self (n := den)
  constructor
  · refine (Int.zpow_le_iff_le_log (by decide) positive).1 ?_
    rw [Nat.cast_ofNat, le_div_iff₀ hd']
    calc (2 : ℚ) ^ ((num.log2 : Int) - den.log2 - 1) * den
        ≤ 2 ^ ((num.log2 : Int) - den.log2 - 1) * 2 ^ ((den.log2 : Int) + 1) := by gcongr
      _ = 2 ^ (num.log2 : Int) := by
        rw [← zpow_add₀ (by norm_num)]
        congr 1
        ring
      _ ≤ num := num_low
  · refine Int.lt_add_one_iff.1 ((Int.lt_zpow_iff_log_lt (by decide) positive).1 ?_)
    rw [Nat.cast_ofNat, div_lt_iff₀ hd']
    calc (num : ℚ) < 2 ^ ((num.log2 : Int) + 1) := num_high
      _ = 2 ^ ((num.log2 : Int) - den.log2 + 1) * 2 ^ (den.log2 : Int) := by
        rw [← zpow_add₀ (by norm_num)]
        congr 1
        ring
      _ ≤ 2 ^ ((num.log2 : Int) - den.log2 + 1) * den := by gcongr

/-- **The exponent is that of the value**, 52 below its leading bit, or the least one. -/
theorem exponentOf_eq (hn : 0 < num) (hd : 0 < den) :
    exponentOf num den = max (Int.log 2 ((num : ℚ) / den) - 52) (-1074) := by
  have positive : (0 : ℚ) < num / den := by positivity
  obtain ⟨low, high⟩ := log_bounds hn hd
  have small : ∀ g : Int, (scaled num den g).1 / (scaled num den g).2 < Nat.pow 2 53 ↔
      Int.log 2 ((num : ℚ) / den) < 53 + g := by
    intro g
    obtain ⟨hs, value⟩ := scaled_spec num hd g
    have hs' : (0 : ℚ) < (scaled num den g).2 := by exact_mod_cast hs
    rw [← Int.lt_zpow_iff_log_lt (by decide) positive, Nat.div_lt_iff_lt_mul hs, Nat.cast_ofNat,
      zpow_add₀ (by norm_num), ← div_lt_iff₀ (by positivity), ← value, div_lt_iff₀ hs', Nat.pow_eq,
      ← Nat.cast_lt (α := ℚ)]
    push_cast
    rfl
  unfold exponentOf
  simp only [small]
  split <;> omega

/-! ## 2. Quotients -/

/-- Expanding a fraction does not change how it rounds. -/
theorem roundDiv_mul_right (num den : Nat) {k : Nat} (hk : 0 < k) :
    roundDiv (num * k) (den * k) = roundDiv num den := by
  have less : ∀ a b : Nat, a * k < b * k ↔ a < b := fun a b => Nat.mul_lt_mul_right hk
  unfold roundDiv
  simp only [Nat.mul_div_mul_right _ _ hk, Nat.mul_mod_mul_right, ← Nat.mul_assoc, less]

/-- **Equal fractions round to the same whole number.** -/
theorem roundDiv_congr (hd : 0 < den) (hd' : 0 < den') (h : (num : ℚ) / den = (num' : ℚ) / den') :
    roundDiv num den = roundDiv num' den' := by
  have cross : num * den' = num' * den := by
    rw [div_eq_div_iff (by positivity) (by positivity)] at h
    exact_mod_cast h
  rw [← roundDiv_mul_right num den hd', ← roundDiv_mul_right num' den' hd, cross, Nat.mul_comm den]

/-- A whole number is its own rounding. -/
theorem roundDiv_of_eq {m : Nat} (hd : 0 < den) (h : (num : ℚ) / den = m) : roundDiv num den = m := by
  have unit : (num : ℚ) / den = (m : ℚ) / (1 : Nat) := by rw [h, Nat.cast_one, div_one]
  rw [roundDiv_congr hd Nat.one_pos unit]
  simp [roundDiv, Nat.mod_one]

/-- The double with a significand that was rounded: as it is, or halved if it has a bit too many. -/
def placed (negative : Bool) (m : Nat) (e : Int) : Double :=
  if h : Fits m e then .finite negative m e h
  else if h : Fits (m / 2) (e + 1) then .finite negative (m / 2) (e + 1) h
  else .infinite negative

theorem ofRatio_eq (negative : Bool) (num den : Nat) :
    ofRatio negative num den =
      placed negative (roundDiv (scaled num den (exponentOf num den)).1
        (scaled num den (exponentOf num den)).2) (exponentOf num den) := rfl

/-- **Equal fractions are the same double.** -/
theorem ofRatio_congr (negative : Bool) (hn : 0 < num) (hn' : 0 < num') (hd : 0 < den) (hd' : 0 < den')
    (h : (num : ℚ) / den = (num' : ℚ) / den') : ofRatio negative num den = ofRatio negative num' den' := by
  have exponents : exponentOf num den = exponentOf num' den' := by
    rw [exponentOf_eq hn hd, exponentOf_eq hn' hd', h]
  rw [ofRatio_eq, ofRatio_eq, exponents]
  obtain ⟨hs, value⟩ := scaled_spec num hd (exponentOf num' den')
  obtain ⟨hs', value'⟩ := scaled_spec num' hd' (exponentOf num' den')
  rw [roundDiv_congr hs hs' (by rw [value, value', h])]

/-! ## 3. Values that are doubles already -/

/-- The value of a double has the exponent of the double. -/
theorem exponent_of_fits {m : Nat} (fits : Fits m e) (hm : 0 < m) :
    max (Int.log 2 ((m : ℚ) * 2 ^ e) - 52) (-1074) = e := by
  obtain ⟨small, low, -, leading⟩ := fits
  have positive : (0 : ℚ) < m * 2 ^ e := by positivity
  have below : Int.log 2 ((m : ℚ) * 2 ^ e) < 53 + e := by
    rw [← Int.lt_zpow_iff_log_lt (by decide) positive, Nat.cast_ofNat, zpow_add₀ (by norm_num)]
    have bound : (m : ℚ) < 2 ^ (53 : Int) := by exact_mod_cast small
    gcongr
  rcases leading with leading | rfl
  · have above : 52 + e ≤ Int.log 2 ((m : ℚ) * 2 ^ e) := by
      rw [← Int.zpow_le_iff_le_log (by decide) positive, Nat.cast_ofNat, zpow_add₀ (by norm_num)]
      have bound : (2 : ℚ) ^ (52 : Int) ≤ m := by exact_mod_cast leading
      gcongr
    omega
  · omega

/-- **The value of a double rounds to the double.** -/
theorem ofRatio_of_fits (negative : Bool) {m : Nat} (fits : Fits m e) (hn : 0 < num) (hd : 0 < den)
    (hm : 0 < m) (h : (num : ℚ) / den = m * 2 ^ e) :
    ofRatio negative num den = .finite negative m e fits := by
  have exponent : exponentOf num den = e := by rw [exponentOf_eq hn hd, h, exponent_of_fits fits hm]
  obtain ⟨hs, value⟩ := scaled_spec num hd e
  have significand : roundDiv (scaled num den e).1 (scaled num den e).2 = m := by
    refine roundDiv_of_eq hs ?_
    rw [value, h, mul_div_assoc, div_self (by positivity), mul_one]
  rw [ofRatio_eq, exponent, significand, placed, dif_pos fits]

/-! ## 4. Decimals -/

variable {digits digits' : Nat} {exponent exponent' : Int} {negative : Bool}

/-- **The number of digits before the point is known from the value.** -/
theorem length_add_exponent (hd : 0 < digits) (exponent : Int) :
    ((Nat.toDigits 10 digits).length : Int) + exponent =
      Int.log 10 ((digits : ℚ) * 10 ^ exponent) + 1 := by
  have positive : (0 : ℚ) < digits * 10 ^ exponent := by positivity
  obtain ⟨l, hl⟩ : ∃ l, (Nat.toDigits 10 digits).length = l + 1 :=
    Nat.exists_eq_succ_of_ne_zero (Nat.pos_iff_ne_zero.1 Nat.length_toDigits_pos)
  have high : digits < 10 ^ (l + 1) := (Nat.length_toDigits_le_iff (by decide) (by omega)).1 hl.le
  have low : 10 ^ l ≤ digits := by
    rcases Nat.eq_zero_or_pos l with rfl | hpos
    · exact hd
    · refine Nat.le_of_not_lt fun below => ?_
      have short := (Nat.length_toDigits_le_iff (b := 10) (by decide) hpos).2 below
      omega
  have below : Int.log 10 ((digits : ℚ) * 10 ^ exponent) < (l : Int) + 1 + exponent := by
    rw [← Int.lt_zpow_iff_log_lt (by decide) positive, Nat.cast_ofNat, zpow_add₀ (by norm_num)]
    have bound : (digits : ℚ) < 10 ^ ((l : Int) + 1) := by exact_mod_cast high
    gcongr
  have above : (l : Int) + exponent ≤ Int.log 10 ((digits : ℚ) * 10 ^ exponent) := by
    rw [← Int.zpow_le_iff_le_log (by decide) positive, Nat.cast_ofNat, zpow_add₀ (by norm_num)]
    have bound : (10 : ℚ) ^ (l : Int) ≤ digits := by exact_mod_cast low
    gcongr
  rw [hl]
  push_cast
  omega

/-- **A decimal is read as the fraction that it is**, unless its value is far out of range. -/
theorem ofDecimal_eq (negative : Bool) (hd : 0 < digits) (exponent : Int) :
    ofDecimal negative digits exponent =
      if 400 < Int.log 10 ((digits : ℚ) * 10 ^ exponent) + 1 then .infinite negative
      else if Int.log 10 ((digits : ℚ) * 10 ^ exponent) + 1 < -400 then zero negative
      else ofRatio negative (powered digits 10 exponent).1 (powered digits 10 exponent).2 := by
  unfold ofDecimal
  simp only [length_add_exponent hd, if_neg (Nat.pos_iff_ne_zero.1 hd)]
  by_cases he : 0 ≤ exponent
  · simp only [powered, if_pos he]
  · simp only [powered, if_neg he]

/-- The fraction of a decimal has its value. -/
theorem powered_ten_spec (hd : 0 < digits) (exponent : Int) :
    0 < (powered digits 10 exponent).1 ∧ 0 < (powered digits 10 exponent).2 ∧
      ((powered digits 10 exponent).1 : ℚ) / (powered digits 10 exponent).2 = digits * 10 ^ exponent := by
  have spec := powered_spec digits (b := 10) (by decide) exponent
  rw [Nat.cast_ofNat] at spec
  exact ⟨powered_pos hd (by decide) exponent, spec⟩

/-- **Equal decimals are the same double.** -/
theorem ofDecimal_congr (negative : Bool)
    (h : (digits : ℚ) * 10 ^ exponent = (digits' : ℚ) * 10 ^ exponent') :
    ofDecimal negative digits exponent = ofDecimal negative digits' exponent' := by
  have power : ∀ k : Int, (10 : ℚ) ^ k ≠ 0 := fun k => zpow_ne_zero k (by norm_num)
  rcases Nat.eq_zero_or_pos digits with rfl | hd
  · have none : digits' = 0 := by
      rw [Nat.cast_zero, zero_mul, zero_eq_mul] at h
      exact_mod_cast h.resolve_right (power exponent')
    rw [none, ofDecimal, ofDecimal]
    rfl
  · have hd' : 0 < digits' := by
      refine Nat.pos_of_ne_zero fun none => ?_
      rw [none, Nat.cast_zero, zero_mul, mul_eq_zero] at h
      have zero : digits = 0 := by exact_mod_cast h.resolve_right (power exponent)
      omega
    obtain ⟨hnum, hden, value⟩ := powered_ten_spec hd exponent
    obtain ⟨hnum', hden', value'⟩ := powered_ten_spec hd' exponent'
    rw [ofDecimal_eq negative hd, ofDecimal_eq negative hd', h,
      ofRatio_congr negative hnum hnum' hden hden' (by rw [value, value', h])]

/-- Eight is less than ten. -/
theorem two_pow_le : (2 : ℚ) ^ (1200 : Int) ≤ 10 ^ (400 : Int) :=
  calc (2 : ℚ) ^ (1200 : Int) = (2 ^ (3 : Int)) ^ (400 : Int) := zpow_mul 2 3 400
    _ ≤ 10 ^ (400 : Int) := zpow_le_zpow_left₀ (by norm_num) (by norm_num) (by norm_num)

/-- **Digits with the value of a double are read as the double.** -/
theorem ofDecimal_of_fits (negative : Bool) {m : Nat} (fits : Fits m e) (hm : 0 < m)
    (h : (digits : ℚ) * 10 ^ exponent = m * 2 ^ e) :
    ofDecimal negative digits exponent = .finite negative m e fits := by
  obtain ⟨small, low, high, -⟩ := id fits
  have positive : (0 : ℚ) < m * 2 ^ e := by positivity
  have hd : 0 < digits := by
    refine Nat.pos_of_ne_zero fun none => ?_
    rw [none, Nat.cast_zero, zero_mul] at h
    exact absurd h.symm positive.ne'
  -- the value is far from where the digits are not looked at
  have below : Int.log 10 ((m : ℚ) * 2 ^ e) < 400 := by
    rw [← Int.lt_zpow_iff_log_lt (by decide) positive, Nat.cast_ofNat]
    have bound : (m : ℚ) < 2 ^ (53 : Int) := by exact_mod_cast small
    calc (m : ℚ) * 2 ^ e < 2 ^ (53 : Int) * 2 ^ e := by gcongr
      _ = 2 ^ (53 + e) := (zpow_add₀ (by norm_num) 53 e).symm
      _ ≤ 2 ^ (1200 : Int) := zpow_le_zpow_right₀ (by norm_num) (by omega)
      _ ≤ 10 ^ (400 : Int) := two_pow_le
  have above : -400 ≤ Int.log 10 ((m : ℚ) * 2 ^ e) := by
    rw [← Int.zpow_le_iff_le_log (by decide) positive, Nat.cast_ofNat]
    have bound : (1 : ℚ) ≤ m := by exact_mod_cast hm
    calc (10 : ℚ) ^ (-400 : Int) = (10 ^ (400 : Int))⁻¹ := zpow_neg 10 400
      _ ≤ (2 ^ (1200 : Int))⁻¹ := inv_anti₀ (by positivity) two_pow_le
      _ = 2 ^ (-1200 : Int) := (zpow_neg 2 1200).symm
      _ ≤ 2 ^ e := zpow_le_zpow_right₀ (by norm_num) (by omega)
      _ ≤ m * 2 ^ e := le_mul_of_one_le_left (by positivity) bound
  obtain ⟨hnum, hden, value⟩ := powered_ten_spec hd exponent
  rw [ofDecimal_eq negative hd, h, if_neg (by omega), if_neg (by omega),
    ofRatio_of_fits negative fits hnum hden hm (value.trans h)]

/-! ## 5. Doubles of one value -/

/-- The fraction of a double has its value. -/
theorem fraction_spec (m : Nat) (e : Int) :
    0 < (fraction m e).2 ∧ ((fraction m e).1 : ℚ) / (fraction m e).2 = m * 2 ^ e := by
  have spec := powered_spec m (b := 2) (by decide) e
  rwa [Nat.cast_ofNat] at spec

/-- The value of a finite double. -/
theorem toRat?_finite (negative : Bool) {m : Nat} (fits : Fits m e) :
    toRat? (.finite negative m e fits) = some ((if negative then -1 else 1) * ((m : ℚ) * 2 ^ e)) := by
  have form : toRat? (.finite negative m e fits) = some (mkRat
      (if negative then -((fraction m e).1 : Int) else (fraction m e).1) (fraction m e).2) := by
    by_cases he : 0 ≤ e
    · simp only [toRat?, fraction, if_pos he]
    · simp only [toRat?, fraction, if_neg he]
  rw [form, Rat.mkRat_eq_div, ← (fraction_spec m e).2]
  cases negative with
  | false => rw [if_neg (by decide), if_neg (by decide), one_mul, Int.cast_natCast]
  | true => rw [if_pos rfl, if_pos rfl, neg_one_mul, Int.cast_neg, Int.cast_natCast, neg_div]

/-- A significand at a negative exponent is worth a whole number only if the power of two divides it. -/
theorem mod_pow_of_value {m k : Nat} {j : Int} (h : (m : ℚ) * 2 ^ (-(k : Int)) = j) :
    m % Nat.pow 2 k = 0 := by
  have product : (m : ℚ) = j * 2 ^ k := by
    rw [← h, mul_assoc, ← zpow_natCast, ← zpow_add₀ (by norm_num), neg_add_cancel, zpow_zero, mul_one]
  have divides : ((2 ^ k : Nat) : Int) ∣ m := by
    refine ⟨j, ?_⟩
    rw [mul_comm]
    exact_mod_cast product
  exact Nat.mod_eq_zero_of_dvd (Int.natCast_dvd_natCast.1 divides)

/-- **A double that is worth a whole number is whole.** -/
theorem isIntegral_of_toRat? {x : Double} {k : Int} (h : x.toRat? = some (k : ℚ)) : x.isIntegral = true := by
  cases x with
  | nan | infinite => cases h
  | finite negative m e fits =>
    rw [toRat?_finite, Option.some.injEq] at h
    rw [isIntegral, toInt?]
    by_cases he : 0 ≤ e
    · rw [if_pos he]
      rfl
    · obtain ⟨l, rfl⟩ : ∃ l : Nat, e = -(l : Int) := ⟨(-e).toNat, by omega⟩
      have divides : m % Nat.pow 2 (- -(l : Int)).toNat = 0 := by
        rw [neg_neg, Int.toNat_natCast]
        cases negative with
        | false => exact mod_pow_of_value (j := k) (by rwa [if_neg (by decide), one_mul] at h)
        | true =>
          refine mod_pow_of_value (j := -k) ?_
          rw [if_pos rfl, neg_one_mul] at h
          rw [Int.cast_neg, ← h, neg_neg]
      rw [if_neg he, if_pos divides]
      rfl

/-- **A double other than zero is known from its value.** -/
theorem eq_of_toRat?_eq {x y : Double} (hx : x.toRat? = some q) (hy : y.toRat? = some q) (hq : q ≠ 0) :
    x = y := by
  cases x with
  | nan | infinite => cases hx
  | finite negative m e fits =>
    cases y with
    | nan | infinite => cases hy
    | finite negative' m' e' fits' =>
      rw [toRat?_finite, Option.some.injEq] at hx hy
      have positive : ∀ {s : ℚ} {n : Nat} {k : Int}, s * ((n : ℚ) * 2 ^ k) = q → 0 < n := by
        refine fun {s n k} h => Nat.pos_of_ne_zero fun none => hq ?_
        rw [← h, none, Nat.cast_zero, zero_mul, mul_zero]
      have hm := positive hx
      have hm' := positive hy
      have left : (0 : ℚ) < m * 2 ^ e := by positivity
      have right : (0 : ℚ) < m' * 2 ^ e' := by positivity
      rw [← hy] at hx
      -- one sign, or a positive value would be negative
      have same : negative = negative' ∧ (m : ℚ) * 2 ^ e = m' * 2 ^ e' := by
        cases negative <;> cases negative' <;>
          simp only [Bool.false_eq_true, if_false, if_true, one_mul, neg_one_mul, neg_inj] at hx
        · exact ⟨rfl, hx⟩
        · linarith
        · linarith
        · exact ⟨rfl, hx⟩
      obtain ⟨rfl, value⟩ := same
      obtain ⟨hd, fraction⟩ := fraction_spec m e
      have hn : 0 < (Double.fraction m e).1 := powered_pos hm (by decide) e
      rw [← ofRatio_of_fits negative fits hn hd hm fraction,
        ← ofRatio_of_fits negative fits' hn hd hm' (fraction.trans value)]

end Conform.Double
