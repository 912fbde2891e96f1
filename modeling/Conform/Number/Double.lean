/-
# Binary floating-point numbers, exactly

A double is a sign, a whole significand and a power of two, or one of the three values that have
no such form.  Nothing here computes with doubles: they are read from decimal text, compared
by exact value, and written back.  So the only rounding in the library is the one in `ofRatio`,
and everything else is arithmetic on whole numbers.

The bounds of the format are part of the type (`Double.Fits`): each value has one representation,
up to the sign of zero.
-/

namespace Conform

/-- **The shape of a finite double**: at most 53 significant bits, an exponent in range, and a
leading bit set unless the exponent is the least one. -/
def Double.Fits (significand : Nat) (exponent : Int) : Prop :=
  significand < Nat.pow 2 53 ∧ -1074 ≤ exponent ∧ exponent ≤ 971 ∧
    (Nat.pow 2 52 ≤ significand ∨ exponent = -1074)

instance (m : Nat) (e : Int) : Decidable (Double.Fits m e) :=
  inferInstanceAs (Decidable (_ ∧ _ ∧ _ ∧ _))

/-- A binary floating-point number with 53 bits of precision. -/
inductive Double where
  /-- The value that is no number. -/
  | nan
  /-- Beyond the largest finite value, on either side. -/
  | infinite (negative : Bool)
  /-- The value `significand * 2 ^ exponent`, negated when `negative`. -/
  | finite (negative : Bool) (significand : Nat) (exponent : Int)
      (fits : Double.Fits significand exponent)
  deriving DecidableEq

namespace Double

/-! ## 1. Rounding a quotient -/

/-- The whole number nearest to `num / den`; a tie goes to the even neighbour. -/
def roundDiv (num den : Nat) : Nat :=
  let q := num / den
  let twice := 2 * (num % den)
  if twice < den then q
  else if den < twice then q + 1
  else if q % 2 = 0 then q else q + 1

/-- The quotient `num / (den * 2 ^ e)` as a fraction of whole numbers. -/
def scaled (num den : Nat) (e : Int) : Nat × Nat :=
  if 0 ≤ e then (num, den * Nat.pow 2 e.toNat) else (num * Nat.pow 2 (-e).toNat, den)

/-- The exponent at which `num / den` has a significand of 53 bits, but never below the least
exponent of the format. -/
def exponentOf (num den : Nat) : Int :=
  let guess : Int := max ((num.log2 : Int) - den.log2 - 53) (-1074)
  let (n, d) := scaled num den guess
  if n / d < Nat.pow 2 53 then guess else guess + 1

/-- **The double nearest to `num / den`**, a tie going to the even significand.  A significand
that rounds up to 54 bits is halved; what then still does not fit lies beyond the largest
finite value. -/
def ofRatio (negative : Bool) (num den : Nat) : Double :=
  let e := exponentOf num den
  let (n, d) := scaled num den e
  let m := roundDiv n d
  if h : Fits m e then .finite negative m e h
  else if h : Fits (m / 2) (e + 1) then .finite negative (m / 2) (e + 1) h
  else .infinite negative

/-- Zero, with either sign. -/
def zero (negative : Bool) : Double := .finite negative 0 (-1074) (by decide)

/-- **The double nearest to `digits * 10 ^ exponent`.**  Exponents so large or small that the
result is infinite or zero whatever the digits are not expanded. -/
def ofDecimal (negative : Bool) (digits : Nat) (exponent : Int) : Double :=
  if digits = 0 then zero negative
  else
    let magnitude : Int := (Nat.toDigits 10 digits).length + exponent
    if 400 < magnitude then .infinite negative
    else if magnitude < -400 then zero negative
    else if 0 ≤ exponent then ofRatio negative (digits * Nat.pow 10 exponent.toNat) 1
    else ofRatio negative digits (Nat.pow 10 (-exponent).toNat)

/-! ## 2. Exact values -/

/-- The exact value of a finite double. -/
def toRat? : Double → Option Rat
  | .finite negative m e _ =>
    let signed (n : Nat) : Int := if negative then -(n : Int) else n
    some (if 0 ≤ e then mkRat (signed (m * Nat.pow 2 e.toNat)) 1
      else mkRat (signed m) (Nat.pow 2 (-e).toNat))
  | _ => none

/-- The whole number a double stands for, if it is one. -/
def toInt? : Double → Option Int
  | .finite negative m e _ =>
    let signed (n : Nat) : Int := if negative then -(n : Int) else n
    if 0 ≤ e then some (signed (m * Nat.pow 2 e.toNat))
    else if m % Nat.pow 2 (-e).toNat = 0 then some (signed (m / Nat.pow 2 (-e).toNat))
    else none
  | _ => none

/-- Is the double a whole number? -/
def isIntegral (x : Double) : Bool := x.toInt?.isSome

/-- Is the double zero, of either sign? -/
def isZero : Double → Bool
  | .finite _ m _ _ => m == 0
  | _ => false

end Double

end Conform
