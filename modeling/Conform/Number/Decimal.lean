/-
# Decimal numbers and divisibility

A decimal is a whole coefficient and a power of ten.  Divisibility of decimals is asked for in a
context, which bounds the digits of a result and its powers of ten.  A quotient with more digits than
the context holds has no remainder at all.  A remainder is rounded to the context: one that is too
large for it is none of its numbers, and of one that is too small nothing may be left.
-/

namespace Conform

/-- The number `coefficient * 10 ^ exponent`. -/
structure Decimal where
  coefficient : Int
  exponent : Int
  deriving DecidableEq

namespace Decimal

/-- The exact value. -/
def toRat (a : Decimal) : Rat :=
  if 0 ≤ a.exponent then mkRat (a.coefficient * Nat.pow 10 a.exponent.toNat) 1
  else mkRat a.coefficient (Nat.pow 10 (-a.exponent).toNat)

/-- A whole number as a decimal. -/
def ofInt (n : Int) : Decimal := ⟨n, 0⟩

/-- How many digits a number is written with. -/
def digitCount (n : Nat) : Nat := (Nat.toDigits 10 n).length

/-- The whole number nearest to `n / 10 ^ places`; a tie goes to the even neighbour. -/
def dropDigits (n places : Nat) : Nat :=
  let unit := Nat.pow 10 places
  let q := n / unit
  let twice := 2 * (n % unit)
  if twice < unit then q
  else if unit < twice then q + 1
  else if q % 2 = 0 then q else q + 1

/-- The power of ten of the leading digit. -/
def lead (a : Decimal) : Int := a.exponent + digitCount a.coefficient.natAbs - 1

/-- The decimal without digits below the power `e`.  What is far below it needs no digits to be dropped. -/
def keptFrom (e : Int) (a : Decimal) : Decimal :=
  if e ≤ a.exponent then a
  else if a.lead < e - 1 then ⟨0, e⟩
  else ⟨a.coefficient.sign * dropDigits a.coefficient.natAbs (e - a.exponent).toNat, e⟩

/-- The coefficient at a finer exponent. -/
def coefficientAt (a : Decimal) (e : Int) : Int := a.coefficient * Nat.pow 10 (a.exponent - e).toNat

/-- **The remainder of a division in a context of `precision` digits**, before it is rounded.  There is
none when the divisor is zero, nor when the whole quotient has more digits than the context.  It has
the sign of the dividend.  Where the leading digits are far apart the quotient is not needed. -/
def remainder? (precision : Nat) (a b : Decimal) : Option Decimal :=
  let e := min a.exponent b.exponent
  if b.coefficient = 0 then none
  else if a.coefficient = 0 then some ⟨0, e⟩
  else if a.lead < b.lead then some a
  else if b.lead + precision < a.lead then none
  else
    let n := a.coefficientAt e
    let d := b.coefficientAt e
    if Nat.pow 10 precision ≤ n.natAbs / d.natAbs then none
    else some ⟨n.tmod d, e⟩

/-- The digits that a division keeps. -/
def contextPrecision : Nat := 28

/-- The largest power of ten that a leading digit of a result has. -/
def contextReach : Int := 999999

/-- The least power of ten that a last digit of a result has. -/
def contextFloor : Int := -contextReach - contextPrecision + 1

/-- **The decimal as a result**: rounded to the digits and the powers of ten that a division keeps, if
it is not too large for them. -/
def settle? (a : Decimal) : Option Decimal :=
  if a.coefficient = 0 then some a
  else
    let r := a.keptFrom (max (a.lead + 1 - contextPrecision) contextFloor)
    if contextReach < r.lead then none else some r

/-- What can take part in a division. -/
inductive Operand where
  | finite (a : Decimal)
  | infinite
  /-- No number at all. -/
  | undefined

/-- What a division comes to. -/
inductive Division where
  /-- It has a remainder. -/
  | leaves (r : Decimal)
  /-- It has none. -/
  | fails
  /-- The remainder is too large to be a result. -/
  | overflows

/-- The division that leaves this remainder. -/
def Division.leaving (r : Decimal) : Division :=
  match r.settle? with
  | some r => .leaves r
  | none => .overflows

/-- **The division of one operand by another.**  An infinite divisor leaves the dividend itself, and no
other division with an operand that is not finite has a remainder. -/
def Operand.divide : Operand → Operand → Division
  | .finite a, .finite b =>
    match remainder? contextPrecision a b with
    | some r => .leaving r
    | none => .fails
  | .finite a, .infinite => .leaving a
  | _, _ => .fails

/-- Has the division the remainder zero? -/
def Division.isExact : Division → Bool
  | .leaves r => r.coefficient == 0
  | _ => false

end Decimal

end Conform
