/-
# Numbers

A number is a whole number of any size or a double; the two are compared by exact value, so
`2 ^ 53 + 1` is larger than the double `2 ^ 53`.  `Value` is what comparison sees: a rational, one
of the two infinities, or undefined, and an undefined value stands in no order to anything.
-/
import Conform.Number.Shortest

namespace Conform

/-- A whole number or a double. -/
inductive Number where
  | int (n : Int)
  | float (x : Double)
  deriving DecidableEq

namespace Number

/-- What a number is worth in a comparison. -/
inductive Value where
  /-- No number at all. -/
  | undefined
  /-- Below every rational. -/
  | bottom
  /-- A rational number. -/
  | exact (q : Rat)
  /-- Above every rational. -/
  | top
  deriving DecidableEq

/-- The strict order of values. -/
def Value.lt : Value → Value → Bool
  | .undefined, _ => false
  | _, .undefined => false
  | .bottom, .bottom => false
  | .bottom, _ => true
  | _, .bottom => false
  | .exact a, .exact b => decide (a < b)
  | .exact _, .top => true
  | .top, _ => false

/-- The equality of values, in which the undefined value equals nothing. -/
def Value.eq (a b : Value) : Bool :=
  match a with
  | .undefined => false
  | _ => a == b

/-- The exact value of a number. -/
def value : Number → Value
  | .int n => .exact n
  | .float .nan => .undefined
  | .float (.infinite true) => .bottom
  | .float (.infinite false) => .top
  | .float x => match x.toRat? with
    | some q => .exact q
    | none => .undefined

/-- `a < b`, by exact value. -/
def lt (a b : Number) : Bool := a.value.lt b.value

/-- `a ≤ b`, by exact value. -/
def le (a b : Number) : Bool := a.value.lt b.value || a.value.eq b.value

/-- `a = b`, by exact value. -/
def eqv (a b : Number) : Bool := a.value.eq b.value

/-- The whole number that a number stands for, if it does. -/
def toInt? : Number → Option Int
  | .int n => some n
  | .float x => x.toInt?

/-- Is the number a whole number? -/
def isIntegral (a : Number) : Bool := a.toInt?.isSome

/-- Is the number zero? -/
def isZero : Number → Bool
  | .int n => n == 0
  | .float x => x.isZero

/-- A number that can be printed in a division: a whole number exactly, a double through its shortest digits. -/
def operand : Number → Decimal.Operand
  | .int n => .finite (Decimal.ofInt n)
  | .float (.infinite _) => .infinite
  | .float x => match x.toDecimal? with
    | some a => .finite a
    | none => .undefined

/-- The text of a whole number, however many digits it has; which texts there may be is said by
`isPrintable`. -/
def intText (n : Int) : String :=
  if n < 0 then "-" ++ Nat.repr n.natAbs else Nat.repr n.natAbs

/-- The text of a number, doubles in the given style. -/
def render (style : Double.Style) : Number → String
  | .int n => intText n
  | .float x => x.render style

/-- Is `a` a multiple of `b`, as decimals? -/
def isMultipleOf (a b : Number) : Bool := (a.operand.divide b.operand).isExact

/-- The digits that the text of a whole number can have, unless another limit is set, or none. -/
def digitLimit : Option Nat := some 4300

/-- Has the number a text?  A whole number does if it has no more digits than there may be, and a double
always, since its 309 digits are fewer than any limit that can be set. -/
def isPrintable (limit : Option Nat) : Number → Bool
  | .int n => limit.all fun digits => decide (n.natAbs < Nat.pow 10 digits)
  | .float _ => true

end Number

end Conform
