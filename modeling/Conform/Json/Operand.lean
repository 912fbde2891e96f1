/-
# Values in divisions

A value takes part in a division as the number it is, or as the one its text denotes; any other
value is no operand, and so a multiple of nothing.  It is printed for that, and a value that cannot be
printed is a fault, as is a remainder beyond all results.
-/
import Conform.Json.Printing
import Conform.Number.Numeral

namespace Conform.Json

/-- A value in a division, if it denotes an operand. -/
def operand? (limit : Option Nat) (x : Json) : Except Fault (Option Decimal.Operand) :=
  if x.isPrintable limit then
    .ok (match x with
      | .num n => some n.operand
      | .str s => Decimal.Operand.ofText? s
      | _ => none)
  else .error .tooManyDigits

/-- **Is the value a multiple of the divisor?** (`is_multiple_of`)  The divisor is not looked at where
the value is no operand. -/
def isMultipleOf (limit : Option Nat) (x divisor : Json) : Except Fault Bool := do
  match ← x.operand? limit with
  | none => .ok false
  | some a =>
    match ← divisor.operand? limit with
    | none => .ok false
    | some b =>
      match a.divide b with
      | .overflows => .error .exponentOverflow
      | division => .ok division.isExact

end Conform.Json
