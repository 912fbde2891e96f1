/-
# Values that can be printed

Where there is a limit to the digits of a text, a whole number has a text only up to this limit, and a
value has one if all numbers in it do.  What asks for the text of another value stops with a fault: so do
the comparison of two values, the search for repetitions and the wording of a value in a message.

Each function here is the one of `Canonical` or `Display` with this fault.  Probes and resolutions are
described by those, as they are for values that can be printed.
-/
import Conform.Fault
import Conform.Json.Canonical

namespace Conform.Json

mutual

/-- Have all numbers in the value a text? -/
def isPrintable (limit : Option Nat) : Json → Bool
  | .num n => n.isPrintable limit
  | .arr _ items => arePrintable limit items
  | .obj _ fields => membersPrintable limit fields
  | _ => true

/-- Have all numbers in the items a text? -/
def arePrintable (limit : Option Nat) : List Json → Bool
  | [] => true
  | x :: rest => isPrintable limit x && arePrintable limit rest

/-- Have all numbers in the members a text? -/
def membersPrintable (limit : Option Nat) : List (String × Json) → Bool
  | [] => true
  | (_, x) :: rest => isPrintable limit x && membersPrintable limit rest

end

/-- The text of a value, if it can be printed (`canonical_json`). -/
def canonicalText (limit : Option Nat) (x : Json) : Except Fault String :=
  if x.isPrintable limit then .ok x.canonical else .error .tooManyDigits

/-- **Are the two values the same?** (`deep_equal`) -/
def deepEqual (limit : Option Nat) (a b : Json) : Except Fault Bool := do
  let left ← a.canonicalText limit
  let right ← b.canonicalText limit
  .ok (left == right)

/-- The values whose text is not among those seen, the first of each. -/
def uniqueFrom (limit : Option Nat) (seen : List String) : List Json → Except Fault (List Json)
  | [] => .ok []
  | x :: rest => do
    let text ← x.canonicalText limit
    if seen.contains text then uniqueFrom limit seen rest
    else
      let kept ← uniqueFrom limit (text :: seen) rest
      .ok (x :: kept)

/-- **The first of each group of same values**, in order (`unique`). -/
def unique (limit : Option Nat) (items : List Json) : Except Fault (List Json) := uniqueFrom limit [] items

/-- Does a value repeat one whose text was seen, or one before it?  The first that does settles it. -/
def hasDuplicatesFrom (limit : Option Nat) (seen : List String) : List Json → Except Fault Bool
  | [] => .ok false
  | x :: rest => do
    let text ← x.canonicalText limit
    if seen.contains text then .ok true else hasDuplicatesFrom limit (text :: seen) rest

/-- **Are two of the values the same?** (`has_duplicates`) -/
def hasDuplicates (limit : Option Nat) (items : List Json) : Except Fault Bool :=
  hasDuplicatesFrom limit [] items

/-- **The wording of a value in a message** (`format_value`). -/
def messageText (limit : Option Nat) (x : Json) : Except Fault String :=
  if x.isPrintable limit then .ok x.inMessage else .error .tooManyDigits

end Conform.Json
