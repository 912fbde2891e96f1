/-
# Numerals

A text can denote a number as well: digits of any script, with or without a point, a power of ten
after them, a sign before them, and blanks around it all; marks between digits are overlooked.
-/
import Conform.Number.Decimal
import Conform.Unicode.Digit

namespace Conform.Decimal

/-- The blanks that may stand around a numeral. -/
def numeralBlanks : Unicode.Ranges := .ofText
  "9-D 1C-20 85 A0 1680 2000-200A 2028-2029 202F 205F 3000"

/-- Is the character a blank around a numeral? -/
def isNumeralBlank (c : Char) : Bool := numeralBlanks.contains c.toNat

/-- The characters of a numeral without what does not matter: blanks around it and marks between
its digits. -/
def numeralCore (cs : List Char) : List Char :=
  let cs := cs.dropWhile isNumeralBlank
  let cs := (cs.reverse.dropWhile isNumeralBlank).reverse
  cs.filter (· != '_')

/-- Is the character a digit of some script? -/
def isNumeralDigit (c : Char) : Bool := (Unicode.digitValue? c.toNat).isSome

/-- The number that digits stand for. -/
def digitsValue (cs : List Char) : Nat :=
  cs.foldl (fun n c => 10 * n + (Unicode.digitValue? c.toNat).getD 0) 0

/-- A sign, and what follows it. -/
def signed : List Char → Bool × List Char
  | '-' :: rest => (true, rest)
  | '+' :: rest => (false, rest)
  | cs => (false, cs)

/-- The power of ten that a numeral ends with. -/
def powerOf? : List Char → Option Int
  | [] => some 0
  | c :: rest =>
    let (down, digits) := signed rest
    if (c == 'e' || c == 'E') && !digits.isEmpty && digits.all isNumeralDigit then
      some (if down then -(digitsValue digits : Int) else digitsValue digits)
    else none

/-- Is the word one for no number at all?  Digits may follow it. -/
def isUndefinedWord (word : List Char) : Bool :=
  ["nan".toList, "snan".toList].any fun name =>
    name.isPrefixOf word && (word.drop name.length).all isNumeralDigit

/-- Can a decimal be read, with these powers of ten of its first and last digits? -/
def isReadable (a : Decimal) : Bool :=
  decide (a.lead ≤ 999999999999999999) && decide (-1999999999999999997 ≤ a.exponent)

/-- **The operand that a text denotes**, if it denotes any. -/
def Operand.ofText? (text : String) : Option Operand :=
  let (negative, body) := signed (numeralCore text.toList)
  let word := body.map Char.toLower
  if word == "inf".toList || word == "infinity".toList then some .infinite
  else if isUndefinedWord word then some .undefined
  else
    let whole := body.takeWhile isNumeralDigit
    let tail := body.dropWhile isNumeralDigit
    let (fraction, tail) := match tail with
      | '.' :: rest => (rest.takeWhile isNumeralDigit, rest.dropWhile isNumeralDigit)
      | _ => ([], tail)
    let digits := whole ++ fraction
    match powerOf? tail with
    | some power =>
      let n := digitsValue digits
      let a : Decimal := ⟨if negative then -(n : Int) else n, power - fraction.length⟩
      if digits.isEmpty || !a.isReadable then none else some (.finite a)
    | none => none

end Conform.Decimal
