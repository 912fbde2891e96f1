/-
# Reading JSON text

A recursive reader over the characters of a text.  A number with a point or an exponent is a
double, any other a whole number of unbounded size.  Every step takes at least one character, so
the length of the text bounds the depth of the calls.
-/
import Conform.Json.Basic
import Conform.Text.Escape

namespace Conform.Json

/-! ## 1. Tokens -/

/-- The text after blanks. -/
def skipBlanks (cs : List Char) : List Char :=
  cs.dropWhile fun c => c == ' ' || c == '\n' || c == '\r' || c == '\t'

/-- The text after a given word, if it starts with it. -/
def dropWord? : (word cs : List Char) → Option (List Char)
  | [], cs => some cs
  | w :: ws, c :: cs => if w = c then dropWord? ws cs else none
  | _ :: _, [] => none

/-- Four hexadecimal digits. -/
def readUnit? : List Char → Option (Nat × List Char)
  | a :: b :: c :: d :: rest => (Text.hexNumber? [a, b, c, d]).map fun n => (n, rest)
  | _ => none

/-- What follows a backslash: a short escape, a code unit, or two units that make one character.
Half a pair stands for the replacement character. -/
def readEscape? : List Char → Option (Char × List Char)
  | 'n' :: rest => some ('\n', rest)
  | 'r' :: rest => some ('\r', rest)
  | 't' :: rest => some ('\t', rest)
  | 'b' :: rest => some ('\x08', rest)
  | 'f' :: rest => some ('\x0c', rest)
  | '"' :: rest => some ('"', rest)
  | '\\' :: rest => some ('\\', rest)
  | '/' :: rest => some ('/', rest)
  | 'u' :: rest => do
    let (n, rest) ← readUnit? rest
    if 0xD800 ≤ n ∧ n < 0xDC00 then
      match rest with
      | '\\' :: 'u' :: rest' =>
        let (m, rest') ← readUnit? rest'
        if 0xDC00 ≤ m ∧ m < 0xE000 then
          some (Char.ofNat (0x10000 + (n - 0xD800) * 0x400 + (m - 0xDC00)), rest')
        else some ('\uFFFD', rest)
      | _ => some ('\uFFFD', rest)
    else if 0xDC00 ≤ n ∧ n < 0xE000 then some ('\uFFFD', rest)
    else some (Char.ofNat n, rest)
  | _ => none

/-- The characters of a string up to its closing quote; `read` holds those before, last first. -/
def readString? : (fuel : Nat) → (read cs : List Char) → Option (String × List Char)
  | 0, _, _ => none
  | _ + 1, _, [] => none
  | _ + 1, read, '"' :: rest => some (String.ofList read.reverse, rest)
  | fuel + 1, read, '\\' :: rest => do
    let (c, rest) ← readEscape? rest
    readString? fuel (c :: read) rest
  | fuel + 1, read, c :: rest => readString? fuel (c :: read) rest

/-- Can the character stand in a number? -/
def isNumberChar (c : Char) : Bool :=
  c.isDigit || c == '-' || c == '+' || c == '.' || c == 'e' || c == 'E'

/-- The number that decimal digits stand for. -/
def digitsValue (cs : List Char) : Nat := cs.foldl (fun n c => 10 * n + (c.toNat - 48)) 0

/-- A sign and the digits after it. -/
def signedDigits : List Char → Bool × List Char
  | '-' :: rest => (true, rest)
  | '+' :: rest => (false, rest)
  | cs => (false, cs)

/-- A number from the characters of its token. -/
def numberOfToken? (token : List Char) : Option Number :=
  let (negative, body) := signedDigits token
  let whole := body.takeWhile Char.isDigit
  if whole.isEmpty then none
  else
    match body.dropWhile Char.isDigit with
    | [] => some (.int (if negative then -(digitsValue whole : Int) else digitsValue whole))
    | tail =>
      let (fraction, tail) := match tail with
        | '.' :: rest => (rest.takeWhile Char.isDigit, rest.dropWhile Char.isDigit)
        | _ => ([], tail)
      let exponent : Int := match tail with
        | _ :: rest =>
          let (down, ds) := signedDigits rest
          if down then -(digitsValue ds : Int) else digitsValue ds
        | [] => 0
      some (.float (Double.ofDecimal negative (digitsValue (whole ++ fraction))
        (exponent - fraction.length)))

/-! ## 2. Values -/

mutual

/-- A value at the start of the text, and the text after it. -/
def readValue? : (fuel : Nat) → List Char → Option (Json × List Char)
  | 0, _ => none
  | fuel + 1, cs =>
    match skipBlanks cs with
    | '{' :: rest =>
      match skipBlanks rest with
      | '}' :: rest => some (.obj none [], rest)
      | _ => (readFields? fuel rest).map fun (fields, rest) => (.obj none fields, rest)
    | '[' :: rest =>
      match skipBlanks rest with
      | ']' :: rest => some (.arr none [], rest)
      | _ => (readItems? fuel rest).map fun (items, rest) => (.arr none items, rest)
    | '"' :: rest => (readString? (rest.length + 1) [] rest).map fun (s, rest) => (.str s, rest)
    | cs =>
      match dropWord? "null".toList cs, dropWord? "true".toList cs, dropWord? "false".toList cs with
      | some rest, _, _ => some (.null, rest)
      | _, some rest, _ => some (.bool true, rest)
      | _, _, some rest => some (.bool false, rest)
      | _, _, _ =>
        (numberOfToken? (cs.takeWhile isNumberChar)).map fun n =>
          (.num n, cs.dropWhile isNumberChar)

/-- The items of an array, after its opening bracket. -/
def readItems? : (fuel : Nat) → List Char → Option (List Json × List Char)
  | 0, _ => none
  | fuel + 1, cs => do
    let (x, rest) ← readValue? fuel cs
    match skipBlanks rest with
    | ',' :: rest => (readItems? fuel rest).map fun (items, rest) => (x :: items, rest)
    | ']' :: rest => some ([x], rest)
    | _ => none

/-- The members of an object, after its opening brace. -/
def readFields? : (fuel : Nat) → List Char → Option (List (String × Json) × List Char)
  | 0, _ => none
  | fuel + 1, cs => do
    match skipBlanks cs with
    | '"' :: rest =>
      let (k, rest) ← readString? (rest.length + 1) [] rest
      match skipBlanks rest with
      | ':' :: rest =>
        let (x, rest) ← readValue? fuel rest
        match skipBlanks rest with
        | ',' :: rest => (readFields? fuel rest).map fun (fields, rest) => ((k, x) :: fields, rest)
        | '}' :: rest => some ([(k, x)], rest)
        | _ => none
      | _ => none
    | _ => none

end

/-- The value that a whole text denotes, without tags. -/
def ofText? (text : String) : Option Json :=
  let cs := text.toList
  match readValue? (2 * cs.length + 2) cs with
  | some (x, rest) => if (skipBlanks rest).isEmpty then some x else none
  | none => none

end Conform.Json
