/-
# Escapes

Hexadecimal digits, and the two ways in which document text escapes the characters of a string:
`ascii` leaves nothing but printable ASCII, `minimal` escapes only what a string cannot hold as it
is, the quote, the backslash and the control characters below the space.
-/

namespace Conform.Text

/-! ## 1. Hexadecimal digits -/

/-- The lower-case hexadecimal digit of a value below sixteen. -/
def hexDigit (n : Nat) : Char := if n < 10 then Char.ofNat (48 + n) else Char.ofNat (87 + n)

/-- A number in exactly `width` hexadecimal digits, leading zeros included. -/
def hex : (width : Nat) → (n : Nat) → List Char
  | 0, _ => []
  | width + 1, n => hex width (n / 16) ++ [hexDigit (n % 16)]

/-- The value of a hexadecimal digit of either case. -/
def hexValue? (c : Char) : Option Nat :=
  if '0' ≤ c ∧ c ≤ '9' then some (c.toNat - 48)
  else if 'a' ≤ c ∧ c ≤ 'f' then some (c.toNat - 87)
  else if 'A' ≤ c ∧ c ≤ 'F' then some (c.toNat - 55)
  else none

/-- The number that hexadecimal digits stand for. -/
def hexNumber? (cs : List Char) : Option Nat :=
  cs.foldl (fun acc c => acc.bind fun n => (hexValue? c).map fun d => 16 * n + d) (some 0)

/-! ## 2. Escaping one character -/

/-- The short escapes of document text. -/
def shortEscape? : Char → Option Char
  | '"' => some '"'
  | '\\' => some '\\'
  | '\n' => some 'n'
  | '\r' => some 'r'
  | '\t' => some 't'
  | '\x08' => some 'b'
  | '\x0c' => some 'f'
  | _ => none

/-- The two halves of a code point beyond the first sixteen bits. -/
def surrogates (n : Nat) : Nat × Nat :=
  (0xD800 + (n - 0x10000) / 0x400, 0xDC00 + (n - 0x10000) % 0x400)

/-- A character as printable ASCII. -/
def ascii (c : Char) : List Char :=
  match shortEscape? c with
  | some e => ['\\', e]
  | none =>
    if ' ' ≤ c ∧ c ≤ '~' then [c]
    else if c.toNat < 0x10000 then '\\' :: 'u' :: hex 4 c.toNat
    else
      let (high, low) := surrogates c.toNat
      '\\' :: 'u' :: hex 4 high ++ '\\' :: 'u' :: hex 4 low

/-- A character as a string can hold it. -/
def minimal (c : Char) : List Char :=
  match shortEscape? c with
  | some e => ['\\', e]
  | none => if c < ' ' then '\\' :: 'u' :: hex 4 c.toNat else [c]

/-- A string between quotes, its characters escaped. -/
def quoted (escape : Char → List Char) (s : String) : String :=
  String.ofList ('"' :: s.toList.flatMap escape ++ ['"'])

end Conform.Text
