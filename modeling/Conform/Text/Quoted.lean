/-
# Quoted text

Text for a reader: between single quotes, or between double quotes where that saves escaping, with
every character that cannot be shown written by its number in the fewest of two, four or eight
hexadecimal digits.
-/
import Conform.Text.Escape
import Conform.Unicode.Printable

namespace Conform.Text

/-- The quote that a displayed text stands between: double quotes only where there is a single
quote to save and no double quote to escape. -/
def quoteFor (cs : List Char) : Char :=
  if cs.contains '\'' && !cs.contains '"' then '"' else '\''

/-- One character of a displayed text. -/
def displayChar (quote c : Char) : List Char :=
  if c = quote ∨ c = '\\' then ['\\', c]
  else if c = '\n' then ['\\', 'n']
  else if c = '\r' then ['\\', 'r']
  else if c = '\t' then ['\\', 't']
  else if Unicode.printable.contains c.toNat then [c]
  else if c.toNat < 0x100 then '\\' :: 'x' :: hex 2 c.toNat
  else if c.toNat < 0x10000 then '\\' :: 'u' :: hex 4 c.toNat
  else '\\' :: 'U' :: hex 8 c.toNat

/-- A text between quotes, as it is shown to a reader. -/
def display (s : String) : String :=
  let cs := s.toList
  let quote := quoteFor cs
  String.ofList (quote :: cs.flatMap (displayChar quote) ++ [quote])

end Conform.Text
