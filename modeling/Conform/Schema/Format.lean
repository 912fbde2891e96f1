/-
# Formats of strings

The formats that are checked have a pattern each, which has to match from the start of the string.
A format without a pattern admits every string.  The parts of an address are bounded as well.
-/
import Conform.Pattern.Matching
import Conform.Unicode.Digit
import Conform.Fault

namespace Conform.Schema

/-- The offset that may follow a time. -/
def offsetPattern : String := "([Zz]|[+-]([01]\\d|2[0-3]):?[0-5]\\d)?$"

/-- The time of a day with its offset, up to the end. -/
def timePattern : String := "([01]\\d|2[0-3]):[0-5]\\d:([0-5]\\d|60)(\\.\\d+)?" ++ offsetPattern

/-- A day of a year. -/
def dayPattern : String := "^\\d\x7b4\x7d-(0[1-9]|1[0-2])-(0[1-9]|[12]\\d|3[01])"

/-- The pattern of a format, if the format is checked. -/
def formatPattern? : String → Option String
  | "date-time" => some (dayPattern ++ "[Tt ]" ++ timePattern)
  | "date" => some (dayPattern ++ "$")
  | "time" => some ("^" ++ timePattern)
  | "email" => some "^[^\\s@]+@[^\\s@]+\\.[^\\s@]+$"
  | "ipv4" => some "^(\\d\x7b1,3\x7d)\\.(\\d\x7b1,3\x7d)\\.(\\d\x7b1,3\x7d)\\.(\\d\x7b1,3\x7d)$"
  | "uuid" =>
    some "(?i)^[0-9a-f]\x7b8\x7d-[0-9a-f]\x7b4\x7d-[0-9a-f]\x7b4\x7d-[0-9a-f]\x7b4\x7d-[0-9a-f]\x7b12\x7d$"
  | _ => none

/-- The name of a format as issues show it. -/
def formatLabel : String → String
  | "ipv4" => "IPv4"
  | "uuid" => "UUID"
  | name => name

/-- The number that decimal digits of any script stand for. -/
def digitsNumber? (cs : List Char) : Option Nat :=
  cs.foldl
    (fun acc c => acc.bind fun n => (Unicode.digitValue? c.toNat).map fun d => 10 * n + d)
    (some 0)

/-- Are the numbers at most 255?  A digit whose value is not known stops the reading, but only if
no number before it is too large. -/
def octetsFit : List (List Char) → Except Fault Bool
  | [] => .ok true
  | octet :: rest =>
    match digitsNumber? octet with
    | none => .error .badDigit
    | some n => if 255 < n then .ok false else octetsFit rest

/-- Does the string have the format with a name? -/
def hasNamedFormat (s name pattern : String) : Except Fault Bool :=
  match Pattern.Program.ofText pattern with
  | .error _ => .error .notText
  | .ok program =>
    if !program.matchesStart s then .ok false
    else if name = "ipv4" then
      octetsFit ((Unicode.splitAt '.' s.toList).map fun part => part.filter (· != '\n'))
    else .ok true

/-- **Does the value have the format?**  A list or an object names no format, and only strings can
have one that is checked (`check_format`). -/
def hasFormat (x format : Json) : Except Fault Bool :=
  match format with
  | .arr _ _ => .error .unusableName
  | .obj _ _ => .error .unusableName
  | .str name =>
    match formatPattern? name, x with
    | none, _ => .ok true
    | some pattern, .str s => hasNamedFormat s name pattern
    | some _, _ => .error .notText
  | _ => .ok true

end Conform.Schema
