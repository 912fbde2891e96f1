/-
# Hosts in references

A host may hold an address in brackets.  Brackets have to come in pairs, and between them stands an
address of eight groups of hexadecimal digits, in the usual shortened forms, or one of a future
version.  A host must not hold a character that stands for one of the signs that end a host.
-/
import Conform.Unicode.Ranges
import Conform.Text.Escape

namespace Conform.Reference

open Unicode (splitAt)

/-! ## 1. Addresses -/

/-- Is the text a decimal number up to 255 without leading zeros? -/
def isByteText (cs : List Char) : Bool :=
  !cs.isEmpty && decide (cs.length ≤ 3) && cs.all Char.isDigit
    && (cs == ['0'] || cs.head? != some '0')
    && decide (cs.foldl (fun n c => 10 * n + (c.toNat - 48)) 0 ≤ 255)

/-- Is the text an address of four bytes? -/
def isShortAddress (cs : List Char) : Bool :=
  let parts := splitAt '.' cs
  parts.length == 4 && parts.all isByteText

/-- Is the text a group of at most four hexadecimal digits? -/
def isHexGroup (cs : List Char) : Bool :=
  !cs.isEmpty && decide (cs.length ≤ 4) && cs.all fun c => (Text.hexValue? c).isSome

/-- Do the parts between colons make an address?  A single empty part inside stands for the groups
left out; a part at the end may be empty only beside it. -/
def areAddressParts (parts : List (List Char)) : Bool :=
  let inner := (parts.drop 1).dropLast
  let gaps := inner.countP List.isEmpty
  let full := parts.filter fun part => !part.isEmpty
  let startEmpty := (parts.head?.map List.isEmpty).getD true
  let endEmpty := (parts.getLast?.map List.isEmpty).getD true
  decide (3 ≤ parts.length) && decide (parts.length ≤ 9) && full.all isHexGroup &&
    (if gaps == 0 then parts.length == 8 && !startEmpty && !endEmpty
    else gaps == 1 && decide (full.length ≤ 7)
      && (!startEmpty || (inner.head?.map List.isEmpty).getD false)
      && (!endEmpty || (inner.getLast?.map List.isEmpty).getD false))

/-- Is the text an address of eight groups?  The last two may be written as four bytes. -/
def isLongAddress (cs : List Char) : Bool :=
  let (address, zone) := (cs.takeWhile (· != '%'), cs.dropWhile (· != '%'))
  let zoneFine := match zone with
    | [] => true
    | _ :: name => !name.isEmpty && !name.contains '%'
  let parts := splitAt ':' address
  let last := (parts.getLast?).getD []
  zoneFine && decide (3 ≤ parts.length) &&
    (if last.contains '.' then
      isShortAddress last && areAddressParts (parts.dropLast ++ [['0'], ['0']])
    else areAddressParts parts)

/-- Is the text an address of a future version: a `v`, its number, a point and something more? -/
def isFutureAddress : List Char → Bool
  | 'v' :: rest =>
    let version := rest.takeWhile fun c => (Text.hexValue? c).isSome
    match rest.dropWhile fun c => (Text.hexValue? c).isSome with
    | '.' :: more => !version.isEmpty && !more.isEmpty
    | _ => false
  | _ => false

/-- May the text stand in brackets? -/
def isBracketed (cs : List Char) : Bool :=
  if cs.head? == some 'v' then isFutureAddress cs else isLongAddress cs

/-! ## 2. Hosts -/

/-- The characters that stand for one or more others, a sign that ends a host among them. -/
def disguised : Unicode.Ranges := .ofText
  "2047-2049 2100-2101 2105-2106 2A74 FE13 FE16 FE55-FE56 FE5F FE6B FF03 FF0F FF1A FF1F-FF20"

/-- **Is the host acceptable?** -/
def isHost (host : List Char) : Bool :=
  let opens := host.contains '['
  let closes := host.contains ']'
  let inside := ((host.dropWhile (· != '[')).drop 1).takeWhile (· != ']')
  opens == closes && (!opens || isBracketed inside)
    && !host.any fun c => disguised.contains c.toNat

end Conform.Reference
