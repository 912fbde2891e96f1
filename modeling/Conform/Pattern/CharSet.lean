/-
# Sets of characters in patterns

What one position of a pattern accepts is a set of code points, built from single code points,
ranges and property tables by union, intersection and complement.  `anyCase` closes a set under
case: it accepts a character when it or one of its case variants is in the set.

A property is asked for by name, alone or as `property=value`.
-/
import Conform.Unicode.Category
import Conform.Unicode.Script
import Conform.Unicode.ScriptExtension
import Conform.Unicode.Binary
import Conform.Unicode.Block
import Conform.Unicode.CaseVariant

namespace Conform.Pattern

open Unicode

/-! ## 1. Sets -/

/-- A set of code points. -/
inductive CharSet where
  | empty
  | single (n : Nat)
  | range (low high : Nat)
  | table (ranges : Ranges)
  | union (a b : CharSet)
  | inter (a b : CharSet)
  | complement (a : CharSet)
  /-- Closed under case. -/
  | anyCase (a : CharSet)

namespace CharSet

/-- Is the code point in the set? -/
def contains : CharSet → Nat → Bool
  | .empty, _ => false
  | .single m, n => m == n
  | .range low high, n => decide (low ≤ n) && decide (n ≤ high)
  | .table ranges, n => ranges.contains n
  | .union a b, n => a.contains n || b.contains n
  | .inter a b, n => a.contains n && b.contains n
  | .complement a, n => !a.contains n
  | .anyCase a, n => a.contains n || (caseVariants n).any fun m => a.contains m

/-- The union of several sets. -/
def unions (sets : List CharSet) : CharSet := sets.foldr .union .empty

/-- The set, or its complement. -/
def oriented (positive : Bool) (a : CharSet) : CharSet := if positive then a else .complement a

/-- The set, closed under case where that is asked for. -/
def cased (ignoreCase : Bool) (a : CharSet) : CharSet := if ignoreCase then .anyCase a else a

end CharSet

/-! ## 2. Properties by name -/

/-- A name in standard form: upper case, without blanks, hyphens and underscores. -/
def standardName (name : String) : String :=
  String.ofList ((name.toList.filter fun c => c != '_' && c != '-' && c != ' ').map Char.toUpper)

/-- The table of a name. -/
def tableOf? (tables : List (List String × String)) (name : String) : Option CharSet :=
  (tables.find? fun entry => entry.1.contains name).map fun entry => .table (.ofText entry.2)

/-- The general category with a name, or a group of them. -/
def categoryOf? (name : String) : Option CharSet :=
  let one (n : String) : Option CharSet :=
    (categories.find? fun c => c.names.contains n).map fun c => .table (.ofText c.text)
  match one name with
  | some s => some s
  | none =>
    (categoryGroups.find? fun group => group.1.contains name).map fun group =>
      .unions (group.2.filterMap one)

/-- The characters of a script. -/
def scriptOf? (name : String) : Option CharSet :=
  if name = "ZZZZ" ∨ name = "UNKNOWN" then
    some (.complement (.unions (scripts.map fun entry => .table (.ofText entry.2))))
  else tableOf? scripts name

/-- The code points of a block. -/
def blockOf? (name : String) : Option CharSet :=
  if name = "NOBLOCK" ∨ name = "NB" then
    some (.complement (.unions (blocks.map fun (a, b, _) => .range a b)))
  else (blocks.find? fun (_, _, names) => names.contains name).map fun (a, b, _) => .range a b

/-- A category that is there. -/
def category (name : String) : CharSet := (categoryOf? name).getD .empty

/-- A binary property that is there. -/
def binary (name : String) : CharSet := (tableOf? binaryProperties name).getD .empty

/-- Decimal digits. -/
def digits : CharSet := category "ND"

/-- White space. -/
def spaces : CharSet := binary "WHITESPACE"

/-- The characters of words: letters and their marks, decimal digits, connectors and joiners. -/
def words : CharSet :=
  .unions [.range 0x61 0x7A, binary "ALPHABETIC", category "M", digits, category "PC",
    binary "JOINCONTROL"]

/-- Blanks within a line. -/
def blanks : CharSet := .union (.single 9) (category "ZS")

/-- Characters with a visible shape. -/
def graphic : CharSet :=
  .complement (.unions [spaces, category "CC", category "CS", category "CN"])

/-- The binary properties, those of standard tables and those composed of them. -/
def binaryOf? (name : String) : Option CharSet :=
  match tableOf? binaryProperties name with
  | some s => some s
  | none =>
    match name with
    | "ANY" => some (.complement .empty)
    | "ASCII" => some (.range 0 0x7F)
    | "ASSIGNED" => some (.complement (category "CN"))
    | "WORD" => some words
    | "ALNUM" => some (.union (binary "ALPHABETIC") digits)
    | "POSIXALNUM" => some (.union (binary "ALPHABETIC") digits)
    | "BLANK" => some blanks
    | "HORIZSPACE" => some blanks
    | "VERTSPACE" => some (.unions [.range 0x0A 0x0D, .single 0x85, .range 0x2028 0x2029])
    | "GRAPH" => some graphic
    | "PRINT" => some (.inter (.union graphic blanks) (.complement (category "CC")))
    | "XDIGIT" => some (.union digits (binary "HEXDIGIT"))
    | "POSIXDIGIT" => some (.range 0x30 0x39)
    | "POSIXXDIGIT" => some (binary "ASCIIHEXDIGIT")
    | "POSIXPUNCT" =>
      some (.union (category "P") (.inter (category "S") (.range 0 0x7F)))
    | _ => none

/-- The characters that have a case. -/
def casedLetters : CharSet := category "LC"

/-- Where case is ignored, the properties that tell cases apart all mean the same. -/
def ignoringCase (ignoreCase : Bool) (names : List String) (all : CharSet) (name : String)
    (s : CharSet) : CharSet :=
  if ignoreCase && names.contains name then all else s

/-- The general category with a name, where case may be ignored. -/
def caseCategoryOf? (ignoreCase : Bool) (name : String) : Option CharSet :=
  (categoryOf? name).map fun s =>
    ignoringCase ignoreCase
      ["LU", "LL", "LT", "UPPERCASELETTER", "LOWERCASELETTER", "TITLECASELETTER"] casedLetters name s

/-- The binary property with a name, where case may be ignored. -/
def caseBinaryOf? (ignoreCase : Bool) (name : String) : Option CharSet :=
  (binaryOf? name).map fun s =>
    ignoringCase ignoreCase ["UPPERCASE", "UPPER", "LOWERCASE", "LOWER"] (binary "CASED") name s

/-- The names under which a property is taken for a yes or no. -/
def affirmation? : String → Option Bool
  | "YES" => some true
  | "Y" => some true
  | "TRUE" => some true
  | "T" => some true
  | "NO" => some false
  | "N" => some false
  | "FALSE" => some false
  | "F" => some false
  | _ => none

/-- The set for `property=value`. -/
def valueOf? (ignoreCase : Bool) (property value : String) : Option CharSet :=
  match property with
  | "GENERALCATEGORY" =>
    if value = "ASSIGNED" then some (.complement (category "CN"))
    else caseCategoryOf? ignoreCase value
  | "GC" => caseCategoryOf? ignoreCase value
  | "SCRIPT" => scriptOf? value
  | "SC" => scriptOf? value
  | "SCRIPTEXTENSIONS" => tableOf? scriptExtensions value
  | "SCX" => tableOf? scriptExtensions value
  | "BLOCK" => blockOf? value
  | "BLK" => blockOf? value
  | _ =>
    match caseBinaryOf? ignoreCase property, affirmation? value with
    | some s, some yes => some (s.oriented yes)
    | _, _ => none

/-- The rest of a name after a two-letter prefix. -/
def afterPrefix? (first second : Char) (name : String) : Option String :=
  match name.toList with
  | a :: b :: rest => if a = first ∧ b = second then some (String.ofList rest) else none
  | _ => none

/-- The set for a name alone: a category, a script or a block, or else a binary property; a script
or a property may be announced by `Is`, a block by `In`. -/
def nameOf? (ignoreCase : Bool) (name : String) : Option CharSet :=
  caseCategoryOf? ignoreCase name
    <|> scriptOf? name
    <|> blockOf? name
    <|> caseBinaryOf? ignoreCase name
    <|> (afterPrefix? 'I' 'S' name).bind (fun rest => caseBinaryOf? ignoreCase rest <|> scriptOf? rest)
    <|> (afterPrefix? 'I' 'N' name).bind blockOf?

/-- **The set that a property denotes**, `none` when there is no such property. -/
def propertySet? (ignoreCase : Bool) (property : Option String) (value : String) : Option CharSet :=
  match property with
  | some p => valueOf? ignoreCase (standardName p) (standardName value)
  | none => nameOf? ignoreCase (standardName value)

/-- The names that a bracketed class takes in their ASCII sense. -/
def bracketClassNames : List String := ["ALNUM", "DIGIT", "PUNCT", "XDIGIT"]

/-- The set of a bracketed class such as `[:alpha:]`. -/
def bracketSet? (ignoreCase : Bool) (property : Option String) (value : String) :
    Option CharSet :=
  match property with
  | some _ => propertySet? ignoreCase property value
  | none =>
    let name := standardName value
    if bracketClassNames.contains name then nameOf? ignoreCase ("POSIX" ++ name)
    else nameOf? ignoreCase name

end Conform.Pattern
