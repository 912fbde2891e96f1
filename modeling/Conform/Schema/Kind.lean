/-
# Kinds of values

The seven kinds that a type keyword can name.  They overlap: a whole number is also a number.
Where several are offered, a value is of the first that fits, in the order of `Kind.all`.
-/
import Conform.Json.Canonical

namespace Conform

/-- The kinds of values that a schema can ask for. -/
inductive Kind where
  | null
  | array
  | object
  | boolean
  | string
  | number
  | integer
  deriving DecidableEq

namespace Kind

/-- The kinds in the order in which they are tried. -/
def all : List Kind := [.null, .array, .object, .boolean, .string, .number, .integer]

/-- The name of a kind in schemas. -/
def name : Kind → String
  | .null => "null"
  | .array => "array"
  | .object => "object"
  | .boolean => "boolean"
  | .string => "string"
  | .number => "number"
  | .integer => "integer"

/-- The kind as the wording of an issue has it. -/
def phrase : Kind → String
  | .null => "null"
  | .array => "an array"
  | .object => "an object"
  | .boolean => "a boolean"
  | .string => "a string"
  | .number => "a number"
  | .integer => "an integer"

/-- The kind with a name. -/
def ofName? (s : String) : Option Kind := all.find? fun kind => kind.name == s

/-- Is the value of the kind? -/
def fits : Kind → Json → Bool
  | .null, .null => true
  | .array, .arr _ _ => true
  | .object, .obj _ _ => true
  | .boolean, .bool _ => true
  | .string, .str _ => true
  | .number, x => x.isNumber
  | .integer, x => x.isInteger
  | _, _ => false

/-- The first of the listed kinds that the value is of (`get_value_type`). -/
def firstFit (types : List Json) (x : Json) : Option Kind :=
  all.find? fun kind => Json.listsName types kind.name && kind.fits x

/-- The kind that a value is of when all are offered. -/
def ofValue : Json → Kind
  | .null => .null
  | .bool _ => .boolean
  | .num _ => .number
  | .str _ => .string
  | .arr _ _ => .array
  | .obj _ _ => .object

end Kind

end Conform
