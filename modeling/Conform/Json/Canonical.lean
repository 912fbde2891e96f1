/-
# Canonical text and sameness

Two values are the same when their canonical texts are: members sorted by name, whole doubles
written as whole numbers.  So `1` and `1.0` are the same, `1` and `true` are not, and a value that
is no number is the same as itself.

`distinct` keeps the first of each group of same values.  All of this is about values whose text can be printed;
what becomes of others is said in `Printing`.
-/
import Conform.Json.Basic
import Conform.Text.Escape

namespace Conform.Json

/-! ## 1. Canonical text -/

/-- The canonical text of a number. -/
def canonicalNumber (n : Number) : String :=
  match n.toInt? with
  | some k => Number.intText k
  | none => n.render Double.documentStyle

/-- The members of an object by name. -/
def sortByName {α : Type} (fields : List (String × α)) : List (String × α) :=
  fields.mergeSort fun a b => !decide (b.1 < a.1)

/-- One member of a canonical object. -/
def canonicalField (field : String × String) : String :=
  Text.quoted Text.minimal field.1 ++ ": " ++ field.2

mutual

/-- The canonical text of a value, as `canonical_json` gives it if it gives one. -/
def canonical : Json → String
  | .null => "null"
  | .bool true => "true"
  | .bool false => "false"
  | .num n => canonicalNumber n
  | .str s => Text.quoted Text.minimal s
  | .arr _ items => "[" ++ String.intercalate ", " (canonicalItems items) ++ "]"
  | .obj _ fields =>
    "\x7b" ++ String.intercalate ", " ((sortByName (canonicalFields fields)).map canonicalField)
      ++ "\x7d"

/-- The canonical texts of the items of an array. -/
def canonicalItems : List Json → List String
  | [] => []
  | x :: rest => canonical x :: canonicalItems rest

/-- The members of an object with their canonical texts. -/
def canonicalFields : List (String × Json) → List (String × String)
  | [] => []
  | (k, x) :: rest => (k, canonical x) :: canonicalFields rest

end

/-! ## 2. Sameness -/

/-- Are the two values the same, as `deep_equal` says? -/
def same (a b : Json) : Bool := a.canonical == b.canonical

/-- The values whose canonical text is not among those seen, the first of each. -/
def distinctFrom (seen : List String) : List Json → List Json
  | [] => []
  | x :: rest =>
    if seen.contains x.canonical then distinctFrom seen rest
    else x :: distinctFrom (x.canonical :: seen) rest

/-- The first of each group of same values, in order, as `unique` keeps them. -/
def distinct (items : List Json) : List Json := distinctFrom [] items

/-- Does a value repeat one whose canonical text was seen, or one before it? -/
def repeatsFrom (seen : List String) : List Json → Bool
  | [] => false
  | x :: rest => seen.contains x.canonical || repeatsFrom (x.canonical :: seen) rest

/-- Are two of the values the same, as `has_duplicates` says? -/
def hasRepeats (items : List Json) : Bool := repeatsFrom [] items

/-! ## 3. Loose equality -/

mutual

/-- Equality of names and markers where no sameness is asked for: numbers and booleans by exact
value, so that `true` equals one, and a value that is no number equals nothing. -/
def looselyEqual : Json → Json → Bool
  | .null, .null => true
  | .bool a, .bool b => a == b
  | .num a, .num b => a.eqv b
  | .bool a, .num b => (Number.int (if a then 1 else 0)).eqv b
  | .num a, .bool b => a.eqv (Number.int (if b then 1 else 0))
  | .str a, .str b => a == b
  | .arr _ a, .arr _ b => looselyEqualItems a b
  | .obj _ a, .obj _ b => a.length == b.length && looselyEqualFields a b
  | _, _ => false

def looselyEqualItems : List Json → List Json → Bool
  | [], [] => true
  | x :: xs, y :: ys => looselyEqual x y && looselyEqualItems xs ys
  | _, _ => false

def looselyEqualFields : List (String × Json) → List (String × Json) → Bool
  | [], _ => true
  | (k, x) :: rest, b =>
    (match List.lookup k b with
      | some y => looselyEqual x y
      | none => false) && looselyEqualFields rest b

end

/-- Is the value among the others, up to loose equality? -/
def isAmong (x : Json) (items : List Json) : Bool := items.any fun y => looselyEqual x y

/-- Is the text one of the values? -/
def listsName (items : List Json) (name : String) : Bool :=
  items.any fun
    | .str s => s == name
    | _ => false

end Conform.Json
