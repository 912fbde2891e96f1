/-
# Document text

The text of a value as a document: members in their own order, a blank after every comma and
colon, and nothing but printable ASCII inside strings.
-/
import Conform.Json.Basic
import Conform.Text.Escape

namespace Conform.Json

mutual

/-- The document text of a value. -/
def text : Json → String
  | .null => "null"
  | .bool true => "true"
  | .bool false => "false"
  | .num n => n.render Double.documentStyle
  | .str s => Text.quoted Text.ascii s
  | .arr _ items => "[" ++ String.intercalate ", " (textItems items) ++ "]"
  | .obj _ fields => "\x7b" ++ String.intercalate ", " (textFields fields) ++ "\x7d"

/-- The texts of the items of an array. -/
def textItems : List Json → List String
  | [] => []
  | x :: rest => text x :: textItems rest

/-- The texts of the members of an object. -/
def textFields : List (String × Json) → List String
  | [] => []
  | (k, x) :: rest => (Text.quoted Text.ascii k ++ ": " ++ text x) :: textFields rest

end

end Conform.Json
