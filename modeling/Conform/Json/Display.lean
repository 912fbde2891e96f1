/-
# Displayed values

Three ways in which a value appears in a message.  `display` shows its structure, strings quoted;
`plain` is the same except that a string stands for itself; `inMessage` is the form of limits and
constants in messages, document text for containers and whole doubles as whole numbers.
-/
import Conform.Json.Text
import Conform.Text.Quoted

namespace Conform.Json

mutual

/-- A value with its structure shown. -/
def display : Json → String
  | .null => "None"
  | .bool true => "True"
  | .bool false => "False"
  | .num n => n.render Double.displayStyle
  | .str s => Text.display s
  | .arr _ items => "[" ++ String.intercalate ", " (displayItems items) ++ "]"
  | .obj _ fields => "\x7b" ++ String.intercalate ", " (displayFields fields) ++ "\x7d"

/-- The items of an array, shown. -/
def displayItems : List Json → List String
  | [] => []
  | x :: rest => display x :: displayItems rest

/-- The members of an object, shown. -/
def displayFields : List (String × Json) → List String
  | [] => []
  | (k, x) :: rest => (Text.display k ++ ": " ++ display x) :: displayFields rest

end

/-- A value as running text: a string is itself, anything else is shown. -/
def plain : Json → String
  | .str s => s
  | x => x.display

/-- A value that can be printed as it stands in a message about it (`format_value`). -/
def inMessage : Json → String
  | .bool true => "true"
  | .bool false => "false"
  | .null => "null"
  | .num (.float x) => match x.toInt? with
    | some n => Number.intText n
    | none => x.render Double.displayStyle
  | .arr tag items => (Json.arr tag items).text
  | .obj tag fields => (Json.obj tag fields).text
  | x => x.plain

end Conform.Json
