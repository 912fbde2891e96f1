/-
# Paths

A path says where something stands in a value: the names of members and the indices of items, from the
outside in.  `Leads` says what stands there, if anything does.
-/
import Conform.Json.Basic

namespace Conform

/-- The place of a value: member names, indices and the names of composing keywords. -/
abbrev Path := List String

/-- **The path leads from the value to the other one**, through members by their names and through items by
their indices in decimal digits. -/
inductive Json.Leads : Json → Path → Json → Prop
  | here (x : Json) : Leads x [] x
  | member {tag : Tag} {fields : Fields} {name : String} {x y : Json} {rest : Path}
      (found : Fields.get? fields name = some x) (next : Leads x rest y) :
      Leads (.obj tag fields) (name :: rest) y
  | item {tag : Tag} {items : List Json} {i : Nat} {x y : Json} {rest : Path}
      (found : items[i]? = some x) (next : Leads x rest y) :
      Leads (.arr tag items) (Nat.repr i :: rest) y

end Conform
