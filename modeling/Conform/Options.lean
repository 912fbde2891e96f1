/-
# Options

How values are read, what a character is, where references are looked up, which checks are skipped,
and the path at which a value is said to stand.  Options come as the members of an object; a member
that is null or empty means the default.  What looks for patterns goes with the options, too, though
it is not given with them.
-/
import Conform.Accessor
import Conform.Pattern.Search
import Conform.Reference.Resolve
import Conform.Text.Cluster

namespace Conform

/-- What counts as one character of a string, as far as it shows: how many there are.  A count fails with
ordinary faults only. -/
structure Segmenter where
  length : String → Except Fault Nat
  ordinary : ∀ {s : String} {fault : Fault}, length s = .error fault → fault.Ordinary

namespace Segmenter

/-- A user-perceived character is one. -/
def clusters : Segmenter := ⟨fun s => .ok (Text.clusters s).length, nofun⟩

/-- A code point is one. -/
def codePoints : Segmenter := ⟨fun s => .ok s.length, nofun⟩

/-- Something that cannot count at all. -/
def broken : Segmenter where
  length _ := .error .notCallable
  ordinary h := by
    cases h
    trivial

end Segmenter

/-- The options of one request. -/
structure Options where
  accessor : Accessor
  skipValidation : Bool
  currentPath : Path
  segmenter : Segmenter
  source : Reference.Source
  engine : Pattern.Engine

namespace Options

/-- The options where none are given. -/
def default : Options := ⟨.direct, false, [], .clusters, .document .standard, .standard⟩

instance : Inhabited Options := ⟨default⟩

/-- The names of the options. -/
def names : List String := ["get_value", "skip_validation", "current_path", "segment", "ref_resolver"]

/-- The accessor that a member names. -/
def accessorOf : Json → Accessor
  | .str "dotted" => .dotted
  | x => if x.truthy then .broken else .direct

/-- The segmenter that a member names. -/
def segmenterOf : Json → Segmenter
  | .str "codepoints" => .codePoints
  | x => if x.truthy then .broken else .clusters

/-- Where a member says that references are looked up. -/
def sourceOf : Json → Reference.Source
  | .obj _ entries => .table entries
  | x => if x.truthy then .broken else .document .standard

/-- The path that a member gives, every element as running text. -/
def pathOf (x : Json) : Except Fault Path :=
  if x.truthy then
    match x.entries? with
    | some items => .ok (items.map Json.plain)
    | none => .error .notIterable
  else .ok []

/-- Options with one of them set anew. -/
def set (options : Options) (name : String) (x : Json) : Except Fault Options :=
  match name with
  | "get_value" => .ok { options with accessor := accessorOf x }
  | "skip_validation" => .ok { options with skipValidation := x.truthy }
  | "current_path" => do
    let path ← pathOf x
    .ok { options with currentPath := path }
  | "segment" => .ok { options with segmenter := segmenterOf x }
  | "ref_resolver" => .ok { options with source := sourceOf x }
  | _ => .ok options

/-- Texts in the order of their characters. -/
def sortTexts (texts : List String) : List String := texts.mergeSort fun a b => !decide (b < a)

/-- **Options with some of them set anew.**  All names have to be known. -/
def update (options : Options) (members : Fields) : Except Fault Options :=
  let unknown := (Fields.names members).filter fun name => !names.contains name
  if unknown.isEmpty then members.foldlM (fun acc field => acc.set field.1 field.2) options
  else .error (.unknownOptions (sortTexts unknown))

/-- The word for the kind of a value that holds no options. -/
def kindWord : Json → String
  | .null => "NoneType"
  | .bool _ => "bool"
  | .num (.int _) => "int"
  | .num (.float _) => "float"
  | .str _ => "str"
  | .arr _ _ => "list"
  | .obj _ _ => "dict"

/-- **The options that a value gives**, overridden by further members.  Some names are taken by the
request itself (`ResolveOptions.create`). -/
def create (given : Json) (members : Fields) (taken : List String) : Except Fault Options :=
  if taken.any (Fields.has members) then .error .takenName
  else
    match given with
    | .null => default.update members
    | .obj _ fields => default.update (Fields.union fields members)
    | x => .error (.unsupportedOptions (kindWord x))

end Options

end Conform
