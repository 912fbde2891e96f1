/-
# One step of a resolution

A step is at a schema with members.  Before anything else, a missing value is filled in from the
schema and a present one compared with the constant and the enumeration.  What a step does with the
rest of the schema is spread over the modules beside this one; here is what they share.
-/
import Conform.Resolve.Run

namespace Conform.Resolve

open Probe (Check)

/-- A resolution at a schema with members. -/
structure Step where
  setting : Probe.Setting
  path : Path
  tag : Tag
  /-- The members of the schema. -/
  fields : Fields
  value : Option Json
  parent : Json
  key : Json
  negated : Bool
  again : Again

namespace Step

/-- The schema of the step. -/
def schema (step : Step) : Json := .obj step.tag step.fields

/-- Is validation skipped? -/
def skips (step : Step) : Bool := step.setting.options.skipValidation

/-- The step resolved by another schema instead. -/
def redirect (step : Step) (schema : Json) : Run Outcome :=
  step.again [] ⟨.node schema, step.value, step.parent, step.key, step.negated⟩

/-- The resolution of something inside the value. -/
def descend (step : Step) (key : Json) (node : Reference.Node) (value : Option Json) :
    Run Outcome :=
  step.again [key.plain] ⟨node, value, step.schema, key, step.negated⟩

/-- A failure for one reason at the place of the step. -/
def failWith (step : Step) (reason : Reason) : Run Outcome := fail [⟨reason, step.path⟩]

/-- A failure for one reason at a place below that of the step. -/
def failBelow (step : Step) (segment : String) (reason : Reason) : Run Outcome :=
  fail [⟨reason, step.path ++ [segment]⟩]

/-- The default of the schema, if it has one. -/
def default? (step : Step) : Option Json := Fields.get? step.fields "default"

/-! ## 1. Filling in and comparing -/

/-- **The value to go on with**: what is absent is taken from the default, or else from the
constant, or stays missing.  Part of `_resolve_basic`. -/
def filled (step : Step) : Option Json :=
  if Schema.isAbsent step.value step.schema then
    match step.default?, Fields.get? step.fields "const" with
    | some x, _ => some x
    | none, some x => some x
    | none, none => none
  else step.value

/-- The issue of the constant or the enumeration, unless the value is missing or validation
skipped.  Part of `_resolve_basic`. -/
def pinIssues (step : Step) : Check (List Issue) :=
  match step.value with
  | none => .ok []
  | some x => if step.skips then .ok [] else Probe.pinIssues x step.fields step.path

/-! ## 2. Required names -/

/-- Is the value a name among the members? -/
def isMemberName (properties : Fields) (name : Json) : Check Bool :=
  match name with
  | .str s => .ok (Fields.has properties s)
  | name => if Accessor.isContainer name then .error .unusableName else .ok false

/-- The names among members. -/
def memberNames (properties : Fields) : List Json → Check (List Json)
  | [] => .ok []
  | name :: rest => do
    let named ← isMemberName properties name
    let others ← memberNames properties rest
    .ok (if named then name :: others else others)

/-- **The names that a schema requires**, without repetition, and only declared ones where any are
declared.  Nothing is required where validation is skipped (`_required_names`). -/
def requiredNames (skips : Bool) (fields : Fields) : Check (List Json) :=
  if skips then .ok []
  else do
    let names ← Probe.entriesOf ((Fields.get? fields "required").getD (.arr none []))
    match Fields.get? fields "properties" with
    | some (.obj _ properties) => memberNames properties (Json.distinct names)
    | _ => .ok (Json.distinct names)

/-- Does the container require the value of the step? (`_is_required`) -/
def isRequired (step : Step) : Check Bool :=
  match step.parent, step.key with
  | _, .null => .ok false
  | .obj _ fields, key => do
    let names ← requiredNames step.skips fields
    .ok (Json.isAmong key names)
  | _, _ => .ok false

/-- Is the step at the top? (`_is_root`) -/
def isRoot (step : Step) : Bool :=
  match step.parent, step.key with
  | .null, .null => true
  | _, _ => false

/-- What becomes of a missing value: a failure if it is required, and otherwise what is given for
the top or nothing at all. -/
def missing (step : Step) (atRoot : Option Json) : Run Outcome := do
  let required ← step.isRequired
  if required then step.failWith (.missing step.key.plain)
  else done (if step.isRoot then atRoot else none)

end Step

end Conform.Resolve
