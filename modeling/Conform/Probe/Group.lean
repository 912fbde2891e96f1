/-
# Groups of keywords

A group of keywords can be asked about by itself, of any value and with anything at all in the place
of the schema.  Nothing is assumed about either: what stands in the place of the schema is first
asked whether it mentions the keywords, and what stands in the place of the value is only walked
through when a keyword needs its entries.
-/
import Conform.Probe.Verdict

namespace Conform.Probe

/-! ## 1. Schemas that may be none -/

/-- The keywords of a schema.  What is no object has none to read, but a list or a text may still
mention one. -/
def mentioned (schema : Json) (keywords : List String) : Check Fields :=
  match schema with
  | .obj _ fields => .ok fields
  | other => do
    let found ← exists? keywords fun keyword _ => isNamedIn keyword other
    if found then .error .notReadable else .ok []

/-- Does the schema have one of the keywords? -/
def asks (fields : Fields) (keywords : List String) : Bool := keywords.any (Fields.has fields)

/-! ## 2. Groups -/

/-- The issues that the keywords about strings give. -/
def stringGroup (setting : Setting) (value schema : Json) (path : Path) : Check (List Issue) :=
  match value with
  | .str s => do
    let fields ← mentioned schema ["minLength", "maxLength", "pattern", "format"]
    stringIssues setting.options.segmenter setting.options.engine (.str s) fields path
  | other => stringIssues setting.options.segmenter setting.options.engine other [] path

/-- The issues that the keywords about numbers give. -/
def numberGroup (kind : Kind) (value schema : Json) (path : Path) : Check (List Issue) :=
  match value with
  | .num n => do
    let fields ← membersOf schema
    .ok (numberIssues kind (.num n) fields path)
  | other => .ok (numberIssues kind other [] path)

/-- The issues that the keywords about a list as a whole give.  A value without entries has none
as long as no keyword asks for them. -/
def listGroup (setting : Setting) (value schema : Json) (path : Path) : Check (List Issue) :=
  match schema with
  | .obj _ fields =>
    match value.entries? with
    | some items =>
      listIssues items fields path fun x _ s place => issues setting x s place
    | none =>
      if asks fields ["minItems", "maxItems", "contains"]
          || (Fields.get? fields "uniqueItems").any Json.truthy then .error .notIterable
      else .ok []
  | other => do
    let _ ← mentioned other ["minItems", "maxItems"]
    .error .notAnObject

/-- The issues that the keywords about the number of members give. -/
def memberCountGroup (value schema : Json) (path : Path) : Check (List Issue) := do
  let fields ← mentioned schema ["minProperties", "maxProperties"]
  match value.length? with
  | some n => memberCountIssues n fields path
  | none =>
    if asks fields ["minProperties", "maxProperties"] then .error .notIterable else .ok []

/-- The issues that names which others require give. -/
def dependentGroup (setting : Setting) (value schema : Json) (path : Path) :
    Check (List Issue) := do
  let fields ← membersOf schema
  dependentIssues setting.options.accessor value fields path

/-- The issues that the keyword about names gives. -/
def nameGroup (setting : Setting) (value schema : Json) (path : Path) : Check (List Issue) :=
  match schema with
  | .obj _ fields =>
    if Fields.has fields "propertyNames" then do
      let names ← entriesOf value
      nameIssues names fields path fun name _ s place => issues setting name s place
    else .ok []
  | other => do
    if ← isNamedIn "propertyNames" other then
      let names ← entriesOf value
      if names.isEmpty then .ok [] else .error .notReadable
    else .ok []

/-! ## 3. Positions and names -/

/-- The entries of a value that the schema does not cover as names. -/
def uncoveredNames (setting : Setting) (value schema : Json) : Check (List Json) := do
  let names ← entriesOf value
  names.filterM fun name => do
    let fields ← membersOf schema
    isAdditional setting.options.engine name.plain fields

/-- The schemas of the first positions of an array. -/
def itemSchemas (schema : Json) (n : Nat) : Check (List (Option Json)) :=
  if n = 0 then .ok []
  else do
    let fields ← membersOf schema
    .ok ((List.range n).map (itemSchema fields))

end Conform.Probe
