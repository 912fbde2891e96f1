/-
# Objects

What the keywords about objects say about a value.  A probe of something that is read out of the
object, or of one of its names, learns that this is smaller than the object; a probe of the object
itself against a dependent schema learns that the schema is smaller than the one at hand.
-/
import Conform.Probe.Scalar

namespace Conform.Probe

/-- What surrounds a probe: the options, and the document that references point into. -/
structure Setting where
  options : Options
  root : Json

/-! ## 1. Members of schemas -/

/-- A keyword whose value is missing stands for an empty object. -/
def memberTable (fields : Fields) (keyword : String) : Json :=
  (Fields.get? fields keyword).getD (.obj none [])

/-- The members of a value that is asked for them. -/
def membersOf : Json → Check Fields
  | .obj _ fields => .ok fields
  | _ => .error .notAnObject

/-- What stands under a name is smaller than the value. -/
theorem size_lt_of_membersOf {x s : Json} {table : Fields} {k : String}
    (h : membersOf x = .ok table) (hm : (k, s) ∈ table) : s.size < x.size := by
  cases x with
  | obj tag fields =>
    cases h
    exact Json.size_lt_of_mem_fields tag hm
  | _ => cases h

/-- The entries of a value that is walked through. -/
def entriesOf (x : Json) : Check (List Json) :=
  match x.entries? with
  | some items => .ok items
  | none => .error .notIterable

/-- The schema of a property, null where there is none; what cannot be a name is refused. -/
def propertySchema (properties name : Json) : Check Json :=
  match properties, name with
  | .obj _ fields, .str s => .ok ((Fields.get? fields s).getD .null)
  | .obj _ _, name => if Accessor.isContainer name then .error .unusableName else .ok .null
  | _, _ => .error .notAnObject

/-- Does the text hold the part? -/
def holdsPart (part : List Char) : List Char → Bool
  | [] => part.isEmpty
  | c :: rest => part.isPrefixOf (c :: rest) || holdsPart part rest

/-- Is the name in the value: a name of the object, an item of the list, a part of the text? -/
def isNamedIn (name : String) : Json → Check Bool
  | .obj _ fields => .ok (Fields.has fields name)
  | .arr _ items => .ok (Json.listsName items name)
  | .str s => .ok (holdsPart name.toList s.toList)
  | _ => .error .notSearchable

/-- **Is the name covered by neither properties nor patterns?** (`is_additional`) -/
def isAdditional (engine : Pattern.Engine) (name : String) (fields : Fields) : Check Bool := do
  let declared ← isNamedIn name (memberTable fields "properties")
  if declared then .ok false
  else do
    let patterns ← entriesOf (memberTable fields "patternProperties")
    let matched ← exists? patterns fun pattern _ => engine.search pattern (.str name)
    .ok !matched

/-! ## 2. Sizes and names -/

/-- The issues of how many members there are (`check_object_size`). -/
def memberCountIssues (n : Nat) (fields : Fields) (path : Path) : Check (List Issue) := do
  let few ← limitIssue fields "minProperties" (isUnder n) .tooFewMembers path
  let many ← limitIssue fields "maxProperties" (isOver n) .tooManyMembers path
  .ok (few ++ many)

/-- The issue of a missing property. -/
def missingIssue (name : Json) (path : Path) : Issue :=
  ⟨.missing name.plain, path ++ [name.plain]⟩

/-- The issues of required properties that are missing.  Part of `_validate_object`. -/
def requiredIssues (accessor : Accessor) (value : Json) (fields : Fields) (path : Path) :
    Check (List Issue) := do
  let names ← entriesOf ((Fields.get? fields "required").getD (.arr none []))
  gather (Json.distinct names) fun name _ => do
    let found ← accessor.read value name
    let schema ← propertySchema (memberTable fields "properties") name
    .ok (if Schema.isAbsent found schema then [missingIssue name path] else [])

/-- **The issues of properties that others require**: where the trigger is there, so must be the
names listed under it (`check_dependent_required`). -/
def dependentIssues (accessor : Accessor) (value : Json) (fields : Fields) (path : Path) :
    Check (List Issue) := do
  let table ← membersOf (memberTable fields "dependentRequired")
  gather table fun (trigger, names) _ => do
    match ← accessor.read value (.str trigger) with
    | none => .ok []
    | some _ =>
      let names ← entriesOf names
      gather names fun name _ => do
        let found ← accessor.read value name
        .ok (if found.isSome then [] else [missingIssue name path])

/-- A probe of a name against a schema. -/
abbrev NameProbe (names : List Json) :=
  (name : Json) → name ∈ names → (schema : Json) → Path → Check (List Issue)

/-- The names of the members, as values. -/
def nameValues (fields : Fields) : List Json := fields.map fun field => .str field.1

/-- A name is smaller than the object. -/
theorem size_lt_of_mem_nameValues {fields : Fields} {name : Json} (tag : Tag)
    (h : name ∈ nameValues fields) : name.size < (Json.obj tag fields).size := by
  obtain ⟨field, _, rfl⟩ := List.mem_map.1 h
  simp only [Json.size]
  omega

/-- The issues of the names of an object (`check_property_names`). -/
def nameIssues (names : List Json) (fields : Fields) (path : Path) (probe : NameProbe names) :
    Check (List Issue) :=
  match Fields.get? fields "propertyNames" with
  | none => .ok []
  | some schema => gather names fun name h => probe name h schema (path ++ ["propertyNames"])

/-! ## 3. Members -/

/-- A probe of whatever is smaller than the object. -/
abbrev SmallerProbe (value : Json) :=
  (x : Json) → x.size < value.size → (schema : Json) → Path → Check (List Issue)

/-- A probe of the object against whatever schema is smaller than the one at hand. -/
abbrev NarrowerProbe (fields : Fields) :=
  (schema : Json) → schema.size < Json.sizeFields fields → Path → Check (List Issue)

variable (setting : Setting) (tag : Tag) (value fields : Fields) (path : Path)
  (inner : SmallerProbe (.obj tag value))

/-- The issues of one declared property that is not absent.  Part of `_validate_object`. -/
def propertyIssues (name : String) (schema : Json) : Check (List Issue) :=
  match h : setting.options.accessor.read (.obj tag value) (.str name) with
  | .error fault => .error fault
  | .ok none => .ok []
  | .ok (some x) =>
    if Schema.isAbsent (some x) schema then .ok []
    else inner x (Accessor.size_lt_of_read h) schema (path ++ [name])

/-- The issues of a member that is no declared property, by the patterns that its name matches.
Part of `_validate_object`. -/
def patternIssues (properties : Fields) (member : String × Json) (h : member ∈ value) :
    Check (List Issue) :=
  if Fields.has properties member.1 then .ok []
  else do
    let patterns ← membersOf (memberTable fields "patternProperties")
    gather patterns fun (pattern, schema) _ => do
      let fits ← setting.options.engine.search (.str pattern) (.str member.1)
      if fits then
        inner member.2 (Json.size_lt_of_mem_fields tag h) schema (path ++ [member.1])
      else .ok []

/-- A node that is probed: past the end of a list there is no schema. -/
def nodeIssues (node : Reference.Node) (place : Path)
    (probe : (schema : Json) → Check (List Issue)) : Check (List Issue) :=
  match node with
  | .node schema => probe schema
  | .endOfList items =>
    .error (.invalidNode ("EndOfList(" ++ (Json.arr none items).display ++ ")") place)

/-- The reference of a schema that leads nowhere, for the issue about it. -/
def deadReference (schema : Json) : Check Reason :=
  match schema with
  | .obj _ fields => .ok (.deadReference ((Fields.get? fields "$ref").getD .null))
  | _ => .error .notReadable

/-- The issues of a member that nothing else covers.  Part of `_validate_object`. -/
def additionalIssues (additional : Json) (member : String × Json) (h : member ∈ value) :
    Check (List Issue) := do
  let uncovered ← isAdditional setting.options.engine member.1 fields
  let place := path ++ [member.1]
  if !uncovered then .ok []
  else if Schema.isFalse additional then .ok [⟨.additionalMember member.1, place⟩]
  else do
    match ← Reference.expand setting.options.source setting.root additional with
    | none => do
      let reason ← deadReference additional
      .ok [⟨reason, place⟩]
    | some node =>
      nodeIssues node place fun schema =>
        inner member.2 (Json.size_lt_of_mem_fields tag h) schema place

/-- The issues of members that nothing else covers, where a keyword speaks of them.  Part of
`_validate_object`. -/
def allAdditionalIssues : Check (List Issue) :=
  match Fields.get? fields "additionalProperties" with
  | none => .ok []
  | some additional =>
    gather value fun member h =>
      additionalIssues setting tag value fields path inner additional member h

/-- The issues of the object against the schemas that depend on its members.  Part of
`_validate_object`. -/
def dependentSchemaIssues (again : NarrowerProbe fields) : Check (List Issue) :=
  match h : Fields.get? fields "dependentSchemas" with
  | none => .ok []
  | some x =>
    match hx : membersOf x with
    | .error fault => .error fault
    | .ok table =>
      gather table fun (trigger, schema) hm => do
        match ← setting.options.accessor.read (.obj tag value) (.str trigger) with
        | none => .ok []
        | some _ =>
          again schema (Nat.lt_trans (size_lt_of_membersOf hx hm)
            (Json.size_lt_sizeFields_of_get? h)) path

/-- **The issues of an object**: its size, its required and dependent properties, its declared
properties, the members that match patterns, the members that nothing covers, its names, and the
schemas that depend on its members (`_validate_object`). -/
def objectIssues (again : NarrowerProbe fields) : Check (List Issue) := do
  let size ← memberCountIssues value.length fields path
  let required ← requiredIssues setting.options.accessor (.obj tag value) fields path
  let dependent ← dependentIssues setting.options.accessor (.obj tag value) fields path
  let properties ← membersOf (memberTable fields "properties")
  let declared ← gather properties fun (name, schema) _ =>
    propertyIssues setting tag value path inner name schema
  let patterned ← gather value fun member h =>
    patternIssues setting tag value fields path inner properties member h
  let additional ← allAdditionalIssues setting tag value fields path inner
  let names ← nameIssues (nameValues value) fields path fun name h schema place =>
    inner name (size_lt_of_mem_nameValues tag h) schema place
  let schemas ← dependentSchemaIssues setting tag value fields path again
  .ok (size ++ required ++ dependent ++ declared ++ patterned ++ additional ++ names ++ schemas)

end Conform.Probe
