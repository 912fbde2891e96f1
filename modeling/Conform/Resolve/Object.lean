/-
# Resolving objects

The members of an object are resolved in the order of the declared properties, then the members that
are no properties follow as they are.  After that, schemas that depend on members, patterns and the
schema for additional members may change what is there, and at last the names are checked.  `Built`
holds what has been built so far, and every stage continues it.
-/
import Conform.Resolve.Step

namespace Conform.Resolve

open Probe (Check)

/-- The members built so far, and the issues found. -/
structure Built where
  members : Fields
  issues : List Issue

namespace Built

/-- What the resolution of one member adds. -/
def take (built : Built) (name : String) : Outcome → Built
  | .failed issues => { built with issues := built.issues ++ issues }
  | .resolved (some x) => { built with members := Fields.put built.members name x }
  | .resolved none => built

/-- Further issues. -/
def report (built : Built) (issues : List Issue) : Built :=
  { built with issues := built.issues ++ issues }

end Built

namespace Step

/-- A keyword whose value is missing, null or empty stands for an empty object. -/
def tableOrEmpty (step : Step) (keyword : String) : Json :=
  match Fields.get? step.fields keyword with
  | some x => if x.truthy then x else .obj none []
  | none => .obj none []

/-- Read a member out of members. -/
def readMember (step : Step) (members : Fields) (name : Json) : Check (Option Json) :=
  step.setting.options.accessor.read (.obj none members) name

/-! ## 1. Required names -/

/-- The members with the defaults of absent required properties put in.  Part of
`_resolve_properties`. -/
def withDefaults (step : Step) : List Json → Fields → Check Fields
  | [], members => .ok members
  | name :: rest, members => do
    let schema ← Probe.propertySchema (step.tableOrEmpty "properties") name
    match schema, name with
    | .obj tag fields, .str s =>
      match Fields.get? fields "default" with
      | some x => do
        let found ← step.readMember members name
        step.withDefaults rest
          (if Schema.isAbsent found (.obj tag fields) then Fields.put members s x else members)
      | none => step.withDefaults rest members
    | _, _ => step.withDefaults rest members

/-- The required names whose properties are absent.  Part of `_resolve_properties`. -/
def absentNames (step : Step) (members : Fields) : List Json → Check (List Json)
  | [] => .ok []
  | name :: rest => do
    let found ← step.readMember members name
    let schema ← Probe.propertySchema (step.tableOrEmpty "properties") name
    let others ← step.absentNames members rest
    .ok (if Schema.isAbsent found schema then name :: others else others)

section Same

variable {step step' : Step} (schema : step'.fields = step.fields)
  (accessor : step'.setting.options.accessor = step.setting.options.accessor)

include schema accessor

/-- Steps with the same schema that read members alike put the same defaults in. -/
theorem withDefaults_congr (names : List Json) (members : Fields) :
    step'.withDefaults names members = step.withDefaults names members := by
  induction names generalizing members with
  | nil => rfl
  | cons name rest ih => simp only [withDefaults, tableOrEmpty, readMember, schema, accessor, ih]

theorem absentNames_congr (members : Fields) (names : List Json) :
    step'.absentNames members names = step.absentNames members names := by
  induction names with
  | nil => rfl
  | cons name rest ih => simp only [absentNames, tableOrEmpty, readMember, schema, accessor, ih]

end Same

/-! ## 2. Properties -/

/-- The declared properties, resolved one after the other; those reported missing are left out.
Part of `_resolve_properties`. -/
def resolveProperties (step : Step) (working : Fields) (missing : List Json) :
    Fields → Built → Run Built
  | [], built => pure built
  | (name, schema) :: rest, built =>
    if Json.listsName missing name then step.resolveProperties working missing rest built
    else do
      let found ← step.readMember working (.str name)
      let outcome ← step.descend (.str name) (.node schema) found
      step.resolveProperties working missing rest (built.take name outcome)

/-- The members that are no declared properties.  Part of `_resolve_properties`. -/
def otherMembers (properties working : Fields) : Fields :=
  working.filter fun member => !Fields.has properties member.1

/-! ## 3. Schemas that depend on members -/

/-- The schemas whose trigger is there, each resolving what has been built so far.  Part of
`_resolve_properties`. -/
def resolveDependents (step : Step) (working : Fields) : Fields → Built → Run Built
  | [], built => pure built
  | (trigger, schema) :: rest, built => do
    match ← step.readMember working (.str trigger) with
    | none => step.resolveDependents working rest built
    | some _ =>
      match ← step.again []
          ⟨.node schema, some (.obj none built.members), step.parent, step.key, step.negated⟩ with
      | .failed issues => step.resolveDependents working rest (built.report issues)
      | .resolved (some (.obj _ members)) =>
        step.resolveDependents working rest
          { built with members := Fields.union built.members members }
      | .resolved _ => step.resolveDependents working rest built

/-! ## 4. Patterns -/

/-- The patterns that a name matches, each resolving the member of that name.  Part of
`_resolve_properties`. -/
def resolveMatching (step : Step) (name : String) : Fields → Built → Run Built
  | [], built => pure built
  | (pattern, schema) :: rest, built => do
    let fits ← step.setting.options.engine.search (.str pattern) (.str name)
    if fits then
      let outcome ← step.descend (.str name) (.node schema) (Fields.get? built.members name)
      step.resolveMatching name rest (built.take name outcome)
    else step.resolveMatching name rest built

/-- The members that are no declared properties, resolved by the patterns that they match.  Part of
`_resolve_properties`. -/
def resolvePatterns (step : Step) (properties : Fields) : List String → Built → Run Built
  | [], built => pure built
  | name :: rest, built =>
    if Fields.has properties name then step.resolvePatterns properties rest built
    else do
      let patterns ← Probe.membersOf (step.tableOrEmpty "patternProperties")
      let built ← step.resolveMatching name patterns built
      step.resolvePatterns properties rest built

/-! ## 5. Additional members -/

/-- A member that nothing covers, resolved by the schema for such members.  Part of
`_resolve_additional`. -/
def resolveUncovered (step : Step) (additional : Json) (name : String) (built : Built) :
    Run Built := do
  let place := step.path ++ [name]
  if Schema.isFalse additional then pure (built.report [⟨.additionalMember name, place⟩])
  else
    match ← Reference.expand step.setting.options.source step.setting.root additional with
    | none => do
      let reason ← Probe.deadReference additional
      pure (built.report [⟨reason, place⟩])
    | some node => do
      let outcome ← step.descend (.str name) node (Fields.get? built.members name)
      pure (built.take name outcome)

/-- The members of the value that neither properties nor patterns cover.  Part of
`_resolve_additional`. -/
def resolveAdditional (step : Step) (working : Fields) (additional : Json) :
    List String → Built → Run Built
  | [], built => pure built
  | name :: rest, built =>
    if !Fields.has working name then step.resolveAdditional working additional rest built
    else do
      let uncovered ← Probe.isAdditional step.setting.options.engine name step.fields
      let built ← if uncovered then step.resolveUncovered additional name built else pure built
      step.resolveAdditional working additional rest built

/-- The additional members, where the schema says something about them
(`_resolve_additional`). -/
def resolveAllAdditional (step : Step) (working : Fields) (built : Built) : Run Built :=
  match Fields.get? step.fields "additionalProperties" with
  | none => pure built
  | some .null => pure built
  | some (.bool true) => pure built
  | some additional =>
    step.resolveAdditional working additional (Fields.names built.members) built

/-! ## 6. Objects -/

/-- The issues of properties that others require, unless validation is skipped.  Part of
`_resolve_properties`. -/
def dependentIssues (step : Step) (working : Fields) : Check (List Issue) :=
  if step.skips then .ok []
  else
    Probe.dependentIssues step.setting.options.accessor (.obj none working) step.fields step.path

/-- The issues of the names of what has been built.  Part of `_resolve_properties`. -/
def builtNameIssues (step : Step) (members : Fields) : Check (List Issue) :=
  Probe.nameIssues (Probe.nameValues members) step.fields step.path fun name _ schema place =>
    Probe.issues step.setting name schema place

/-- **The members of an object resolved.** (`_resolve_properties`) -/
def resolveMembers (step : Step) (value : Fields) : Run Outcome := do
  let size ← Probe.memberCountIssues value.length step.fields step.path
  let required ← requiredNames step.skips step.fields
  let working ← step.withDefaults required value
  let missing ← step.absentNames working required
  let missingIssues := missing.map fun name => Probe.missingIssue name step.path
  if step.negated then Run.note missingIssues
  let properties ← Probe.membersOf (step.tableOrEmpty "properties")
  let built ← step.resolveProperties working missing properties
    ⟨[], size ++ (if step.negated then [] else missingIssues)⟩
  let built := { built with
    members := Fields.union built.members (otherMembers properties working) }
  let dependent ← step.dependentIssues working
  let built := built.report dependent
  let dependents ← Probe.membersOf (step.tableOrEmpty "dependentSchemas")
  let built ← step.resolveDependents working dependents built
  let built ← step.resolvePatterns properties (Fields.names built.members) built
  let built ← step.resolveAllAdditional working built
  let names ← step.builtNameIssues built.members
  let built := built.report names
  if built.issues.isEmpty then done (some (.obj none built.members)) else fail built.issues

end Step

end Conform.Resolve
