/-
# A resolver that remembers where it stands

`Resolve.resolve` is told the place of every resolution and the resolutions under way above it.  The
resolver of this module is told neither.  It keeps the path in one stack and the lengths of the paths
of all resolutions under way in another; it pushes onto them before it asks itself for something
further, and afterwards it takes off again what it has pushed, also where a fault comes back instead
of an outcome.  Issues are placed where the resolver stands when it finds them, and the depth guard
looks at the second stack as it is.

Nothing here keeps the stacks in order: a step that took off too much or too little would go on at a
wrong place.  What holds of the stacks is shown in `Performing`, together with the fact that the
resolver does what `Resolve.resolve` does.

The resolver calls itself.  How many calls may nest is given by the room that there is for them; with
no room left it stops with a fault.
-/
import Conform.Session

namespace Conform.Resolver

open Resolve
open Probe (Check)

/-! ## 1. What a resolver remembers -/

/-- The document that references point into, the path of the place where the resolver stands, and the
lengths of the paths at which the resolutions under way were entered, the first at the bottom. -/
structure Place where
  root : Json
  path : Path
  levels : List Nat

/-- A place, the issues noted so far, and for every resolution so far the place at which it was
entered. -/
structure State extends Place where
  notes : List Issue
  entered : List Place

/-- **Is this the place to stop?**  One entry of the stack is looked at, the hundredth from its top. -/
def Place.tooDeep (start : Nat) (place : Place) : Bool :=
  let level := place.path.length
  decide (depthLimit ≤ level - start)
    || (decide (depthLimit ≤ place.levels.length)
      && place.levels[place.levels.length - depthLimit]? == some level)

/-- Work that a resolver does: it ends with a result or a fault, and either way in a state. -/
def Work (α : Type) := State → Except Fault α × State

namespace Work

variable {α β : Type}

/-- Work that only gives a result. -/
def pure (a : α) : Work α := fun s => (.ok a, s)

/-- Work after work; after a fault there is no other. -/
def bind (work : Work α) (next : α → Work β) : Work β := fun s =>
  match work s with
  | (.error fault, s) => (.error fault, s)
  | (.ok a, s) => next a s

instance : Monad Work where
  pure := Work.pure
  bind := Work.bind

/-- A run, its notes added to those there are. -/
def ofRun (run : Run α) : Work α := fun s => (run.result, { s with notes := s.notes ++ run.notes })

instance : MonadLift Run Work := ⟨ofRun⟩

end Work

variable {α : Type}

/-- Work at a place further down, and the way back up. -/
def inside (segments : Path) (work : Work α) : Work α := fun s =>
  let (result, s) := work { s with path := s.path ++ segments }
  (result, { s with path := s.path.take (s.path.length - segments.length) })

/-- Work under a further resolution. -/
def framed (work : Work α) : Work α := fun s =>
  let (result, s) := work { s with levels := s.levels ++ [s.path.length] }
  (result, { s with levels := s.levels.dropLast })

/-- The place where the resolver stands. -/
def here : Work Place := fun s => (.ok s.toPlace, s)

/-- Remember that a resolution is entered. -/
def recordEntry : Work Unit := fun s => (.ok (), { s with entered := s.entered ++ [s.toPlace] })

/-- The step, seen from where the resolver stands. -/
def seen (step : Step) : Work Step := do
  let place ← here
  return { step with path := place.path, setting := { step.setting with root := place.root } }

/-! ## 2. Conditions and compositions -/

section Asking

variable (ask : Request → Work Outcome)

/-- The step resolved by another schema instead. -/
def redirect (step : Step) (schema : Json) : Work Outcome :=
  ask ⟨.node schema, step.value, step.parent, step.key, step.negated⟩

/-- Something inside the value, resolved at the place below that it stands at. -/
def descend (step : Step) (key : Json) (node : Reference.Node) (value : Option Json) :
    Work Outcome :=
  inside [key.plain] (ask ⟨node, value, step.schema, key, step.negated⟩)

/-- A condition: the keywords of the chosen branch are added. -/
def conditional (step : Step) (condition : Json) : Work Outcome := do
  let step ← seen step
  let met ← Probe.meets step.setting step.value condition step.path
  let base := step.without ["if", "then", "else"]
  match Fields.get? step.fields (if met then "then" else "else") with
  | none => redirect ask step base
  | some .null => redirect ask step base
  | some branch => do
    let effective ← Schema.merge false base branch
    redirect ask step effective

/-- A composite member of `allOf`, resolved on its own. -/
def resolveMember (step : Step) (flat : Step.Flattened) (member : Json) : Work Step.Flattened := do
  match ← ask ⟨.node member, flat.working, step.parent, step.key, step.negated⟩ with
  | .resolved value => pure { flat with working := Step.overlaid flat.working value }
  | .failed issues => pure { flat with issues := flat.issues ++ issues }

/-- The members of `allOf`, resolved where they are composite and merged. -/
def flatten (step : Step) :
    List Json → Step.Flattened → Work (Except (List Issue) Step.Flattened)
  | [], flat => pure (.ok flat)
  | member :: rest, flat => do
    let composite := Step.isComposite member
    let flat ← if composite then resolveMember ask step flat member else pure flat
    let member := if composite then Step.plainPart member else member
    match Schema.merge true flat.merged member with
    | .ok merged => flatten step rest { flat with merged := merged, plain := member :: flat.plain }
    | .error (.conflict _ _) => do
      let step ← seen step
      pure (.error (flat.issues ++ [⟨.noCommonType, step.path⟩]))
    | .error fault => Run.fault fault

/-- The issues of a resolved value against schemas, found where the resolver stands. -/
def issuesAgainst (step : Step) (value : Option Json) (schemas : List Json) :
    Work (List Issue) := do
  let step ← seen step
  Probe.gather schemas fun schema _ => Probe.issues? step.setting value schema step.path

/-- All of several schemas: the place below is left before the merged schema is resolved, and entered
once more for the checks afterwards. -/
def allOf (step : Step) (members : Json) : Work Outcome := do
  let base := step.without ["allOf"]
  let members ← Probe.entriesOf members
  match ← inside ["allOf"]
      (flatten ask step members ⟨step.value, base, [Step.plainPart base], []⟩) with
  | .error issues => fail issues
  | .ok flat => do
    let outcome ← ask ⟨.node flat.merged, flat.working, step.parent, step.key, step.negated⟩
    if !flat.issues.isEmpty then fail (flat.issues ++ outcome.issues)
    else match outcome with
      | .failed issues => pure (.failed issues)
      | .resolved value => do
        let issues ← inside ["allOf"] (issuesAgainst step value flat.plain.reverse)
        if issues.isEmpty then done value else fail issues

/-- Any of several schemas. -/
def anyOf (step : Step) (branches : Json) : Work Outcome := do
  let step ← seen step
  let base := step.without ["anyOf"]
  match step.value with
  | none => redirect ask step base
  | some value =>
    let branches ← Probe.entriesOf branches
    match ← step.probeBranches value branches [] with
    | none => redirect ask step base
    | some issues =>
      match step.default? with
      | some x => done (some x)
      | none => fail (⟨.noneOfAny, step.path⟩ :: issues)

/-- Exactly one of several schemas. -/
def oneOf (step : Step) (branches : Json) : Work Outcome := do
  let step ← seen step
  let base := step.without ["oneOf"]
  match step.value with
  | none => redirect ask step base
  | some value =>
    let branches ← Probe.entriesOf branches
    let outcomes ← step.branchIssues value branches
    match Step.passingBranches branches outcomes, step.default? with
    | [branch], _ =>
      match Schema.merge true base branch with
      | .ok effective => redirect ask step effective
      | .error (.conflict _ _) => step.failBelow "oneOf" .noCommonType
      | .error fault => Run.fault fault
    | _, some x => done (some x)
    | [], none =>
      if branches.isEmpty then step.failBelow "oneOf" .notExactlyOne
      else step.noneOfOne value branches outcomes
    | _ :: _ :: _, none => step.failBelow "oneOf" .notExactlyOne

/-- What comes of a negated schema that is probed at a place of its own: a failure where it admits the
value. -/
def refusal (step : Step) (value negated : Json) : Work (Option Outcome) := do
  let step ← seen step
  let issues ← Probe.issues step.setting value negated step.path
  if issues.isEmpty then do
    if Step.requiresNames value negated then
      let _ ← ask ⟨.node negated, step.value, step.parent, step.key, true⟩
    let step ← seen step
    let outcome ← step.failWith .excluded
    return some outcome
  else return none

/-- A negated schema; the rest of the schema is resolved only when the place below is left. -/
def not (step : Step) (negated : Json) : Work Outcome := do
  let base := step.without ["not"]
  match step.value with
  | none => redirect ask step base
  | some value =>
    match ← inside ["not"] (refusal ask step value negated) with
    | some outcome => pure outcome
    | none => redirect ask step base

/-! ## 3. Objects -/

/-- The declared properties, each read and resolved at its own place. -/
def resolveProperties (step : Step) (working : Fields) (missing : List Json) :
    Fields → Built → Work Built
  | [], built => pure built
  | (name, schema) :: rest, built =>
    if Json.listsName missing name then resolveProperties step working missing rest built
    else do
      let outcome ← inside [name] do
        let found ← step.readMember working (.str name)
        ask ⟨.node schema, found, step.schema, .str name, step.negated⟩
      resolveProperties step working missing rest (built.take name outcome)

/-- The schemas that depend on members. -/
def resolveDependents (step : Step) (working : Fields) : Fields → Built → Work Built
  | [], built => pure built
  | (trigger, schema) :: rest, built => do
    match ← step.readMember working (.str trigger) with
    | none => resolveDependents step working rest built
    | some _ =>
      match ← ask
          ⟨.node schema, some (.obj none built.members), step.parent, step.key, step.negated⟩ with
      | .failed issues => resolveDependents step working rest (built.report issues)
      | .resolved (some (.obj _ members)) =>
        resolveDependents step working rest
          { built with members := Fields.union built.members members }
      | .resolved _ => resolveDependents step working rest built

/-- The patterns that a name matches. -/
def resolveMatching (step : Step) (name : String) : Fields → Built → Work Built
  | [], built => pure built
  | (pattern, schema) :: rest, built => do
    let fits ← step.setting.options.engine.search (.str pattern) (.str name)
    if fits then
      let outcome ← descend ask step (.str name) (.node schema) (Fields.get? built.members name)
      resolveMatching step name rest (built.take name outcome)
    else resolveMatching step name rest built

/-- The members that are no declared properties, resolved by their patterns. -/
def resolvePatterns (step : Step) (properties : Fields) : List String → Built → Work Built
  | [], built => pure built
  | name :: rest, built =>
    if Fields.has properties name then resolvePatterns step properties rest built
    else do
      let patterns ← Probe.membersOf (step.tableOrEmpty "patternProperties")
      let built ← resolveMatching ask step name patterns built
      resolvePatterns step properties rest built

/-- A member that nothing covers. -/
def resolveUncovered (step : Step) (additional : Json) (name : String) (built : Built) :
    Work Built := do
  let step ← seen step
  let place := step.path ++ [name]
  if Schema.isFalse additional then pure (built.report [⟨.additionalMember name, place⟩])
  else
    match ← Reference.expand step.setting.options.source step.setting.root additional with
    | none => do
      let reason ← Probe.deadReference additional
      pure (built.report [⟨reason, place⟩])
    | some node => do
      let outcome ← descend ask step (.str name) node (Fields.get? built.members name)
      pure (built.take name outcome)

/-- The members that neither properties nor patterns cover. -/
def resolveAdditional (step : Step) (working : Fields) (additional : Json) :
    List String → Built → Work Built
  | [], built => pure built
  | name :: rest, built =>
    if !Fields.has working name then resolveAdditional step working additional rest built
    else do
      let uncovered ← Probe.isAdditional step.setting.options.engine name step.fields
      let built ← if uncovered then resolveUncovered ask step additional name built else pure built
      resolveAdditional step working additional rest built

/-- The additional members, where the schema says something about them. -/
def resolveAllAdditional (step : Step) (working : Fields) (built : Built) : Work Built :=
  match Fields.get? step.fields "additionalProperties" with
  | none => pure built
  | some .null => pure built
  | some (.bool true) => pure built
  | some additional =>
    resolveAdditional ask step working additional (Fields.names built.members) built

/-- The members of an object, stage after stage. -/
def resolveMembers (step : Step) (value : Fields) : Work Outcome := do
  let step ← seen step
  let size ← Probe.memberCountIssues value.length step.fields step.path
  let required ← Step.requiredNames step.skips step.fields
  let working ← step.withDefaults required value
  let missing ← step.absentNames working required
  let missingIssues := missing.map fun name => Probe.missingIssue name step.path
  if step.negated then Run.note missingIssues
  let properties ← Probe.membersOf (step.tableOrEmpty "properties")
  let built ← resolveProperties ask step working missing properties
    ⟨[], size ++ (if step.negated then [] else missingIssues)⟩
  let built := { built with
    members := Fields.union built.members (Step.otherMembers properties working) }
  let step ← seen step
  let dependent ← step.dependentIssues working
  let built := built.report dependent
  let dependents ← Probe.membersOf (step.tableOrEmpty "dependentSchemas")
  let built ← resolveDependents ask step working dependents built
  let built ← resolvePatterns ask step properties (Fields.names built.members) built
  let built ← resolveAllAdditional ask step working built
  let step ← seen step
  let names ← step.builtNameIssues built.members
  let built := built.report names
  if built.issues.isEmpty then done (some (.obj none built.members)) else fail built.issues

/-! ## 4. Types -/

/-- An item of which the schema says something, at its own place. -/
def resolveItemBy (step : Step) (i : Nat) (item schema : Json) (built : Step.BuiltItems) :
    Work Step.BuiltItems :=
  inside [(Step.indexKey i).plain] do
    let step ← seen step
    match schema with
    | .bool false => pure { built with issues := built.issues ++ [⟨.additionalItem, step.path⟩] }
    | schema =>
      if Kind.null.fits item && !Schema.allowsNull schema then do
        let issues ← Probe.issues step.setting item schema step.path
        pure { built with issues := built.issues ++ issues }
      else do
        match ← ask ⟨.node schema, some item, step.schema, Step.indexKey i, step.negated⟩ with
        | .failed issues => pure { built with issues := built.issues ++ issues }
        | .resolved value => pure { built with items := value.getD .null :: built.items }

/-- One item at its position. -/
def resolveItem (step : Step) (i : Nat) (item : Json) (built : Step.BuiltItems) :
    Work Step.BuiltItems :=
  match Probe.itemSchema step.fields i with
  | none => pure { built with items := item :: built.items }
  | some (.bool true) => pure { built with items := item :: built.items }
  | some schema => resolveItemBy ask step i item schema built

/-- The items from the position `i` on. -/
def resolveItems (step : Step) : (i : Nat) → List Json → Step.BuiltItems → Work Step.BuiltItems
  | _, [], built => pure built
  | i, item :: rest, built => do
    let built ← resolveItem ask step i item built
    resolveItems step (i + 1) rest built

/-- An array. -/
def array (step : Step) : Work Outcome := do
  let step ← seen step
  match step.value with
  | none => step.missing (some (.arr none []))
  | some (.arr _ items) => do
    let whole ← Probe.listIssues items step.fields step.path fun x _ schema place =>
      Probe.issues step.setting x schema place
    if !whole.isEmpty then fail whole
    else do
      let built ← resolveItems ask step 0 items ⟨[], []⟩
      if built.issues.isEmpty then done (some (.arr none built.items.reverse))
      else fail built.issues
  | some _ => step.failWith (.wrongKind .array)

/-- An object. -/
def object (step : Step) : Work Outcome := do
  let step ← seen step
  match step.value with
  | none => do
    let required ← step.isRequired
    if required then step.failWith (.missing step.key.plain)
    else do
      let outcome ← resolveMembers ask step []
      if step.isRoot || Step.Outcome.holdsMembers outcome then pure outcome else done none
  | some (.obj _ members) => resolveMembers ask step members
  | some _ => step.failWith (.wrongKind .object)

/-- The resolution of a value of a kind.  Scalars ask for nothing further. -/
def ofKind (step : Step) : Kind → Work Outcome
  | .array => array ask step
  | .object => object ask step
  | kind => do
    let step ← seen step
    step.ofKind kind

/-- The resolution by a single declared type. -/
def ofType (step : Step) (type : Json) : Work Outcome :=
  match type with
  | .str s =>
    match Kind.ofName? s with
    | some kind => ofKind ask step kind
    | none => do
      let step ← seen step
      step.failWith (.unknownType s)
  | type =>
    if Accessor.isContainer type then Run.fault .unusableName
    else do
      let step ← seen step
      step.failWith (.unknownType type.plain)

/-- The resolution by the first of several declared types that the value is of. -/
def ofTypes (step : Step) (types : List Json) : Work Outcome := do
  let step ← seen step
  match step.value with
  | none => step.missing none
  | some x =>
    match Kind.firstFit types x with
    | none => do
      let names ← Probe.typeNames types
      step.failWith (.wrongTypes names)
    | some kind =>
      ofKind ask { step with tag := none, fields := Schema.restrict step.fields (.str kind.name) } kind

/-- The resolution by type. -/
def typed (step : Step) : Work Outcome :=
  match Schema.declaredTypes step.schema with
  | [] =>
    match Schema.inferKind step.fields step.value with
    | none => done step.value
    | some kind => ofKind ask step kind
  | [type] => ofType ask step type
  | types => ofTypes ask step types

/-! ## 5. The resolver -/

/-- The first of the composing keywords decides; without any, the type does. -/
def dispatch (step : Step) : Work Outcome :=
  match Fields.get? step.fields "if", Fields.get? step.fields "allOf",
      Fields.get? step.fields "anyOf", Fields.get? step.fields "oneOf",
      Fields.get? step.fields "not" with
  | some condition, _, _, _, _ => conditional ask step condition
  | none, some members, _, _, _ => allOf ask step members
  | none, none, some branches, _, _ => anyOf ask step branches
  | none, none, none, some branches, _ => oneOf ask step branches
  | none, none, none, none, some negated => not ask step negated
  | none, none, none, none, none => typed ask step

/-- A step from its start. -/
def runStep (step : Step) : Work Outcome := do
  let step ← seen step
  let step := { step with value := step.filled }
  let issues ← step.pinIssues
  if issues.isEmpty then dispatch ask step else fail issues

/-- A step asks the resolver, and not by itself, for whatever is further to be resolved. -/
def silent : Again := fun _ _ => done none

/-- One resolution where the resolver stands, given how it asks itself for further ones. -/
def resolveHere (options : Options) (request : Request) : Work Outcome := do
  let place ← here
  match request.schema with
  | .node .null => done request.value
  | .node (.bool true) => done request.value
  | .node (.bool false) =>
    match request.value with
    | none => done none
    | some _ => fail [⟨.forbidden, place.path⟩]
  | .node (.obj tag fields) =>
    runStep ask ⟨⟨options, place.root⟩, place.path, tag, fields, request.value, request.parent,
      request.key, request.negated, silent⟩
  | .node other => Run.fault (.invalidNode other.display place.path)
  | .endOfList items =>
    Run.fault (.invalidNode ("EndOfList(" ++ (Json.arr none items).display ++ ")") place.path)

end Asking

/-- **The resolver, with room for so many calls inside each other.**  Where there is no more, it stops
with the fault `exhausted`. -/
def resolve (exhausted : Fault) (options : Options) : (room : Nat) → Request → Work Outcome
  | 0, _ => Run.fault exhausted
  | room + 1, request => do
    recordEntry
    let place ← here
    if place.tooDeep options.currentPath.length then fail [⟨.tooDeep, place.path⟩]
    else framed (resolveHere (resolve exhausted options room) options request)

/-- The state in which a resolver begins. -/
def atStart (options : Options) (root : Json) : State := ⟨⟨root, options.currentPath, []⟩, [], []⟩

/-! ## 6. Sessions -/

/-- What a session may be asked. -/
inductive Demand where
  | whole (schema : Json) (value : Option Json)
  | single (request : Request)
  | validate (value : Option Json) (schema : Json) (path : Option Path)
  | meets (value : Option Json) (condition : Json) (path : Option Path)

/-- What a session answers. -/
inductive Reply where
  | outcome (outcome : Outcome)
  | issues (issues : List Issue)
  | met (met : Bool)

/-- A schema becomes the document that references point into, unless there is one. -/
def takeRoot (schema : Json) : Work Unit := fun s =>
  match s.root with
  | .null => (.ok (), { s with root := schema })
  | _ => (.ok (), s)

/-- The issues noted so far. -/
def noted : Work (List Issue) := fun s => (.ok s.notes, s)

/-- A whole value, its issues sorted out together with those noted. -/
def resolveWhole (exhausted : Fault) (options : Options) (room : Nat) (schema : Json)
    (value : Option Json) : Work Outcome := do
  let outcome ← resolve exhausted options room (wholeRequest schema value)
  let notes ← noted
  Run.ofCheck (reportedOutcome notes outcome)

/-- The resolver, asked for one thing. -/
def reply (exhausted : Fault) (options : Options) (room : Nat) : Demand → Work Reply
  | .whole schema value => do
    takeRoot schema
    let outcome ← resolveWhole exhausted options room schema value
    return .outcome outcome
  | .single request => do
    let outcome ← resolve exhausted options room request
    return .outcome outcome
  | .validate value schema path => do
    let place ← here
    let issues ← Probe.issues? ⟨options, place.root⟩ value schema (path.getD options.currentPath)
    return .issues issues
  | .meets value condition path => do
    let place ← here
    let met ← Probe.meets ⟨options, place.root⟩ value condition (path.getD options.currentPath)
    return .met met

/-- The resolver, asked for one thing after the other, whether or not there are faults. -/
def replies (exhausted : Fault) (options : Options) (room : Nat) :
    List Demand → State → List (Except Fault Reply) × State
  | [], s => ([], s)
  | demand :: rest, s =>
    let (first, s) := reply exhausted options room demand s
    let (others, s) := replies exhausted options room rest s
    (first :: others, s)

end Conform.Resolver

namespace Conform.Session

open Resolver (Demand Reply)

/-- The session, asked for one thing. -/
def reply (session : Session) : Demand → Except Fault Reply × Session
  | .whole schema value => ((session.resolveValues schema value).1.map .outcome,
      (session.resolveValues schema value).2)
  | .single request => ((session.resolve request).1.map .outcome, (session.resolve request).2)
  | .validate value schema path => ((session.validate value schema path).map .issues, session)
  | .meets value condition path => ((session.meets value condition path).map .met, session)

/-- The session, asked for one thing after the other. -/
def replies (session : Session) : List Demand → List (Except Fault Reply) × Session
  | [] => ([], session)
  | demand :: rest =>
    ((session.reply demand).1 :: ((session.reply demand).2.replies rest).1,
      ((session.reply demand).2.replies rest).2)

end Conform.Session
