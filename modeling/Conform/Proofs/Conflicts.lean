/-
# Conflicts of types stay inside conjunctions

Two declared types may have nothing in common.  Only a conjunction looks for that, and whoever merges in a
conjunction turns the conflict into an issue.  So a caller never sees the conflict itself:

* merging without a conjunction knows no conflict, at any depth (`Schema.ordinary_merge`);
* no resolution and no probe ends with one, whatever the schema, the value and the options
  (`Probe.issues?_ne_conflict`, `Probe.meets_ne_conflict`, `Resolve.resolveAt_ne_conflict`).  The probe
  and the resolution have been walked through when the starting path was looked at, and `Shifted` keeps
  book of conflicts, so all that is left is to read it off;
* a conjunction is merged at two places, the members of `allOf` and the branch of `oneOf`.  At both a
  conflict is a failure with the wording of the conflict (Section 2);
* the probe merges the keywords beside a reference into what the reference leads to, and never in a
  conjunction.  To say so, Section 3 writes the probe over any way of merging.
-/
import Conform.Proofs.Deciding
import Conform.Proofs.Relocation
import Conform.Proofs.Stages

namespace Conform

open Fields (get?)

/-! ## 1. Probes and resolutions -/

namespace Schema

theorem merge_ne_conflict (a b : Json) (left right : List Json) :
    merge false a b ≠ .error (.conflict left right) :=
  fun h => ordinary_merge a b _ h

end Schema

namespace Probe

variable (setting : Setting) (value : Option Json) (path : Path) (left right : List Json)

theorem issues?_ne_conflict (schema : Json) :
    issues? setting value schema path ≠ .error (.conflict left right) :=
  (lists_issues? setting path value schema (List.nil_append path).symm).ne_conflict left right

theorem meets_ne_conflict (condition : Json) :
    meets setting value condition path ≠ .error (.conflict left right) :=
  (shifted_meets setting path value condition (List.nil_append path).symm).ne_conflict left right

end Probe

namespace Resolve

theorem resolveAt_ne_conflict (setting : Probe.Setting) (request : Request)
    (left right : List Json) :
    (resolveAt setting request).result ≠ .error (.conflict left right) := by
  have alike : Alike [] _ _ := alike_resolve setting setting.options.currentPath
    (Guard.atStart setting.options.currentPath) request
  exact alike.result.ne_conflict left right

theorem reportedOutcome_ne_conflict (notes : List Issue) (outcome : Outcome)
    (left right : List Json) :
    reportedOutcome notes outcome ≠ .error (.conflict left right) := by
  cases outcome with
  | resolved value => simp [reportedOutcome]
  | failed issues =>
    unfold reportedOutcome
    dsimp only
    split
    · simp
    · simp

end Resolve

namespace Session

open Resolve (Request)

theorem resolveValues_ne_conflict (session : Session) (schema : Json) (value : Option Json)
    (left right : List Json) :
    (session.resolveValues schema value).1 ≠ .error (.conflict left right) := by
  intro h
  simp only [resolveValues] at h
  cases hr : (Resolve.resolveAt (session.rooted schema).setting
      (Resolve.wholeRequest schema value)).result with
  | error fault =>
    rw [hr] at h
    cases h
    exact Resolve.resolveAt_ne_conflict _ _ left right hr
  | ok outcome =>
    rw [hr] at h
    exact Resolve.reportedOutcome_ne_conflict _ outcome left right h

end Session

/-! ## 2. Conjunctions -/

namespace Resolve.Step

variable {step : Step} {members : Json} {found : List Issue}

/-- What there is before the first member of `allOf` is merged. -/
def unmerged (step : Step) : Flattened :=
  ⟨step.value, step.without ["allOf"], [plainPart (step.without ["allOf"])], []⟩

/-- **A member of `allOf` has no type in common** with the schema and the members before it; there are
these issues by then. -/
inductive ConflictsInAll (step : Step) (members : Json) : List Issue → Prop
  | member {before rest : List Json} {member : Json} {flat resolved : Flattened}
      {left right : List Json}
      (entries : Probe.entriesOf members = .ok (before ++ member :: rest))
      (taken : Chain step.TakesMember before step.unmerged flat)
      (composite : if isComposite member then (step.resolveMember flat member).result = .ok resolved
        else resolved = flat)
      (conflict : Schema.merge true resolved.merged (mergedPart member) =
        .error (.conflict left right)) :
      ConflictsInAll step members resolved.issues

/-- **The only branch of `oneOf` that admits the value has no type in common** with the schema. -/
inductive ConflictsInOne (step : Step) (branches : Json) : Prop
  | branch {value branch : Json} {entries : List Json} {outcomes : List (List Issue)}
      {left right : List Json}
      (present : step.value = some value)
      (entries_eq : Probe.entriesOf branches = .ok entries)
      (probed : step.branchIssues value entries = .ok outcomes)
      (passing : passingBranches entries outcomes = [branch])
      (conflict : Schema.merge true (step.without ["oneOf"]) branch = .error (.conflict left right)) :
      ConflictsInOne step branches

/-- A conflict ends the work on the members, with an issue. -/
theorem mergeMember_conflict {member : Json} {rest : List Json} {flat : Flattened}
    {left right : List Json} (h : Schema.merge true flat.merged member = .error (.conflict left right)) :
    (step.mergeMember member rest flat).result =
      .ok (.error (flat.issues ++ [⟨.noCommonType, step.path ++ ["allOf"]⟩])) := by
  rw [mergeMember, h]
  rfl

/-- The members before the one at hand, taken one after the other. -/
theorem flatten_of_chain {before rest : List Json} {flat flat' : Flattened}
    (h : Chain step.TakesMember before flat flat') :
    (step.flatten (before ++ rest) flat).result = (step.flatten rest flat').result := by
  induction h with
  | nil => rfl
  | @cons member others flat _ _ first _ ih =>
    obtain ⟨resolved, merged, hr, hm, rfl⟩ := first
    have merges : (step.mergeMember (mergedPart member) (others ++ rest) resolved).result =
        (step.flatten (others ++ rest) ⟨resolved.working, merged, mergedPart member :: resolved.plain,
          resolved.issues⟩).result := by
      rw [mergeMember, hm]
    rw [List.cons_append, flatten_cons, ← ih, ← merges]
    split at hr
    · next hc =>
      rw [if_pos hc]
      exact Run.bind_result_of_ok hr
    · next hc =>
      rw [if_neg hc, hr]
      rfl

/-- **A conflict between members is a failure**, and says what the conflict would have said. -/
theorem allOf_of_conflict (h : step.ConflictsInAll members found) :
    (step.allOf members).result =
      .ok (.failed (found ++ [⟨.noCommonType, step.path ++ ["allOf"]⟩])) := by
  cases h with
  | @member before rest member flat resolved left right entries taken composite conflict =>
    have stopped : (step.flatten (before ++ member :: rest) step.unmerged).result =
        .ok (.error (resolved.issues ++ [⟨.noCommonType, step.path ++ ["allOf"]⟩])) := by
      rw [flatten_of_chain taken, flatten_cons]
      split at composite
      · next hc =>
        rw [if_pos hc, Run.bind_result_of_ok composite]
        exact mergeMember_conflict conflict
      · next hc =>
        rw [if_neg hc, ← composite]
        exact mergeMember_conflict conflict
    rw [allOf, entries]
    refine (Run.bind_result_of_ok stopped).trans ?_
    exact fail_result.2 ⟨by simp, rfl⟩

/-- **A conflict with the passing branch is a failure**, and says what the conflict would have said. -/
theorem oneOf_of_conflict {branches : Json} (h : step.ConflictsInOne branches) :
    (step.oneOf branches).result = .ok (.failed [⟨.noCommonType, step.path ++ ["oneOf"]⟩]) := by
  cases h with
  | @branch value branch entries outcomes _ _ present entries_eq probed passing conflict =>
    have walked : (liftM (Probe.entriesOf branches) : Run (List Json)).result = .ok entries :=
      entries_eq
    have judged : (liftM (step.branchIssues value entries) : Run (List (List Issue))).result =
        .ok outcomes := probed
    unfold oneOf
    rw [present]
    refine (Run.bind_result_of_ok walked).trans ((Run.bind_result_of_ok judged).trans ?_)
    rw [passing]
    dsimp only
    rw [conflict]
    rfl

end Resolve.Step

/-! ## 3. The probe over any way of merging -/

/-- A way of merging two schemas, in a conjunction or not. -/
abbrev Merger := (conjunction : Bool) → Json → Json → Except Fault Json

/-- Merging as it is without a conjunction; in a conjunction, something else altogether. -/
def Merger.outsideConjunctions (other : Json → Json → Except Fault Json) : Merger :=
  fun conjunction a b => if conjunction then other a b else Schema.merge false a b

namespace Reference

/-- What a schema stands for, where merging is done in the given way. -/
def expandBy (merger : Merger) (source : Source) (root schema : Json) :
    Except Fault (Option Node) :=
  match schema with
  | .obj tag fields =>
    match get? fields "$ref" with
    | none => .ok (some (.node (.obj tag fields)))
    | some ref => do
      let target ← source.lookup ref root
      let siblings := Fields.erase fields "$ref"
      match target with
      | .node .null => .ok none
      | .node x =>
        if siblings.isEmpty then .ok (some (.node x))
        else do
          let merged ← merger false x (.obj none siblings)
          .ok (some (.node merged))
      | .endOfList items =>
        if siblings.isEmpty then .ok (some (.endOfList items))
        else do
          let merged ← merger false (.obj none []) (.obj none siblings)
          .ok (some (.node merged))
  | .null => .ok none
  | x => .ok (some (.node x))

theorem expandBy_merge : expandBy Schema.merge = expand := rfl

/-- What conjunctions do is of no consequence. -/
theorem expandBy_outsideConjunctions (other : Json → Json → Except Fault Json) :
    expandBy (.outsideConjunctions other) = expand := by
  rw [← expandBy_merge]
  rfl

end Reference

namespace Probe

/-- What schemas stand for. -/
abbrev Expansion := Reference.Source → Json → Json → Except Fault (Option Reference.Node)

-- What the probe is asked about next is smaller than the object or the schema that it looks at.
section Sizes

variable {fields : Fields} {s : Json} (tag : Tag)

theorem size_lt_of_member {member : String × Json} (h : member ∈ fields) :
    member.2.size < (Json.obj tag fields).size :=
  Json.size_lt_of_mem_fields tag h

theorem size_lt_of_sizeFields (h : s.size < Json.sizeFields fields) :
    s.size < (Json.obj tag fields).size := by
  simp only [Json.size]
  omega

/-- What is smaller than the schema reduced to one of its types is smaller than the schema. -/
theorem size_lt_of_restrict {tag : Tag} {kind : Kind} {type next : Json} {others : List Json}
    (several : Schema.declaredTypes (.obj tag fields) = type :: next :: others)
    (h : s.size < Json.sizeFields (Schema.restrict fields (.str kind.name))) :
    s.size < Json.sizeFields fields := by
  obtain ⟨old, ho⟩ := Schema.type_of_declaredTypes several
  exact Nat.lt_of_lt_of_le h (Schema.sizeFields_restrict_le ho (Json.size_pos old))

end Sizes

variable (expansion : Expansion) (setting : Setting) (tag : Tag)

/-- The issues of a member that nothing else covers, over a way of expanding references. -/
def additionalIssuesOver (value fields : Fields) (path : Path)
    (inner : SmallerProbe (.obj tag value)) (additional : Json) (member : String × Json)
    (h : member ∈ value) : Check (List Issue) := do
  let uncovered ← isAdditional setting.options.engine member.1 fields
  let place := path ++ [member.1]
  if !uncovered then .ok []
  else if Schema.isFalse additional then .ok [⟨.additionalMember member.1, place⟩]
  else do
    match ← expansion setting.options.source setting.root additional with
    | none => do
      let reason ← deadReference additional
      .ok [⟨reason, place⟩]
    | some node =>
      nodeIssues node place fun schema =>
        inner member.2 (size_lt_of_member tag h) schema place

/-- The issues of members that nothing else covers, over a way of expanding references. -/
def allAdditionalIssuesOver (value fields : Fields) (path : Path)
    (inner : SmallerProbe (.obj tag value)) : Check (List Issue) :=
  match get? fields "additionalProperties" with
  | none => .ok []
  | some additional =>
    gather value fun member h =>
      additionalIssuesOver expansion setting tag value fields path inner additional member h

/-- The issues of an object, over a way of expanding references. -/
def objectIssuesOver (value fields : Fields) (path : Path) (inner : SmallerProbe (.obj tag value))
    (again : NarrowerProbe fields) : Check (List Issue) := do
  let size ← memberCountIssues value.length fields path
  let required ← requiredIssues setting.options.accessor (.obj tag value) fields path
  let dependent ← dependentIssues setting.options.accessor (.obj tag value) fields path
  let properties ← membersOf (memberTable fields "properties")
  let declared ← gather properties fun (name, schema) _ =>
    propertyIssues setting tag value path inner name schema
  let patterned ← gather value fun member h =>
    patternIssues setting tag value fields path inner properties member h
  let additional ← allAdditionalIssuesOver expansion setting tag value fields path inner
  let names ← nameIssues (nameValues value) fields path fun name h schema place =>
    inner name (size_lt_of_mem_nameValues tag h) schema place
  let schemas ← dependentSchemaIssues setting tag value fields path again
  .ok (size ++ required ++ dependent ++ declared ++ patterned ++ additional ++ names ++ schemas)

variable (value : Json) (fields : Fields) (path : Path) (inner : SmallerProbe value)

/-- The issues of a value that should be of a kind, over a way of expanding references. -/
def kindIssuesOver (kind : Kind) (again : NarrowerProbe fields) : Check (List Issue) :=
  match kind, value, inner with
  | .object, .obj tag members, inner =>
    objectIssuesOver expansion setting tag members fields path inner again
  | kind, value, inner => kindIssues setting kind value fields path inner again

/-- The issues of a value by its type, over a way of expanding references. -/
def typeIssuesOver (again : NarrowerProbe fields) : Check (List Issue) :=
  match h : Schema.declaredTypes (.obj tag fields) with
  | [] =>
    match Schema.inferKind fields (some value) with
    | none => .ok []
    | some kind => kindIssuesOver expansion setting value fields path inner kind again
  | [type] =>
    match type with
    | .str s =>
      match Kind.ofName? s with
      | some kind => kindIssuesOver expansion setting value fields path inner kind again
      | none => .ok [⟨.unknownType s, path⟩]
    | type => .ok [⟨.unknownType type.plain, path⟩]
  | _ :: _ :: _ =>
    match Kind.firstFit (Schema.declaredTypes (.obj tag fields)) value with
    | none => do
      let names ← typeNames (Schema.declaredTypes (.obj tag fields))
      .ok [⟨.wrongTypes names, path⟩]
    | some kind =>
      kindIssuesOver expansion setting value (Schema.restrict fields (.str kind.name)) path inner kind
        fun schema hs place => again schema (size_lt_of_restrict h hs) place

/-- The issues of a value against a schema with members, over a way of expanding references. -/
def memberIssuesOver (again : NarrowerProbe fields) : Check (List Issue) := do
  let pinned ← pinIssues value fields path
  if !pinned.isEmpty then .ok pinned
  else
    let conditional ← conditionalIssues setting value fields path inner again
    let all ← allOfIssues fields path again
    let any ← anyOfIssues fields path again
    let one ← oneOfIssues fields path again
    let negated ← notIssues fields path again
    let typed ← typeIssuesOver expansion setting tag value fields path inner again
    .ok (conditional ++ all ++ any ++ one ++ negated ++ typed)

/-- The issues of a value against a schema, over a way of expanding references, given the probes of
whatever is smaller. -/
def schemaIssuesOver (schema : Json)
    (again : (s : Json) → s.size < schema.size → Path → Check (List Issue)) :
    Check (List Issue) :=
  match schema, again with
  | .null, _ => .ok []
  | .bool true, _ => .ok []
  | .bool false, _ => .ok [⟨.forbidden, path⟩]
  | .obj tag fields, again =>
    memberIssuesOver expansion setting tag value fields path inner fun s h place =>
      again s (size_lt_of_sizeFields tag h) place
  | other, _ => .error (.invalidNode other.display path)

/-- The issues of a value against a schema, over a way of expanding references, given the probe of
whatever is smaller than the value. -/
def issuesByOver (schema : Json) (path : Path) : Check (List Issue) :=
  schemaIssuesOver expansion setting value path inner schema fun s _ place =>
    issuesByOver s place
termination_by schema.size

/-- **The issues of a value against a schema, over a way of expanding references.** -/
def issuesOver (value schema : Json) (path : Path) : Check (List Issue) :=
  issuesByOver expansion setting value (fun x _ s place => issuesOver x s place) schema path
termination_by value.size

/-- Does a value that may be missing meet a condition, over a way of expanding references? -/
def meetsOver (value : Option Json) (condition : Json) (path : Path) : Check Bool :=
  match value with
  | none => .ok false
  | some x =>
    conditionHolds setting.options.accessor x condition path
      (fun y _ schema place => issuesOver expansion setting y schema place)
      (fun schema _ place => issuesOver expansion setting x schema place)

theorem kindIssuesOver_expand (kind : Kind) (again : NarrowerProbe fields) :
    kindIssuesOver Reference.expand setting value fields path inner kind again =
      kindIssues setting kind value fields path inner again := by
  cases kind with
  | object => cases value <;> rfl
  | _ => rfl

theorem typeIssuesOver_expand (again : NarrowerProbe fields) :
    typeIssuesOver Reference.expand setting tag value fields path inner again =
      typeIssues setting value tag fields path inner again := by
  simp only [typeIssuesOver, kindIssuesOver_expand]
  rfl

theorem schemaIssuesOver_expand (schema : Json)
    (again : (s : Json) → s.size < schema.size → Path → Check (List Issue)) :
    schemaIssuesOver Reference.expand setting value path inner schema again =
      schemaIssues setting value schema path inner again := by
  cases schema with
  | obj tag fields =>
    simp only [schemaIssuesOver, schemaIssues, memberIssuesOver, memberIssues, typeIssuesOver_expand]
  | bool b => cases b <;> rfl
  | _ => rfl

theorem issuesByOver_expand (schema : Json) (path : Path) :
    issuesByOver Reference.expand setting value inner schema path =
      issuesBy setting value inner schema path := by
  induction schema using Json.sizeInduction generalizing path with
  | step schema ih =>
    rw [issuesByOver, issuesBy, schemaIssuesOver_expand]
    congr 1
    funext s hs place
    exact ih s hs place

/-- **The probe is the one over references as they are expanded.** -/
theorem issuesOver_expand (value schema : Json) (path : Path) :
    issuesOver Reference.expand setting value schema path = issues setting value schema path := by
  induction value using Json.sizeInduction generalizing schema path with
  | step value ih =>
    rw [issuesOver, issues, issuesByOver_expand]
    congr 1
    funext x hx s place
    exact ih x hx s place

theorem meetsOver_expand (value : Option Json) (condition : Json) (path : Path) :
    meetsOver Reference.expand setting value condition path =
      meets setting value condition path := by
  cases value with
  | none => rfl
  | some x => simp only [meetsOver, meets, issuesOver_expand]

end Probe

/-! ## 4. Conflicts -/

open Resolve (Request Step)

/-- **Conflicts never get out.**  Merging without a conjunction ends with no conflict; no resolution, no
probe and no condition ends with one, for a schema that need not be well formed, and in a session with any
document for references; where a conjunction is merged for `allOf` or for `oneOf` and finds a conflict,
the step fails with an issue that says what the conflict says; and the probe makes no use of
conjunctions: they could do anything, and it would find the same. -/
theorem conflicts_never_get_out :
    (∀ (a b : Json) (left right : List Json),
      Schema.merge false a b ≠ .error (.conflict left right)) ∧
    (∀ (schema : Json) (value : Option Json) (options : Options) (left right : List Json),
      resolveValues schema value options ≠ .error (.conflict left right) ∧
        validateValue value schema options ≠ .error (.conflict left right)) ∧
    (∀ (session : Session) (schema : Json) (value : Option Json) (request : Request)
      (path : Option Path) (left right : List Json),
      (session.resolveValues schema value).1 ≠ .error (.conflict left right) ∧
        (session.resolve request).1 ≠ .error (.conflict left right) ∧
        session.validate value schema path ≠ .error (.conflict left right) ∧
        session.meets value schema path ≠ .error (.conflict left right)) ∧
    (∀ (step : Step) (members : Json) (found : List Issue), step.ConflictsInAll members found →
      (step.allOf members).result =
        .ok (.failed (found ++ [⟨.noCommonType, step.path ++ ["allOf"]⟩]))) ∧
    (∀ (step : Step) (branches : Json), step.ConflictsInOne branches →
      (step.oneOf branches).result = .ok (.failed [⟨.noCommonType, step.path ++ ["oneOf"]⟩])) ∧
    (∀ left right : List Json,
      (Fault.conflict left right).message? = some Reason.noCommonType.message) ∧
    (∀ (other : Json → Json → Except Fault Json) (setting : Probe.Setting) (path : Path),
      (∀ value schema, Probe.issuesOver (Reference.expandBy (.outsideConjunctions other)) setting value
        schema path = Probe.issues setting value schema path) ∧
      (∀ value condition, Probe.meetsOver (Reference.expandBy (.outsideConjunctions other)) setting
        value condition path = Probe.meets setting value condition path)) := by
  refine ⟨Schema.merge_ne_conflict, ?_, ?_, ?_, ?_, fun _ _ => rfl, ?_⟩
  · intro schema value options left right
    constructor
    · exact (Session.start options schema).resolveValues_ne_conflict schema value left right
    · exact Probe.issues?_ne_conflict _ value _ left right schema
  · intro session schema value request path left right
    refine ⟨session.resolveValues_ne_conflict schema value left right, ?_, ?_, ?_⟩
    · exact Resolve.resolveAt_ne_conflict session.setting request left right
    · exact Probe.issues?_ne_conflict session.setting value _ left right schema
    · exact Probe.meets_ne_conflict session.setting value _ left right schema
  · intro step members found h
    exact Step.allOf_of_conflict h
  · intro step branches h
    exact Step.oneOf_of_conflict h
  · intro other setting path
    rw [Reference.expandBy_outsideConjunctions]
    constructor
    · intro value schema
      exact Probe.issuesOver_expand setting value schema path
    · intro value condition
      exact Probe.meetsOver_expand setting value condition path

/-- Text and numbers have nothing in common, neither as the schema and a member of its `allOf` nor as the
schema and the branch of its `oneOf` that a number passes. -/
theorem conflicts_never_get_out_text_number :
    let number : Json := .obj none [("type", .str "number")]
    let fields : Fields := [("type", .str "string"), ("allOf", .arr none [number]),
      ("oneOf", .arr none [number])]
    let step : Step := ⟨⟨.default, .obj none fields⟩, ["a"], none, fields, some (.num (.int 1)), .null,
      .null, false, fun _ request => Resolve.done request.value⟩
    step.ConflictsInAll (.arr none [number]) [] ∧ step.ConflictsInOne (.arr none [number]) ∧
      (step.allOf (.arr none [number])).result =
        .ok (.failed ([] ++ [⟨.noCommonType, ["a", "allOf"]⟩])) ∧
      (step.oneOf (.arr none [number])).result = .ok (.failed [⟨.noCommonType, ["a", "oneOf"]⟩]) := by
  intro number fields step
  have all : step.ConflictsInAll (.arr none [number]) [] := by
    have conflict : Schema.merge true step.unmerged.merged number =
        .error (.conflict [.str "string"] [.str "number"]) := by
      rw [Schema.merge]
      rfl
    exact @Step.ConflictsInAll.member step _ [] [] number step.unmerged step.unmerged _ _ rfl .nil rfl
      conflict
  have one : step.ConflictsInOne (.arr none [number]) := by
    have judged : step.branchIssues (.num (.int 1)) [number] = .ok [[]] := by decide +kernel
    have conflict : Schema.merge true (step.without ["oneOf"]) number =
        .error (.conflict [.str "string"] [.str "number"]) := by
      rw [Schema.merge]
      rfl
    exact .branch rfl rfl judged rfl conflict
  obtain ⟨-, -, -, conflictsInAll, conflictsInOne, -, -⟩ := conflicts_never_get_out
  exact ⟨all, one, conflictsInAll step _ _ all, conflictsInOne step _ one⟩

end Conform
