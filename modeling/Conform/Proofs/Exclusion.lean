/-
# Names that must not come together

A schema that negates `required` forbids an object to have all of the names at once (`Excludes`).  Such
schemas are put side by side in `allOf` (`Forbids`), and then each of them should have its say and no
other effect: the object comes out as it is unless it has all names of some list.

For the probe that is so because nothing else is said beside `not` and `allOf`.  The resolver does more.
It resolves every member of `allOf` on its own, lays the result over the value, merges what is plain of
the member into the schema and checks what comes out once more.  Where a negated schema admits the value
it is even resolved, for the notes that this may leave.  All that changes nothing here: a member leaves
`Untouched` what has been made of those before it, but for its own issue (`flatten_member`), and so do
all of them together (`flatten_members`).
-/
import Conform.Proofs.Filling
import Conform.Proofs.Fusing
import Conform.Proofs.Lossless

namespace Conform

open Fields (get?)

/-! ## 1. The probe -/

namespace Probe

variable {setting : Setting} {x : Json} {vtag tag ltag : Tag} {members : Fields} {path : Path}

/-- A negation with nothing beside it. -/
theorem issues_of_negation {negated : Json} {admitted : Bool}
    (h : valid (issues setting x negated path) = .ok admitted) :
    issues setting x (.obj tag [("not", negated)]) path =
      .ok (if admitted then [⟨.excluded, path⟩] else []) := by
  have pinned : pinIssues x [("not", negated)] path = .ok [] := rfl
  have refused : notIssues [("not", negated)] path (narrower setting x _) =
      .ok (if admitted then [⟨.excluded, path⟩] else []) := by
    change (valid (issues setting x negated path) >>= _) = _
    rw [h, ok_bind]
  have untyped : typeIssues setting x tag [("not", negated)] path (inside setting x)
      (narrower setting x _) = .ok [] := by
    rw [typeIssues_of_nil rfl]
    cases x <;> rfl
  rw [issues_obj, memberIssues, pinned, conditionalIssues_of_none rfl, allOfIssues_of_none rfl,
    anyOfIssues_of_none rfl, oneOfIssues_of_none rfl, refused, untyped]
  simp [ok_bind]

/-- Members of `allOf` with nothing beside it, by what each of them is known to find. -/
theorem issues_of_conjunction {α : Type} {keys : List α} {schemas : List Json} {found : α → List Issue}
    (h : List.Forall₂ (fun key s => issues setting x s path = .ok (found key)) keys schemas) :
    issues setting x (.obj tag [("allOf", .arr ltag schemas)]) path = .ok (keys.flatMap found) := by
  have gathered : gather schemas (fun s _ => issues setting x s path) = .ok (keys.flatMap found) := by
    induction h with
    | nil => rfl
    | cons first _ ih =>
      rw [gather, first, ok_bind, ih]
      rfl
  have pinned : pinIssues x [("allOf", .arr ltag schemas)] path = .ok [] := rfl
  have all : allOfIssues [("allOf", .arr ltag schemas)] path (narrower setting x _) =
      .ok (keys.flatMap found) := gathered
  have untyped : typeIssues setting x tag [("allOf", .arr ltag schemas)] path (inside setting x)
      (narrower setting x _) = .ok [] := by
    rw [typeIssues_of_nil rfl]
    cases x <;> rfl
  rw [issues_obj, memberIssues, pinned, conditionalIssues_of_none rfl, all,
    anyOfIssues_of_none rfl, oneOfIssues_of_none rfl, notIssues_of_none rfl, untyped]
  simp [ok_bind]

/-- A name of which no schema says anything is absent if it is not there, and null is something. -/
theorem isAbsent_null (name : String) :
    Schema.isAbsent (get? members name) .null = !Fields.has members name := by
  rw [Fields.has]
  cases get? members name with
  | none => rfl
  | some y => cases y <;> rfl

/-- Required names that are no properties have to be there, and that is all. -/
theorem requiredIssues_of_undeclared {fields : Fields} {names : List String}
    (required : get? fields "required" = some (.arr ltag (names.map .str)))
    (undeclared : get? fields "properties" = none) :
    ∃ found, requiredIssues .direct (.obj vtag members) fields path = .ok found ∧
      (found = [] ↔ ∀ name ∈ names, Fields.has members name = true) := by
  let check (name : Json) : Check (List Issue) := do
    let found ← Accessor.direct.read (.obj vtag members) name
    let schema ← propertySchema (memberTable fields "properties") name
    .ok (if Schema.isAbsent found schema then [missingIssue name path] else [])
  have each (name : String) : check (.str name) =
      .ok (if Fields.has members name then [] else [missingIssue (.str name) path]) := by
    simp only [check, memberTable, undeclared]
    change Except.ok (if Schema.isAbsent (get? members name) .null then _ else _) = _
    rw [isAbsent_null]
    cases Fields.has members name <;> rfl
  obtain ⟨found, hfound, hnone⟩ :=
    exists_gather (f := fun name (_ : name ∈ Json.distinct (names.map .str)) => check name)
      fun name hm => by
        obtain ⟨n, -, rfl⟩ := List.mem_map.1 (Schema.mem_of_mem_distinct hm)
        exact ⟨_, each n⟩
  rw [requiredIssues, required]
  refine ⟨found, hfound, hnone.trans ⟨fun h name hn => ?_, fun h name hm => ?_⟩⟩
  · have kept : Json.str name ∈ Json.distinct (names.map .str) :=
      Schema.mem_distinct_of_texts (by simp [Schema.isText]) (List.mem_map_of_mem hn)
    have nothing := (each name).symm.trans (h _ kept)
    by_contra lacking
    simp [lacking] at nothing
  · obtain ⟨n, hn, rfl⟩ := List.mem_map.1 (Schema.mem_of_mem_distinct hm)
    rw [each, h n hn]
    rfl

/-- **Required names with nothing beside them** admit the objects that have them all. -/
theorem valid_required (direct : setting.options.accessor = .direct) (names : List String) :
    valid (issues setting (.obj vtag members)
        (.obj tag [("required", .arr ltag (names.map .str))]) path) =
      .ok (names.all (Fields.has members)) := by
  let fields : Fields := [("required", .arr ltag (names.map .str))]
  let value : Json := .obj vtag members
  obtain ⟨found, required, hnone⟩ : ∃ found,
      requiredIssues setting.options.accessor value fields path = .ok found ∧ _ := by
    rw [direct]
    exact requiredIssues_of_undeclared rfl rfl
  have patterned : gather members (fun member h =>
      patternIssues setting vtag members fields path (inside setting value) [] member h) = .ok [] :=
    gather_eq_nil_iff.2 fun _ _ => rfl
  have objects : objectIssues setting vtag members fields path (inside setting value)
      (narrower setting value fields) = .ok found := by
    rw [objectIssues, required, dependentSchemaIssues_of_none rfl]
    change (gather members _ >>= _) = _
    rw [patterned]
    change Except.ok ([] ++ found ++ [] ++ [] ++ [] ++ [] ++ [] ++ []) = _
    simp
  have all : issues setting value (.obj tag fields) path = .ok found := by
    rw [issues_of_uncomposed (by simp [fields, Schema.compositeKeywords, Fields.get?_cons])]
    change typeIssues setting value tag fields path _ _ = _
    rw [typeIssues_of_nil rfl]
    exact objects
  change valid (issues setting value (.obj tag fields) path) = _
  rw [all, valid, Except.map, Except.ok.injEq, Bool.eq_iff_iff, List.isEmpty_iff, hnone,
    List.all_eq_true]

end Probe

namespace Resolve

open Schema (isPinned)

/-! ## 2. Room for requests -/

namespace Guard

/-- There is room for some more requests, one inside the other, each at the place or one level below. -/
def HasRoom (guard : Guard) (requests : Nat) : Prop :=
  guard.level - guard.start + requests < depthLimit ∧ guard.frames.length + requests < depthLimit

theorem hasRoom_atStart {path : Path} {requests : Nat} (h : requests < depthLimit) :
    (atStart path).HasRoom requests := by
  simp only [HasRoom, level, atStart, Nat.sub_self, List.length_nil]
  omega

theorem HasRoom.enter {guard : Guard} {requests : Nat} (room : guard.HasRoom (requests + 1))
    {extension : Path} (near : extension.length ≤ 1) : (guard.enter extension).HasRoom requests := by
  obtain ⟨low, few⟩ := room
  simp only [HasRoom, level, Guard.enter, List.length_append, List.length_cons] at low ⊢
  omega

theorem HasRoom.tooDeep {guard : Guard} {requests : Nat} (room : guard.HasRoom requests) :
    guard.tooDeep = false := by
  obtain ⟨low, few⟩ := room
  have unframed : guard.frames[depthLimit - 1]? = none := List.getElem?_eq_none (by omega)
  have shallow : ¬depthLimit ≤ guard.level - guard.start := by omega
  simp [Guard.tooDeep, unframed, shallow]

end Guard

/-- What is neither pinned down nor of a type goes on as it is. -/
theorem Step.run_of_unpinned {step : Step} {x : Json} (present : step.value = some x)
    (unpinned : isPinned step.fields = false) (untyped : get? step.fields "type" = none) :
    step.run = step.dispatch := by
  have nullable : Schema.allowsNull step.schema = true := by
    simp [Schema.allowsNull, Step.schema, Schema.declaredTypes, untyped]
  have there : Schema.isAbsent step.value step.schema = false := by
    rw [present]
    cases x <;> simp [Schema.isAbsent, nullable]
  have kept : step.filled = step.value := by
    simp [Step.filled, there]
  simp only [Step.run, kept]
  exact Run.lift_bind_of_ok (Step.pinIssues_of_unpinned unpinned)

section Request

variable {setting : Probe.Setting} {guard : Guard} {requests : Nat} {x parent key : Json}
  {negated : Bool}

/-- The step of a request for a value that is there. -/
abbrev stepAt (setting : Probe.Setting) (guard : Guard) (tag : Tag) (fields : Fields)
    (x parent key : Json) (negated : Bool) : Step :=
  ⟨setting, guard.path, tag, fields, some x, parent, key, negated,
    fun extension next => resolve setting (guard.enter extension) next⟩

/-- Where there is room, what is neither pinned down nor of a type is resolved by what it is composed
of. -/
theorem resolve_of_room (room : guard.HasRoom requests) {tag : Tag} {fields : Fields}
    (unpinned : isPinned fields = false) (untyped : get? fields "type" = none) :
    resolve setting guard ⟨.node (.obj tag fields), some x, parent, key, negated⟩ =
      (stepAt setting guard tag fields x parent key negated).dispatch := by
  have shallow : ¬guard.tooDeep = true := by rw [room.tooDeep]; exact Bool.false_ne_true
  rw [resolve, dif_neg shallow]
  exact Step.run_of_unpinned rfl unpinned untyped

/-- A schema without members leaves the value as it is. -/
theorem resolve_nil (room : guard.HasRoom requests) (tag : Tag) :
    resolve setting guard ⟨.node (.obj tag []), some x, parent, key, negated⟩ = done (some x) := by
  rw [resolve_of_room room rfl rfl]
  cases x <;> rfl

end Request

/-! ## 3. Names that are all there -/

namespace Step

variable {step : Step} {members : Fields}

/-- A name that is no property has to be there, whatever stands under it. -/
theorem hasRequired_of_undeclared (direct : step.setting.options.accessor = .direct)
    (undeclared : get? step.fields "properties" = none) {name : String}
    (there : Fields.has members name = true) : step.HasRequired members (.str name) := by
  have read : step.readMember members (.str name) = .ok (get? members name) := by
    rw [readMember, direct]
    rfl
  have schema : Probe.propertySchema (step.tableOrEmpty "properties") (.str name) = .ok .null := by
    rw [tableOrEmpty, undeclared]
    rfl
  refine ⟨get? members name, .null, read, schema, ?_⟩
  rw [Probe.isAbsent_null, there]
  rfl

/-- Without patterns no name matches one. -/
theorem resolvePatterns_of_lacks {names : List String} {built : Built}
    (lacks : get? step.fields "patternProperties" = none) :
    step.resolvePatterns [] names built = pure built := by
  induction names with
  | nil => rfl
  | cons name rest ih =>
    change (liftM (Probe.membersOf (step.tableOrEmpty "patternProperties")) >>= _) = _
    rw [membersOf_of_lacks lacks]
    exact ih

/-- **Required names that are all there** are resolved without a note, also under a negation. -/
theorem resolveMembers_of_present {ltag : Tag} {names : List String}
    (direct : step.setting.options.accessor = .direct)
    (required : step.fields = [("required", .arr ltag (names.map .str))])
    (present : ∀ name ∈ names, Fields.has members name = true) :
    ∃ value, step.resolveMembers members = done value := by
  have undeclared : get? step.fields "properties" = none := by rw [required]; rfl
  obtain ⟨kept, hkept, there⟩ : ∃ kept, requiredNames step.skips step.fields = .ok kept ∧
      ∀ name ∈ kept, step.HasRequired members name := by
    rw [requiredNames, required]
    split
    · exact ⟨[], rfl, fun _ hm => absurd hm List.not_mem_nil⟩
    · refine ⟨Json.distinct (names.map .str), rfl, fun name hm => ?_⟩
      obtain ⟨n, hn, rfl⟩ := List.mem_map.1 (Schema.mem_of_mem_distinct hm)
      exact hasRequired_of_undeclared direct undeclared (present n hn)
  have properties : Probe.membersOf (step.tableOrEmpty "properties") = .ok [] :=
    membersOf_of_lacks undeclared
  -- The other keywords about objects are not there.
  have size : Probe.memberCountIssues members.length step.fields step.path = .ok [] := by
    rw [required]
    rfl
  have dependent : step.dependentIssues members = .ok [] := by
    rw [dependentIssues, required]
    split <;> rfl
  have dependents : Probe.membersOf (step.tableOrEmpty "dependentSchemas") = .ok [] :=
    membersOf_of_lacks (by rw [required]; rfl)
  have patterned {names : List String} {built : Built} :
      step.resolvePatterns [] names built = pure built :=
    resolvePatterns_of_lacks (by rw [required]; rfl)
  have additional {built : Built} : step.resolveAllAdditional members built = pure built := by
    rw [resolveAllAdditional, required]
    rfl
  have named {built : Fields} : step.builtNameIssues built = .ok [] := by
    rw [builtNameIssues, required]
    rfl
  have unnoted (rest : Run Outcome) : (Run.note [] >>= fun _ => rest) = rest :=
    pure_bind () fun _ => rest
  refine ⟨some (.obj none (Fields.union [] (otherMembers [] members))), ?_⟩
  rw [resolveMembers, Run.lift_bind_of_ok size, Run.lift_bind_of_ok hkept,
    Run.lift_bind_of_ok (withDefaults_of_there there),
    Run.lift_bind_of_ok (absentNames_eq_nil_iff.2 there)]
  simp only [List.map_nil, ite_self, List.append_nil, unnoted, Run.lift_bind_of_ok properties,
    resolveProperties, pure_bind, Run.lift_bind_of_ok dependent, Run.lift_bind_of_ok dependents,
    resolveDependents, patterned, additional, Run.lift_bind_of_ok named]
  rfl

end Step

/-! ## 4. Negations -/

variable {setting : Probe.Setting} {guard : Guard} {x parent key : Json} {negated : Bool}

/-- **It is settled whether the schema admits the value**, whatever the path, and if it does, resolving
it for the names that are missing leaves no note. -/
structure Judged (setting : Probe.Setting) (x schema : Json) (admitted : Bool) : Prop where
  probed : ∀ path, Probe.valid (Probe.issues setting x schema path) = .ok admitted
  unnoted : admitted = true → ∀ guard parent key, guard.HasRoom 0 →
    ∃ outcome, resolve setting guard ⟨.node schema, some x, parent, key, true⟩ = pure outcome

/-- Names that are required are all there, or else one is missing. -/
theorem judged_required {vtag tag ltag : Tag} {members : Fields}
    (direct : setting.options.accessor = .direct) (names : List String) :
    Judged setting (.obj vtag members) (.obj tag [("required", .arr ltag (names.map .str))])
      (names.all (Fields.has members)) where
  probed _ := Probe.valid_required direct names
  unnoted admitted guard parent key room := by
    rw [resolve_of_room room rfl rfl]
    let step := stepAt setting guard tag [("required", .arr ltag (names.map .str))]
      (.obj vtag members) parent key true
    obtain ⟨value, resolved⟩ : ∃ value, step.resolveMembers members = done value :=
      Step.resolveMembers_of_present direct rfl (List.all_eq_true.1 admitted)
    exact ⟨.resolved value, resolved⟩

/-- The issues of a negation at a path. -/
def refusal (path : Path) (admitted : Bool) : List Issue :=
  if admitted then [⟨.excluded, path ++ ["not"]⟩] else []

/-- **A negation with nothing beside it is resolved as it is probed**, and leaves the value as it is. -/
theorem resolve_of_negation {tag : Tag} {schema : Json} {admitted : Bool}
    (judged : Judged setting x schema admitted) (room : guard.HasRoom 1) :
    resolve setting guard ⟨.node (.obj tag [("not", schema)]), some x, parent, key, negated⟩ =
      Step.doneUnless x (refusal guard.path admitted) := by
  obtain ⟨found, probed, decided⟩ := Probe.exists_of_valid (judged.probed (guard.path ++ ["not"]))
  let step := stepAt setting guard tag [("not", schema)] x parent key negated
  rw [resolve_of_room room rfl rfl]
  change step.not schema = _
  simp only [Step.not, step, probed]
  change (if found.isEmpty = true then _ else _) = _
  rw [decided]
  cases admitted with
  | false =>
    have further : (guard.enter []).HasRoom 0 := room.enter (Nat.zero_le 1)
    exact resolve_nil further none
  | true =>
    rw [if_pos rfl]
    split
    · obtain ⟨outcome, unnoted⟩ :=
        judged.unnoted rfl (guard.enter ["not"]) parent key (room.enter (Nat.le_refl 1))
      rw [unnoted, pure_bind]
      rfl
    · rfl

/-! ## 5. Negations side by side -/

/-- The schema is a negation with nothing beside it, and it is settled what the negated schema admits. -/
def Negates (setting : Probe.Setting) (x : Json) (admitted : Bool) (member : Json) : Prop :=
  ∃ tag schema, member = .obj tag [("not", schema)] ∧ Judged setting x schema admitted

/-- **Nothing has been made of the value and of the schema**, whose plain parts are empty. -/
structure Untouched (x : Json) (flat : Step.Flattened) : Prop where
  working : flat.working = some x
  merged : flat.merged = .obj none []
  plain : ∀ s ∈ flat.plain, s = .obj none []

namespace Step

variable {step : Step} {verdicts : List Bool} {members : List Json} {flat : Flattened}

/-- **A negation among the members leaves everything as it is**, and its issue if it has one. -/
theorem flatten_member {member : Json} {rest : List Json} {admitted : Bool}
    (same : Json.overlay x x = x) (negates : Negates setting x admitted member)
    (again : step.again ["allOf"] ⟨.node member, some x, step.parent, step.key, step.negated⟩ =
      doneUnless x (refusal (step.path ++ ["allOf"]) admitted))
    (h : Untouched x flat) :
    ∃ flat', step.flatten (member :: rest) flat = step.flatten rest flat' ∧ Untouched x flat' ∧
      flat'.issues = flat.issues ++ refusal (step.path ++ ["allOf"]) admitted := by
  obtain ⟨tag, schema, rfl, -⟩ := negates
  obtain ⟨working, merged, plain, issues⟩ := flat
  obtain ⟨rfl, rfl, empty⟩ := h
  have merging : Schema.merge true (.obj none []) (.obj none []) = .ok (.obj none []) := by
    rw [Schema.merge]
    rfl
  have composite : isComposite (.obj tag [("not", schema)]) = true := rfl
  refine ⟨⟨some x, .obj none [], .obj none [] :: plain,
    issues ++ refusal (step.path ++ ["allOf"]) admitted⟩, ?_,
    ⟨rfl, rfl, List.forall_mem_cons.2 ⟨rfl, empty⟩⟩, rfl⟩
  rw [flatten_cons, if_pos composite, resolveMember, again]
  cases admitted with
  | false =>
    change step.mergeMember (.obj none []) rest
      ⟨some (Json.overlay x x), .obj none [], plain, issues⟩ = _
    rw [same, mergeMember, merging]
    simp [refusal]
  | true =>
    change step.mergeMember (.obj none []) rest
      ⟨some x, .obj none [], plain, issues ++ refusal (step.path ++ ["allOf"]) true⟩ = _
    rw [mergeMember, merging]

/-- **So do all of them together**: what there is in the end are the issues of those that refuse. -/
theorem flatten_members (same : Json.overlay x x = x)
    (negate : List.Forall₂ (Negates setting x) verdicts members)
    (again : ∀ admitted member, Negates setting x admitted member →
      step.again ["allOf"] ⟨.node member, some x, step.parent, step.key, step.negated⟩ =
        doneUnless x (refusal (step.path ++ ["allOf"]) admitted))
    (h : Untouched x flat) :
    ∃ flat', step.flatten members flat = pure (.ok flat') ∧ Untouched x flat' ∧
      flat'.issues = flat.issues ++ verdicts.flatMap (refusal (step.path ++ ["allOf"])) := by
  induction negate generalizing flat with
  | nil => exact ⟨flat, rfl, h, by simp⟩
  | @cons admitted member verdicts members first _ ih =>
    obtain ⟨next, taken, untouched, issues⟩ := flatten_member same first (again _ _ first) h
    obtain ⟨last, all, untouched, issues'⟩ := ih untouched
    refine ⟨last, taken.trans all, untouched, ?_⟩
    rw [issues', issues, List.flatMap_cons, List.append_assoc]

end Step

/-- **Negations side by side are resolved one by one**, and leave the value as it is. -/
theorem resolve_of_negations {tag ltag : Tag} {verdicts : List Bool} {members : List Json}
    (same : Json.overlay x x = x) (negate : List.Forall₂ (Negates setting x) verdicts members)
    (room : guard.HasRoom 2) :
    resolve setting guard ⟨.node (.obj tag [("allOf", .arr ltag members)]), some x, parent, key, negated⟩ =
      Step.doneUnless x (verdicts.flatMap (refusal (guard.path ++ ["allOf"]))) := by
  let step := stepAt setting guard tag [("allOf", .arr ltag members)] x parent key negated
  rw [resolve_of_room room rfl rfl]
  change step.allOf (.arr ltag members) = _
  have start : Untouched x ⟨some x, .obj none [], [.obj none []], []⟩ := ⟨rfl, rfl, by simp⟩
  have again : ∀ admitted member, Negates setting x admitted member →
      step.again ["allOf"] ⟨.node member, some x, parent, key, negated⟩ =
        Step.doneUnless x (refusal (guard.path ++ ["allOf"]) admitted) := by
    rintro admitted _ ⟨tag, schema, rfl, judged⟩
    have further : (guard.enter ["allOf"]).HasRoom 1 := room.enter (Nat.le_refl 1)
    exact resolve_of_negation judged further
  obtain ⟨⟨working, merged, plain, issues⟩, flattened, ⟨rfl, rfl, empty⟩, rfl⟩ :=
    step.flatten_members same negate again start
  have whole : step.again [] ⟨.node (.obj none []), some x, parent, key, negated⟩ = done (some x) := by
    have further : (guard.enter []).HasRoom 1 := room.enter (Nat.zero_le 1)
    exact resolve_nil further none
  have admitted : step.issuesAgainst (some x) plain.reverse = .ok [] := by
    refine Probe.gather_eq_nil_iff.2 fun s hs => ?_
    rw [empty s (List.mem_reverse.1 hs)]
    exact Probe.issues_of_nil
  change (step.flatten members ⟨some x, .obj none [], [.obj none []], []⟩ >>= _) = _
  rw [flattened, pure_bind]
  change (step.again [] ⟨.node (.obj none []), some x, parent, key, negated⟩ >>= _) = _
  rw [whole, done, pure_bind]
  simp only [List.nil_append]
  cases verdicts.flatMap (refusal (guard.path ++ ["allOf"])) with
  | nil =>
    change (liftM (step.issuesAgainst (some x) plain.reverse) >>= _) = _
    rw [Run.lift_bind_of_ok admitted]
    rfl
  | cons issue rest =>
    change fail (issue :: rest ++ []) = fail (issue :: rest)
    rw [List.append_nil]

end Resolve

/-! ## 6. Names that must not come together -/

/-- **The schema forbids the names to be there all at once**: it negates that they are required. -/
def Excludes (names : List String) (schema : Json) : Prop :=
  ∃ tag rtag ltag, schema = .obj tag [("not", .obj rtag [("required", .arr ltag (names.map .str))])]

/-- **The schema forbids each of the lists of names**: the only one, or all of them side by side. -/
inductive Forbids : List (List String) → Json → Prop
  | alone {names : List String} {schema : Json} (h : Excludes names schema) : Forbids [names] schema
  | each {lists : List (List String)} {members : List Json} (tag ltag : Tag)
      (h : List.Forall₂ Excludes lists members) : Forbids lists (.obj tag [("allOf", .arr ltag members)])

open Resolve (refusal Negates resolveAt wholeRequest reportedOutcome)

variable {setting : Probe.Setting} {vtag : Tag} {members : Fields} {lists : List (List String)}
  {schema : Json}

/-- The lists of which the object has all names. -/
def complete (members : Fields) (lists : List (List String)) : List (List String) :=
  lists.filter fun names => names.all (Fields.has members)

theorem complete_eq_nil_iff :
    complete members lists = [] ↔ ∀ names ∈ lists, ∃ name ∈ names, get? members name = none := by
  simp [complete, List.filter_eq_nil_iff, Fields.has]

/-- An issue for every complete list, one list after the other. -/
theorem flatMap_verdicts (issue : Issue) :
    (lists.flatMap fun names => if names.all (Fields.has members) then [issue] else []) =
      (complete members lists).map fun _ => issue := by
  induction lists with
  | nil => rfl
  | cons names rest ih =>
    rw [List.flatMap_cons, ih, complete, complete, List.filter_cons]
    cases names.all (Fields.has members) <;> rfl

theorem Excludes.negates {names : List String} (h : Excludes names schema)
    (direct : setting.options.accessor = .direct) :
    Negates setting (.obj vtag members) (names.all (Fields.has members)) schema := by
  obtain ⟨tag, rtag, ltag, rfl⟩ := h
  exact ⟨tag, _, rfl, Resolve.judged_required direct names⟩

/-- **What the probe finds**: an issue for every complete list. -/
theorem Forbids.issues (h : Forbids lists schema) (direct : setting.options.accessor = .direct)
    (path : Path) :
    Probe.issues setting (.obj vtag members) schema path =
      .ok ((complete members lists).map fun _ => ⟨.excluded, path⟩) := by
  have each {names : List String} {s : Json} (h : Excludes names s) :
      Probe.issues setting (.obj vtag members) s path =
        .ok (if names.all (Fields.has members) then [⟨.excluded, path⟩] else []) := by
    obtain ⟨tag, negated, rfl, judged⟩ : Negates setting (.obj vtag members) _ s := h.negates direct
    exact Probe.issues_of_negation (judged.probed path)
  rw [← flatMap_verdicts]
  cases h with
  | alone h => rw [each h, List.flatMap_cons, List.flatMap_nil, List.append_nil]
  | each tag ltag h => exact Probe.issues_of_conjunction (h.imp fun _ _ => each)

/-- **How the object is resolved**: it comes out as it is unless there is a complete list, and there is
an issue for each. -/
theorem Forbids.resolve {options : Options} (h : Forbids lists schema)
    (direct : options.accessor = .direct) (proper : (Json.obj vtag members).Proper) (root : Json) :
    ∃ place, resolveAt ⟨options, root⟩ (wholeRequest schema (some (.obj vtag members))) =
      Resolve.Step.doneUnless (.obj vtag members)
        ((complete members lists).map fun _ => ⟨.excluded, place⟩) := by
  have negates {names : List String} {s : Json} (h : Excludes names s) :
      Negates ⟨options, root⟩ (.obj vtag members) (names.all (Fields.has members)) s :=
    h.negates direct
  simp only [← flatMap_verdicts]
  cases h with
  | alone h =>
    refine ⟨options.currentPath ++ ["not"], ?_⟩
    obtain ⟨tag, negated, rfl, judged⟩ := negates h
    rw [List.flatMap_cons, List.flatMap_nil, List.append_nil]
    exact Resolve.resolve_of_negation judged (Resolve.Guard.hasRoom_atStart (by decide))
  | each tag ltag h =>
    refine ⟨options.currentPath ++ ["allOf"] ++ ["not"], ?_⟩
    have negate : List.Forall₂ (Negates ⟨options, root⟩ (.obj vtag members))
        (lists.map fun names => names.all (Fields.has members)) _ :=
      List.forall₂_map_left_iff.2 (h.imp fun _ _ => negates)
    have room : (Resolve.Guard.atStart options.currentPath).HasRoom 2 :=
      Resolve.Guard.hasRoom_atStart (by decide)
    refine (Resolve.resolve_of_negations (Json.overlay_self proper) negate room).trans ?_
    rw [List.flatMap_map]
    rfl

namespace Issue

/-- Messages that have been seen are not repeated. -/
theorem distinctFrom_of_seen {seen : List String} {issues : List Issue}
    (h : ∀ issue ∈ issues, issue.message ∈ seen) : distinctFrom seen issues = [] := by
  induction issues with
  | nil => rfl
  | cons issue rest ih =>
    have there : seen.contains issue.message = true := by
      simpa using h issue (List.mem_cons_self ..)
    rw [distinctFrom, if_pos there]
    exact ih fun other hm => h other (List.mem_cons_of_mem _ hm)

/-- An issue that is found again and again is reported once. -/
theorem reported_of_same {issues : List Issue} {issue : Issue} (found : issues ≠ [])
    (same : ∀ other ∈ issues, other = issue) (special : issue.isGeneric = false) :
    reported issues = [issue] := by
  cases issues with
  | nil => exact absurd rfl found
  | cons first rest =>
    obtain rfl : first = issue := same first (List.mem_cons_self ..)
    have repeated : distinctFrom [first.message] rest = [] :=
      distinctFrom_of_seen fun other hm => by
        rw [same other (List.mem_cons_of_mem _ hm)]
        exact List.mem_singleton_self _
    have once : distinct (first :: rest) = [first] := by
      rw [distinct, distinctFrom, repeated]
      rfl
    simp [reported, once, withoutGeneric, special]

theorem isGeneric_excluded (path : Path) : isGeneric ⟨.excluded, path⟩ = false := by
  have hone : (Reason.excluded.message == Reason.notExactlyOne.message) = false := by decide
  have hstart : missingStart.isPrefixOf Reason.excluded.message.toList = false := by decide
  simp [isGeneric, message, hone, hstart]

end Issue

/-- A value that is done unless there are issues, resolved as a whole. -/
theorem resolveValues_of_doneUnless {x : Json} {options : Options} {issues : List Issue}
    (h : resolveAt ⟨options, schema⟩ (wholeRequest schema (some x)) = Resolve.Step.doneUnless x issues) :
    resolveValues schema (some x) options =
      if issues = [] then .ok (.resolved (some x)) else reportedOutcome [] (.failed issues) := by
  rw [resolveValues_eq_reported, h]
  cases issues <;> rfl

/-- **An object is admitted exactly if some name of every list is missing**, by the resolver and by the
probe, and it comes out as it is.  However many lists are all there, one issue is reported. -/
theorem forbids_admits_iff {options : Options} (h : Forbids lists schema)
    (direct : options.accessor = .direct) (proper : (Json.obj vtag members).Proper) :
    let value : Json := .obj vtag members
    let free : Prop := ∀ names ∈ lists, ∃ name ∈ names, get? members name = none
    ((∃ w, resolveValues schema (some value) options = .ok (.resolved w)) ↔ free) ∧
      (∀ w, resolveValues schema (some value) options = .ok (.resolved w) → w = some value) ∧
      (validateValue (some value) schema options = .ok [] ↔ free) ∧
      (¬free → ∃ place found, found ≠ [] ∧
        resolveValues schema (some value) options = .ok (.failed [⟨.excluded, place⟩]) ∧
        validateValue (some value) schema options = .ok found) := by
  intro value free
  obtain ⟨place, resolution⟩ := h.resolve direct proper schema
  replace resolution := resolveValues_of_doneUnless resolution
  have probe : validateValue (some value) schema options = .ok _ :=
    h.issues direct options.currentPath
  have free_iff : complete members lists = [] ↔ free := complete_eq_nil_iff
  have found_iff (path : Path) :
      ((complete members lists).map fun _ => (⟨.excluded, path⟩ : Issue)) = [] ↔ free := by
    rw [List.map_eq_nil_iff, free_iff]
  have admitted (hfree : free) :
      resolveValues schema (some value) options = .ok (.resolved (some value)) := by
    rw [resolution, if_pos ((found_iff place).2 hfree)]
  have refused (hfull : ¬free) :
      resolveValues schema (some value) options = .ok (.failed [⟨.excluded, place⟩]) := by
    have found := mt (found_iff place).1 hfull
    rw [resolution, if_neg found, reportedOutcome, List.nil_append,
      Issue.reported_of_same found (by simp) (Issue.isGeneric_excluded place)]
  refine ⟨⟨?_, fun hfree => ⟨_, admitted hfree⟩⟩, ?_, ?_, fun hfull => ?_⟩
  · rintro ⟨w, hw⟩
    by_contra hfull
    rw [refused hfull] at hw
    cases hw
  · intro w hw
    by_cases hfree : free
    · rw [admitted hfree] at hw
      cases hw
      rfl
    · rw [refused hfree] at hw
      cases hw
  · rw [probe, Except.ok.injEq, found_iff]
  · exact ⟨place, _, mt (found_iff _).1 hfull, refused hfull, probe⟩

/-- The object lacks a name of each of two lists that overlap, but none of a third one: a null is there. -/
theorem forbids_admits_iff_overlapping :
    let members : Fields := [("a", .null), ("b", .num (.int 1))]
    let forbid (names : List String) : Json :=
      .obj none [("not", .obj none [("required", .arr none (names.map .str))])]
    let each (lists : List (List String)) : Json :=
      .obj none [("allOf", .arr none (lists.map forbid))]
    (∃ w, resolveValues (each [["a", "c"], ["b", "c"]]) (some (.obj none members)) .default =
        .ok (.resolved w)) ∧
      ¬∃ w, resolveValues (each [["a", "c"], ["b", "c"], ["a"]]) (some (.obj none members)) .default =
        .ok (.resolved w) := by
  intro members forbid each
  have proper : (Json.obj none members).Proper := by decide +kernel
  have forbids (lists : List (List String)) : Forbids lists (each lists) := by
    refine .each none none (List.forall₂_map_right_iff.2 (List.forall₂_same.2 fun names _ => ?_))
    exact ⟨none, none, none, rfl⟩
  have direct : Options.default.accessor = .direct := rfl
  have all_free := forbids_admits_iff (forbids [["a", "c"], ["b", "c"]]) direct proper
  have one_full := forbids_admits_iff (forbids [["a", "c"], ["b", "c"], ["a"]]) direct proper
  refine ⟨all_free.1.2 (by decide), fun h => ?_⟩
  exact absurd (one_full.1.1 h) (by decide)

end Conform
