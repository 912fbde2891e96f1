/-
# What a resolution that succeeds has noted

Notes are taken under a negation: where a negated schema admits the value it is resolved once more, only
to note which names it requires further down.  Such a resolution never comes to anything, for what follows
is the failure of the negation.  So a resolution that is itself not under a negation and succeeds should
have noted nothing, and every function of the resolution keeps to that but one: below the top, `object`
builds a missing object from nothing, and if that fails the object is left missing and the failure
forgotten.  The notes stay.

Hence the exact statement: the notes of a success are those of the failed attempts to build missing
objects, and of nothing else (`notes_of_resolved`).  Which attempts these can be is told by the schema, as
`Reaches` leads from it to whatever it asks for.

Issues are never taken back, so what ends without issues had none at any stage (`Accounted.bind`).  There is
one lemma for each function of the resolution, and each assumes of the further resolutions (`Hears`) what is
proved of a resolution.
-/
import Conform.Proofs.Asking
import Conform.Proofs.Deciding

namespace Conform.Resolve

open Fields (get?)
open Reference (Node)

variable {α β : Type} {Q : Run Outcome → Prop} {run : Run α} {next : α → Run β}

/-! ## 1. Notes and the runs that they are owed to -/

/-- **The notes are those of runs with the property**, one after the other. -/
def OwedTo (Q : Run Outcome → Prop) (notes : List Issue) : Prop :=
  ∃ runs : List (Run Outcome), (∀ run ∈ runs, Q run) ∧ notes = runs.flatMap (·.notes)

theorem owedTo_nil : OwedTo Q [] := ⟨[], by simp, rfl⟩

theorem OwedTo.append {notes notes' : List Issue} (h : OwedTo Q notes) (h' : OwedTo Q notes') :
    OwedTo Q (notes ++ notes') := by
  obtain ⟨runs, hr, rfl⟩ := h
  obtain ⟨runs', hr', rfl⟩ := h'
  refine ⟨runs ++ runs', fun run hm => ?_, List.flatMap_append.symm⟩
  exact (List.mem_append.1 hm).elim (hr run) (hr' run)

theorem owedTo_self {run : Run Outcome} (h : Q run) : OwedTo Q run.notes :=
  ⟨[run], by simpa using h, by simp⟩

theorem OwedTo.mono {Q' : Run Outcome → Prop} {notes : List Issue} (h : OwedTo Q notes)
    (hQ : ∀ run, Q run → Q' run) : OwedTo Q' notes := by
  obtain ⟨runs, hr, hn⟩ := h
  exact ⟨runs, fun run hm => hQ run (hr run hm), hn⟩

/-- **A run accounts for its notes**: if it ends well, they are owed to runs with the property. -/
def Accounted (Q : Run Outcome → Prop) (Good : α → Prop) (run : Run α) : Prop :=
  ∀ a, run.result = .ok a → Good a → OwedTo Q run.notes

/-- A run after a run that ends with a result adds what it notes from there. -/
theorem Run.bind_notes_of_ok {a : α} (h : run.result = .ok a) :
    (run >>= next).notes = run.notes ++ (next a).notes := by
  rcases run with ⟨result, notes⟩
  cases h
  rfl

section Accounted

variable {Good : α → Prop} {Better : β → Prop}

/-- A run that notes nothing has nothing to account for. -/
theorem accounted_of_notes (h : run.notes = []) : Accounted Q Good run :=
  fun _ _ _ => h ▸ owedTo_nil

theorem accounted_pure (a : α) : Accounted Q Good (pure a : Run α) := accounted_of_notes rfl

theorem accounted_fault (fault : Fault) : Accounted Q Good (Run.fault fault : Run α) :=
  accounted_of_notes rfl

theorem accounted_fail {Good : Outcome → Prop} (issues : List Issue) :
    Accounted Q Good (fail issues) := by
  unfold fail
  split
  · exact accounted_fault _
  · exact accounted_pure _

/-- **One run after another** accounts for its notes if both do, and what ends well after the first began
well. -/
theorem Accounted.bind (h : Accounted Q Good run)
    (hn : ∀ a, run.result = .ok a → Accounted Q Better (next a))
    (back : ∀ a b, run.result = .ok a → (next a).result = .ok b → Better b → Good a) :
    Accounted Q Better (run >>= next) := by
  intro b hr hb
  obtain ⟨a, ha, hb'⟩ := Run.bind_result_eq_ok.1 hr
  rw [Run.bind_notes_of_ok ha]
  exact (h a ha (back a b ha hb' hb)).append (hn a ha b hb' hb)

/-- A check before a run notes nothing. -/
theorem accounted_check {check : Except Fault α}
    (h : ∀ a, check = .ok a → Accounted Q Better (next a)) :
    Accounted Q Better (liftM check >>= next) := by
  have silent : Accounted Q (fun _ => True) (liftM check : Run α) := accounted_of_notes rfl
  exact silent.bind h fun _ _ _ _ _ => trivial

end Accounted

/-! ## 2. Schemas that a schema leads to -/

/-- **A further resolution that one leads to**, be it itself, told by the guard and the schema. -/
inductive Reaches (setting : Probe.Setting) : Guard → Node → Guard → Node → Prop
  | here {guard : Guard} {node : Node} : Reaches setting guard node guard node
  | further {guard guard' : Guard} {node node' next : Node} {extension : Path}
      (asked : Asked setting node extension next)
      (rest : Reaches setting (guard.enter extension) next guard' node') :
      Reaches setting guard node guard' node'

/-- The step at a schema with members where the object is missing. -/
def missingAt (setting : Probe.Setting) (guard : Guard) (tag : Tag) (fields : Fields)
    (parent key : Json) : Step :=
  ⟨setting, guard.path, tag, fields, none, parent, key, false,
    fun extension next => resolve setting (guard.enter extension) next⟩

/-- **A failed attempt to build a missing object** from nothing, below the top and somewhere in the
resolution of a schema. -/
inductive Discarded (setting : Probe.Setting) (guard : Guard) (node : Node) : Run Outcome → Prop
  | intro {guard' : Guard} {tag : Tag} {fields : Fields} {parent key : Json} {issues : List Issue}
      (reached : Reaches setting guard node guard' (.node (.obj tag fields)))
      (below : (missingAt setting guard' tag fields parent key).isRoot = false)
      (failed : ((missingAt setting guard' tag fields parent key).resolveMembers []).result =
        .ok (.failed issues)) :
      Discarded setting guard node ((missingAt setting guard' tag fields parent key).resolveMembers [])

/-- What is discarded in a further resolution is discarded in the one that asked for it. -/
theorem Discarded.of_asked {setting : Probe.Setting} {guard : Guard} {node next : Node}
    {extension : Path} {attempt : Run Outcome} (asked : Asked setting node extension next)
    (h : Discarded setting (guard.enter extension) next attempt) :
    Discarded setting guard node attempt := by
  obtain ⟨reached, below, failed⟩ := h
  exact ⟨.further asked reached, below, failed⟩

/-! ## 3. Steps -/

/-- The outcome is no failure. -/
def Succeeds (outcome : Outcome) : Prop := outcome.issues = []

/-- **What may be asked for accounts for its notes**, unless it is under a negation. -/
def Hears (Allowed : Path → Node → Prop) (Q : Run Outcome → Prop) (again : Again) : Prop :=
  ∀ extension request, Allowed extension request.schema → request.negated = false →
    Accounted Q Succeeds (again extension request)

variable {Allowed : Path → Node → Prop} {step : Step}

theorem Hears.mono {Fewer : Path → Node → Prop} {again : Again} (heard : Hears Allowed Q again)
    (h : ∀ extension node, Fewer extension node → Allowed extension node) : Hears Fewer Q again :=
  fun extension request asked => heard extension request (h _ _ asked)

namespace Step

/-! ## 4. Objects -/

/-- Issues found on the way are there in the end, and so are those of one outcome among them. -/
theorem succeeds_of_take {b b' : Built} {name : String} {outcome : Outcome}
    (h : (b.take name outcome).Grows b') (hb : b'.issues = []) : Succeeds outcome := by
  have hi := h.issues_eq_nil hb
  cases outcome with
  | failed issues => exact (List.append_eq_nil_iff.1 hi).2
  | resolved value => rfl

/-- **What an object has noted that comes out**: what was noted at each of its stages. -/
theorem Passage.notes {value : Fields} (c : Passage step value) (plain : step.negated = false) :
    (step.resolveMembers value).notes =
      (step.resolveProperties c.working c.missing c.properties ⟨[], []⟩).notes ++
        ((step.resolveDependents c.working c.dependents
            ⟨Fields.union c.declared.members (otherMembers c.properties c.working), []⟩).notes ++
          ((step.resolvePatterns c.properties (Fields.names c.followed.members) c.followed).notes ++
            (step.resolveAllAdditional c.working c.matched).notes)) := by
  have reported : Built.report ⟨Fields.union c.declared.members (otherMembers c.properties c.working),
      c.declared.issues⟩ [] =
        ⟨Fields.union c.declared.members (otherMembers c.properties c.working), []⟩ := by
    rw [c.declared_issues]
    rfl
  have declares := c.declares
  rw [c.reported plain] at declares
  unfold resolveMembers
  rw [Run.lift_bind_of_ok c.size_eq, Run.lift_bind_of_ok c.required_eq,
    Run.lift_bind_of_ok c.working_eq, Run.lift_bind_of_ok c.missing_eq]
  simp only [plain, c.reported plain, Bool.false_eq_true, if_false, List.map_nil, List.append_nil]
  rw [Run.lift_bind_of_ok c.properties_eq,
    Run.bind_notes_of_ok (resolveProperties_result.2 declares),
    Run.lift_bind_of_ok c.dependent_eq, Run.lift_bind_of_ok c.dependents_eq, reported,
    Run.bind_notes_of_ok (resolveDependents_result.2 c.follows),
    Run.bind_notes_of_ok (resolvePatterns_result.2 c.matches_),
    Run.bind_notes_of_ok (resolveAllAdditional_result.2 c.adds),
    Run.lift_bind_of_ok c.names_eq, Built.report, c.final_issues]
  exact congrArg _ (congrArg _ (congrArg _ (List.append_nil _)))

section Objects

variable (heard : Hears (Enters step.setting step.fields) Q step.again) (plain : step.negated = false)

include heard plain

theorem accounted_descend (key : Json) (node : Node) (value : Option Json)
    (asked : Enters step.setting step.fields [key.plain] node) :
    Accounted Q Succeeds (step.descend key node value) := heard _ _ asked plain

theorem accounted_resolveProperties (working : Fields) (missing : List Json) {properties : Fields}
    (asked : ∀ name s, (name, s) ∈ properties → Enters step.setting step.fields [name] (.node s))
    (b : Built) :
    Accounted Q (·.issues = []) (step.resolveProperties working missing properties b) := by
  induction properties generalizing b with
  | nil => exact accounted_pure _
  | cons property rest ih =>
    have later := ih fun name s hs => asked name s (List.mem_cons_of_mem _ hs)
    rw [resolveProperties]
    split
    · exact later b
    · refine accounted_check fun found _ => ?_
      refine (accounted_descend heard plain (.str _) _ _ (asked _ _ (List.mem_cons_self ..))).bind
        (fun outcome _ => later _) fun outcome b' _ hb hi => ?_
      have grows := Built.grows_of_chain (resolveProperties_result.1 hb) fun _ _ _ =>
        TakesProperty.grows
      exact succeeds_of_take grows hi

theorem accounted_resolveDependents (working : Fields) {dependents : Fields}
    (asked : ∀ name s, (name, s) ∈ dependents → Enters step.setting step.fields [] (.node s))
    (b : Built) :
    Accounted Q (·.issues = []) (step.resolveDependents working dependents b) := by
  induction dependents generalizing b with
  | nil => exact accounted_pure _
  | cons dependent rest ih =>
    have later := ih fun name s hs => asked name s (List.mem_cons_of_mem _ hs)
    refine accounted_check fun found _ => ?_
    cases found with
    | none => exact later b
    | some found =>
      refine (heard [] _ (asked _ _ (List.mem_cons_self ..)) plain).bind (fun outcome _ => ?_)
        fun outcome b' _ hb hi => ?_
      · split <;> exact later _
      · cases outcome with
        | resolved value => rfl
        | failed issues =>
          have grows := Built.grows_of_chain (resolveDependents_result.1 hb) fun _ _ _ =>
            TakesDependent.grows
          exact (List.append_eq_nil_iff.1 (grows.issues_eq_nil hi)).2

theorem accounted_resolveMatching (name : String) {patterns : Fields}
    (asked : ∀ pattern s, (pattern, s) ∈ patterns →
      Enters step.setting step.fields [name] (.node s)) (b : Built) :
    Accounted Q (·.issues = []) (step.resolveMatching name patterns b) := by
  induction patterns generalizing b with
  | nil => exact accounted_pure _
  | cons pattern rest ih =>
    have later := ih fun pattern s hs => asked pattern s (List.mem_cons_of_mem _ hs)
    refine accounted_check fun fits _ => ?_
    split
    · refine (accounted_descend heard plain (.str _) _ _ (asked _ _ (List.mem_cons_self ..))).bind
        (fun outcome _ => later _) fun outcome b' _ hb hi => ?_
      have grows := Built.grows_of_chain (resolveMatching_result.1 hb) fun _ _ _ =>
        TakesPattern.grows
      exact succeeds_of_take grows hi
    · exact later b

theorem accounted_resolvePatterns (properties : Fields) (names : List String) (b : Built) :
    Accounted Q (·.issues = []) (step.resolvePatterns properties names b) := by
  induction names generalizing b with
  | nil => exact accounted_pure _
  | cons name rest ih =>
    rw [resolvePatterns]
    split
    · exact ih b
    · refine accounted_check fun patterns hp => ?_
      have asked : ∀ pattern s, (pattern, s) ∈ patterns →
          Enters step.setting step.fields [name] (.node s) := by
        intro pattern s hs
        obtain ⟨tag, hx⟩ := Ready.mem_tableOrEmpty hp hs
        exact .tabled (by simp) hx hs
      refine (accounted_resolveMatching heard plain name asked b).bind (fun b _ => ih b)
        fun b b' _ hb => Built.Grows.issues_eq_nil ?_
      exact Built.grows_of_chain (resolvePatterns_result.1 hb) fun _ _ _ => TakesName.grows

theorem accounted_resolveUncovered {additional : Json}
    (ha : get? step.fields "additionalProperties" = some additional) (name : String) (b : Built) :
    Accounted Q (·.issues = []) (step.resolveUncovered additional name b) := by
  unfold resolveUncovered
  split
  · exact accounted_pure _
  · refine accounted_check fun target ht => ?_
    cases target with
    | none => exact accounted_check fun reason _ => accounted_pure _
    | some node =>
      refine (accounted_descend heard plain (.str name) node _ (.additional ha ht)).bind
        (fun outcome _ => accounted_pure _) fun outcome b' _ hb hi => ?_
      cases hb
      exact succeeds_of_take (.refl _) hi

theorem accounted_resolveAdditional (working : Fields) {additional : Json}
    (ha : get? step.fields "additionalProperties" = some additional) (names : List String)
    (b : Built) :
    Accounted Q (·.issues = []) (step.resolveAdditional working additional names b) := by
  induction names generalizing b with
  | nil => exact accounted_pure _
  | cons name rest ih =>
    rw [resolveAdditional]
    split
    · exact ih b
    · refine accounted_check fun uncovered _ => ?_
      have back : ∀ b b' : Built, (step.resolveAdditional working additional rest b).result = .ok b' →
          b'.issues = [] → b.issues = [] := fun b b' hb =>
        (Built.grows_of_chain (resolveAdditional_result.1 hb) fun _ _ _ =>
          TakesAdditional.grows).issues_eq_nil
      split
      · exact (accounted_resolveUncovered heard plain ha name b).bind (fun b _ => ih b)
          fun b b' _ => back b b'
      · exact ih b

theorem accounted_resolveAllAdditional (working : Fields) (b : Built) :
    Accounted Q (·.issues = []) (step.resolveAllAdditional working b) := by
  unfold resolveAllAdditional
  split
  · exact accounted_pure _
  · exact accounted_pure _
  · exact accounted_pure _
  · next ha => exact accounted_resolveAdditional heard plain working ha _ b

/-- **An object that comes out** has passed all its stages without an issue. -/
theorem accounted_resolveMembers (value : Fields) : Accounted Q Succeeds (step.resolveMembers value) := by
  intro outcome hr hc
  cases outcome with
  | failed issues =>
    obtain rfl : issues = [] := hc
    exact absurd hr honest_resolveMembers
  | resolved w =>
    obtain ⟨c, -⟩ := exists_passage hr
    have declared := resolveProperties_result.2 c.declares
    have followed := resolveDependents_result.2 c.follows
    have matched := resolvePatterns_result.2 c.matches_
    have added := resolveAllAdditional_result.2 c.adds
    have properties : OwedTo Q (step.resolveProperties c.working c.missing c.properties ⟨[], []⟩).notes :=
      accounted_resolveProperties heard plain _ _ (fun name s hs => by
        obtain ⟨tag, hx⟩ := Ready.mem_tableOrEmpty c.properties_eq hs
        exact .tabled (by simp) hx hs) _ _ declared c.declared_issues
    have dependents := accounted_resolveDependents heard plain c.working (fun name s hs => by
      obtain ⟨tag, hx⟩ := Ready.mem_tableOrEmpty c.dependents_eq hs
      exact .dependent hx hs) _ _ followed c.followed_issues
    have patterns := accounted_resolvePatterns heard plain c.properties _ _ _ matched c.matched_issues
    have additional := accounted_resolveAllAdditional heard plain c.working _ _ added c.final_issues
    rw [c.notes plain]
    exact properties.append (dependents.append (patterns.append additional))

end Objects

/-! ## 5. Types -/

/-- A step that is to build a missing object below the top and fails to is one of those runs. -/
def Discards (step : Step) (Q : Run Outcome → Prop) : Prop :=
  step.value = none → step.isRoot = false → ∀ issues,
    (step.resolveMembers []).result = .ok (.failed issues) → Q (step.resolveMembers [])

theorem accounted_missing (atRoot : Option Json) : Accounted Q Succeeds (step.missing atRoot) := by
  refine accounted_check fun required _ => ?_
  split
  · exact accounted_fail _
  · exact accounted_pure _

theorem accounted_doneUnless (value : Json) (issues : List Issue) :
    Accounted Q Succeeds (doneUnless value issues) := by
  unfold doneUnless
  split
  · exact accounted_pure _
  · exact accounted_fail _

/-- Items that leave no issue in the end left none on the way. -/
theorem items_issues_eq_nil {entries : List (Json × Nat)} {b b' : BuiltItems}
    (h : Chain (fun entry => step.TakesItem entry.2 entry.1) entries b b') (hb : b'.issues = []) :
    b.issues = [] := by
  induction h with
  | nil => exact hb
  | @cons entry entries b t b' first _ ih =>
    have ht := ih hb
    cases first with
    | kept => exact ht
    | forbidden | probed => exact (List.append_eq_nil_iff.1 ht).1
    | @resolved _ outcome =>
      cases outcome with
      | failed issues => exact (List.append_eq_nil_iff.1 ht).1
      | resolved value => exact ht

section Typed

variable (heard : Hears (Enters step.setting step.fields) Q step.again) (plain : step.negated = false)

include heard plain

theorem accounted_resolveItem (i : Nat) (item : Json) (b : BuiltItems) :
    Accounted Q (·.issues = []) (step.resolveItem i item b) := by
  unfold resolveItem
  split
  · exact accounted_pure _
  · exact accounted_pure _
  · exact accounted_pure _
  · next hs =>
    split
    · exact accounted_check fun issues _ => accounted_pure _
    · refine (heard [Nat.repr i] _ (.item hs) plain).bind (fun outcome _ => ?_)
        fun outcome b' _ hb hi => ?_
      · split <;> exact accounted_pure _
      · cases outcome with
        | resolved value => rfl
        | failed issues =>
          cases hb
          exact (List.append_eq_nil_iff.1 hi).2

theorem accounted_resolveItems (i : Nat) (items : List Json) (b : BuiltItems) :
    Accounted Q (·.issues = []) (step.resolveItems i items b) := by
  induction items generalizing i b with
  | nil => exact accounted_pure _
  | cons item rest ih =>
    exact (accounted_resolveItem heard plain i item b).bind (fun b _ => ih _ b)
      fun b b' _ hb => items_issues_eq_nil (resolveItems_result.1 hb)

theorem accounted_array : Accounted Q Succeeds step.array := by
  unfold array
  split
  · exact accounted_missing _
  · refine accounted_check fun whole _ => ?_
    split
    · exact accounted_fail _
    · refine (accounted_resolveItems heard plain 0 _ _).bind (fun b _ => ?_) fun b outcome _ hb hc => ?_
      · split
        · exact accounted_pure _
        · exact accounted_fail _
      · split at hb
        · next he => exact List.isEmpty_iff.1 he
        · obtain ⟨-, rfl⟩ := fail_result.1 hb
          exact hc
  · exact accounted_fail _

/-- **Where an object is built from nothing and that fails**, the failure is forgotten and the notes are
kept. -/
theorem accounted_object (discards : step.Discards Q) : Accounted Q Succeeds step.object := by
  unfold object
  split
  · next hv =>
    refine accounted_check fun required _ => ?_
    split
    · exact accounted_fail _
    · intro ended hr hc
      obtain ⟨outcome, ho, he⟩ := Run.bind_result_eq_ok.1 hr
      have silent : (if step.isRoot || Outcome.holdsMembers outcome then pure outcome
          else done none : Run Outcome).notes = [] := by split <;> rfl
      rw [Run.bind_notes_of_ok ho, silent, List.append_nil]
      by_cases failed : Succeeds outcome
      · exact accounted_resolveMembers heard plain [] outcome ho failed
      · cases outcome with
        | resolved value => exact absurd rfl failed
        | failed issues =>
          cases below : step.isRoot with
          | true =>
            rw [below] at he
            cases he
            exact absurd hc failed
          | false => exact owedTo_self (discards hv below issues ho)
  · exact accounted_resolveMembers heard plain _
  · exact accounted_fail _

theorem accounted_ofKind (discards : step.Discards Q) (kind : Kind) :
    Accounted Q Succeeds (step.ofKind kind) := by
  cases kind with
  | null | boolean =>
    simp only [ofKind, null, boolean]
    split
    · exact accounted_pure _
    · exact accounted_pure _
    · exact accounted_fail _
  | number | integer =>
    simp only [ofKind, number]
    split
    · exact accounted_missing _
    · exact accounted_doneUnless _ _
  | string =>
    simp only [ofKind, string]
    split
    · exact accounted_missing _
    · exact accounted_check fun issues _ => accounted_doneUnless _ _
  | array => exact accounted_array heard plain
  | object => exact accounted_object heard plain discards

theorem accounted_typed (discards : step.Discards Q) : Accounted Q Succeeds step.typed := by
  unfold typed
  split
  · split
    · exact accounted_pure _
    · exact accounted_ofKind heard plain discards _
  · unfold ofType
    split
    · split
      · exact accounted_ofKind heard plain discards _
      · exact accounted_fail _
    · split
      · exact accounted_fault _
      · exact accounted_fail _
  · unfold ofTypes
    split
    · exact accounted_missing _
    · next x hv =>
      split
      · exact accounted_check fun names _ => accounted_fail _
      · -- only a value that is there has a type of several to be resolved by
        next kind _ =>
        have present : Discards
            { step with tag := none, fields := Schema.restrict step.fields (.str kind.name) } Q :=
          fun hn => nomatch hv.symm.trans hn
        refine accounted_ofKind ?_ ?_ present kind
        · exact heard.mono fun _ _ h => h.restrict
        · exact plain

end Typed

/-! ## 6. Conditions and compositions -/

section Composed

variable (heard : Hears (Asks step.setting step.fields) Q step.again) (plain : step.negated = false)

include heard plain

theorem accounted_redirect {schema : Json} (asked : Asks step.setting step.fields [] (.node schema)) :
    Accounted Q Succeeds (step.redirect schema) := heard _ _ asked plain

theorem accounted_conditional {condition : Json} (hc : get? step.fields "if" = some condition) :
    Accounted Q Succeeds (step.conditional condition) := by
  have rest : Asks step.setting step.fields [] (.node (step.without ["if", "then", "else"])) :=
    .rest (by simp [peeled]) hc
  refine accounted_check fun met _ => ?_
  have either : (if met then "then" else "else") ∈ ["then", "else"] := by cases met <;> simp
  split
  · exact accounted_redirect heard plain rest
  · exact accounted_redirect heard plain rest
  · next hb =>
    exact accounted_check fun _ hm => accounted_redirect heard plain (.chosen hc either hb hm)

theorem accounted_flatten {members : List Json}
    (asked : ∀ member ∈ members, Asks step.setting step.fields ["allOf"] (.node member))
    (flat : Flattened) :
    Accounted Q (fun ended => ∃ flat, ended = .ok flat ∧ flat.issues = []) (step.flatten members flat) := by
  induction members generalizing flat with
  | nil => exact accounted_pure _
  | cons member rest ih =>
    obtain ⟨first, others⟩ := List.forall_mem_cons.1 asked
    have merging : ∀ flat, Accounted Q (fun ended => ∃ flat, ended = .ok flat ∧ flat.issues = [])
        (step.mergeMember (mergedPart member) rest flat) := by
      intro flat
      unfold mergeMember
      split
      · exact ih others _
      · exact accounted_pure _
      · exact accounted_fault _
    rw [flatten_cons]
    split
    · have resolving : Accounted Q (·.issues = []) (step.resolveMember flat member) := by
        refine (heard ["allOf"] _ first plain).bind (fun outcome _ => ?_) fun outcome flat' _ hf hi => ?_
        · split <;> exact accounted_pure _
        · cases outcome with
          | resolved value => rfl
          | failed issues =>
            cases hf
            exact (List.append_eq_nil_iff.1 hi).2
      refine resolving.bind (fun flat _ => merging flat) ?_
      rintro flat _ - hf ⟨flat', rfl, hi⟩
      obtain ⟨merged, -, hf⟩ := mergeMember_result.1 hf
      exact (spec_of_chain (flatten_result.1 hf)).2 hi
    · rw [pure_bind]
      exact merging flat

theorem accounted_allOf {members : Json} (hm : get? step.fields "allOf" = some members) :
    Accounted Q Succeeds (step.allOf members) := by
  refine accounted_check fun entries he => ?_
  refine (accounted_flatten heard plain (fun member => .member hm he) _).bind (fun ended hf => ?_) ?_
  · split
    · exact accounted_fail _
    · next flat =>
      have asked : Asks step.setting step.fields [] (.node flat.merged) :=
        .flattened hm he (mergedAll_of_chain (flatten_result.1 hf))
      refine (heard [] _ asked plain).bind (fun outcome _ => ?_) fun outcome ended _ hr hc => ?_
      · split
        · exact accounted_fail _
        · split
          · exact accounted_pure _
          · refine accounted_check fun issues _ => ?_
            split
            · exact accounted_pure _
            · exact accounted_fail _
      · cases outcome with
        | resolved value => rfl
        | failed issues =>
          split at hr
          · next hi =>
            obtain ⟨-, rfl⟩ := fail_result.1 hr
            exact (List.append_eq_nil_iff.1 hc).2
          · cases hr
            exact hc
  · rintro ended outcome - hr hc
    cases ended with
    | error issues =>
      obtain ⟨hi, rfl⟩ := fail_result.1 hr
      exact absurd hc hi
    | ok flat =>
      refine ⟨flat, rfl, List.isEmpty_iff.1 ?_⟩
      obtain ⟨inner, -, hr⟩ := Run.bind_result_eq_ok.1 hr
      split at hr
      · next hi =>
        obtain ⟨hn, rfl⟩ := fail_result.1 hr
        exact absurd hc hn
      · next hi => simpa using hi

theorem accounted_anyOf {branches : Json} (hb : get? step.fields "anyOf" = some branches) :
    Accounted Q Succeeds (step.anyOf branches) := by
  have rest : Asks step.setting step.fields [] (.node (step.without ["anyOf"])) :=
    .rest (by simp [peeled]) hb
  simp only [anyOf]
  split
  · exact accounted_redirect heard plain rest
  · refine accounted_check fun entries _ => accounted_check fun found _ => ?_
    split
    · exact accounted_redirect heard plain rest
    · split
      · exact accounted_pure _
      · exact accounted_fail _

theorem accounted_oneOf {branches : Json} (hb : get? step.fields "oneOf" = some branches) :
    Accounted Q Succeeds (step.oneOf branches) := by
  simp only [oneOf]
  split
  · exact accounted_redirect heard plain (.rest (by simp [peeled]) hb)
  · refine accounted_check fun entries he => accounted_check fun outcomes _ => ?_
    split
    · next branch hp =>
      have passes : branch ∈ entries := mem_of_mem_passingBranches (hp ▸ List.mem_singleton_self branch)
      split
      · next hm => exact accounted_redirect heard plain (.selected hb he passes hm)
      · exact accounted_fail _
      · exact accounted_fault _
    · exact accounted_pure _
    · split
      · exact accounted_fail _
      · unfold noneOfOne
        split <;> exact accounted_fail _
    · exact accounted_fail _

/-- **What is resolved under a negation never comes to anything**, so its notes are not to be accounted
for. -/
theorem accounted_not {negated : Json} (hn : get? step.fields "not" = some negated) :
    Accounted Q Succeeds (step.not negated) := by
  have rest : Asks step.setting step.fields [] (.node (step.without ["not"])) :=
    .rest (by simp [peeled]) hn
  have failing : Accounted Q Succeeds (step.failBelow "not" .excluded) := accounted_fail _
  simp only [not]
  split
  · exact accounted_redirect heard plain rest
  · refine accounted_check fun issues _ => ?_
    split
    · split
      · intro outcome hr hc
        obtain ⟨_, -, hr⟩ := Run.bind_result_eq_ok.1 hr
        obtain ⟨hi, rfl⟩ := fail_result.1 hr
        exact absurd hc hi
      · exact failing
    · exact accounted_redirect heard plain rest

theorem accounted_dispatch (discards : step.Discards Q) : Accounted Q Succeeds step.dispatch := by
  unfold dispatch
  match hc : get? step.fields "if", hm : get? step.fields "allOf", ha : get? step.fields "anyOf",
      ho : get? step.fields "oneOf", hn : get? step.fields "not" with
  | some condition, _, _, _, _ => exact accounted_conditional heard plain hc
  | none, some members, _, _, _ => exact accounted_allOf heard plain hm
  | none, none, some branches, _, _ => exact accounted_anyOf heard plain ha
  | none, none, none, some branches, _ => exact accounted_oneOf heard plain ho
  | none, none, none, none, some negated => exact accounted_not heard plain hn
  | none, none, none, none, none =>
    exact accounted_typed (heard.mono fun _ _ => .entered) plain discards

theorem accounted_run (discards : Discards { step with value := step.filled } Q) :
    Accounted Q Succeeds step.run := by
  refine accounted_check fun issues _ => ?_
  split
  · refine accounted_dispatch ?_ ?_ discards
    · exact heard
    · exact plain
  · exact accounted_fail _

end Composed

end Step

/-! ## 7. The resolution -/

/-- **A resolution that is not under a negation accounts for its notes**: where it ends without issues
they are those of failed attempts to build missing objects. -/
theorem accounted_resolve (setting : Probe.Setting) (guard : Guard) (request : Request)
    (plain : request.negated = false) :
    Accounted (Discarded setting guard request.schema) Succeeds (resolve setting guard request) := by
  rw [resolve]
  split
  · exact accounted_fail _
  · next shallow =>
    obtain ⟨node, value, parent, key, negated⟩ := request
    have heard : Hears (Asked setting node) (Discarded setting guard node)
        fun extension next => resolve setting (guard.enter extension) next := by
      intro extension next asked hn outcome hr hc
      exact (accounted_resolve setting (guard.enter extension) next hn outcome hr hc).mono
        fun _ => Discarded.of_asked asked
    unfold resolveStep
    split
    · exact accounted_pure _
    · exact accounted_pure _
    · split
      · exact accounted_pure _
      · exact accounted_fail _
    · next tag fields hs =>
      obtain rfl : node = .node (.obj tag fields) := hs
      obtain rfl : negated = false := plain
      let step : Step := ⟨setting, guard.path, tag, fields, value, parent, key, false,
        fun extension next => resolve setting (guard.enter extension) next⟩
      have discards : Step.Discards { step with value := step.filled }
          (Discarded setting guard (.node (.obj tag fields))) := by
        intro missing below issues failed
        have same : { step with value := step.filled } =
            missingAt setting guard tag fields parent key := by
          rw [show step.filled = none from missing]
          rfl
        rw [same] at below failed ⊢
        exact .intro .here below failed
      exact Step.accounted_run (heard.mono fun _ _ h => ⟨tag, fields, rfl, h⟩) rfl discards
    · exact accounted_fault _
    · exact accounted_fault _
termination_by guard.rank
decreasing_by exact Guard.rank_enter_lt ‹_› extension

/-- **A resolution that succeeds has noted nothing but what failed attempts to build missing objects
noted**: for every schema, value and place, provided that it is not itself under a negation. -/
theorem notes_of_resolved {setting : Probe.Setting} {guard : Guard} {request : Request}
    {w : Option Json} (plain : request.negated = false)
    (resolved : (resolve setting guard request).result = .ok (.resolved w)) :
    ∃ attempts : List (Run Outcome),
      (∀ attempt ∈ attempts, Discarded setting guard request.schema attempt) ∧
      (resolve setting guard request).notes = attempts.flatMap (·.notes) :=
  accounted_resolve setting guard request plain _ resolved rfl

/-- An object is to be built whose member has a default that is excluded: the negated schema admits it,
and requires a name further down. -/
def forgetful : Json :=
  let inner : Json := .obj none [("type", .str "object"), ("required", .arr none [.str "z"])]
  let negated : Json := .obj none [("required", .arr none []), ("properties", .obj none [("y", inner)])]
  let member : Json := .obj none [("default", .obj none []), ("not", negated)]
  .obj none [("properties", .obj none [("o", .obj none [("properties", .obj none [("a", member)])])])]

/-- The object stays missing, and what was noted on the way is still there. -/
theorem notes_of_resolved_forgetful :
    let setting : Probe.Setting := ⟨.default, .null⟩
    let run := resolve setting (Guard.atStart [])
      ⟨.node forgetful, some (.obj none []), .null, .null, false⟩
    run.result = .ok (.resolved (some (.obj none []))) ∧
      run.notes = [⟨.missing "z", ["o", "a", "not", "y", "z"]⟩] ∧
      ∃ attempts : List (Run Outcome), attempts ≠ [] ∧
        (∀ attempt ∈ attempts, Discarded setting (Guard.atStart []) (.node forgetful) attempt) ∧
        run.notes = attempts.flatMap (·.notes) := by
  have resolved : (resolve ⟨.default, .null⟩ (Guard.atStart [])
      ⟨.node forgetful, some (.obj none []), .null, .null, false⟩).result =
        .ok (.resolved (some (.obj none []))) := by
    decide +kernel
  have noted : (resolve ⟨.default, .null⟩ (Guard.atStart [])
      ⟨.node forgetful, some (.obj none []), .null, .null, false⟩).notes =
        [⟨.missing "z", ["o", "a", "not", "y", "z"]⟩] := by
    decide +kernel
  obtain ⟨attempts, discarded, owed⟩ := notes_of_resolved rfl resolved
  refine ⟨resolved, noted, attempts, ?_, discarded, owed⟩
  rintro rfl
  rw [noted] at owed
  cases owed

end Conform.Resolve
