/-
# The resolver does what the resolution says

`Performs` ties the work of a resolver that keeps its place in stacks to a run that is told its place:
from any state at a place the work ends as the run does, the notes of the run are added to those there
are, and the resolver stands where it stood.  Whatever is entered on the way is entered at a place with
a property of one's choice, `Q`, so that the same walk through the resolver also carries what is to be
known of the stacks at each of its calls.

There is one lemma for each function of the resolver.  Their only assumption is about the calls to
itself (`Answers`): asked at a place below, for a schema that the step asks for, the resolver does what
the step is told of the further request.  `exists_performs` closes the recursion for any stacks at all,
and `performs_resolve` for those that a guard describes; there the resolver does what `Resolve.resolve`
does.
-/
import Conform.Proofs.Asking
import Conform.Proofs.Resolver
import Mathlib.Tactic.Choose

namespace Conform.Resolver

open Resolve
open Probe (Check)

variable {α β : Type} {Q : Place → Prop} {place : Place}

/-! ## 1. Work and runs -/

/-- **The work does what the run does**, from every state at the place, and leaves the place as it was.
Every entry on the way is at a place with the property. -/
def Performs (Q : Place → Prop) (place : Place) (work : Work α) (run : Run α) : Prop :=
  ∀ s : State, s.toPlace = place → ∃ entries : List Place, (∀ entry ∈ entries, Q entry) ∧
    work s = (run.result,
      { s with notes := s.notes ++ run.notes, entered := s.entered ++ entries })

theorem performs_ofRun (run : Run α) : Performs Q place (Work.ofRun run) run :=
  fun s _ => ⟨[], by simp, by simp [Work.ofRun]⟩

theorem performs_pure (a : α) : Performs Q place (pure a : Work α) (pure a : Run α) :=
  fun s _ => ⟨[], by simp, by simp [pure, Work.pure, Run.pure]⟩

/-- What comes after work is done for a result that the work ends with. -/
theorem Performs.bind_ok {work : Work α} {run : Run α} {next : α → Work β} {next' : α → Run β}
    (h : Performs Q place work run)
    (hn : ∀ a, run.result = .ok a → Performs Q place (next a) (next' a)) :
    Performs Q place (work >>= next) (run >>= next') := by
  intro s hs
  obtain ⟨entries, hq, hw⟩ := h s hs
  rcases run with ⟨fault | a, notes⟩
  · exact ⟨entries, hq, by simp [Bind.bind, Work.bind, Run.bind, hw]⟩
  · obtain ⟨more, hm, hb⟩ := hn a rfl
      { s with notes := s.notes ++ notes, entered := s.entered ++ entries } hs
    refine ⟨entries ++ more, ?_, ?_⟩
    · intro entry he
      exact (List.mem_append.1 he).elim (hq entry) (hm entry)
    · simp [Bind.bind, Work.bind, Run.bind, hw, hb]

theorem Performs.bind {work : Work α} {run : Run α} {next : α → Work β} {next' : α → Run β}
    (h : Performs Q place work run) (hn : ∀ a, Performs Q place (next a) (next' a)) :
    Performs Q place (work >>= next) (run >>= next') := h.bind_ok fun a _ => hn a

/-- **Work at a place below** is work there, and the way back leads to where it began. -/
theorem Performs.inside {segments : Path} {work : Work α} {run : Run α}
    (h : Performs Q { place with path := place.path ++ segments } work run) :
    Performs Q place (inside segments work) run := by
  rintro s rfl
  obtain ⟨entries, hq, hw⟩ := h { s with path := s.path ++ segments } rfl
  exact ⟨entries, hq, by simp [Resolver.inside, hw]⟩

/-- Work under a further resolution. -/
theorem Performs.framed {work : Work α} {run : Run α}
    (h : Performs Q { place with levels := place.levels ++ [place.path.length] } work run) :
    Performs Q place (framed work) run := by
  rintro s rfl
  obtain ⟨entries, hq, hw⟩ := h { s with levels := s.levels ++ [s.path.length] } rfl
  exact ⟨entries, hq, by simp [Resolver.framed, hw]⟩

/-- Where the resolver stands is known. -/
theorem performs_here {next : Place → Work β} {run : Run β} (h : Performs Q place (next place) run) :
    Performs Q place (here >>= next) run := by
  rintro s rfl
  exact h s rfl

theorem performs_check_ok {check : Check α} {next : α → Work β} {next' : α → Run β}
    (h : ∀ a, check = .ok a → Performs Q place (next a) (next' a)) :
    Performs Q place (liftM check >>= next) (liftM check >>= next') :=
  (performs_ofRun _).bind_ok h

theorem performs_check {check : Check α} {next : α → Work β} {next' : α → Run β}
    (h : ∀ a, Performs Q place (next a) (next' a)) :
    Performs Q place (liftM check >>= next) (liftM check >>= next') :=
  performs_check_ok fun a _ => h a

theorem performs_ite {c : Prop} [Decidable c] {work work' : Work α} {run run' : Run α}
    (h : Performs Q place work run) (h' : Performs Q place work' run') :
    Performs Q place (if c then work else work') (if c then run else run') := by
  split
  · exact h
  · exact h'

/-! ## 2. Steps -/

/-- The step stands where the resolver does. -/
structure Stands (step : Step) (place : Place) : Prop where
  path : place.path = step.path
  root : place.root = step.setting.root

theorem performs_seen {step : Step} {next : Step → Work β} {run : Run β}
    (h : Performs Q place
      (next { step with path := place.path, setting := { step.setting with root := place.root } })
      run) : Performs Q place (seen step >>= next) run := by
  rintro s rfl
  exact h s rfl

/-- **A step at the place of the resolver is seen as it is.** -/
theorem Stands.seen {step : Step} (h : Stands step place) {next : Step → Work β} {run : Run β}
    (hn : Performs Q place (next step) run) : Performs Q place (seen step >>= next) run := by
  refine performs_seen ?_
  rwa [h.path, h.root]

/-- From a place below, a step is seen at that place. -/
theorem Stands.seen_below {step : Step} (h : Stands step place) {segments : Path}
    {next : Step → Work β} {run : Run β}
    (hn : Performs Q { place with path := place.path ++ segments }
      (next { step with path := step.path ++ segments }) run) :
    Performs Q { place with path := place.path ++ segments } (Resolver.seen step >>= next) run := by
  refine performs_seen ?_
  simpa only [h.path, h.root] using hn

/-- **The resolver answers for further resolutions**: asked at a place below, for a schema that may be
asked for there, it does what a step is told of the request. -/
def Answers (Allowed : Path → Reference.Node → Prop) (Q : Place → Prop) (place : Place)
    (ask : Request → Work Outcome) (again : Again) : Prop :=
  ∀ extension request, Allowed extension request.schema →
    Performs Q { place with path := place.path ++ extension } (ask request) (again extension request)

variable {Allowed : Path → Reference.Node → Prop} {ask : Request → Work Outcome} {again : Again}
  {step : Step}

theorem Answers.mono {Fewer : Path → Reference.Node → Prop} (answers : Answers Allowed Q place ask again)
    (h : ∀ extension node, Fewer extension node → Allowed extension node) :
    Answers Fewer Q place ask again :=
  fun extension request asked => answers extension request (h _ _ asked)

/-- Asked at its own place, the resolver does what the step is told. -/
theorem Answers.here (answers : Answers Allowed Q place ask again) (request : Request)
    (asked : Allowed [] request.schema) : Performs Q place (ask request) (again [] request) := by
  simpa using answers [] request asked

/-- The step that is told of further resolutions. -/
def told (step : Step) (again : Again) : Step := { step with again := again }

theorem told_probeBranches (value : Json) (branches : List Json) (found : List Issue) :
    (told step again).probeBranches value branches found =
      step.probeBranches value branches found := by
  induction branches generalizing found with
  | nil => rfl
  | cons branch rest ih =>
    simp only [Step.probeBranches, ih]
    rfl

theorem told_branchIssues (value : Json) (branches : List Json) :
    (told step again).branchIssues value branches = step.branchIssues value branches := by
  induction branches with
  | nil => rfl
  | cons branch rest ih =>
    simp only [Step.branchIssues, ih]
    rfl

theorem performs_redirect (answers : Answers Allowed Q place ask again) (schema : Json)
    (asked : Allowed [] (.node schema)) :
    Performs Q place (redirect ask step schema) ((told step again).redirect schema) :=
  answers.here _ asked

theorem performs_descend (answers : Answers Allowed Q place ask again) (key : Json)
    (node : Reference.Node) (value : Option Json) (asked : Allowed [key.plain] node) :
    Performs Q place (descend ask step key node value)
      ((told step again).descend key node value) :=
  (answers [key.plain] _ asked).inside

/-! ## 3. Conditions and compositions -/

section Composed

variable (answers : Answers (Asks step.setting step.fields) Q place ask again)
  (stands : Stands step place)

include answers stands

theorem performs_conditional {condition : Json} (hc : Fields.get? step.fields "if" = some condition) :
    Performs Q place (conditional ask step condition) ((told step again).conditional condition) := by
  have rest : Asks step.setting step.fields [] (.node (step.without ["if", "then", "else"])) :=
    .rest (by simp [peeled]) hc
  unfold conditional Step.conditional
  refine stands.seen (performs_check fun met => ?_)
  have either : (if met then "then" else "else") ∈ ["then", "else"] := by cases met <;> simp
  dsimp only [told]
  generalize hb : step.fields.get? (if met then "then" else "else") = branch
  cases branch with
  | none => exact performs_redirect answers _ rest
  | some branch =>
    cases branch with
    | null => exact performs_redirect answers _ rest
    | _ => exact performs_check_ok fun _ hm => performs_redirect answers _ (.chosen hc either hb hm)

theorem performs_flatten {members : List Json}
    (asked : ∀ member ∈ members, Asks step.setting step.fields ["allOf"] (.node member))
    (flat : Step.Flattened) :
    Performs Q { place with path := place.path ++ ["allOf"] } (flatten ask step members flat)
      ((told step again).flatten members flat) := by
  induction members generalizing flat with
  | nil => exact performs_pure _
  | cons member rest ih =>
    obtain ⟨first, others⟩ := List.forall_mem_cons.1 asked
    have resolved : Performs Q { place with path := place.path ++ ["allOf"] }
        (resolveMember ask step flat member) ((told step again).resolveMember flat member) := by
      refine (answers ["allOf"] _ first).bind fun outcome => ?_
      cases outcome <;> exact performs_pure _
    refine performs_ite (resolved.bind fun flat => ?_) ((performs_pure flat).bind fun flat => ?_)
    all_goals
      dsimp only
      generalize Schema.merge true flat.merged _ = merged
      rcases merged with fault | merged
      · cases fault with
        | conflict => exact stands.seen_below (performs_pure _)
        | _ => exact performs_ofRun _
      · exact ih others _

omit answers in
theorem performs_issuesAgainst (value : Option Json) (schemas : List Json) :
    Performs Q { place with path := place.path ++ ["allOf"] } (issuesAgainst step value schemas)
      (liftM ((told step again).issuesAgainst value schemas)) :=
  stands.seen_below (performs_ofRun _)

theorem performs_allOf {members : Json} (hm : Fields.get? step.fields "allOf" = some members) :
    Performs Q place (allOf ask step members) ((told step again).allOf members) := by
  unfold allOf Step.allOf
  refine performs_check_ok fun entries he => ?_
  refine (performs_flatten answers stands (fun member => .member hm he) _).inside.bind_ok
    fun flat hf => ?_
  cases flat with
  | error issues => exact performs_ofRun _
  | ok flat =>
    have asked : Asks step.setting step.fields [] (.node flat.merged) :=
      .flattened hm he (Step.mergedAll_of_chain (Step.flatten_result.1 hf))
    refine (answers.here _ asked).bind fun outcome => ?_
    refine performs_ite (performs_ofRun _) ?_
    cases outcome with
    | failed issues => exact performs_pure _
    | resolved value =>
      refine (performs_issuesAgainst stands _ _).inside.bind fun issues => ?_
      exact performs_ite (performs_ofRun _) (performs_ofRun _)

theorem performs_anyOf {branches : Json} (hb : Fields.get? step.fields "anyOf" = some branches) :
    Performs Q place (anyOf ask step branches) ((told step again).anyOf branches) := by
  have rest : Asks step.setting step.fields [] (.node (step.without ["anyOf"])) :=
    .rest (by simp [peeled]) hb
  simp only [anyOf, Step.anyOf, told_probeBranches]
  obtain ⟨setting, path, tag, fields, value, parent, key, negated, stale⟩ := step
  cases value with
  | none => exact stands.seen (performs_redirect answers _ rest)
  | some value =>
    refine stands.seen (performs_check fun branches => performs_check fun found => ?_)
    cases found with
    | none => exact performs_redirect answers _ rest
    | some issues =>
      dsimp only [Step.default?, told]
      cases fields.get? "default" <;> exact performs_ofRun _

theorem performs_oneOf {branches : Json} (hb : Fields.get? step.fields "oneOf" = some branches) :
    Performs Q place (oneOf ask step branches) ((told step again).oneOf branches) := by
  have rest : Asks step.setting step.fields [] (.node (step.without ["oneOf"])) :=
    .rest (by simp [peeled]) hb
  simp only [oneOf, Step.oneOf, told_branchIssues]
  obtain ⟨setting, path, tag, fields, value, parent, key, negated, stale⟩ := step
  cases value with
  | none => exact stands.seen (performs_redirect answers _ rest)
  | some value =>
    refine stands.seen (performs_check_ok fun branches he => performs_check fun outcomes => ?_)
    dsimp only [Step.default?, Step.without, told]
    generalize hp : Step.passingBranches branches outcomes = passing
    generalize Fields.get? fields "default" = default
    rcases passing with _ | ⟨branch, _ | ⟨second, others⟩⟩
    · cases default with
      | none => exact performs_ite (performs_ofRun _) (performs_ofRun _)
      | some x => exact performs_ofRun _
    · dsimp only
      have passes : branch ∈ branches :=
        Step.mem_of_mem_passingBranches (hp ▸ List.mem_singleton_self branch)
      generalize hm : Schema.merge true _ branch = merged
      rcases merged with fault | merged
      · cases fault <;> exact performs_ofRun _
      · exact performs_redirect answers _ (.selected hb he passes hm)
    · cases default <;> exact performs_ofRun _

/-- What comes of a negated schema, told as a run. -/
def refusalRun (step : Step) (value negated : Json) : Run (Option Outcome) := do
  let issues ← Probe.issues step.setting value negated (step.path ++ ["not"])
  if issues.isEmpty then do
    if Step.requiresNames value negated then
      let _ ← step.again ["not"] ⟨.node negated, step.value, step.parent, step.key, true⟩
    let outcome ← step.failBelow "not" .excluded
    return some outcome
  else return none

theorem performs_refusal (value : Json) {negated : Json}
    (hn : Fields.get? step.fields "not" = some negated) :
    Performs Q { place with path := place.path ++ ["not"] } (refusal ask step value negated)
      (refusalRun (told step again) value negated) := by
  unfold refusal refusalRun
  refine stands.seen_below (performs_check fun issues => performs_ite ?_ (performs_pure _))
  refine performs_ite ((answers ["not"] _ (.negated hn)).bind fun _ => ?_) ?_
  all_goals exact stands.seen_below ((performs_ofRun _).bind fun _ => performs_pure _)

omit answers stands in
/-- A negated schema is what comes of it, and then the rest of the schema. -/
theorem not_eq_refusal {value : Json} (hv : step.value = some value) (negated : Json) :
    step.not negated = (do
      match ← refusalRun step value negated with
      | some outcome => pure outcome
      | none => step.redirect (step.without ["not"])) := by
  simp only [Step.not, refusalRun, hv, bind_assoc]
  refine bind_congr fun issues => ?_
  by_cases admitted : issues.isEmpty
  · by_cases named : Step.requiresNames value negated <;> simp [admitted, named]
  · simp [admitted]

theorem performs_not {negated : Json} (hn : Fields.get? step.fields "not" = some negated) :
    Performs Q place (Resolver.not ask step negated) ((told step again).not negated) := by
  have rest : Asks step.setting step.fields [] (.node (step.without ["not"])) :=
    .rest (by simp [peeled]) hn
  cases hv : step.value with
  | none =>
    rw [Step.not, show (told step again).value = none from hv]
    simp only [Resolver.not, hv]
    exact performs_redirect answers _ rest
  | some value =>
    rw [not_eq_refusal (show (told step again).value = some value from hv)]
    simp only [Resolver.not, hv]
    refine (performs_refusal answers stands _ hn).inside.bind fun outcome => ?_
    cases outcome with
    | none => exact performs_redirect answers _ rest
    | some outcome => exact performs_pure _

end Composed

/-! ## 4. Objects -/

section Objects

variable (answers : Answers (Enters step.setting step.fields) Q place ask again)
  (stands : Stands step place)

include answers

theorem performs_resolveProperties (working : Fields) (missing : List Json) {properties : Fields}
    (asked : ∀ name s, (name, s) ∈ properties → Enters step.setting step.fields [name] (.node s))
    (built : Built) :
    Performs Q place (resolveProperties ask step working missing properties built)
      ((told step again).resolveProperties working missing properties built) := by
  induction properties generalizing built with
  | nil => exact performs_pure _
  | cons member rest ih =>
    have later := ih fun name s hs => asked name s (List.mem_cons_of_mem _ hs)
    rw [Step.resolveProperties, ← bind_assoc]
    refine performs_ite (later _) (Performs.bind (Performs.inside ?_) fun outcome => later _)
    exact performs_check fun found => answers [member.1] _ (asked _ _ (List.mem_cons_self ..))

theorem performs_resolveDependents (working : Fields) {dependents : Fields}
    (asked : ∀ name s, (name, s) ∈ dependents → Enters step.setting step.fields [] (.node s))
    (built : Built) :
    Performs Q place (resolveDependents ask step working dependents built)
      ((told step again).resolveDependents working dependents built) := by
  induction dependents generalizing built with
  | nil => exact performs_pure _
  | cons member rest ih =>
    have later := ih fun name s hs => asked name s (List.mem_cons_of_mem _ hs)
    refine performs_check fun found => ?_
    cases found with
    | none => exact later _
    | some found =>
      refine (answers.here _ (asked _ _ (List.mem_cons_self ..))).bind fun outcome => ?_
      match outcome with
      | .failed issues => exact later _
      | .resolved (some (.obj tag members)) => exact later _
      | .resolved none => exact later _
      | .resolved (some .null) | .resolved (some (.bool _)) | .resolved (some (.num _))
      | .resolved (some (.str _)) | .resolved (some (.arr _ _)) => exact later _

theorem performs_resolveMatching (name : String) {patterns : Fields}
    (asked : ∀ pattern s, (pattern, s) ∈ patterns →
      Enters step.setting step.fields [name] (.node s)) (built : Built) :
    Performs Q place (resolveMatching ask step name patterns built)
      ((told step again).resolveMatching name patterns built) := by
  induction patterns generalizing built with
  | nil => exact performs_pure _
  | cons member rest ih =>
    have later := ih fun pattern s hs => asked pattern s (List.mem_cons_of_mem _ hs)
    refine performs_check fun fits => performs_ite ?_ (later _)
    exact (performs_descend answers (.str name) _ _ (asked _ _ (List.mem_cons_self ..))).bind
      fun outcome => later _

theorem performs_resolvePatterns (properties : Fields) (names : List String) (built : Built) :
    Performs Q place (resolvePatterns ask step properties names built)
      ((told step again).resolvePatterns properties names built) := by
  induction names generalizing built with
  | nil => exact performs_pure _
  | cons name rest ih =>
    refine performs_ite (ih _) (performs_check_ok fun patterns hp => ?_)
    have asked : ∀ pattern s, (pattern, s) ∈ patterns →
        Enters step.setting step.fields [name] (.node s) := by
      intro pattern s hs
      obtain ⟨tag, hx⟩ := Ready.mem_tableOrEmpty hp hs
      exact .tabled (by simp) hx hs
    exact (performs_resolveMatching answers _ asked _).bind fun built => ih _

include stands

theorem performs_resolveUncovered {additional : Json}
    (ha : Fields.get? step.fields "additionalProperties" = some additional) (name : String)
    (built : Built) :
    Performs Q place (resolveUncovered ask step additional name built)
      ((told step again).resolveUncovered additional name built) := by
  refine stands.seen (performs_ite (performs_pure _) (performs_check_ok fun target ht => ?_))
  cases target with
  | none => exact performs_check fun reason => performs_pure _
  | some node =>
    exact (performs_descend answers _ _ _ (.additional ha ht)).bind fun outcome => performs_pure _

theorem performs_resolveAdditional (working : Fields) {additional : Json}
    (ha : Fields.get? step.fields "additionalProperties" = some additional) (names : List String)
    (built : Built) :
    Performs Q place (resolveAdditional ask step working additional names built)
      ((told step again).resolveAdditional working additional names built) := by
  induction names generalizing built with
  | nil => exact performs_pure _
  | cons name rest ih =>
    refine performs_ite (ih _) (performs_check fun uncovered => ?_)
    exact performs_ite
      ((performs_resolveUncovered answers stands ha _ _).bind fun built => ih _)
      ((performs_pure _).bind fun built => ih _)

theorem performs_resolveAllAdditional (working : Fields) (built : Built) :
    Performs Q place (resolveAllAdditional ask step working built)
      ((told step again).resolveAllAdditional working built) := by
  unfold resolveAllAdditional Step.resolveAllAdditional
  dsimp only [told]
  generalize ha : step.fields.get? "additionalProperties" = additional
  match additional with
  | none | some .null | some (.bool true) => exact performs_pure _
  | some (.bool false) | some (.num _) | some (.str _) | some (.arr _ _) | some (.obj _ _) =>
    exact performs_resolveAdditional answers stands _ ha _ _

theorem performs_resolveMembers (value : Fields) :
    Performs Q place (resolveMembers ask step value) ((told step again).resolveMembers value) := by
  have same : (told step again).fields = step.fields := rfl
  simp only [resolveMembers, Step.resolveMembers, Step.withDefaults_congr same rfl,
    Step.absentNames_congr same rfl]
  refine stands.seen (performs_check fun size => performs_check fun required =>
    performs_check fun working => performs_check fun missing => ?_)
  refine performs_ite ((performs_ofRun _).bind fun _ => ?_) ?_
  all_goals
    refine performs_check_ok fun properties hp => ?_
    refine (performs_resolveProperties answers _ _ (fun name s hs => ?_) _).bind fun built => ?_
    · obtain ⟨tag, hx⟩ := Ready.mem_tableOrEmpty hp hs
      exact .tabled (by simp) hx hs
    refine stands.seen (performs_check fun dependent => performs_check_ok fun dependents hd => ?_)
    refine (performs_resolveDependents answers _ (fun name s hs => ?_) _).bind fun built => ?_
    · obtain ⟨tag, hx⟩ := Ready.mem_tableOrEmpty hd hs
      exact .dependent hx hs
    refine (performs_resolvePatterns answers _ _ _).bind fun built => ?_
    refine (performs_resolveAllAdditional answers stands _ _).bind fun built => ?_
    refine stands.seen (performs_check fun names => ?_)
    exact performs_ite (performs_ofRun _) (performs_ofRun _)

end Objects

/-! ## 5. Types -/

section Typed

variable (answers : Answers (Enters step.setting step.fields) Q place ask again)
  (stands : Stands step place)

include answers stands

theorem performs_resolveItem (i : Nat) (item : Json) (built : Step.BuiltItems) :
    Performs Q place (resolveItem ask step i item built)
      ((told step again).resolveItem i item built) := by
  unfold resolveItem Step.resolveItem resolveItemBy
  dsimp only [told]
  generalize hs : Probe.itemSchema step.fields i = schema
  match schema with
  | none | some (.bool true) => exact performs_pure _
  | some (.bool false) => exact Performs.inside (stands.seen_below (performs_pure _))
  | some .null | some (.num _) | some (.str _) | some (.arr _ _) | some (.obj _ _) =>
    refine Performs.inside (stands.seen_below (performs_ite ?_ ?_))
    · exact performs_check fun issues => performs_pure _
    · refine (answers [Nat.repr i] _ (.item hs)).bind fun outcome => ?_
      cases outcome <;> exact performs_pure _

theorem performs_resolveItems (i : Nat) (items : List Json) (built : Step.BuiltItems) :
    Performs Q place (resolveItems ask step i items built)
      ((told step again).resolveItems i items built) := by
  induction items generalizing i built with
  | nil => exact performs_pure _
  | cons item rest ih => exact (performs_resolveItem answers stands _ _ _).bind fun built => ih _ _

theorem performs_array : Performs Q place (array ask step) (told step again).array := by
  obtain ⟨setting, path, tag, fields, value, parent, key, negated, stale⟩ := step
  refine stands.seen ?_
  match value with
  | none => exact performs_ofRun _
  | some (.arr _ items) =>
    refine performs_check fun whole => performs_ite (performs_ofRun _) ?_
    refine (performs_resolveItems answers stands _ _ _).bind fun built => ?_
    exact performs_ite (performs_ofRun _) (performs_ofRun _)
  | some .null | some (.bool _) | some (.num _) | some (.str _) | some (.obj _ _) =>
    exact performs_ofRun _

theorem performs_object : Performs Q place (object ask step) (told step again).object := by
  obtain ⟨setting, path, tag, fields, value, parent, key, negated, stale⟩ := step
  refine stands.seen ?_
  match value with
  | none =>
    refine performs_check fun required => performs_ite (performs_ofRun _) ?_
    refine (performs_resolveMembers answers stands _).bind fun outcome => ?_
    exact performs_ite (performs_pure _) (performs_ofRun _)
  | some (.obj _ members) => exact performs_resolveMembers answers stands _
  | some .null | some (.bool _) | some (.num _) | some (.str _) | some (.arr _ _) =>
    exact performs_ofRun _

theorem performs_ofKind (kind : Kind) :
    Performs Q place (ofKind ask step kind) ((told step again).ofKind kind) := by
  cases kind with
  | array => exact performs_array answers stands
  | object => exact performs_object answers stands
  | _ => exact stands.seen (performs_ofRun _)

theorem performs_ofType (type : Json) :
    Performs Q place (ofType ask step type) ((told step again).ofType type) := by
  have unnamed : ∀ type : Json, Performs Q place
      (if Accessor.isContainer type then Run.fault .unusableName else do
        let step ← seen step
        step.failWith (.unknownType type.plain))
      (if Accessor.isContainer type then Run.fault .unusableName
        else (told step again).failWith (.unknownType type.plain)) :=
    fun type => performs_ite (performs_ofRun _) (stands.seen (performs_ofRun _))
  match type with
  | .str s =>
    unfold ofType Step.ofType
    dsimp only
    cases Kind.ofName? s with
    | none => exact stands.seen (performs_ofRun _)
    | some kind => exact performs_ofKind answers stands _
  | .null => exact unnamed .null
  | .bool b => exact unnamed (.bool b)
  | .num n => exact unnamed (.num n)
  | .arr tag items => exact unnamed (.arr tag items)
  | .obj tag fields => exact unnamed (.obj tag fields)

theorem performs_ofTypes (types : List Json) :
    Performs Q place (ofTypes ask step types) ((told step again).ofTypes types) := by
  obtain ⟨setting, path, tag, fields, value, parent, key, negated, stale⟩ := step
  refine stands.seen ?_
  cases value with
  | none => exact performs_ofRun _
  | some x =>
    dsimp only [Step.ofTypes, told]
    cases Kind.firstFit types x with
    | none => exact performs_check fun names => performs_ofRun _
    | some kind =>
      have restricted : Stands ⟨setting, path, none, Schema.restrict fields (.str kind.name), some x,
        parent, key, negated, stale⟩ place := ⟨stands.path, stands.root⟩
      exact performs_ofKind (answers.mono fun _ _ h => h.restrict) restricted _

theorem performs_typed : Performs Q place (typed ask step) (told step again).typed := by
  unfold typed Step.typed
  dsimp only [Step.schema, told]
  match Schema.declaredTypes (.obj step.tag step.fields) with
  | [] =>
    dsimp only
    cases Schema.inferKind step.fields step.value with
    | none => exact performs_ofRun _
    | some kind => exact performs_ofKind answers stands _
  | [type] => exact performs_ofType answers stands _
  | type :: type' :: types => exact performs_ofTypes answers stands _

end Typed

/-! ## 6. A resolution -/

theorem performs_dispatch (answers : Answers (Asks step.setting step.fields) Q place ask again)
    (stands : Stands step place) :
    Performs Q place (dispatch ask step) (told step again).dispatch := by
  unfold dispatch Step.dispatch
  dsimp only [told]
  match hc : Fields.get? step.fields "if", hm : Fields.get? step.fields "allOf",
      ha : Fields.get? step.fields "anyOf", ho : Fields.get? step.fields "oneOf",
      hn : Fields.get? step.fields "not" with
  | some condition, _, _, _, _ => exact performs_conditional answers stands hc
  | none, some members, _, _, _ => exact performs_allOf answers stands hm
  | none, none, some branches, _, _ => exact performs_anyOf answers stands ha
  | none, none, none, some branches, _ => exact performs_oneOf answers stands ho
  | none, none, none, none, some negated => exact performs_not answers stands hn
  | none, none, none, none, none => exact performs_typed (answers.mono fun _ _ => .entered) stands

theorem performs_runStep (answers : Answers (Asks step.setting step.fields) Q place ask again)
    (stands : Stands step place) :
    Performs Q place (runStep ask step) (told step again).run := by
  refine stands.seen (performs_check fun issues => performs_ite ?_ (performs_ofRun _))
  have filled : Stands { step with value := step.filled } place := ⟨stands.path, stands.root⟩
  exact performs_dispatch answers filled

/-- **A resolution where the resolver stands** is the resolution at its place, provided that the
resolver answers for what is asked further. -/
theorem performs_resolveHere {options : Options} {request : Request}
    (answers : Answers (Asked ⟨options, place.root⟩ request.schema) Q place ask again) :
    Performs Q place (resolveHere ask options request)
      (resolveStep ⟨options, place.root⟩ place.path request again) := by
  obtain ⟨node, value, parent, key, negated⟩ := request
  refine performs_here ?_
  match node with
  | .node .null | .node (.bool true) => exact performs_ofRun _
  | .node (.bool false) => cases value <;> exact performs_ofRun _
  | .node (.obj tag fields) =>
    have stands : Stands ⟨⟨options, place.root⟩, place.path, tag, fields, value, parent, key,
      negated, silent⟩ place := ⟨rfl, rfl⟩
    exact performs_runStep (answers.mono fun _ _ h => ⟨tag, fields, rfl, h⟩) stands
  | .node (.num _) | .node (.str _) | .node (.arr _ _) | .endOfList _ => exact performs_ofRun _

/-! ## 7. The resolver -/

/-- The place at which a further resolution is entered, or below it. -/
def Place.enter (place : Place) (extension : Path) : Place :=
  { place with path := place.path ++ extension, levels := place.levels ++ [place.path.length] }

/-- A property of places that holds of every place entered from one at which the guard does not stop. -/
def Hereditary (start : Nat) (Q : Place → Prop) : Prop :=
  ∀ place extension, Q place → place.tooDeep start = false → Q (place.enter extension)

theorem performs_recordEntry {next : Unit → Work β} {run : Run β} (hq : Q place)
    (h : Performs Q place (next ()) run) : Performs Q place (recordEntry >>= next) run := by
  rintro s rfl
  obtain ⟨entries, he, hw⟩ := h { s with entered := s.entered ++ [s.toPlace] } rfl
  refine ⟨s.toPlace :: entries, by simpa using ⟨hq, he⟩, ?_⟩
  simpa using (show (recordEntry >>= next) s = _ from hw)

variable (exhausted : Fault) {options : Options}

/-- A call for which there is room is stopped by the guard, or it is a resolution with the calls
inside it. -/
theorem performs_resolve_succ {room : Nat} {request : Request} (hq : Q place)
    (answers : place.tooDeep options.currentPath.length = false → ∀ extension next,
      Asked ⟨options, place.root⟩ request.schema extension next.schema →
      Performs Q (place.enter extension) (resolve exhausted options room next)
        (again extension next)) :
    Performs Q place (resolve exhausted options (room + 1) request)
      (if place.tooDeep options.currentPath.length then fail [⟨.tooDeep, place.path⟩]
        else resolveStep ⟨options, place.root⟩ place.path request again) := by
  refine performs_recordEntry hq (performs_here ?_)
  cases hd : place.tooDeep options.currentPath.length with
  | true => exact performs_ofRun _
  | false =>
    have framed : Answers (Asked ⟨options, place.root⟩ request.schema) Q
      { place with levels := place.levels ++ [place.path.length] } (resolve exhausted options room)
      again := answers hd
    exact (performs_resolveHere framed).framed

/-- **Whatever the stacks**, a call to the resolver is some run, and a property that entering
preserves holds wherever a resolution is entered. -/
theorem exists_performs (hereditary : Hereditary options.currentPath.length Q) (room : Nat)
    (request : Request) (hq : Q place) :
    ∃ run, Performs Q place (resolve exhausted options room request) run := by
  induction room generalizing place request with
  | zero => exact ⟨_, performs_ofRun _⟩
  | succ room ih =>
    have further : ∀ extension request, ∃ run, place.tooDeep options.currentPath.length = false →
        Performs Q (place.enter extension) (resolve exhausted options room request) run := by
      intro extension request
      cases hd : place.tooDeep options.currentPath.length with
      | true => exact ⟨done none, by simp⟩
      | false =>
        obtain ⟨run, hr⟩ := ih request (hereditary place extension hq hd)
        exact ⟨run, fun _ => hr⟩
    choose again hagain using further
    exact ⟨_, performs_resolve_succ exhausted hq fun hd extension request _ =>
      hagain extension request hd⟩

/-! ## 8. The resolver and the resolution -/

/-- The place that a guard describes. -/
def guarded (root : Json) (guard : Guard) : Place := ⟨root, guard.path, guard.frames.reverse⟩

theorem tooDeep_guarded (root : Json) (guard : Guard) :
    (guarded root guard).tooDeep guard.start = guard.tooDeep := by
  by_cases long : depthLimit ≤ guard.frames.length
  · have look : guard.frames.reverse[guard.frames.length - depthLimit]? =
        guard.frames[depthLimit - 1]? := by
      rw [List.getElem?_reverse (by simp only [depthLimit] at long ⊢; omega)]
      congr 1
      simp only [depthLimit] at long ⊢
      omega
    simp only [Place.tooDeep, guarded, List.length_reverse, look, long, decide_true, Bool.true_and]
    rfl
  · have short : guard.frames[depthLimit - 1]? = none := by
      refine List.getElem?_eq_none ?_
      simp only [depthLimit] at long ⊢
      omega
    simp only [Place.tooDeep, guarded, List.length_reverse, long, decide_false, Bool.false_and,
      Guard.tooDeep, short]
    rfl

theorem guarded_enter (root : Json) (guard : Guard) (extension : Path) :
    guarded root (guard.enter extension) = (guarded root guard).enter extension := by
  simp [guarded, Guard.enter, Place.enter, Guard.level]

/-- **With room enough the resolver does what the resolution says.**  There is room enough where the
resolutions under way and those there still is room for are more than can be under way. -/
theorem performs_resolve {bound : Nat} (hereditary : Hereditary options.currentPath.length Q)
    (bounded : ∀ place, Q place → place.levels.length ≤ bound) (root : Json) {room : Nat}
    (guard : Guard) (start : guard.start = options.currentPath.length)
    (hq : Q (guarded root guard)) (wide : bound < room + guard.frames.length) (request : Request) :
    Performs Q (guarded root guard) (resolve exhausted options room request)
      (Resolve.resolve ⟨options, root⟩ guard request) := by
  induction room generalizing guard request with
  | zero =>
    have := bounded _ hq
    simp only [guarded, List.length_reverse] at this
    omega
  | succ room ih =>
    rw [Resolve.resolve]
    have deep : (guarded root guard).tooDeep options.currentPath.length = guard.tooDeep :=
      start ▸ tooDeep_guarded root guard
    change Performs Q (guarded root guard) _ (if guard.tooDeep then fail [⟨.tooDeep, guard.path⟩]
      else resolveStep ⟨options, root⟩ guard.path request fun extension next =>
        Resolve.resolve ⟨options, root⟩ (guard.enter extension) next)
    rw [← deep]
    refine performs_resolve_succ exhausted hq fun shallow extension next _ => ?_
    rw [← guarded_enter]
    refine ih (guard.enter extension) start ?_ ?_ next
    · rw [guarded_enter]
      exact hereditary _ extension hq shallow
    · simp only [Guard.enter, List.length_cons]
      omega

end Conform.Resolver
