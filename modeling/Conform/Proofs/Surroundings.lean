/-
# Documents and containers

A resolution is told what surrounds a schema: the document that references point into, and the schema of
the container in which the value stands.  Neither matters in itself.

* **The document** is looked at for what references stand for.  Where the same is found in another one for
  each schema of a closed set (`Shared`), a schema of the set is probed and resolved alike in both.  One such
  set are the schemas whose references lead to the same in both (`shared_of_leadsAlike`).  What is found may
  also be two schemas between which nothing tells within one document (`Interchangeable`), as the documents
  themselves may be (`shared_of_leadsToWhole`).
* **The container** is asked which names it requires, and whether there is one at all.  So it can be
  replaced by another one that requires the same (`Hosts`).

Both are handed on from one resolution to the next, so both are replaced at once: `Step.placed` is the step
with another document and another container, and it does what the step does (`Placed`, one lemma for each
function of the resolver), as long as further resolutions do (`Heeds`).  The guard looks at neither, and
`resolve_placed` closes the recursion.
-/
import Conform.Proofs.Compositions
import Conform.Proofs.Deciding
import Conform.Proofs.Leading

namespace Conform

open Fields (get?)

/-! ## 1. Documents -/

namespace Probe

variable {setting : Setting} {root s x : Json} {Q : Json → Prop} {value : Option Json} {path : Path}

/-- The same options, within another document. -/
def Setting.within (setting : Setting) (root : Json) : Setting := { setting with root := root }

/-- **Nothing tells between two schemas within one document**: a value is probed and resolved alike against
both. -/
structure Interchangeable (s t : Json) : Prop where
  probed : ∀ setting value, issues setting value s = issues setting value t
  resolved : ∀ setting guard value parent key negated,
    Resolve.resolve setting guard ⟨.node t, value, parent, key, negated⟩ =
      Resolve.resolve setting guard ⟨.node s, value, parent, key, negated⟩

/-- The keywords that lead a resolution to merge schemas. -/
def mergingKeywords : List String := ["if", "then", "else", "allOf", "oneOf"]

/-- **A set of schemas that two documents share**: it is closed, also under what a resolution makes of
schemas, and the like is found in both documents for the schemas of the set. -/
structure Shared (setting : Setting) (root : Json) (Q : Json → Prop) : Prop extends Closed setting Q where
  restricted : ∀ {tag tag' fields} {kind : Kind}, Q (.obj tag fields) →
    Q (.obj tag' (Schema.restrict fields (.str kind.name)))
  merged : ∀ {tag fields k x conjunction a b m}, Q (.obj tag fields) → k ∈ mergingKeywords →
    get? fields k = some x → Q a → Q b → Schema.merge conjunction a b = .ok m → Q m
  alike : ExpandAlike Interchangeable setting.options setting.root root Q

/-- A document shares all schemas with itself. -/
theorem shared_self (setting : Setting) : Shared setting setting.root fun _ => True :=
  { closed_true with
    restricted := fun _ => trivial
    merged := fun _ _ _ _ _ _ => trivial
    alike := fun _ _ => .same _ }

namespace Shared

variable (shared : Shared setting root Q)

include shared

theorem issues_eq {value : Json} (hs : Q s) :
    issues (setting.within root) value s path = issues setting value s path :=
  congrFun (issues_eq_of_expansions shared.alike (fun h => shared.restricted h)
    (fun setting x _ _ hst => hst.probed setting x) shared.comprises hs).symm path

theorem issues?_eq (hs : Q s) :
    issues? (setting.within root) value s path = issues? setting value s path := by
  cases value with
  | none => rfl
  | some x => exact shared.issues_eq hs

/-- A list as a whole is asked about by one keyword only. -/
theorem listIssues_eq {tag : Tag} {fields : Fields} (hs : Q (.obj tag fields)) (items : List Json) :
    (listIssues items fields path fun x _ s place => issues (setting.within root) x s place) =
      listIssues items fields path fun x _ s place => issues setting x s place := by
  unfold listIssues containsIssues
  cases hc : get? fields "contains" with
  | none => rfl
  | some s => simp only [shared.issues_eq (shared.of_get? hs hc)]

/-- A condition of the set is met alike. -/
theorem meets_eq (hs : Q s) : meets (setting.within root) value s path = meets setting value s path := by
  cases value with
  | none => rfl
  | some x =>
    have answered : ∀ y t, (y, t) ∈ askedByCondition setting x s →
        issues (setting.within root) y t = issues setting y t := by
      intro y t asked
      refine funext fun place => shared.issues_eq ?_
      rcases List.mem_append.1 asked with h | h
      · exact shared.comprises.of_mem_askedInCondition hs h
      · obtain ⟨t, ht, ⟨⟩⟩ := List.mem_map.1 h
        exact shared.comprises.of_mem_conditionParts hs ht
    have same : conditionStep setting (issues (setting.within root)) x s path =
        conditionStep setting (issues setting) x s path :=
      congrFun (conditionStep_of_answers answered) path
    exact same

end Shared

end Probe

/-! ## 2. Containers -/

namespace Resolve

namespace Run

variable {α β : Type}

/-- What comes after a run matters for its result only. -/
theorem bind_congr {run : Run α} {f g : α → Run β} (h : ∀ a, run.result = .ok a → f a = g a) :
    run >>= f = run >>= g := by
  rcases run with ⟨fault | a, notes⟩
  · rfl
  · simp [Bind.bind, bind, h a rfl]

theorem lift_bind_congr {check : Except Fault α} {f g : α → Run β}
    (h : ∀ a, check = .ok a → f a = g a) : (liftM check : Run α) >>= f = liftM check >>= g :=
  bind_congr h

end Run

open Probe (Shared Interchangeable mergingKeywords)
open Reference (Node)

/-- **Two containers ask for the same**: they are one, or objects that require the same names. -/
inductive Hosts (skips : Bool) : Json → Json → Prop
  | same (host : Json) : Hosts skips host host
  | requiring {tag tag' : Tag} {fields fields' : Fields}
      (h : Step.requiredNames skips fields = Step.requiredNames skips fields') :
      Hosts skips (.obj tag fields) (.obj tag' fields')

/-- **Further resolutions do not heed the container**, at schemas of the set and as long as the containers
ask for the same; nor do they tell between interchangeable schemas. -/
structure Heeds (Q : Json → Prop) (skips : Bool) (again again' : Again) : Prop where
  placed : ∀ (extension : Path) {node : Node} (value : Option Json) {host host' : Json} (key : Json)
    (negated : Bool), (∀ s, node = .node s → Q s) → Hosts skips host host' →
    again' extension ⟨node, value, host', key, negated⟩ = again extension ⟨node, value, host, key, negated⟩
  changed : ∀ (extension : Path) {s t : Json} (value : Option Json) (host key : Json) (negated : Bool),
    Interchangeable s t →
    again' extension ⟨.node t, value, host, key, negated⟩ = again' extension ⟨.node s, value, host, key, negated⟩

namespace Step

/-- The step within another document, for another container, with other further resolutions. -/
def placed (step : Step) (root host : Json) (again : Again) : Step :=
  { step with setting := step.setting.within root, parent := host, again := again }

/-- **A step that does not heed what surrounds it**: at a schema of a set that is shared with another
document, for a container that asks for the same as another one. -/
structure Placed (Q : Json → Prop) (step : Step) (root host : Json) (again : Again) : Prop where
  shared : Shared step.setting root Q
  schema : Q step.schema
  hosts : Hosts step.skips step.parent host
  heeds : Heeds Q step.skips step.again again

variable {Q : Json → Prop} {step : Step} {root host s x : Json} {again : Again} {node : Node}

section Containers

theorem isRequired_placed (hosts : Hosts step.skips step.parent host) :
    (step.placed root host again).isRequired = step.isRequired := by
  obtain ⟨setting, path, tag, fields, value, parent, key, negated, again'⟩ := step
  cases hosts with
  | same => rfl
  | @requiring tag tag' fields fields' h =>
    have required : requiredNames setting.options.skipValidation fields' =
        requiredNames setting.options.skipValidation fields := h.symm
    cases key with
    | null => rfl
    | _ => exact congrArg (· >>= _) required

theorem isRoot_placed (hosts : Hosts step.skips step.parent host) :
    (step.placed root host again).isRoot = step.isRoot := by
  obtain ⟨setting, path, tag, fields, value, parent, key, negated, again'⟩ := step
  cases hosts <;> rfl

theorem missing_placed (hosts : Hosts step.skips step.parent host) (atRoot : Option Json) :
    (step.placed root host again).missing atRoot = step.missing atRoot := by
  simp only [missing, isRequired_placed hosts, isRoot_placed hosts]
  rfl

end Containers

theorem placed_value : (step.placed root host again).value = step.value := rfl

theorem placed_default? : (step.placed root host again).default? = step.default? := rfl

theorem placed_without (keys : List String) :
    (step.placed root host again).without keys = step.without keys := rfl

theorem placed_fields : (step.placed root host again).fields = step.fields := rfl

theorem placed_schema : (step.placed root host again).schema = step.schema := rfl

theorem placed_path : (step.placed root host again).path = step.path := rfl

theorem placed_skips : (step.placed root host again).skips = step.skips := rfl

theorem placed_options :
    (step.placed root host again).setting.options = step.setting.options := rfl

theorem placed_dependentIssues (working : Fields) :
    (step.placed root host again).dependentIssues working = step.dependentIssues working := rfl

theorem placed_parent : (step.placed root host again).parent = host := rfl

theorem placed_key : (step.placed root host again).key = step.key := rfl

theorem placed_negated : (step.placed root host again).negated = step.negated := rfl

theorem placed_readMember (members : Fields) (name : Json) :
    (step.placed root host again).readMember members name = step.readMember members name := rfl

theorem placed_tableOrEmpty (keyword : String) :
    (step.placed root host again).tableOrEmpty keyword = step.tableOrEmpty keyword := rfl

/-- The schema of a node that is one. -/
theorem of_node (hs : Q s) : ∀ t, Reference.Target.node s = .node t → Q t
  | _, rfl => hs

namespace Placed

variable (h : Placed Q step root host again)

include h

/-! ### What is asked for further -/

theorem again_eq (extension : Path) (value : Option Json) (key : Json) (negated : Bool)
    (hs : ∀ s, node = .node s → Q s) :
    (step.placed root host again).again extension ⟨node, value, host, key, negated⟩ =
      step.again extension ⟨node, value, step.parent, key, negated⟩ :=
  h.heeds.placed extension value key negated hs h.hosts

theorem redirect (hs : Q s) : (step.placed root host again).redirect s = step.redirect s :=
  h.again_eq [] step.value step.key step.negated (of_node hs)

theorem descend (key : Json) (value : Option Json) (hs : ∀ s, node = .node s → Q s) :
    (step.placed root host again).descend key node value = step.descend key node value :=
  h.heeds.placed [key.plain] value key step.negated hs (.same step.schema)

theorem changed {t : Json} (key : Json) (value : Option Json) (hst : Interchangeable s t) :
    (step.placed root host again).descend key (.node t) value =
      (step.placed root host again).descend key (.node s) value :=
  h.heeds.changed [key.plain] value (step.placed root host again).schema key step.negated hst

theorem of_get? {k : String} (hk : get? step.fields k = some x) : Q x := h.shared.of_get? h.schema hk

theorem of_entries {k : String} {items : List Json} (hk : get? step.fields k = some x)
    (he : Probe.entriesOf x = .ok items) : ∀ s ∈ items, Q s :=
  fun _ hs => h.shared.of_mem_entries (h.of_get? hk) he hs

theorem without (keys : List String) : Q (step.without keys) := h.shared.kept _ h.schema

/-! ### Conditions and compositions -/

theorem conditional {condition : Json} (hc : get? step.fields "if" = some condition) :
    (step.placed root host again).conditional condition = step.conditional condition := by
  have met : Probe.meets (step.setting.within root) step.value condition step.path =
      Probe.meets step.setting step.value condition step.path := h.shared.meets_eq (h.of_get? hc)
  have base : Q (step.without ["if", "then", "else"]) := h.without _
  have rest := h.redirect base
  refine (congrArg (fun check => liftM check >>= _) met).trans (bind_congr fun met => ?_)
  dsimp only [placed]
  split
  · exact rest
  · exact rest
  · next branch _ hb =>
    exact Run.lift_bind_congr fun effective hm => h.redirect (h.shared.merged h.schema (by simp [mergingKeywords]) hc base (h.of_get? hb) hm)

theorem plainPart {member : Json} (hm : Q member) : Q (Step.plainPart member) := by
  cases member with
  | obj tag fields => exact h.shared.kept _ hm
  | _ => exact hm

theorem mergedPart {member : Json} (hm : Q member) : Q (Step.mergedPart member) := by
  unfold Step.mergedPart
  split
  · exact h.plainPart hm
  · exact hm

theorem resolveMember {member : Json} (flat : Flattened) (hm : Q member) :
    (step.placed root host again).resolveMember flat member = step.resolveMember flat member :=
  congrArg (· >>= _) (h.again_eq ["allOf"] flat.working step.key step.negated
    (of_node hm))

theorem flatten {members : List Json} (flat : Flattened) (hm : ∀ member ∈ members, Q member) :
    (step.placed root host again).flatten members flat = step.flatten members flat := by
  induction members generalizing flat with
  | nil => rfl
  | cons member rest ih =>
    obtain ⟨first, others⟩ := List.forall_mem_cons.1 hm
    have merging : (step.placed root host again).mergeMember (Step.mergedPart member) rest =
        step.mergeMember (Step.mergedPart member) rest := by
      funext flat
      simp only [mergeMember, ih _ others]
      rfl
    rw [flatten_cons, flatten_cons, h.resolveMember flat first, merging]

/-- What `allOf` has made of its members is of the set, and so is what it checks in the end. -/
theorem of_chain {all : Json} (ha : get? step.fields "allOf" = some all) {members : List Json}
    {flat : Flattened} (hm : ∀ member ∈ members, Q member)
    (chain : Chain step.TakesMember members
      ⟨step.value, step.without ["allOf"], [Step.plainPart (step.without ["allOf"])], []⟩ flat) :
    Q flat.merged ∧ ∀ s ∈ flat.plain, Q s := by
  refine chain.keeps (P := fun flat : Flattened => Q flat.merged ∧ ∀ s ∈ flat.plain, Q s)
    (fun member hi before after taken kept => ?_) ?_
  · obtain ⟨plain, -, merged⟩ := taken.spec
    have part := h.mergedPart (hm member hi)
    refine ⟨h.shared.merged h.schema (by simp [mergingKeywords]) ha kept.1 part merged, ?_⟩
    rw [plain]
    exact List.forall_mem_cons.2 ⟨part, kept.2⟩
  · exact ⟨h.without _, List.forall_mem_singleton.2 (h.plainPart (h.without _))⟩

theorem issuesAgainst {schemas : List Json} (value : Option Json) (hs : ∀ s ∈ schemas, Q s) :
    (step.placed root host again).issuesAgainst value schemas = step.issuesAgainst value schemas :=
  congrArg (Probe.gather schemas)
    (funext fun s => funext fun hm => h.shared.issues?_eq (hs s hm))

theorem allOf {members : Json} (hm : get? step.fields "allOf" = some members) :
    (step.placed root host again).allOf members = step.allOf members := by
  refine Run.lift_bind_congr fun entries he => ?_
  have good := h.of_entries hm he
  refine (congrArg (· >>= _) (h.flatten _ good)).trans (Run.bind_congr fun ended hf => ?_)
  cases ended with
  | error issues => rfl
  | ok flat =>
    obtain ⟨merged, plain⟩ := h.of_chain hm good (flatten_result.1 hf)
    refine (congrArg (· >>= _) (h.again_eq [] flat.working step.key step.negated
      (of_node merged))).trans (bind_congr fun outcome => ?_)
    split
    · rfl
    · cases outcome with
      | failed issues => rfl
      | resolved value =>
        exact congrArg (fun check => liftM check >>= _)
          (h.issuesAgainst value fun s hs => plain s (List.mem_reverse.1 hs))

/-- A branch is probed as without the surroundings. -/
theorem probed {branch : Json} (value : Json) (hb : Q branch) :
    Probe.issues (step.placed root host again).setting value branch
      (step.placed root host again).path = Probe.issues step.setting value branch step.path :=
  h.shared.issues_eq hb

theorem probeBranches {branches : List Json} (value : Json) (found : List Issue)
    (hb : ∀ branch ∈ branches, Q branch) :
    (step.placed root host again).probeBranches value branches found =
      step.probeBranches value branches found := by
  induction branches generalizing found with
  | nil => rfl
  | cons branch rest ih =>
    obtain ⟨first, others⟩ := List.forall_mem_cons.1 hb
    simp only [Step.probeBranches, h.probed value first, ih _ others]

theorem anyOf {branches : Json} (hb : get? step.fields "anyOf" = some branches) :
    (step.placed root host again).anyOf branches = step.anyOf branches := by
  have rest := h.redirect (h.without ["anyOf"])
  unfold Step.anyOf
  dsimp only [placed]
  split
  · exact rest
  · next value _ =>
    refine Run.lift_bind_congr fun entries he => ?_
    refine (congrArg (fun check => liftM check >>= _)
      (h.probeBranches value [] (h.of_entries hb he))).trans (bind_congr fun found => ?_)
    cases found with
    | none => exact rest
    | some issues => rfl

theorem branchIssues {branches : List Json} (value : Json) (hb : ∀ branch ∈ branches, Q branch) :
    (step.placed root host again).branchIssues value branches = step.branchIssues value branches := by
  induction branches with
  | nil => rfl
  | cons branch rest ih =>
    obtain ⟨first, others⟩ := List.forall_mem_cons.1 hb
    simp only [Step.branchIssues, h.probed value first, ih others]

theorem oneOf {branches : Json} (hb : get? step.fields "oneOf" = some branches) :
    (step.placed root host again).oneOf branches = step.oneOf branches := by
  have base := h.without ["oneOf"]
  simp only [Step.oneOf, placed_value, placed_without, placed_default?]
  split
  · exact h.redirect base
  · next value _ =>
    refine Run.lift_bind_congr fun entries he => ?_
    have good := h.of_entries hb he
    rw [h.branchIssues value good]
    refine bind_congr fun outcomes => ?_
    cases hp : passingBranches entries outcomes with
    | nil => cases step.default? <;> rfl
    | cons branch more =>
      cases more with
      | cons => cases step.default? <;> rfl
      | nil =>
        have passing : branch ∈ passingBranches entries outcomes := hp ▸ List.mem_singleton_self _
        dsimp only
        cases hm : Schema.merge true (step.without ["oneOf"]) branch with
        | ok effective =>
          exact h.redirect (h.shared.merged h.schema (by simp [mergingKeywords]) hb base
            (good _ (mem_of_mem_passingBranches passing)) hm)
        | error fault => cases fault <;> rfl

theorem not {negated : Json} (hn : get? step.fields "not" = some negated) :
    (step.placed root host again).not negated = step.not negated := by
  have rest := h.redirect (h.without ["not"])
  have good := h.of_get? hn
  unfold Step.not
  dsimp only [placed]
  split
  · exact rest
  · next value _ =>
    refine (congrArg (fun check => liftM check >>= _) (h.shared.issues_eq good)).trans
      (bind_congr fun issues => ?_)
    split
    · split
      · exact congrArg (· >>= _) (h.again_eq ["not"] step.value step.key true
          (of_node good))
      · rfl
    · exact rest

/-! ### Objects -/

theorem of_table {keyword : String} {table : Fields}
    (ht : Probe.membersOf (step.tableOrEmpty keyword) = .ok table) :
    ∀ entry ∈ table, Q entry.2 := by
  rintro ⟨name, s⟩ hm
  obtain ⟨tag, hk⟩ := Ready.mem_tableOrEmpty ht hm
  exact h.shared.member (h.of_get? hk) hm

theorem resolveProperties (working : Fields) (missing : List Json) {properties : Fields}
    (built : Built) (hp : ∀ entry ∈ properties, Q entry.2) :
    (step.placed root host again).resolveProperties working missing properties built =
      step.resolveProperties working missing properties built := by
  induction properties generalizing built with
  | nil => rfl
  | cons entry rest ih =>
    obtain ⟨first, others⟩ := List.forall_mem_cons.1 hp
    have resolved : ∀ found, (step.placed root host again).descend (.str entry.1) (.node entry.2) found =
        step.descend (.str entry.1) (.node entry.2) found :=
      fun found => h.descend _ found (of_node first)
    simp only [Step.resolveProperties, placed_readMember, resolved, ih _ others]

theorem resolveDependents (working : Fields) {dependents : Fields} (built : Built)
    (hd : ∀ entry ∈ dependents, Q entry.2) :
    (step.placed root host again).resolveDependents working dependents built =
      step.resolveDependents working dependents built := by
  induction dependents generalizing built with
  | nil => rfl
  | cons entry rest ih =>
    obtain ⟨first, others⟩ := List.forall_mem_cons.1 hd
    have resolved : ∀ value, (step.placed root host again).again []
          ⟨.node entry.2, value, host, step.key, step.negated⟩ =
        step.again [] ⟨.node entry.2, value, step.parent, step.key, step.negated⟩ :=
      fun value => h.again_eq [] value step.key step.negated (of_node first)
    simp only [Step.resolveDependents, placed_readMember, placed_parent, placed_key, placed_negated,
      resolved, ih _ others]

theorem resolveMatching (name : String) {patterns : Fields} (built : Built)
    (hp : ∀ entry ∈ patterns, Q entry.2) :
    (step.placed root host again).resolveMatching name patterns built =
      step.resolveMatching name patterns built := by
  induction patterns generalizing built with
  | nil => rfl
  | cons entry rest ih =>
    obtain ⟨first, others⟩ := List.forall_mem_cons.1 hp
    have resolved : ∀ value, (step.placed root host again).descend (.str name) (.node entry.2) value =
        step.descend (.str name) (.node entry.2) value :=
      fun value => h.descend _ value (of_node first)
    simp only [Step.resolveMatching, placed_options, resolved, ih _ others]

theorem resolvePatterns (properties : Fields) (names : List String) (built : Built) :
    (step.placed root host again).resolvePatterns properties names built =
      step.resolvePatterns properties names built := by
  induction names generalizing built with
  | nil => rfl
  | cons name rest ih =>
    simp only [Step.resolvePatterns, ih, placed_tableOrEmpty]
    split
    · rfl
    · exact Run.lift_bind_congr fun patterns ht => by rw [h.resolveMatching name built (h.of_table ht)]

theorem resolveUncovered {additional : Json} (ha : get? step.fields "additionalProperties" = some additional)
    (name : String) (built : Built) :
    (step.placed root host again).resolveUncovered additional name built =
      step.resolveUncovered additional name built := by
  have alike := h.shared.alike h.schema ha
  have good : ∀ {t}, Reference.expand step.setting.options.source step.setting.root additional =
      .ok (some (.node t)) → Q t := h.shared.expanded h.schema ha
  unfold Step.resolveUncovered
  split
  · rfl
  · show liftM (Reference.expand step.setting.options.source root additional) >>= _ =
      liftM (Reference.expand step.setting.options.source step.setting.root additional) >>= _
    generalize Reference.expand step.setting.options.source root additional = there at alike ⊢
    generalize Reference.expand step.setting.options.source step.setting.root additional = here at alike good ⊢
    cases alike with
    | same =>
      refine Run.lift_bind_congr fun target ht => ?_
      cases target with
      | none => rfl
      | some node => exact congrArg (· >>= _) (h.descend _ _ fun t e => good (e ▸ ht))
    | related hst =>
      refine (Run.lift_bind_of_ok rfl).trans (Eq.trans ?_ (Run.lift_bind_of_ok rfl).symm)
      exact congrArg (· >>= _) ((h.changed _ _ hst).trans (h.descend _ _ (of_node (good rfl))))

theorem resolveAllAdditional (working : Fields) (built : Built) :
    (step.placed root host again).resolveAllAdditional working built =
      step.resolveAllAdditional working built := by
  have walk : ∀ {additional}, get? step.fields "additionalProperties" = some additional →
      ∀ names built, (step.placed root host again).resolveAdditional working additional names built =
        step.resolveAdditional working additional names built := by
    intro additional ha names
    induction names with
    | nil => exact fun _ => rfl
    | cons name rest ih =>
      intro built
      simp only [Step.resolveAdditional, placed_options, placed_fields, h.resolveUncovered ha, ih]
  simp only [Step.resolveAllAdditional, placed_fields]
  split
  · rfl
  · rfl
  · rfl
  · next ha => exact walk ha _ _

theorem builtNameIssues (members : Fields) :
    (step.placed root host again).builtNameIssues members = step.builtNameIssues members := by
  unfold Step.builtNameIssues Probe.nameIssues
  dsimp only [placed]
  split
  · rfl
  · next s hs =>
    exact congrArg (Probe.gather _)
      (funext fun name => funext fun _ => h.shared.issues_eq (h.of_get? hs))

theorem resolveMembers (value : Fields) :
    (step.placed root host again).resolveMembers value = step.resolveMembers value := by
  have same : (step.placed root host again).fields = step.fields := rfl
  simp only [Step.resolveMembers, placed_fields, placed_path, placed_skips, placed_negated,
    placed_tableOrEmpty, placed_dependentIssues, withDefaults_congr same rfl, absentNames_congr same rfl,
    h.resolvePatterns, h.resolveAllAdditional, h.builtNameIssues]
  refine bind_congr fun size => bind_congr fun required => bind_congr fun working =>
    bind_congr fun missing => ?_
  -- what is missing may be noted or not; the stages that follow are the same
  refine congrArg₂ (ite _) (bind_congr fun _ => ?_) ?_
  all_goals
    refine Run.lift_bind_congr fun properties hp => ?_
    rw [h.resolveProperties _ _ _ (h.of_table hp)]
    refine bind_congr fun built => bind_congr fun dependent =>
      Run.lift_bind_congr fun dependents hd => ?_
    rw [h.resolveDependents _ _ (h.of_table hd)]

/-! ### Types -/

theorem resolveItem (i : Nat) (item : Json) (built : BuiltItems) :
    (step.placed root host again).resolveItem i item built = step.resolveItem i item built := by
  simp only [Step.resolveItem, placed_fields, placed_path]
  split
  · rfl
  · rfl
  · rfl
  · next s _ _ hs =>
    have good : Q s := h.shared.comprises.of_itemSchema h.schema hs
    rw [h.descend _ _ (of_node good), show Probe.issues (step.placed root host again).setting item s _ = _
      from h.shared.issues_eq good]

theorem resolveItems (i : Nat) (items : List Json) (built : BuiltItems) :
    (step.placed root host again).resolveItems i items built = step.resolveItems i items built := by
  induction items generalizing i built with
  | nil => rfl
  | cons item rest ih => simp only [Step.resolveItems, h.resolveItem, ih]

theorem array : (step.placed root host again).array = step.array := by
  simp only [Step.array, placed_value, missing_placed h.hosts, h.resolveItems]
  split
  · rfl
  · exact congrArg (fun check => liftM check >>= _) (h.shared.listIssues_eq h.schema _)
  · rfl

theorem object : (step.placed root host again).object = step.object := by
  simp only [Step.object, placed_value, isRequired_placed h.hosts, isRoot_placed h.hosts,
    h.resolveMembers]
  rfl

theorem ofKind (kind : Kind) : (step.placed root host again).ofKind kind = step.ofKind kind := by
  cases kind with
  | array => exact h.array
  | object => exact h.object
  | number | integer =>
    simp only [Step.ofKind, Step.number, placed_value, missing_placed h.hosts]
    rfl
  | string =>
    simp only [Step.ofKind, Step.string, placed_value, missing_placed h.hosts]
    rfl
  | null => rfl
  | boolean => rfl

theorem ofType (type : Json) : (step.placed root host again).ofType type = step.ofType type := by
  cases type with
  | str s =>
    simp only [Step.ofType]
    cases Kind.ofName? s with
    | none => rfl
    | some kind => exact h.ofKind kind
  | _ => rfl

/-- The step at what remains of the schema for one of its types. -/
theorem restricted (kind : Kind) : Placed Q
    { step with tag := none, fields := Schema.restrict step.fields (.str kind.name) } root host again :=
  ⟨h.shared, h.shared.restricted h.schema, h.hosts, h.heeds⟩

theorem ofTypes (types : List Json) : (step.placed root host again).ofTypes types = step.ofTypes types := by
  simp only [Step.ofTypes, placed_value, missing_placed h.hosts]
  split
  · rfl
  · split
    · rfl
    · next kind _ => exact (h.restricted kind).ofKind kind

theorem typed : (step.placed root host again).typed = step.typed := by
  simp only [Step.typed, placed_schema, placed_fields, placed_value, h.ofType, h.ofTypes, h.ofKind]

/-! ### The step -/

theorem dispatch : (step.placed root host again).dispatch = step.dispatch := by
  simp only [Step.dispatch, placed_fields]
  split
  · next hc => exact h.conditional hc
  · next hm => exact h.allOf hm
  · next hb => exact h.anyOf hb
  · next hb => exact h.oneOf hb
  · next hn => exact h.not hn
  · exact h.typed

theorem run : (step.placed root host again).run = step.run := by
  have filled : Placed Q { step with value := step.filled } root host again :=
    ⟨h.shared, h.schema, h.hosts, h.heeds⟩
  refine bind_congr fun issues => ?_
  split
  · exact filled.dispatch
  · rfl

end Placed

end Step

/-! ## 3. A resolution -/

variable {Q : Json → Prop} {setting : Probe.Setting} {root host host' : Json}

/-- **One resolution within another document, for another container**, given that what it asks for further
does not heed them. -/
theorem resolveStep_placed (shared : Shared setting root Q) {again again' : Again}
    (heeds : Heeds Q setting.options.skipValidation again again') (path : Path) {node : Node}
    (value : Option Json) (key : Json) (negated : Bool) (hs : ∀ s, node = .node s → Q s)
    (hosts : Hosts setting.options.skipValidation host host') :
    resolveStep (setting.within root) path ⟨node, value, host', key, negated⟩ again' =
      resolveStep setting path ⟨node, value, host, key, negated⟩ again := by
  match node with
  | .node (.obj tag fields) =>
    have placed : Step.Placed Q ⟨setting, path, tag, fields, value, host, key, negated, again⟩
        root host' again' := ⟨shared, hs _ rfl, hosts, heeds⟩
    exact placed.run
  | .node .null | .node (.bool true) | .node (.bool false) | .node (.num _) | .node (.str _)
  | .node (.arr _ _) | .endOfList _ => rfl

/-- **What surrounds a schema does not matter**, for the schemas that two documents share and for
containers that ask for the same. -/
theorem resolve_placed (shared : Shared setting root Q) (guard : Guard) {node : Node}
    (value : Option Json) {host host' : Json} (key : Json) (negated : Bool)
    (hs : ∀ s, node = .node s → Q s) (hosts : Hosts setting.options.skipValidation host host') :
    resolve (setting.within root) guard ⟨node, value, host', key, negated⟩ =
      resolve setting guard ⟨node, value, host, key, negated⟩ := by
  rw [resolve, resolve]
  split
  · rfl
  · next deep =>
    refine resolveStep_placed shared ⟨fun extension _ value _ _ key negated hs hosts => ?_,
      fun extension _ _ value host key negated hst => ?_⟩ guard.path value key negated hs hosts
    · exact resolve_placed shared (guard.enter extension) value key negated hs hosts
    · exact hst.resolved (setting.within root) (guard.enter extension) value host key negated
termination_by guard.rank
decreasing_by exact Guard.rank_enter_lt ‹_› extension

end Resolve

/-! ## 4. Documents in which references lead to the same -/

namespace Probe

open Reference (Follower)
open Schema (Lasting ProperWith properWith_merge properWith_obj properWith_str)

variable {setting : Setting} {follower : Follower} {root root' s : Json} {k : String}

/-- **A reference leads to the same in two documents.** -/
def LeadsAlike (follower : Follower) (root root' : Json) (k : String) (ref : Json) : Prop :=
  k = "$ref" → Reference.resolve follower ref root' = Reference.resolve follower ref root

instance {ref : Json} : Decidable (LeadsAlike follower root root' k ref) :=
  inferInstanceAs (Decidable (_ → _))

/-- Merging makes no references. -/
theorem lasting_leadsAlike : Lasting (LeadsAlike follower root root') :=
  Schema.lasting_of_untouched (by decide) rfl (fun _ => rfl) fun _ => rfl

/-- What a schema stands for is the same where its reference leads to the same. -/
theorem expand_of_leadsAlike (h : ProperWith (LeadsAlike follower root root') s) :
    Reference.expand (.document follower) root s = Reference.expand (.document follower) root' s := by
  cases s with
  | obj tag fields =>
    cases hr : get? fields "$ref" with
    | none => simp only [Reference.expand, hr]
    | some ref =>
      have led : Reference.resolve follower ref root' = Reference.resolve follower ref root :=
        h.of_mem (Json.mem_of_get? hr) rfl
      simp only [Reference.expand, hr, Reference.Source.document, led]
  | _ => rfl

/-- What is said of members holds in what is left of a schema for one of its types, if it is said of types. -/
theorem properWith_restrict {A : String → Json → Prop} {tag tag' : Tag} {fields : Fields} {kind : Kind}
    (types : ∀ name, A "type" (.str name)) (h : ProperWith A (.obj tag fields)) :
    ProperWith A (.obj tag' (Schema.restrict fields (.str kind.name))) := by
  have kept : (Json.obj tag' (Schema.restrict fields (.str kind.name))).Proper :=
    Schema.proper_restrict h.proper
  refine properWith_obj kept.distinct fun k x hm => ?_
  rcases Schema.mem_restrict hm with hm | ⟨rfl, rfl⟩
  · exact ⟨h.of_mem hm, h.of_mem_fields hm⟩
  · exact ⟨types _, properWith_str _⟩

/-- **The schemas whose references lead to the same are shared**, if the document itself is one of them. -/
theorem shared_of_leadsAlike (source : setting.options.source = .document follower)
    (hroot : ProperWith (LeadsAlike follower setting.root root) setting.root) :
    Shared setting root (ProperWith (LeadsAlike follower setting.root root)) :=
  { closed_properWith lasting_leadsAlike hroot (source ▸ Reference.carries_document) with
    restricted := properWith_restrict fun _ he => absurd he (by decide)
    merged := fun _ _ _ ha hb hm => properWith_merge lasting_leadsAlike ha hb hm
    alike := fun h ha => by
      rw [source, expand_of_leadsAlike (h.of_mem_fields (Json.mem_of_get? ha))]
      exact .same _ }

/-- **References lead to the same wherever they stand**, as those do that are not looked up in the document. -/
def LedElsewhere (source : Reference.Source) (root root' : Json) : Prop :=
  ∀ ref, source.lookup ref root' = source.lookup ref root

theorem ledElsewhere_table (entries : Fields) : LedElsewhere (.table entries) root root' := fun _ => rfl

/-- Then two documents share all schemas. -/
theorem shared_of_ledElsewhere (led : LedElsewhere setting.options.source setting.root root) :
    Shared setting root fun _ => True :=
  { shared_self setting with
    alike := fun {tag fields additional} _ _ => by
      have same : ∀ ref, setting.options.source.lookup ref root =
          setting.options.source.lookup ref setting.root := led
      have found : Reference.expand setting.options.source root additional =
          Reference.expand setting.options.source setting.root additional := by
        cases additional with
        | obj => simp only [Reference.expand, same]
        | _ => rfl
      exact found ▸ .same _ }

/-! ## 5. Documents that refer to themselves

A reference to the whole document leads to another one in another document.  That does no harm if nothing
tells between the two; but what is merged with them may tell, so a reference has to stand alone, and nothing
else may merge schemas. -/

/-- Does nothing stand beside a reference? -/
def refersAlone : Json → Bool
  | .obj _ fields => !Fields.has fields "$ref" || (Fields.erase fields "$ref").isEmpty
  | _ => true

/-- **A reference leads to the same in two documents, or to the whole of either.**  References that are
followed stand alone, and no keyword leads to merges. -/
def LeadsToWhole (follower : Follower) (root root' : Json) (k : String) (x : Json) : Prop :=
  (k = "$ref" → Reference.resolve follower x root' = Reference.resolve follower x root ∨
    Reference.resolve follower x root = .ok (.node root) ∧
      Reference.resolve follower x root' = .ok (.node root')) ∧
  (k = "additionalProperties" → refersAlone x = true) ∧ k ∉ mergingKeywords

instance {x : Json} : Decidable (LeadsToWhole follower root root' k x) :=
  inferInstanceAs (Decidable (_ ∧ _ ∧ _))

/-- What a reference leads to, if that is not null. -/
def stands : Reference.Target → Option Reference.Node
  | .node .null => none
  | target => some target

/-- A schema stands for itself, or for what the reference leads to that stands alone in it. -/
theorem expand_of_refersAlone {source : Reference.Source} (h : refersAlone s = true) :
    (∃ found, (∀ root, Reference.expand source root s = .ok found) ∧
      ∀ t, found = some (.node t) → t = s) ∨
    ∃ tag fields ref, s = .obj tag fields ∧ get? fields "$ref" = some ref ∧
      ∀ root, Reference.expand source root s = (source.lookup ref root).map stands := by
  cases s with
  | obj tag fields =>
    cases hr : get? fields "$ref" with
    | none =>
      refine .inl ⟨some (.node (.obj tag fields)), fun root => by simp only [Reference.expand, hr], ?_⟩
      rintro t ⟨⟩
      rfl
    | some ref =>
      have alone : (Fields.erase fields "$ref").isEmpty = true := by
        simpa [refersAlone, Fields.has, hr] using h
      refine .inr ⟨tag, fields, ref, rfl, hr, fun root => ?_⟩
      simp only [Reference.expand, hr]
      cases source.lookup ref root with
      | error fault => rfl
      | ok target =>
        cases target with
        | endOfList items => exact if_pos alone
        | node x =>
          cases x with
          | null => rfl
          | _ => exact if_pos alone
  | null =>
    refine .inl ⟨none, fun _ => rfl, ?_⟩
    rintro t ⟨⟩
  | _ =>
    refine .inl ⟨_, fun _ => rfl, ?_⟩
    rintro t ⟨⟩
    rfl

/-- **The schemas whose references lead to the same or to the whole are shared**, if nothing tells between the
two documents and the first of them is such a schema itself. -/
theorem shared_of_leadsToWhole (source : setting.options.source = .document follower)
    (whole : Interchangeable setting.root root) (there : setting.root ≠ .null ∧ root ≠ .null)
    (hroot : ProperWith (LeadsToWhole follower setting.root root) setting.root) :
    Shared setting root (ProperWith (LeadsToWhole follower setting.root root)) := by
  have alone : ∀ {tag fields s}, ProperWith (LeadsToWhole follower setting.root root) (.obj tag fields) →
      get? fields "additionalProperties" = some s → refersAlone s = true :=
    fun h hs => (h.of_mem (Json.mem_of_get? hs)).2.1 rfl
  refine
    { closed_of_expanded fun {tag fields s t} h hs ht => ?_ with
      restricted := properWith_restrict fun _ => ⟨fun he => absurd he (by decide),
        fun he => absurd he (by decide), by decide⟩
      merged := fun h hk hx => absurd hk (h.of_mem (Json.mem_of_get? hx)).2.2
      alike := fun {tag fields s} h hs => ?_ }
  · rw [source] at ht
    rcases expand_of_refersAlone (alone h hs) with ⟨found, itself, only⟩ | ⟨_, _, ref, rfl, hr, led⟩
    · rw [itself, Except.ok.injEq] at ht
      exact only t ht ▸ h.of_get? hs
    · rw [led] at ht
      cases hl : (Reference.Source.document follower).lookup ref setting.root with
      | error fault => simp [hl, Except.map] at ht
      | ok target =>
        simp only [hl, Except.map, Except.ok.injEq] at ht
        rcases target with (_ | _ | _ | _ | _ | _) | _ <;> cases ht <;>
          exact Reference.carries_document hroot hl
  · rw [source]
    rcases expand_of_refersAlone (alone h hs) with ⟨found, itself, -⟩ | ⟨_, _, ref, rfl, hr, led⟩
    · rw [itself, itself]
      exact .same _
    · rw [led, led]
      have inside : ProperWith (LeadsToWhole follower setting.root root) _ := h.of_get? hs
      rcases (inside.of_mem (Json.mem_of_get? hr)).1 rfl with same | ⟨here, elsewhere⟩
      · rw [show (Reference.Source.document follower).lookup ref root = _ from same]
        exact .same _
      · rw [show (Reference.Source.document follower).lookup ref setting.root = _ from here,
          show (Reference.Source.document follower).lookup ref root = _ from elsewhere]
        have stays : ∀ {s}, s ≠ .null → stands (.node s) = some (.node s) := fun {s} hs => by
          cases s with
          | null => exact absurd rfl hs
          | _ => rfl
        simp only [Except.map, stays there.1, stays there.2]
        exact .related whole

end Probe

end Conform
