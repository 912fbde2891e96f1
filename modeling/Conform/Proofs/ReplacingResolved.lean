/-
# Resolving where nulls are replaced

A resolution at a schema comes to the same as one at what stands for it with nulls replaced by true, value,
issues and notes (`reflects_resolve`).  What a step reads of its schema is the same, the schemas that it
leads to stand for each other, as those that are merged on the way do, and so the answers are the same.

In one place a null is taken another way than `true` is.  An item that is admitted by `true` is left as it
is, but one that is admitted by null is resolved, if only to be found as it is.  That takes a place, so the
guard must not stop there (`ItemsInReach`).  In `allOf` a null is merged into the other members, just as a
`true` is; but there need not be as many of both, so lists of members are matched up but for what asks for
nothing (`MatchedUp`).
-/
import Conform.Proofs.Lossless
import Conform.Proofs.Noting
import Conform.Proofs.ReplacingProbed

namespace Conform.Resolve

open Fields (get? Aligned)
open Probe (Check)
open Reference (Node NodeReplaced)
open Schema

variable {manner : Manner} {α β γ δ : Type}

/-! ## 1. Runs -/

/-- **Both runs stop with the same fault, or both have results, and these are related**; and they note the
same.  But the first may stop at a null for additional members, if one is replaced. -/
inductive Reflects (manner : Manner) (R : α → β → Prop) : Run α → Run β → Prop
  | fault {fault : Fault} {notes : List Issue} :
      Reflects manner R ⟨.error fault, notes⟩ ⟨.error fault, notes⟩
  | answer {a : α} {b : β} {notes : List Issue} (h : R a b) :
      Reflects manner R ⟨.ok a, notes⟩ ⟨.ok b, notes⟩
  | unreadable {notes : List Issue} {run : Run β} (h : manner.additional = true) :
      Reflects manner R ⟨.error .notReadable, notes⟩ run

namespace Reflects

variable {R : α → β → Prop} {S : γ → δ → Prop} {run : Run α} {run' : Run β}

/-- What comes after a run may use what the first one ends with. -/
theorem bind (h : Reflects manner R run run') {f : α → Run γ} {g : β → Run δ}
    (hn : ∀ a b, run.result = .ok a → R a b → Reflects manner S (f a) (g b)) :
    Reflects manner S (run >>= f) (run' >>= g) := by
  cases h with
  | fault => exact .fault
  | unreadable ha => exact .unreadable ha
  | @answer a b notes h =>
    have next := hn a b rfl h
    change Reflects manner S ⟨(f a).result, notes ++ (f a).notes⟩ ⟨(g b).result, notes ++ (g b).notes⟩
    generalize f a = first at next
    generalize g b = second at next
    cases next with
    | fault => exact .fault
    | answer h => exact .answer h
    | unreadable ha => exact .unreadable ha

/-- Runs with the same results, and what comes after them. -/
theorem then_ {run run' : Run α} (h : Reflects manner Eq run run') {f : α → Run γ} {g : α → Run δ}
    (hn : ∀ a, run.result = .ok a → Reflects manner S (f a) (g a)) :
    Reflects manner S (run >>= f) (run' >>= g) :=
  h.bind fun a _ hr he => he ▸ hn a hr

theorem check {x : Check α} {y : Check β} (h : Mirrors manner R x y) :
    Reflects manner R (Run.ofCheck x) (Run.ofCheck y) := by
  cases h with
  | fault => exact .fault
  | answer h => exact .answer h
  | unreadable ha => exact .unreadable ha

theorem same (run : Run α) : Reflects manner Eq run run := by
  obtain ⟨result, notes⟩ := run
  cases result with
  | error fault => exact .fault
  | ok a => exact .answer rfl

/-- One check, and what comes after it. -/
theorem after (x : Check α) {f : α → Run γ} {g : α → Run δ}
    (hn : ∀ a, x = .ok a → Reflects manner S (f a) (g a)) :
    Reflects manner S (liftM x >>= f) (liftM x >>= g) :=
  (same (Run.ofCheck x)).then_ hn

theorem pure {a : α} {b : β} (h : R a b) : Reflects manner R (Pure.pure a) (Pure.pure b) := .answer h

theorem ite {p : Prop} [Decidable p] {other : Run α} {other' : Run β} (h : Reflects manner R run run')
    (h' : Reflects manner R other other') :
    Reflects manner R (if p then run else other) (if p then run' else other') := by
  split
  · exact h
  · exact h'

end Reflects

/-! ## 2. Steps -/

/-- **The same names are required.** -/
theorem requiredNames_eq {use : Use} {f g : Fields} (h : MembersReplaced manner use f g) (skips : Bool) :
    Step.requiredNames skips f = Step.requiredNames skips g := by
  have members : ∀ {p q : Fields}, Fields.has p = Fields.has q → ∀ names,
      Step.memberNames p names = Step.memberNames q names := by
    intro p q hpq names
    induction names with
    | nil => rfl
    | cons name rest ih => cases name <;> simp only [Step.memberNames, Step.isMemberName, ih, hpq]
  simp only [Step.requiredNames]
  rcases h.table (k := "properties") rfl with ⟨hf, hg⟩ | ⟨tag, p, q, hf, hg, properties⟩
  · rcases h.required with ⟨hf', hg'⟩ | ⟨tag, xs, tag', ys, hf', hg', names⟩
    · rw [hf, hg, hf', hg']
    · simp only [hf, hg, hf', hg', Option.getD_some, Probe.entriesOf, Json.entries?, ok_bind, names]
  · have same := members (funext fun k => properties.has_eq k)
    rcases h.required with ⟨hf', hg'⟩ | ⟨tag, xs, tag', ys, hf', hg', names⟩
    · simp only [hf, hg, hf', hg', same]
    · simp only [hf, hg, hf', hg', Option.getD_some, Probe.entriesOf, Json.entries?, ok_bind, names, same]

/-- What the schema of a container stands for; at the top there is none. -/
def Container (manner : Manner) (parent parent' : Json) : Prop :=
  Replaced manner .resolved parent parent' ∧ (parent = .null → parent' = .null)

/-- What is another about a step at what stands for its schema. -/
structure Counterpart where
  root : Json
  fields : Fields
  parent : Json
  again : Again

/-- The step at what stands for its schema, in another document. -/
def Step.mirrored (step : Step) (other : Counterpart) : Step :=
  { step with
    setting := ⟨step.setting.options, other.root⟩
    fields := other.fields
    parent := other.parent
    again := other.again }

/-- **The schema of a step stands for another**, and what it leads to is resolved alike. -/
structure Mirrored (manner : Manner) (step : Step) (other : Counterpart) (Leads : Path → Node → Prop) :
    Prop where
  led : Reference.LedAlike manner step.setting.options.source step.setting.root other.root
  fields : MembersReplaced manner .resolved step.fields other.fields
  parent : Container manner step.parent other.parent
  follows : ∀ {extension : Path} {node node' : Node} (value : Option Json) {parent parent' : Json}
    (key : Json) (negated : Bool), Leads extension node → NodeReplaced manner .resolved node node' →
    Container manner parent parent' →
    Reflects manner Eq (step.again extension ⟨node, value, parent, key, negated⟩)
      (other.again extension ⟨node', value, parent', key, negated⟩)
  nullItems : ∀ i, Probe.itemSchema step.fields i = some .null → ∀ item parent key negated,
    step.again [Nat.repr i] ⟨.node .null, some item, parent, key, negated⟩ = done (some item)

namespace Mirrored

open Step

variable {Leads : Path → Node → Prop} {step : Step} {other : Counterpart}
  (h : Mirrored manner step other Leads)

include h

theorem probed (value s : Json) :
    Probe.ProbedAlike manner step.setting.options step.setting.root other.root value s :=
  Probe.probedAlike h.led value s

theorem container : Container manner step.schema (step.mirrored other).schema :=
  ⟨replaced_obj h.fields, nofun⟩

/-! ### What is read of the schema -/

theorem default?_eq : (step.mirrored other).default? = step.default? :=
  (h.fields.get?_eq (k := "default") rfl (by decide)).symm

theorem filled_eq : (step.mirrored other).filled = step.filled := by
  have absent : isAbsent (step.mirrored other).value (step.mirrored other).schema =
      isAbsent step.value step.schema := (h.container.1.isAbsent_eq _).symm
  have const : get? (step.mirrored other).fields "const" = get? step.fields "const" :=
    (h.fields.get?_eq rfl (by decide)).symm
  simp only [Step.filled, h.default?_eq, absent, const]
  rfl

theorem pinIssues_eq : (step.mirrored other).pinIssues = step.pinIssues := by
  unfold Step.pinIssues
  simp only [Probe.pinIssues_eq h.fields]
  rfl

theorem isRoot_eq : (step.mirrored other).isRoot = step.isRoot := by
  obtain ⟨hp, top⟩ := h.parent
  unfold Step.isRoot
  dsimp only [mirrored]
  generalize step.parent = parent at hp top
  generalize other.parent = parent' at hp top
  cases hp with
  | leaf => rfl
  | null => exact nomatch top rfl
  | node => rfl

theorem isRequired_eq : (step.mirrored other).isRequired = step.isRequired := by
  obtain ⟨hp, top⟩ := h.parent
  unfold Step.isRequired
  dsimp only [mirrored, skips]
  generalize step.parent = parent at hp top
  generalize other.parent = parent' at hp top
  generalize step.key = key
  cases hp with
  | leaf => rfl
  | null => exact nomatch top rfl
  | node members => cases key <;> simp only [requiredNames_eq members.aligned]

theorem reflects_missing (atRoot : Option Json) :
    Reflects manner Eq (step.missing atRoot) ((step.mirrored other).missing atRoot) := by
  simp only [Step.missing, h.isRequired_eq, h.isRoot_eq]
  exact .same _

/-- Schemas by name or by pattern, where there need be none. -/
theorem tableOrEmpty {k : String} (hk : (Shape.ofKeyword k).place = .table) :
    ∃ tag p q, step.tableOrEmpty k = .obj tag p ∧ (step.mirrored other).tableOrEmpty k = .obj tag q ∧
      Aligned (fun _ => Replaced manner .resolved) p q := by
  rcases h.fields.table hk with ⟨hf, hg⟩ | ⟨tag, p, q, hf, hg, table⟩
  · exact ⟨none, [], [], by simp [Step.tableOrEmpty, hf], by simp [Step.tableOrEmpty, mirrored, hg], .nil⟩
  · replace table := table.mono fun _ _ _ hxy => hxy.loosen (Use.below_loosens k)
    by_cases hp : p.isEmpty = true
    · have hq : q.isEmpty = true := table.isEmpty_eq ▸ hp
      exact ⟨none, [], [], by simp [Step.tableOrEmpty, hf, Json.truthy, hp],
        by simp [Step.tableOrEmpty, mirrored, hg, Json.truthy, hq], .nil⟩
    · have hq : ¬q.isEmpty = true := table.isEmpty_eq ▸ hp
      exact ⟨tag, p, q, by simp [Step.tableOrEmpty, hf, Json.truthy, hp],
        by simp [Step.tableOrEmpty, mirrored, hg, Json.truthy, hq], table⟩

theorem mirrors_withDefaults (names : List Json) (members : Fields) :
    Mirrors manner Eq (step.withDefaults names members) ((step.mirrored other).withDefaults names members) := by
  obtain ⟨tag, p, q, hp, hq, properties⟩ := h.tableOrEmpty (k := "properties") rfl
  induction names generalizing members with
  | nil => exact .answer rfl
  | cons name rest ih =>
    simp only [Step.withDefaults, hp, hq]
    refine (Probe.mirrors_propertySchema properties name).bind fun s t hst => ?_
    cases hst with
    | leaf ho =>
      cases s with
      | obj => cases ho
      | _ => exact ih members
    | null => exact ih members
    | @node _ tag f g hfg =>
      have schema : Replaced manner .resolved (.obj tag f) (.obj tag g) := .node hfg
      cases name with
      | str s =>
        dsimp only
        rw [hfg.aligned.get?_eq (k := "default") rfl (by decide)]
        split
        · simp only [schema.isAbsent_eq]
          exact .after _ fun found => ih _
        · exact ih members
      | _ => exact ih members

theorem mirrors_absentNames (members : Fields) (names : List Json) :
    Mirrors manner Eq (step.absentNames members names) ((step.mirrored other).absentNames members names) := by
  obtain ⟨tag, p, q, hp, hq, properties⟩ := h.tableOrEmpty (k := "properties") rfl
  induction names with
  | nil => exact .answer rfl
  | cons name rest ih =>
    simp only [Step.absentNames, hp, hq]
    refine .after _ fun found => (Probe.mirrors_propertySchema properties name).bind fun s t hst => ?_
    rw [hst.isAbsent_eq]
    exact ih.then_ fun others => .answer rfl

theorem dependentIssues_eq (working : Fields) :
    (step.mirrored other).dependentIssues working = step.dependentIssues working := by
  unfold Step.dependentIssues
  simp only [Probe.dependentIssues_eq h.fields]
  rfl

theorem mirrors_builtNameIssues (members : Fields) :
    Mirrors manner Eq (step.builtNameIssues members) ((step.mirrored other).builtNameIssues members) :=
  Probe.mirrors_nameIssues (h.fields.loosen .probed) fun x _ s => h.probed x s

/-! ### Where a step goes on -/

theorem redirect {s t : Json} (asked : Leads [] (.node s)) (hst : Replaced manner .resolved s t) :
    Reflects manner Eq (step.redirect s) ((step.mirrored other).redirect t) :=
  h.follows _ _ _ asked (.node hst) h.parent

theorem descend {key : Json} {node node' : Node} (asked : Leads [key.plain] node)
    (hn : NodeReplaced manner .resolved node node') (value : Option Json) :
    Reflects manner Eq (step.descend key node value) ((step.mirrored other).descend key node' value) :=
  h.follows _ _ _ asked hn h.container

end Mirrored

/-! ## 3. Objects -/

namespace Mirrored

open Step

variable {step : Step} {other : Counterpart}
  (h : Mirrored manner step other (Enters step.setting step.fields))

include h

theorem properties (working : Fields) (missing : List Json) {p q : Fields}
    (schemas : Aligned (fun _ => Replaced manner .resolved) p q)
    (asked : ∀ name s, (name, s) ∈ p → Enters step.setting step.fields [name] (.node s)) (built : Built) :
    Reflects manner Eq (step.resolveProperties working missing p built)
      ((step.mirrored other).resolveProperties working missing q built) := by
  induction schemas generalizing built with
  | nil => exact .same _
  | cons first _ ih =>
    have later := ih fun name s hs => asked name s (List.mem_cons_of_mem _ hs)
    rw [Step.resolveProperties, Step.resolveProperties]
    refine .ite (later built) (.after _ fun found _ => ?_)
    exact (h.descend (asked _ _ (List.mem_cons_self ..)) (.node first) found).then_ fun _ _ => later _

theorem dependents (working : Fields) {p q : Fields}
    (schemas : Aligned (fun _ => Replaced manner .resolved) p q)
    (asked : ∀ name s, (name, s) ∈ p → Enters step.setting step.fields [] (.node s)) (built : Built) :
    Reflects manner Eq (step.resolveDependents working p built)
      ((step.mirrored other).resolveDependents working q built) := by
  induction schemas generalizing built with
  | nil => exact .same _
  | cons first _ ih =>
    have later := ih fun name s hs => asked name s (List.mem_cons_of_mem _ hs)
    rw [Step.resolveDependents, Step.resolveDependents]
    refine .after _ fun found _ => ?_
    cases found with
    | none => exact later built
    | some _ =>
      refine (h.follows _ _ _ (asked _ _ (List.mem_cons_self ..)) (.node first) h.parent).then_
        fun outcome _ => ?_
      split
      · exact later _
      · exact later _
      · exact later _

theorem matching (name : String) {p q : Fields}
    (schemas : Aligned (fun _ => Replaced manner .resolved) p q)
    (asked : ∀ pattern s, (pattern, s) ∈ p → Enters step.setting step.fields [name] (.node s))
    (built : Built) :
    Reflects manner Eq (step.resolveMatching name p built)
      ((step.mirrored other).resolveMatching name q built) := by
  induction schemas generalizing built with
  | nil => exact .same _
  | cons first _ ih =>
    have later := ih fun pattern s hs => asked pattern s (List.mem_cons_of_mem _ hs)
    rw [Step.resolveMatching, Step.resolveMatching]
    refine .after _ fun fits _ => .ite ?_ (later built)
    refine (h.descend ?_ (.node first) _).then_ fun _ _ => later _
    exact asked _ _ (List.mem_cons_self ..)

theorem patterns {p q : Fields} (covered : Fields.has p = Fields.has q) (names : List String)
    (built : Built) :
    Reflects manner Eq (step.resolvePatterns p names built)
      ((step.mirrored other).resolvePatterns q names built) := by
  obtain ⟨tag, r, t, hr, ht, schemas⟩ := h.tableOrEmpty (k := "patternProperties") rfl
  induction names generalizing built with
  | nil => exact .same _
  | cons name rest ih =>
    rw [Step.resolvePatterns, Step.resolvePatterns, covered, hr, ht]
    refine .ite (ih built) ?_
    refine (h.matching name schemas (fun pattern s hs => ?_) built).then_ fun _ _ => ih _
    obtain ⟨tag, hx⟩ := Ready.mem_tableOrEmpty (congrArg Probe.membersOf hr) hs
    exact .tabled (by simp) hx hs

theorem uncovered {s t : Json} (hs : get? step.fields "additionalProperties" = some s) (hn : s ≠ .null)
    (hst : Replaced manner .resolved s t) (ha : Additional manner s t) (name : String) (built : Built) :
    Reflects manner Eq (step.resolveUncovered s name built)
      ((step.mirrored other).resolveUncovered t name built) := by
  have followed : Use.resolved ≠ .united := Use.noConfusion
  have unreplaced : s = .null → t = .null := fun e => absurd e hn
  have expanded := Reference.mirrors_expand h.led followed hst ha unreplaced
  rw [Step.resolveUncovered, Step.resolveUncovered, hst.isFalse_eq]
  refine .ite (.same _) ((Reflects.check expanded).bind fun found found' hf hfound => ?_)
  cases hfound with
  | nothing =>
    rw [Probe.deadReference_eq hst unreplaced]
    exact .same _
  | found hnode =>
    exact (h.descend (.additional hs hf) hnode _).then_ fun _ _ => .same _

theorem allAdditional (working : Fields) (built : Built) :
    Reflects manner Eq (step.resolveAllAdditional working built)
      ((step.mirrored other).resolveAllAdditional working built) := by
  rcases h.fields.additional with ⟨hf, hg⟩ | ⟨s, t, hf, hg, hst, ha⟩
  · simp only [Step.resolveAllAdditional, mirrored, hf, hg]
    exact .same _
  have walk : s ≠ .null → ∀ names built, Reflects manner Eq
      (step.resolveAdditional working s names built)
      ((step.mirrored other).resolveAdditional working t names built) := by
    intro hn names
    induction names with
    | nil => exact fun built => .same _
    | cons name rest ih =>
      intro built
      rw [Step.resolveAdditional, Step.resolveAdditional]
      refine .ite (ih built) ?_
      simp only [Probe.isAdditional_eq h.fields]
      refine .after _ fun uncovered _ => ?_
      exact .ite ((h.uncovered hf hn hst ha name built).then_ fun _ _ => ih _)
        ((Reflects.same _).then_ fun _ _ => ih _)
  simp only [Step.resolveAllAdditional]
  dsimp only [mirrored]
  rw [hf, hg]
  cases hst with
  | null => exact .same _
  | node => exact walk Json.noConfusion _ built
  | leaf =>
    cases s with
    | null => exact .same _
    | bool b =>
      cases b with
      | true => exact .same _
      | false => exact walk Json.noConfusion _ built
    | _ => exact walk Json.noConfusion _ built

/-- **The members of an object.** -/
theorem members (value : Fields) :
    Reflects manner Eq (step.resolveMembers value) ((step.mirrored other).resolveMembers value) := by
  obtain ⟨tag, p, q, hp, hq, declared⟩ := h.tableOrEmpty (k := "properties") rfl
  obtain ⟨tag', r, t, hr, ht, schemas⟩ := h.tableOrEmpty (k := "dependentSchemas") rfl
  have covered : Fields.has p = Fields.has q := funext fun k => declared.has_eq k
  have others : ∀ working, otherMembers p working = otherMembers q working := fun working => by
    simp only [otherMembers, covered]
  have size : Probe.memberCountIssues value.length (step.mirrored other).fields (step.mirrored other).path =
      Probe.memberCountIssues value.length step.fields step.path :=
    (Probe.memberCountIssues_eq h.fields _).symm
  have required : requiredNames (step.mirrored other).skips (step.mirrored other).fields =
      requiredNames step.skips step.fields := (requiredNames_eq h.fields _).symm
  simp only [Step.resolveMembers, hp, hq, hr, ht, h.dependentIssues_eq, size, required]
  refine .after _ fun size _ => .after _ fun required _ => ?_
  refine (Reflects.check (h.mirrors_withDefaults required value)).then_ fun working _ => ?_
  refine (Reflects.check (h.mirrors_absentNames working required)).then_ fun missing _ => ?_
  refine .ite ((Reflects.same (Run.note _)).then_ fun _ _ => ?_) ?_
  all_goals
    refine (h.properties working missing declared (fun name s hs => ?_) _).then_ fun built _ => ?_
    · obtain ⟨tag, hx⟩ := Ready.mem_tableOrEmpty (congrArg Probe.membersOf hp) hs
      exact .tabled (by simp) hx hs
    refine .after _ fun dependent _ => ?_
    rw [others]
    refine (h.dependents working schemas (fun name s hs => ?_) _).then_ fun built _ => ?_
    · obtain ⟨tag, hx⟩ := Ready.mem_tableOrEmpty (congrArg Probe.membersOf hr) hs
      exact .dependent hx hs
    refine (h.patterns covered _ built).then_ fun built _ => ?_
    refine (h.allAdditional working built).then_ fun built _ => ?_
    exact (Reflects.check (h.mirrors_builtNameIssues built.members)).then_ fun names _ => .same _

end Mirrored

/-! ## 4. Types -/

namespace Mirrored

open Step

variable {step : Step} {other : Counterpart}
  (h : Mirrored manner step other (Enters step.setting step.fields))

include h

/-- An item is probed if it is null and must not be, and resolved otherwise. -/
theorem itemAgainst (i : Nat) (x : Json) (built : BuiltItems) {s t : Json}
    (hs : Probe.itemSchema step.fields i = some s) (hst : Replaced manner .resolved s t) :
    Reflects manner Eq
      (if Kind.null.fits x && !allowsNull s then do
        let issues ← Probe.issues step.setting x s (Probe.itemPath step.path i)
        Pure.pure { built with issues := built.issues ++ issues }
      else do
        match ← step.descend (indexKey i) (.node s) (some x) with
        | .failed issues => Pure.pure { built with issues := built.issues ++ issues }
        | .resolved value => Pure.pure { built with items := value.getD .null :: built.items } :
        Run BuiltItems)
      (if Kind.null.fits x && !allowsNull t then do
        let issues ← Probe.issues (step.mirrored other).setting x t (Probe.itemPath step.path i)
        Pure.pure { built with issues := built.issues ++ issues }
      else do
        match ← (step.mirrored other).descend (indexKey i) (.node t) (some x) with
        | .failed issues => Pure.pure { built with issues := built.issues ++ issues }
        | .resolved value => Pure.pure { built with items := value.getD .null :: built.items } :
        Run BuiltItems) := by
  rw [hst.allowsNull_eq]
  refine .ite ?_ ?_
  · have probed := h.probed x s t (Probe.itemPath step.path i) (hst.loosen .probed)
    exact (Reflects.check probed).then_ fun issues _ => .same _
  · exact (h.descend (.item hs) (.node hst) _).then_ fun outcome _ => .same _

theorem item (i : Nat) (x : Json) (built : BuiltItems) :
    Reflects manner Eq (step.resolveItem i x built) ((step.mirrored other).resolveItem i x built) := by
  have further : ∀ {s t}, Probe.itemSchema step.fields i = some s → Replaced manner .resolved s t → _ :=
    h.itemAgainst i x built
  unfold Step.resolveItem
  dsimp only [mirrored]
  rcases h.fields.itemSchema i with ⟨hf, hg⟩ | ⟨s, t, hf, hg, hst⟩
  · rw [hf, hg]
    exact .same _
  · rw [hf, hg]
    cases hst with
    | node hst => exact further hf (.node hst)
    | null =>
      -- the null is resolved, and the item found as it is
      have passes : step.descend (indexKey i) (.node .null) (some x) = done (some x) :=
        h.nullItems i hf x _ _ _
      have full : (Kind.null.fits x && !allowsNull .null) = false := Bool.and_false _
      simp only [full, passes]
      exact .answer rfl
    | leaf ho =>
      cases s with
      | bool b => cases b <;> exact .same _
      | obj => cases ho
      | _ => exact further hf (.leaf ho)

theorem items (i : Nat) (xs : List Json) (built : BuiltItems) :
    Reflects manner Eq (step.resolveItems i xs built) ((step.mirrored other).resolveItems i xs built) := by
  induction xs generalizing i built with
  | nil => exact .same _
  | cons x rest ih => exact (h.item i x built).then_ fun built _ => ih _ built

theorem array : Reflects manner Eq step.array (step.mirrored other).array := by
  unfold Step.array
  have value : (step.mirrored other).value = step.value := rfl
  rw [value]
  split
  · exact h.reflects_missing _
  · next items _ =>
    have whole := Probe.mirrors_listIssues (h.fields.loosen .probed) step.path items
      fun x _ s => h.probed x s
    refine (Reflects.check whole).then_ fun whole _ => .ite (.same _) ?_
    exact (h.items 0 items _).then_ fun built _ => .same _
  · exact .same _

theorem object : Reflects manner Eq step.object (step.mirrored other).object := by
  unfold Step.object
  have value : (step.mirrored other).value = step.value := rfl
  rw [value]
  split
  · simp only [h.isRequired_eq, h.isRoot_eq]
    refine .after _ fun required _ => .ite (.same _) ?_
    exact (h.members []).then_ fun outcome _ => .same _
  · exact h.members _
  · exact .same _

theorem ofKind (kind : Kind) : Reflects manner Eq (step.ofKind kind) ((step.mirrored other).ofKind kind) := by
  have number : ∀ kind, Reflects manner Eq (step.number kind) ((step.mirrored other).number kind) := by
    intro kind
    unfold Step.number
    have value : (step.mirrored other).value = step.value := rfl
    rw [value]
    split
    · exact h.reflects_missing _
    · rw [Probe.numberIssues_eq h.fields]
      exact .same _
  cases kind with
  | null => exact .same _
  | boolean => exact .same _
  | number => exact number .number
  | integer => exact number .integer
  | array => exact h.array
  | object => exact h.object
  | string =>
    simp only [Step.ofKind, Step.string]
    have value : (step.mirrored other).value = step.value := rfl
    rw [value]
    split
    · exact h.reflects_missing _
    · rw [Probe.stringIssues_eq h.fields]
      exact .same _

/-- What stands for a schema still does if both are reduced to one of their types. -/
theorem restrict (kind : Kind) : Mirrored manner
    { step with tag := none, fields := Schema.restrict step.fields (.str kind.name) }
    { other with fields := Schema.restrict other.fields (.str kind.name) }
    (Enters step.setting (Schema.restrict step.fields (.str kind.name))) where
  led := h.led
  fields := h.fields.restrict _
  parent := h.parent
  follows value _ _ key negated asked := h.follows value key negated asked.restrict
  nullItems i hs := h.nullItems i (itemSchema_of_restrict hs)

theorem ofType (type : Json) : Reflects manner Eq (step.ofType type) ((step.mirrored other).ofType type) := by
  unfold Step.ofType
  split
  · split
    · exact h.ofKind _
    · exact .same _
  · exact .same _

theorem ofTypes (types : List Json) :
    Reflects manner Eq (step.ofTypes types) ((step.mirrored other).ofTypes types) := by
  unfold Step.ofTypes
  have value : (step.mirrored other).value = step.value := rfl
  rw [value]
  split
  · exact h.reflects_missing _
  · split
    · exact .same _
    · exact (h.restrict _).ofKind _

theorem typed : Reflects manner Eq step.typed (step.mirrored other).typed := by
  have types : declaredTypes (step.mirrored other).schema = declaredTypes step.schema :=
    (h.fields.declaredTypes_eq _ _).symm
  have kind : inferKind (step.mirrored other).fields (step.mirrored other).value =
      inferKind step.fields step.value := (h.fields.inferKind_eq _).symm
  unfold Step.typed
  rw [types, kind]
  split
  · split
    · exact .same _
    · exact h.ofKind _
  · exact h.ofType _
  · exact h.ofTypes _

end Mirrored

/-! ## 5. Members of `allOf` -/

/-- **Two lists of schemas, matched up but for those that ask for nothing.** -/
inductive MatchedUp (R : Json → Json → Prop) : List Json → List Json → Prop
  | nil : MatchedUp R [] []
  | left {x : Json} {xs ys : List Json} (hx : isTrivial x = true) (rest : MatchedUp R xs ys) :
      MatchedUp R (x :: xs) ys
  | right {y : Json} {xs ys : List Json} (hy : isTrivial y = true) (rest : MatchedUp R xs ys) :
      MatchedUp R xs (y :: ys)
  | both {x y : Json} {xs ys : List Json} (h : R x y) (rest : MatchedUp R xs ys) :
      MatchedUp R (x :: xs) (y :: ys)

theorem MatchedUp.of_forall₂ {R : Json → Json → Prop} {xs ys : List Json}
    (h : List.Forall₂ R (xs.filter (!isTrivial ·)) (ys.filter (!isTrivial ·))) : MatchedUp R xs ys := by
  induction xs generalizing ys with
  | nil =>
    induction ys with
    | nil => exact .nil
    | cons y ys ih =>
      by_cases hy : isTrivial y = true
      · rw [List.filter_cons_of_neg (by simp [hy])] at h
        exact .right hy (ih h)
      · rw [List.filter_cons_of_pos (by simpa using hy)] at h
        cases h
  | cons x xs ih =>
    by_cases hx : isTrivial x = true
    · rw [List.filter_cons_of_neg (by simp [hx])] at h
      exact .left hx (ih h)
    · rw [List.filter_cons_of_pos (by simpa using hx)] at h
      induction ys with
      | nil => cases h
      | cons y ys ihy =>
        by_cases hy : isTrivial y = true
        · rw [List.filter_cons_of_neg (by simp [hy])] at h
          exact .right hy (ihy h)
        · rw [List.filter_cons_of_pos (by simpa using hy)] at h
          cases h with
          | cons first rest => exact .both first (ih rest)

/-- Schemas are listed with others, unless they ask for nothing. -/
theorem forall₂_filter_cons {x y : Json} {xs ys : List Json} (h : Replaced manner .resolved x y)
    (rest : List.Forall₂ (Replaced manner .resolved) (xs.filter (!isTrivial ·)) (ys.filter (!isTrivial ·))) :
    List.Forall₂ (Replaced manner .resolved) ((x :: xs).filter (!isTrivial ·))
      ((y :: ys).filter (!isTrivial ·)) := by
  rw [List.filter_cons, List.filter_cons, isTrivial_eq h]
  split
  · exact .cons h rest
  · exact rest

theorem isComposite_eq {x y : Json} (h : Replaced manner .resolved x y) :
    Step.isComposite x = Step.isComposite y := by
  cases h with
  | leaf | null => rfl
  | node members =>
    have same : Fields.has _ = Fields.has _ := funext fun k => members.aligned.has_eq k
    simp only [Step.isComposite, same]

theorem plainPart_replaced {x y : Json} (h : Replaced manner .resolved x y) :
    Replaced manner .resolved (Step.plainPart x) (Step.plainPart y) := by
  cases h with
  | @leaf _ x ho =>
    cases x with
    | obj => cases ho
    | _ => exact .leaf rfl
  | null => exact .null
  | node members => exact replaced_obj (members.aligned.without _)

theorem mergedPart_replaced {x y : Json} (h : Replaced manner .resolved x y) :
    Replaced manner .resolved (Step.mergedPart x) (Step.mergedPart y) := by
  rw [Step.mergedPart, Step.mergedPart, isComposite_eq h]
  split
  · exact plainPart_replaced h
  · exact h

/-- What has been made of members that are matched up. -/
structure FlatReplaced (manner : Manner) (flat flat' : Step.Flattened) : Prop where
  working : flat.working = flat'.working
  issues : flat.issues = flat'.issues
  merged : Replaced manner .resolved flat.merged flat'.merged
  shape : flat.merged = .bool false ∨ ∃ f, flat.merged = .obj none f
  plain : List.Forall₂ (Replaced manner .resolved) (flat.plain.filter (!isTrivial ·))
    (flat'.plain.filter (!isTrivial ·))

/-- What flattening ends with. -/
inductive FlatEnds (manner : Manner) :
    Except (List Issue) Step.Flattened → Except (List Issue) Step.Flattened → Prop
  | error {issues : List Issue} : FlatEnds manner (.error issues) (.error issues)
  | ok {flat flat' : Step.Flattened} (h : FlatReplaced manner flat flat') :
      FlatEnds manner (.ok flat) (.ok flat')

/-- What asks for nothing is merged without a trace. -/
theorem merge_absorbs {x u v : Json} (huv : Replaced manner .resolved u v)
    (shape : u = .bool false ∨ ∃ f, u = .obj none f) (hx : isTrivial x = true) :
    (∃ u', Schema.merge true u x = .ok u' ∧ Replaced manner .resolved u' v ∧
      (u' = .bool false ∨ ∃ f, u' = .obj none f)) ∧
    ∃ v', Schema.merge true v x = .ok v' ∧ Replaced manner .resolved u v' := by
  rcases shape with rfl | ⟨f, rfl⟩
  · obtain rfl : v = .bool false := (huv.eq_or_null rfl).resolve_right nofun
    have absorbed : Schema.merge true (.bool false) x = .ok (.bool false) := by
      rw [Schema.merge]
      rfl
    exact ⟨⟨_, absorbed, huv, .inl rfl⟩, _, absorbed, huv⟩
  · obtain ⟨g, rfl, hfg⟩ := huv.obj
    refine ⟨⟨_, merge_of_trivial hx hfg.required_lists.1, replaced_obj hfg.relisted.1, .inr ⟨_, rfl⟩⟩, ?_⟩
    exact ⟨_, merge_of_trivial hx hfg.required_lists.2, replaced_obj hfg.relisted.2⟩

/-- A member that asks for nothing is gone through. -/
theorem flatten_of_trivial (step : Step) {x merged : Json} {rest : List Json} {flat : Step.Flattened}
    (hx : isTrivial x = true) (hm : Schema.merge true flat.merged x = .ok merged) :
    step.flatten (x :: rest) flat =
      step.flatten rest { flat with merged := merged, plain := x :: flat.plain } := by
  have plain : Step.isComposite x = false := by
    cases x with
    | obj => cases hx
    | _ => rfl
  rw [Step.flatten_cons, plain, Step.mergedPart, plain]
  simp only [Bool.false_eq_true, if_false, pure_bind, Step.mergeMember, hm]

/-- A member is merged, and those after it are gone through. -/
theorem reflects_mergeMember {step : Step} {other : Counterpart} {x y : Json} {xs ys : List Json}
    (hxy : Replaced manner .resolved x y)
    (next : ∀ {flat flat' : Step.Flattened}, FlatReplaced manner flat flat' →
      Reflects manner (FlatEnds manner) (step.flatten xs flat) ((step.mirrored other).flatten ys flat'))
    {flat flat' : Step.Flattened} (hflat : FlatReplaced manner flat flat') :
    Reflects manner (FlatEnds manner) (step.mergeMember (Step.mergedPart x) xs flat)
      ((step.mirrored other).mergeMember (Step.mergedPart y) ys flat') := by
  have part := mergedPart_replaced hxy
  have merged : Mirrors manner (Replaced manner .resolved)
      (Schema.merge true flat.merged (Step.mergedPart x))
      (Schema.merge true flat'.merged (Step.mergedPart y)) := mirrors_merge hflat.merged part
  unfold Step.mergeMember
  generalize hz : Schema.merge true flat.merged (Step.mergedPart x) = z at merged
  generalize Schema.merge true flat'.merged (Step.mergedPart y) = z' at merged
  cases merged with
  | unreadable ha => exact .unreadable ha
  | @fault fault =>
    cases fault with
    | conflict =>
      rw [hflat.issues]
      exact .pure .error
    | _ => exact .fault
  | answer hzz =>
    have shape := (merge_sourced hz).imp_right (Exists.imp fun _ => And.left)
    exact next ⟨hflat.working, hflat.issues, hzz, shape, forall₂_filter_cons part hflat.plain⟩

namespace Mirrored

open Step

variable {step : Step} {other : Counterpart}
  (h : Mirrored manner step other (Asks step.setting step.fields))

include h

theorem without (keys : List String) :
    Replaced manner .resolved (step.without keys) ((step.mirrored other).without keys) :=
  replaced_obj (h.fields.without keys)

theorem resolveMember {x y : Json} (asked : Asks step.setting step.fields ["allOf"] (.node x))
    (hxy : Replaced manner .resolved x y) {flat flat' : Flattened} (hflat : FlatReplaced manner flat flat') :
    Reflects manner (FlatReplaced manner) (step.resolveMember flat x)
      ((step.mirrored other).resolveMember flat' y) := by
  obtain ⟨working, merged, plain, issues⟩ := flat
  obtain ⟨_, merged', plain', _⟩ := flat'
  obtain ⟨rfl, rfl, hmerged, shape, hplain⟩ := hflat
  refine (h.follows _ _ _ asked (.node hxy) h.parent).then_ fun outcome _ => ?_
  cases outcome with
  | resolved value => exact .pure ⟨rfl, rfl, hmerged, shape, hplain⟩
  | failed issues => exact .pure ⟨rfl, rfl, hmerged, shape, hplain⟩

theorem flatten {xs ys : List Json} (matched : MatchedUp (Replaced manner .resolved) xs ys)
    (asked : ∀ x ∈ xs, Asks step.setting step.fields ["allOf"] (.node x)) {flat flat' : Flattened}
    (hflat : FlatReplaced manner flat flat') :
    Reflects manner (FlatEnds manner) (step.flatten xs flat) ((step.mirrored other).flatten ys flat') := by
  induction matched generalizing flat flat' with
  | nil => exact .pure (.ok hflat)
  | left hx _ ih =>
    obtain ⟨⟨u, hm, hu, shape⟩, -⟩ := merge_absorbs hflat.merged hflat.shape hx
    rw [flatten_of_trivial step hx hm]
    refine ih (fun x hm => asked x (List.mem_cons_of_mem _ hm))
      ⟨hflat.working, hflat.issues, hu, shape, ?_⟩
    rw [List.filter_cons_of_neg (by simp [hx])]
    exact hflat.plain
  | right hy _ ih =>
    obtain ⟨-, v, hm, hv⟩ := merge_absorbs hflat.merged hflat.shape hy
    rw [flatten_of_trivial (step.mirrored other) hy hm]
    refine ih asked ⟨hflat.working, hflat.issues, hv, hflat.shape, ?_⟩
    rw [List.filter_cons_of_neg (by simp [hy])]
    exact hflat.plain
  | @both x y xs ys hxy _ ih =>
    obtain ⟨first, others⟩ := List.forall_mem_cons.1 asked
    have merging : ∀ {flat flat' : Flattened}, FlatReplaced manner flat flat' →
        Reflects manner (FlatEnds manner) (step.mergeMember (mergedPart x) xs flat)
          ((step.mirrored other).mergeMember (mergedPart y) ys flat') :=
      reflects_mergeMember hxy (ih others)
    rw [flatten_cons, flatten_cons, isComposite_eq hxy]
    refine .ite ?_ ((Reflects.pure hflat).bind fun _ _ _ => merging)
    exact (h.resolveMember first hxy hflat).bind fun _ _ _ => merging

theorem mirrors_issuesAgainst (value : Option Json) {schemas schemas' : List Json}
    (hs : List.Forall₂ (Replaced manner .resolved) (schemas.filter (!isTrivial ·))
      (schemas'.filter (!isTrivial ·))) :
    Mirrors manner Eq (step.issuesAgainst value schemas)
      ((step.mirrored other).issuesAgainst value schemas') := by
  have silent : ∀ (setting : Probe.Setting) path s, isTrivial s = true →
      Probe.issues? setting value s path = .ok [] := by
    intro setting path s ht
    cases value with
    | some x => exact Probe.issues_of_isTrivial path s ht
    | none =>
      cases s with
      | null | bool => rfl
      | _ => cases ht
  rw [Step.issuesAgainst, Step.issuesAgainst, ← Probe.gather_filter (silent _ _) schemas,
    ← Probe.gather_filter (silent _ _) schemas']
  exact Probe.mirrors_gather hs fun s t _ _ hst =>
    Probe.mirrors_issues? h.led value (hst.loosen .probed) _

theorem allOf {tag : Tag} {xs ys : List Json} (hm : get? step.fields "allOf" = some (.arr tag xs))
    (members : List.Forall₂ (PairReplaced manner .resolved "allOf") (thin xs) (thin ys)) :
    Reflects manner Eq (step.allOf (.arr tag xs)) ((step.mirrored other).allOf (.arr tag ys)) := by
  have matched : MatchedUp (Replaced manner .resolved) xs ys := by
    have filtered := forall₂_filter members
    rw [filter_thin, filter_thin] at filtered
    exact .of_forall₂ (filtered.imp fun _ _ hst => hst.2)
  have base := h.without ["allOf"]
  have unmerged : FlatReplaced manner
      ⟨step.value, step.without ["allOf"], [plainPart (step.without ["allOf"])], []⟩
      ⟨step.value, (step.mirrored other).without ["allOf"],
        [plainPart ((step.mirrored other).without ["allOf"])], []⟩ :=
    ⟨rfl, rfl, base, .inr ⟨_, rfl⟩, forall₂_filter_cons (plainPart_replaced base) .nil⟩
  have flattened := h.flatten matched (fun x hx => .member hm rfl hx) unmerged
  refine Reflects.bind flattened fun ended ended' hended hends => ?_
  cases hends with
  | error => exact .same _
  | @ok flat flat' hflat =>
    have asked : Asks step.setting step.fields [] (.node flat.merged) :=
      .flattened hm rfl (mergedAll_of_chain (flatten_result.1 hended))
    obtain ⟨working, merged, plain, issues⟩ := flat
    obtain ⟨_, merged', plain', _⟩ := flat'
    obtain ⟨rfl, rfl, hmerged, shape, hplain⟩ := hflat
    refine (h.follows _ _ _ asked (.node hmerged) h.parent).then_ fun outcome _ => ?_
    refine .ite (.same _) ?_
    cases outcome with
    | failed => exact .same _
    | resolved value =>
      have against : Mirrors manner Eq (step.issuesAgainst value plain.reverse)
          ((step.mirrored other).issuesAgainst value plain'.reverse) :=
        h.mirrors_issuesAgainst value (by simpa only [List.filter_reverse] using List.rel_reverse hplain)
      exact (Reflects.check against).then_ fun issues _ => .same _

end Mirrored

/-! ## 6. Conditions and branches -/

/-- Nothing is probed behind what asks for nothing. -/
theorem probeBranches_thin (step : Step) (value : Json) (branches : List Json) (found : List Issue) :
    step.probeBranches value (thin branches) found = step.probeBranches value branches found := by
  induction branches generalizing found with
  | nil => rfl
  | cons branch rest ih =>
    by_cases hb : isTrivial branch = true
    · rw [thin_cons_of_trivial hb, Step.probeBranches, Step.probeBranches,
        Probe.issues_of_isTrivial step.path branch hb]
      rfl
    · rw [thin_cons (Bool.eq_false_iff.2 hb), Step.probeBranches, Step.probeBranches]
      simp only [ih]

/-- As many names of properties are shared with a value. -/
theorem overlap?_eq (value : Fields) {x y : Json} (h : Replaced manner .resolved x y) :
    Step.overlap? value x = Step.overlap? value y := by
  cases h with
  | leaf | null => rfl
  | node members =>
    rcases members.aligned.table (k := "properties") rfl with ⟨hf, hg⟩ | ⟨tag, p, q, hf, hg, properties⟩
    · simp only [Step.overlap?, hf, hg]
    · simp only [Step.overlap?, hf, hg, properties.names_eq]

theorem closestBranch_eq (value : Json) {xs ys : List Json}
    (h : List.Forall₂ (PairReplaced manner .resolved "oneOf") xs ys) :
    Step.closestBranch xs value = Step.closestBranch ys value := by
  have from_index : ∀ members i best most,
      Step.closestFrom members i best most xs = Step.closestFrom members i best most ys := by
    intro members
    induction h with
    | nil => exact fun _ _ _ => rfl
    | cons first _ ih =>
      intro i best most
      simp only [Step.closestFrom, overlap?_eq members first.2, ih]
  cases value with
  | obj tag members => exact from_index members 0 none 0
  | _ => rfl

/-- Branches that admit a value stand for each other. -/
theorem forall₂_passingBranches {R : Json → Json → Prop} {xs ys : List Json} (h : List.Forall₂ R xs ys)
    (outcomes : List (List Issue)) :
    List.Forall₂ R (Step.passingBranches xs outcomes) (Step.passingBranches ys outcomes) := by
  induction h generalizing outcomes with
  | nil => exact .nil
  | cons first _ ih =>
    cases outcomes with
    | nil => exact .nil
    | cons issues rest =>
      by_cases hi : issues.isEmpty = true
      · simpa only [Step.passingBranches, List.zip_cons_cons, List.filterMap_cons, hi, if_true] using
          .cons first (ih rest)
      · simpa only [Step.passingBranches, List.zip_cons_cons, List.filterMap_cons, if_neg hi] using ih rest

namespace Mirrored

open Step

variable {step : Step} {other : Counterpart}
  (h : Mirrored manner step other (Asks step.setting step.fields))

include h

/-- The branch that a condition chooses is merged with what is left. -/
theorem chosen {k : String} {s u v : Json} (hs : get? step.fields "if" = some s) (hk : k ∈ ["then", "else"])
    (hu : get? step.fields k = some u) (huv : Replaced manner .resolved u v) :
    Reflects manner Eq
      (do
        let effective ← Schema.merge false (step.without ["if", "then", "else"]) u
        step.redirect effective)
      (do
        let effective ← Schema.merge false ((step.mirrored other).without ["if", "then", "else"]) v
        (step.mirrored other).redirect effective) := by
  refine (Reflects.check (mirrors_merge (h.without _) huv)).bind fun z z' hz hzz => ?_
  exact h.redirect (.chosen hs hk hu hz) hzz

theorem conditional {s t : Json} (hs : get? step.fields "if" = some s)
    (hst : Replaced manner .resolved s t) :
    Reflects manner Eq (step.conditional s) ((step.mirrored other).conditional t) := by
  have rest : Asks step.setting step.fields [] (.node (step.without ["if", "then", "else"])) :=
    .rest (by simp [peeled]) hs
  have base := h.without ["if", "then", "else"]
  refine (Reflects.check (Probe.mirrors_meets h.led step.value (hst.loosen .probed) step.path)).then_
    fun met _ => ?_
  have either : (if met then "then" else "else") ∈ ["then", "else"] := by cases met <;> simp
  have place : (Shape.ofKeyword (if met then "then" else "else")).place = .itself := by
    cases met <;> rfl
  have fields : (step.mirrored other).fields = other.fields := rfl
  rcases h.fields.schema place with ⟨hf, hg⟩ | ⟨u, v, hf, hg, huv⟩
  · rw [fields, hf, hg]
    exact h.redirect rest base
  have merging := h.chosen hs either hf huv
  rw [fields, hf, hg]
  cases huv with
  | null =>
    -- the branch is null, and the other one is merged without a trace
    have listed := (h.fields.without ["if", "then", "else"]).required_lists.2
    have merged : Schema.merge false ((step.mirrored other).without ["if", "then", "else"]) (.bool true) =
        .ok (.obj none (relisted (Fields.without other.fields ["if", "then", "else"]))) :=
      merge_of_trivial rfl listed
    simp only [merged]
    exact h.redirect rest (replaced_obj (h.fields.without _).relisted.2)
  | node => exact merging
  | leaf ho =>
    cases u with
    | null => exact h.redirect rest base
    | obj => cases ho
    | _ => exact merging

theorem mirrors_probeBranches (value : Json) {xs ys : List Json}
    (branches : List.Forall₂ (PairReplaced manner .resolved "anyOf") (thin xs) (thin ys))
    (found : List Issue) :
    Mirrors manner Eq (step.probeBranches value xs found)
      ((step.mirrored other).probeBranches value ys found) := by
  rw [← probeBranches_thin step, ← probeBranches_thin (step.mirrored other)]
  generalize thin xs = xs at branches
  generalize thin ys = ys at branches
  induction branches generalizing found with
  | nil => exact .answer rfl
  | cons first _ ih =>
    rw [Step.probeBranches, Step.probeBranches]
    refine (h.probed value _ _ step.path (first.2.loosen .probed)).then_ fun issues => ?_
    exact .ite (.answer rfl) (ih _)

theorem anyOf {tag : Tag} {xs ys : List Json} (hs : get? step.fields "anyOf" = some (.arr tag xs))
    (branches : List.Forall₂ (PairReplaced manner .resolved "anyOf") (thin xs) (thin ys)) :
    Reflects manner Eq (step.anyOf (.arr tag xs)) ((step.mirrored other).anyOf (.arr tag ys)) := by
  have rest : Asks step.setting step.fields [] (.node (step.without ["anyOf"])) :=
    .rest (by simp [peeled]) hs
  have base := h.without ["anyOf"]
  have same : (step.mirrored other).value = step.value := rfl
  simp only [Step.anyOf, same, h.default?_eq]
  split
  · exact h.redirect rest base
  · next value _ =>
    refine (Reflects.check (h.mirrors_probeBranches value branches [])).then_ fun found _ => ?_
    cases found with
    | none => exact h.redirect rest base
    | some issues => exact .same _

theorem mirrors_branchIssues (value : Json) {xs ys : List Json}
    (branches : List.Forall₂ (PairReplaced manner .resolved "oneOf") xs ys) :
    Mirrors manner Eq (step.branchIssues value xs) ((step.mirrored other).branchIssues value ys) := by
  induction branches with
  | nil => exact .answer rfl
  | cons first _ ih =>
    refine (h.probed value _ _ step.path (first.2.loosen .probed)).then_ fun issues => ?_
    exact ih.then_ fun others => .answer rfl

theorem oneOf {tag : Tag} {xs ys : List Json} (hs : get? step.fields "oneOf" = some (.arr tag xs))
    (branches : List.Forall₂ (PairReplaced manner .resolved "oneOf") xs ys) :
    Reflects manner Eq (step.oneOf (.arr tag xs)) ((step.mirrored other).oneOf (.arr tag ys)) := by
  have base := h.without ["oneOf"]
  have same : (step.mirrored other).value = step.value := rfl
  simp only [Step.oneOf, same, h.default?_eq]
  split
  · exact h.redirect (.rest (by simp [peeled]) hs) base
  · next value _ =>
    refine (Reflects.check (h.mirrors_branchIssues value branches)).then_ fun outcomes _ => ?_
    have passing := forall₂_passingBranches branches outcomes
    have among : ∀ branch ∈ passingBranches xs outcomes, branch ∈ xs := fun _ =>
      mem_of_mem_passingBranches
    have none_of_one : (step.mirrored other).noneOfOne value ys outcomes = step.noneOfOne value xs outcomes := by
      rw [noneOfOne, noneOfOne, closestBranch_eq value branches]
      rfl
    have empty : ys.isEmpty = xs.isEmpty := by cases branches <;> rfl
    rw [none_of_one, empty]
    generalize passingBranches xs outcomes = left at passing among
    generalize passingBranches ys outcomes = right at passing
    cases passing with
    | nil => cases step.default? <;> exact .same _
    | @cons u v _ _ first rest =>
      cases rest with
      | cons => cases step.default? <;> exact .same _
      | nil =>
        have merged : Mirrors manner (Replaced manner .resolved)
            (Schema.merge true (step.without ["oneOf"]) u)
            (Schema.merge true ((step.mirrored other).without ["oneOf"]) v) := mirrors_merge base first.2
        dsimp only
        generalize hz : Schema.merge true (step.without ["oneOf"]) u = z at merged
        generalize Schema.merge true ((step.mirrored other).without ["oneOf"]) v = z' at merged
        cases merged with
        | unreadable ha => exact .unreadable ha
        | @fault fault => cases fault <;> exact .same _
        | answer hzz =>
          exact h.redirect (.selected hs rfl (among u (List.mem_singleton_self u)) hz) hzz

theorem not {s t : Json} (hs : get? step.fields "not" = some s) (hst : Replaced manner .resolved s t) :
    Reflects manner Eq (step.not s) ((step.mirrored other).not t) := by
  have base := h.without ["not"]
  have rest : Asks step.setting step.fields [] (.node (step.without ["not"])) :=
    .rest (by simp [peeled]) hs
  have same : (step.mirrored other).value = step.value := rfl
  simp only [Step.not, same]
  split
  · exact h.redirect rest base
  · next value _ =>
    have requires : requiresNames value s = requiresNames value t := by
      cases hst with
      | leaf | null => cases value <;> rfl
      | node members => cases value <;> simp only [requiresNames, members.aligned.has_eq]
    rw [requires]
    have probed := h.probed value s t (step.path ++ ["not"]) (hst.loosen .probed)
    refine (Reflects.check probed).then_ fun issues _ => .ite (.ite ?_ (.same _)) (h.redirect rest base)
    exact (h.follows _ _ _ (.negated hs) (.node hst) h.parent).then_ fun _ _ => .same _

theorem dispatch : Reflects manner Eq step.dispatch (step.mirrored other).dispatch := by
  have fields : (step.mirrored other).fields = other.fields := rfl
  unfold Step.dispatch
  rw [fields]
  rcases h.fields.schema (k := "if") rfl with ⟨hf, hg⟩ | ⟨s, t, hf, hg, hst⟩
  case inr =>
    rw [hf, hg]
    exact h.conditional hf hst
  rw [hf, hg]
  rcases h.fields.composed (k := "allOf") (by simp) with ⟨hf, hg⟩ | ⟨tag, xs, ys, hf, hg, members⟩
  case inr =>
    rw [hf, hg]
    exact h.allOf hf members
  rw [hf, hg]
  rcases h.fields.composed (k := "anyOf") (by simp) with ⟨hf, hg⟩ | ⟨tag, xs, ys, hf, hg, branches⟩
  case inr =>
    rw [hf, hg]
    exact h.anyOf hf branches
  rw [hf, hg]
  rcases h.fields.list (k := "oneOf") rfl (by simp) with ⟨hf, hg⟩ | ⟨tag, xs, ys, hf, hg, branches⟩
  case inr =>
    rw [hf, hg]
    exact h.oneOf hf branches
  rw [hf, hg]
  rcases h.fields.schema (k := "not") rfl with ⟨hf, hg⟩ | ⟨s, t, hf, hg, hst⟩
  case inr =>
    rw [hf, hg]
    exact h.not hf hst
  rw [hf, hg]
  have entered : Mirrored manner step other (Enters step.setting step.fields) :=
    ⟨h.led, h.fields, h.parent, fun value _ _ key negated asked => h.follows value key negated (.entered asked),
      h.nullItems⟩
  exact entered.typed

theorem run : Reflects manner Eq step.run (step.mirrored other).run := by
  have filled : Mirrored manner { step with value := step.filled } other (Asks step.setting step.fields) :=
    ⟨h.led, h.fields, h.parent, h.follows, h.nullItems⟩
  have other_filled : ({ step.mirrored other with value := (step.mirrored other).filled } : Step) =
      ({ step with value := step.filled } : Step).mirrored other := by
    rw [h.filled_eq]
    rfl
  unfold Step.run
  simp only [other_filled, filled.pinIssues_eq]
  exact .after _ fun issues _ => .ite filled.dispatch (.same _)

end Mirrored

/-! ## 7. The resolution -/

/-- **The guard stops at no item that is admitted by null**, wherever the resolution comes to one. -/
def ItemsInReach (setting : Probe.Setting) (guard : Guard) (node : Node) : Prop :=
  ∀ guard' tag fields i, Reaches setting guard node guard' (.node (.obj tag fields)) →
    Probe.itemSchema fields i = some .null → (guard'.enter [Nat.repr i]).tooDeep = false

/-- It is enough to look at a schema that asks for none with members. -/
theorem itemsInReach_of_flat {setting : Probe.Setting} {guard : Guard} {tag : Tag} {fields : Fields}
    (flat : ∀ extension next, Asks setting fields extension next → ∀ tag f, next ≠ .node (.obj tag f))
    (reach : ∀ i, Probe.itemSchema fields i = some .null → (guard.enter [Nat.repr i]).tooDeep = false) :
    ItemsInReach setting guard (.node (.obj tag fields)) := by
  intro guard' tag' fields' i reached
  cases reached with
  | here => exact reach i
  | further asked rest =>
    obtain ⟨tag, f, he, asks⟩ := asked
    cases he
    have leaf := flat _ _ asks
    cases rest with
    | here => exact absurd rfl (leaf _ _)
    | further asked =>
      obtain ⟨tag, f, rfl, -⟩ := asked
      exact absurd rfl (leaf _ _)

/-- **A resolution comes to the same at what stands for its schema**, value, issues and notes. -/
theorem reflects_resolve {options : Options} {root root' : Json}
    (led : Reference.LedAlike manner options.source root root') (guard : Guard) {node node' : Node}
    (value : Option Json) {parent parent' : Json} (key : Json) (negated : Bool)
    (hn : NodeReplaced manner .resolved node node') (hp : Container manner parent parent')
    (inReach : ItemsInReach ⟨options, root⟩ guard node) :
    Reflects manner Eq (resolve ⟨options, root⟩ guard ⟨node, value, parent, key, negated⟩)
      (resolve ⟨options, root'⟩ guard ⟨node', value, parent', key, negated⟩) := by
  rw [resolve, resolve]
  split
  · exact .answer rfl
  · next shallow =>
    cases hn with
    | endOfList => exact .fault
    | @node s t hst =>
      cases hst with
      | null => exact .answer rfl
      | leaf ho =>
        cases s with
        | null => exact .answer rfl
        | bool b =>
          cases b with
          | true => exact .answer rfl
          | false => cases value <;> exact .answer rfl
        | obj => cases ho
        | _ => exact .fault
      | @node _ tag f g members =>
        have steps : Mirrored manner
            ⟨⟨options, root⟩, guard.path, tag, f, value, parent, key, negated,
              fun extension next => resolve ⟨options, root⟩ (guard.enter extension) next⟩
            ⟨root', g, parent', fun extension next => resolve ⟨options, root'⟩ (guard.enter extension) next⟩
            (Asks ⟨options, root⟩ f) := by
          refine ⟨led, members.aligned, hp, ?_, ?_⟩
          · intro extension node node' value parent parent' key negated asked hn hp
            refine reflects_resolve led (guard.enter extension) value key negated hn hp ?_
            intro guard' tag' fields i reached
            exact inReach guard' tag' fields i (.further ⟨tag, f, rfl, asked⟩ reached)
          · intro i hi item parent key negated
            have here := inReach guard tag f i .here hi
            show resolve _ _ _ = _
            rw [resolve, dif_neg (by simp [here])]
            rfl
        exact steps.run
termination_by guard.rank
decreasing_by exact Guard.rank_enter_lt ‹_› extension

end Conform.Resolve

namespace Conform

open Schema

/-! ## 8. Whole values -/

section Whole

variable {manner : Manner} {options : Options} {s t : Json}

/-- What whole values are resolved to, and their issues. -/
theorem mirrors_resolveValues (led : Reference.LedAlike manner options.source s t) (value : Option Json)
    (h : Replaced manner .resolved s t)
    (inReach : Resolve.ItemsInReach ⟨options, s⟩ (Resolve.Guard.atStart options.currentPath) (.node s)) :
    Mirrors manner Eq (resolveValues s value options) (resolveValues t value options) := by
  have top : Resolve.Container manner .null .null := ⟨.leaf rfl, id⟩
  have reflected := Resolve.reflects_resolve led (Resolve.Guard.atStart options.currentPath) value .null
    false (.node h) top inReach
  rw [resolveValues_eq_reported, resolveValues_eq_reported]
  change Resolve.Reflects manner Eq (Resolve.resolveAt ⟨options, s⟩ (Resolve.wholeRequest s value))
    (Resolve.resolveAt ⟨options, t⟩ (Resolve.wholeRequest t value)) at reflected
  generalize Resolve.resolveAt ⟨options, s⟩ _ = run at reflected
  generalize Resolve.resolveAt ⟨options, t⟩ _ = run' at reflected
  cases reflected with
  | fault => exact .fault
  | unreadable ha => exact .unreadable ha
  | answer he =>
    subst he
    exact .same _

/-- **A value has the same issues if one null is replaced by true**, in any schema that is well formed but for
nulls.  Only for additional members may the null be unreadable. -/
theorem validateValue_of_oneReplaced {terms : Schema.Terms} {additional : Bool}
    (formed : FormedButNulls terms s) (one : OneReplaced (.plain additional) .probed s t)
    (value : Option Json) :
    validateValue value s options = validateValue value t options ∨
      additional = true ∧ validateValue value s options = .error .notReadable := by
  have led : Reference.LedAlike (.plain additional) options.source s t := fun _ h => h.elim
  have replaced := one.replaced (fun _ => Or.inl rfl) (fun _ => rfl) formed
  exact (Probe.mirrors_issues? led value replaced _).eq_or

/-- **It is resolved to the same**, too. -/
theorem resolveValues_of_oneReplaced {terms : Schema.Terms} {additional : Bool}
    (formed : FormedButNulls terms s) (one : OneReplaced (.plain additional) .resolved s t)
    (inReach : Resolve.ItemsInReach ⟨options, s⟩ (Resolve.Guard.atStart options.currentPath) (.node s))
    (value : Option Json) :
    resolveValues s value options = resolveValues t value options ∨
      additional = true ∧ resolveValues s value options = .error .notReadable := by
  have led : Reference.LedAlike (.plain additional) options.source s t := fun _ h => h.elim
  have replaced := one.replaced (fun _ => Or.inl rfl) (fun _ => rfl) formed
  exact (mirrors_resolveValues led value replaced inReach).eq_or

/-- **A null schema means true**, to the probe and to the resolver.  Wherever nulls are replaced by true, a
value keeps its issues, and what it is resolved to; but in the place of `additionalProperties` the probe takes
a null for a reference that leads nowhere, and stops when it reads which.

To the resolver this holds if the guard stops at no item that is admitted by null, and if members of `oneOf`
and those of lists in documents that are united are told apart as before.  In a schema that is well formed but
for nulls, that is so wherever one null is replaced that is no such member. -/
theorem null_means_true (options : Options) (value : Option Json) {s t : Json} :
    (∀ manner, Reference.LedAlike manner options.source s t →
      (Replaced manner .probed s t →
        Mirrors manner Eq (validateValue value s options) (validateValue value t options)) ∧
      (Replaced manner .resolved s t →
        Resolve.ItemsInReach ⟨options, s⟩ (Resolve.Guard.atStart options.currentPath) (.node s) →
        Mirrors manner Eq (resolveValues s value options) (resolveValues t value options))) ∧
    ∀ terms additional, FormedButNulls terms s →
      (OneReplaced (.plain additional) .probed s t →
        validateValue value s options = validateValue value t options ∨
          additional = true ∧ validateValue value s options = .error .notReadable) ∧
      (OneReplaced (.plain additional) .resolved s t →
        Resolve.ItemsInReach ⟨options, s⟩ (Resolve.Guard.atStart options.currentPath) (.node s) →
        resolveValues s value options = resolveValues t value options ∨
          additional = true ∧ resolveValues s value options = .error .notReadable) := by
  constructor
  · intro manner led
    exact ⟨fun h => Probe.mirrors_issues? led value h _, mirrors_resolveValues led value⟩
  · intro terms additional formed
    exact ⟨fun one => validateValue_of_oneReplaced formed one value,
      fun one inReach => resolveValues_of_oneReplaced formed one inReach value⟩

/-- Any item goes. -/
theorem null_means_true_items :
    let s : Json := .obj none [("items", .null)]
    let t : Json := .obj none [("items", .bool true)]
    let value : Json := .arr none [.num (.int 1)]
    validateValue value s .default = validateValue value t .default ∧
      resolveValues s value .default = resolveValues t value .default := by
  intro s t value
  have formed : FormedButNulls ⟨fun _ => true, fun _ => true⟩ s := by
    constructor
    · intro k x hx
      cases List.mem_singleton.1 hx
      rfl
    · intro k x hx u hu
      cases List.mem_singleton.1 hx
      cases List.mem_singleton.1 hu
      exact .null
  have one : ∀ use, OneReplaced (.plain false) use s t := fun use =>
    @OneReplaced.member _ use "items" .null (.bool true) none [] []
      (.itself (List.mem_pair.2 (.inr rfl)) (fun h => absurd h (by decide)) .null)
  have replaced : Replaced (.plain false) .probed s t :=
    replaced_obj (.cons (.lone rfl (fun _ _ => Json.noConfusion) .null) .nil)
  obtain ⟨any, single⟩ := null_means_true .default value (s := s) (t := t)
  have inReach : Resolve.ItemsInReach ⟨.default, s⟩ (.atStart []) (.node s) := by
    refine Resolve.itemsInReach_of_flat (fun extension next asks => ?_) fun _ _ => rfl
    -- nothing but the null is asked for
    cases asks with
    | entered enters =>
      cases enters with
      | tabled hk hx => rcases List.mem_pair.1 hk with rfl | rfl <;> cases hx
      | dependent hx | additional hx => cases hx
      | item hs =>
        cases hs
        intro _ _ h
        cases h
    | rest hk hx =>
      simp only [Resolve.peeled, List.mem_cons, Prod.mk.injEq, List.not_mem_nil, or_false] at hk
      rcases hk with ⟨rfl, -⟩ | ⟨rfl, -⟩ | ⟨rfl, -⟩ | ⟨rfl, -⟩ <;> cases hx
    | chosen hx | member hx | flattened hx | selected hx | negated hx => cases hx
  refine ⟨((any (.plain false) fun _ h => h.elim).1 replaced).eq_of rfl, ?_⟩
  exact ((single _ false formed).2 (one _) inReach).resolve_right fun h => Bool.false_ne_true h.1

/-- A null for additional members cannot be read, although true admits them all. -/
example :
    let value : Option Json := some (.obj none [("a", .num (.int 1))])
    validateValue value (.obj none [("additionalProperties", .null)]) .default = .error .notReadable ∧
      validateValue value (.obj none [("additionalProperties", .bool true)]) .default = .ok [] := by
  decide +kernel

end Whole

end Conform
