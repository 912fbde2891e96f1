/-
# What is valid is resolved

The converse of soundness: where a schema only asserts and there is nothing to merge (`Simple`), a
value that the probe finds no issue in comes out of a resolution, unless the depth guard puts an end
to it (`resolved_of_validateValue`).  The resolution does more than the probe.  It looks at
declared properties that the value does not have, and it asks dependent schemas, patterns and the
schema for names about what it has built, not about the value.

What carries the proof is that issues are `Smooth` on the way: there are none, or one of them is that
of the guard.  A resolution of a missing value is smooth where its container does not require it
(`Optional`); that of a valid value is smooth since what has been built is the value in another
order, as long as there are no issues at all.  `Complete` says both of the resolutions that a step
asks for, and the guard's rank closes the induction.
-/
import Conform.Proofs.Agreement
import Conform.Proofs.Counterparts
import Conform.Proofs.Deciding
import Conform.Proofs.Lossless
import Conform.Proofs.Sifting

namespace Conform

open Fields (get?)
open Json (Reordered)
open Schema (Wholly Sober Simple Tolerated Unpinning)

namespace Resolve

open Probe (inside narrower)

/-! ## 1. Issues of the depth guard -/

/-- One of the issues is that of the depth guard. -/
def Stopped (issues : List Issue) : Prop := ∃ issue ∈ issues, issue.reason = .tooDeep

/-- **There are no issues, or the depth guard has put an end to it.** -/
def Smooth (issues : List Issue) : Prop := issues = [] ∨ Stopped issues

namespace Smooth

variable {issues more : List Issue} {b b' : Built}

theorem nil : Smooth [] := .inl rfl

theorem append (h : Smooth issues) (h' : Smooth more) : Smooth (issues ++ more) := by
  rcases h with rfl | ⟨issue, hm, hi⟩
  · exact h'
  · exact .inr ⟨issue, List.mem_append_left _ hm, hi⟩

/-- What has been stopped stays so when issues are added. -/
theorem of_grows (h : Stopped b.issues) (hg : b.Grows b') : Smooth b'.issues := by
  obtain ⟨more, hm⟩ := hg
  obtain ⟨issue, hi, hr⟩ := h
  exact .inr ⟨issue, hm ▸ List.mem_append_left _ hi, hr⟩

theorem take {name : String} {outcome : Outcome} (h : Smooth b.issues)
    (ho : Smooth outcome.issues) : Smooth (b.take name outcome).issues := by
  cases outcome with
  | failed issues => exact h.append ho
  | resolved value => cases value <;> exact h

theorem follow {outcome : Outcome} (h : Smooth b.issues) (ho : Smooth outcome.issues) :
    Smooth (b.follow outcome).issues := by
  unfold Built.follow
  split
  · exact h.append ho
  · exact h
  · exact h

end Smooth

/-! ## 2. What resolutions promise -/

/-- The container does not require what it has under the key. -/
def Optional (setting : Probe.Setting) (parent key : Json) : Prop :=
  ∀ tag fields required, parent = .obj tag fields →
    Step.requiredNames setting.options.skipValidation fields = .ok required →
    Json.isAmong key required = false

/-- **A request that should come out smoothly**: for a simple schema, and for a value without issues or
one that is missing and may be. -/
structure Welcome (setting : Probe.Setting) (request : Request) : Prop where
  admissible : Admissible False Tolerated request
  plain : request.negated = false
  simple : ∀ s, request.schema = .node s → Wholly Simple s
  valid : ∀ s x, request.schema = .node s → request.value = some x →
    ∃ path, Probe.issues setting x s path = .ok []
  optional : request.value = none → Optional setting request.parent request.key

/-- **Complete resolutions**: a request that should come out smoothly does. -/
def Complete (setting : Probe.Setting) (again : Again) : Prop :=
  ∀ extension request outcome, Welcome setting request →
    (again extension request).result = .ok outcome → Smooth outcome.issues

/-! ## 3. Missing values -/

/-- A step without a value, which its container does not require. -/
structure Idle (step : Step) : Prop where
  ready : Ready False Tolerated Unpinning step
  value : step.value = none
  plain : step.negated = false
  simple : Wholly Simple step.schema
  optional : Optional step.setting step.parent step.key
  complete : Complete step.setting step.again

namespace Idle

variable {step : Step} {outcome : Outcome} {s : Json}

theorem parent_isObject (h : Idle step) : step.parent.isObject = true :=
  h.ready.inner.resolve_left id h.value

theorem isRoot_eq (h : Idle step) : step.isRoot = false := by
  have hp := h.parent_isObject
  unfold Step.isRoot
  split
  · next hn _ =>
    rw [hn] at hp
    cases hp
  · rfl

theorem isRequired_eq (h : Idle step) {required : Bool}
    (hr : step.isRequired = .ok required) : required = false := by
  unfold Step.isRequired at hr
  split at hr
  · exact (Except.ok.inj hr).symm
  · next tag fields hp hk =>
    obtain ⟨names, hn, hr⟩ := bind_eq_ok.1 hr
    exact (Except.ok.inj hr).symm.trans (h.optional _ _ _ hp hn)
  · exact (Except.ok.inj hr).symm

theorem missing (h : Idle step) {atRoot : Option Json}
    (hr : (step.missing atRoot).result = .ok outcome) : Smooth outcome.issues := by
  simp only [Step.missing, Run.bind_result_eq_ok, Run.lift_result] at hr
  obtain ⟨required, hq, hr⟩ := hr
  rw [h.isRequired_eq hq] at hr
  cases hr
  exact .nil

/-- A missing object is only kept if it has no issues. -/
theorem object (h : Idle step) (hr : step.object.result = .ok outcome) :
    Smooth outcome.issues := by
  unfold Step.object at hr
  rw [h.value] at hr
  simp only [Run.bind_result_eq_ok, Run.lift_result] at hr
  obtain ⟨required, hq, hr⟩ := hr
  rw [h.isRequired_eq hq] at hr
  simp only [Bool.false_eq_true, if_false, Run.bind_result_eq_ok, h.isRoot_eq, Bool.false_or] at hr
  obtain ⟨built, -, hr⟩ := hr
  split at hr
  · next holds =>
    cases hr
    cases outcome with
    | resolved value => exact .nil
    | failed issues => cases holds
  · cases hr
    exact .nil

theorem ofKind (h : Idle step) {kind : Kind} (hr : (step.ofKind kind).result = .ok outcome) :
    Smooth outcome.issues := by
  cases kind with
  | null | boolean =>
    simp only [Step.ofKind, Step.null, Step.boolean, h.value] at hr
    cases hr
    exact .nil
  | number | integer =>
    simp only [Step.ofKind, Step.number, h.value] at hr
    exact h.missing hr
  | string =>
    simp only [Step.ofKind, Step.string, h.value] at hr
    exact h.missing hr
  | array =>
    simp only [Step.ofKind, Step.array, h.value] at hr
    exact h.missing hr
  | object => exact h.object hr

/-- **By its type a missing value stays missing**, since a single type is one that there is. -/
theorem typed (h : Idle step) (hr : step.typed.result = .ok outcome) :
    Smooth outcome.issues := by
  unfold Step.typed at hr
  split at hr
  · split at hr
    · cases hr
      exact .nil
    · exact h.ofKind hr
  · next type hd =>
    replace hd : Schema.declaredTypes (.obj none step.fields) = [type] := hd
    have hsolid := h.simple.here.types type (hd ▸ List.mem_singleton_self _)
    obtain ⟨name, rfl, -⟩ := Schema.exists_of_isSolidType hsolid
    have hknown := h.simple.here.known
    rw [hd] at hknown
    obtain ⟨kind, hk⟩ := Option.isSome_iff_exists.1 hknown
    simp only [Step.ofType, hk] at hr
    exact h.ofKind hr
  · unfold Step.ofTypes at hr
    rw [h.value] at hr
    exact h.missing hr

theorem redirect (h : Idle step) (hs : Wholly Simple s)
    (hr : (step.redirect s).result = .ok outcome) : Smooth outcome.issues := by
  refine h.complete [] _ outcome ⟨⟨fun _ e => ?_, h.ready.value, h.ready.inner⟩, h.plain,
    fun _ e => ?_, fun _ x _ e => ?_, fun _ => h.optional⟩ hr
  · cases e
    exact good_of_simple hs
  · cases e
    exact hs
  · rw [h.value] at e
    cases e

/-- **A missing value that may be missing comes out smoothly.** -/
theorem run (h : Idle step) (hr : step.run.result = .ok outcome) : Smooth outcome.issues := by
  have lacks := h.simple.here.lacks
  have hfilled : step.filled = none := by
    simp only [Step.filled, h.value, Schema.isAbsent, if_true, Step.default?,
      lacks "default" (by simp), lacks "const" (by simp)]
  simp only [Step.run, Run.bind_result_eq_ok, Run.lift_result, hfilled, Step.pinIssues] at hr
  obtain ⟨_, ⟨⟩, hr⟩ := hr
  rw [← h.value] at hr
  replace hr : step.dispatch.result = .ok outcome := hr
  unfold Step.dispatch at hr
  split at hr
  · next hx => rw [lacks "if" (by simp)] at hx; cases hx
  · next hx => rw [h.simple.here.alone] at hx; cases hx
  · simp only [Step.anyOf, h.value] at hr
    exact h.redirect (h.simple.without (h.simple.here.without (by simp))) hr
  · next hx => rw [lacks "oneOf" (by simp)] at hx; cases hx
  · simp only [Step.not, h.value] at hr
    exact h.redirect (h.simple.without (h.simple.here.without (by simp))) hr
  · exact h.typed hr

end Idle

/-! ## 4. Values that are there -/

/-- A step that validates a value by a simple schema, and whose further resolutions are complete. -/
structure Able (step : Step) (x : Json) : Prop extends Validating step x where
  simple : Wholly Simple step.schema
  complete : Complete step.setting step.again

namespace Able

variable {step : Step} {outcome : Outcome} {s x y : Json} {path : Path}

/-- A valid value goes on smoothly by another schema. -/
theorem redirect (h : Able step x) (hs : Wholly Simple s)
    (hv : Probe.issues step.setting x s path = .ok [])
    (hr : (step.redirect s).result = .ok outcome) : Smooth outcome.issues := by
  refine h.complete [] _ outcome ⟨⟨fun _ e => ?_, h.ready.value, h.ready.inner⟩, h.plain,
    fun _ e => ?_, fun _ z e e' => ?_, fun e => ?_⟩ hr
  · cases e
    exact good_of_simple hs
  · cases e
    exact hs
  · cases e
    rw [h.value] at e'
    cases e'
    exact ⟨path, hv⟩
  · rw [h.value] at e
    cases e

/-- Something valid inside the value goes on smoothly. -/
theorem descend (h : Able step x) {key : Json} (hs : Wholly Simple s) (hy : Sound False y)
    (hv : Probe.issues step.setting y s path = .ok [])
    (hr : (step.descend key (.node s) (some y)).result = .ok outcome) : Smooth outcome.issues := by
  refine h.complete _ _ outcome ⟨⟨fun _ e => ?_, fun _ e => ?_, .inr fun _ => rfl⟩, h.plain,
    fun _ e => ?_, fun _ z e e' => ?_, fun e => ?_⟩ hr
  · cases e
    exact good_of_simple hs
  · cases e
    exact hy
  · cases e
    exact hs
  · cases e
    cases e'
    exact ⟨path, hv⟩
  · cases e

/-- Something missing inside the value, which is not required, goes on smoothly. -/
theorem descend_none (h : Able step x) {name : String} {required : List Json}
    (hs : Wholly Simple s) (hq : Step.requiredNames step.skips step.fields = .ok required)
    (hn : .str name ∉ required)
    (hr : (step.descend (.str name) (.node s) none).result = .ok outcome) :
    Smooth outcome.issues := by
  refine h.complete _ _ outcome ⟨⟨fun _ e => ?_, fun _ e => ?_, .inr fun _ => rfl⟩, h.plain,
    fun _ e => ?_, fun _ z e e' => ?_, fun _ _ _ names hp hnames => ?_⟩ hr
  · cases e
    exact good_of_simple hs
  · cases e
  · cases e
    exact hs
  · cases e'
  · cases hp
    obtain rfl : required = names := Except.ok.inj (hq.symm.trans hnames)
    exact Bool.eq_false_iff.2 fun ha => hn (Json.mem_of_isAmong ha)

/-! ## 5. Objects -/

section Objects

open Ready (Holds wholly_of_table)
open Step (otherMembers)

variable {tag : Tag} {value members properties : Fields} {name : String} {additional : Json}
  {required : List Json} {b b' : Built}

/-- **What is built goes on smoothly**: issues come from the depth guard, and without issues it is the
value in another order. -/
structure Builds (value : Fields) (b : Built) : Prop where
  smooth : Smooth b.issues
  holds : Holds False value b

/-- A part of the object resolution goes on smoothly if it does where there are no issues so far. -/
theorem Builds.next (hb : Builds value b) (hg : b.Grows b') (hh : Holds False value b')
    (hs : b.issues = [] → Preserved False value b.members → Smooth b'.issues) :
    Builds value b' := by
  refine ⟨?_, hh⟩
  rcases hb.smooth with hi | hstopped
  · exact hs hi (hb.holds hi)
  · exact .of_grows hstopped hg

/-- What is built of a member that is valid goes on smoothly. -/
theorem member_smooth (h : Able step (.obj tag value)) (hs : Wholly Simple s) (hm : (name, y) ∈ value)
    (hv : Probe.issues step.setting y s path = .ok []) (hp : Preserved False value b.members)
    (ho : (step.descend (.str name) (.node s) (get? b.members name)).result = .ok outcome)
    (hb : Smooth b.issues) : Smooth (b.take name outcome).issues := by
  obtain ⟨z, hz, hyz, hsound⟩ := h.exists_member hp hm
  rw [hz] at ho
  have hvalid := (Probe.issues_iff_of_reordered (q := path) h.accessor hyz).1 hv
  exact hb.take (h.descend hs hsound hvalid ho)

/-- A name of what is built is the name of a member. -/
theorem exists_mem_of_built (h : Able step (.obj tag value)) (hp : Preserved False value members)
    (hm : name ∈ Fields.names members) : ∃ y, (name, y) ∈ value := by
  obtain ⟨y, hy⟩ := Fields.exists_get?_of_mem_names ((h.mem_names_iff hp).2 hm)
  exact ⟨y, Json.mem_of_get? hy⟩

variable (h : Able step (.obj tag value))
  (v : Probe.ObjectValid step.setting tag value step.fields step.path
    (narrower step.setting (.obj tag value) step.fields) properties)

include h v

/-- **Every required name is there.** -/
theorem required_there (hq : Step.requiredNames step.skips step.fields = .ok required)
    {name : Json} (hn : name ∈ required) : step.HasRequired value name := by
  rw [h.validates] at hq
  obtain ⟨names, he, hnames⟩ := Step.requiredNames_cases hq
  obtain ⟨names', he', hall⟩ :=
    (Step.requiredIssues_iff h.accessor (h.simple.here.tables _ (by simp))).1 v.required
  obtain rfl : names = names' := Except.ok.inj (he.symm.trans he')
  refine hall name ?_
  rcases hnames with ⟨_, _, -, hkept⟩ | rfl
  · exact Step.mem_of_mem_memberNames hkept hn
  · exact hn

/-- No member that is missing is required. -/
theorem not_required (hq : Step.requiredNames step.skips step.fields = .ok required)
    (hk : get? value name = none) : .str name ∉ required := by
  intro hn
  obtain ⟨found, schema, hf, -, ha⟩ := h.required_there v hq hn
  rw [h.ready.readMember_str, hk] at hf
  cases hf
  cases ha

/-- **A declared property goes on smoothly**, whether its member is there or not. -/
theorem property_smooth (hq : Step.requiredNames step.skips step.fields = .ok required)
    (hp : Probe.membersOf (step.tableOrEmpty "properties") = .ok properties)
    (hm : (name, s) ∈ properties) (ht : step.TakesProperty value [] (name, s) b b')
    (hb : Smooth b.issues) : Smooth b'.issues := by
  have hs := wholly_of_table h.simple (by simp) hp hm
  rcases ht with ⟨hl, -⟩ | ⟨-, found, outcome, hf, ho, rfl⟩
  · cases hl
  rw [h.ready.readMember_str] at hf
  cases hf
  refine hb.take ?_
  cases hk : get? value name with
  | none =>
    rw [hk] at ho
    exact h.descend_none hs hq (h.not_required v hq hk) ho
  | some y =>
    rw [hk] at ho
    have hvalid := v.declared name s hm
    have hread : step.setting.options.accessor.read (.obj tag value) (.str name) = .ok (some y) :=
      (Step.read_str h.accessor tag name).trans (congrArg Except.ok hk)
    have hpresent : Schema.isAbsent (some y) s = false := by
      cases y with
      | null => exact absurd rfl (h.nullFree.of_get? hk).here
      | _ => rfl
    rw [Probe.propertyIssues_of_some hread, hpresent] at hvalid
    exact h.descend hs (h.sound.of_get? hk) hvalid ho

/-- **A dependent schema goes on smoothly**: it asks about the value in another order. -/
theorem dependent_smooth {dependents : Fields} {trigger : String}
    (hd : Probe.membersOf (step.tableOrEmpty "dependentSchemas") = .ok dependents)
    (hm : (trigger, s) ∈ dependents) (ht : step.TakesDependent value (trigger, s) b b')
    (hb : Builds value b) : Builds value b' := by
  refine hb.next ht.grows
    (h.ready.keeps_dependents h.sound hd _ hm b b' ht hb.holds) fun hi hpreserved => ?_
  rcases ht with ⟨_, rfl⟩ | ⟨y, outcome, hy, ho, rfl⟩
  · exact hb.smooth
  have hs := wholly_of_table h.simple (by simp) hd hm
  have hvalid : Probe.issues step.setting (.obj tag value) s step.path = .ok [] := by
    obtain ⟨dtag, hx⟩ := Ready.mem_tableOrEmpty hd hm
    have hschemas := v.schemas
    rw [Probe.dependentSchemaIssues_of_some hx rfl, Probe.gather_eq_nil_iff] at hschemas
    have hentry := hschemas (trigger, s) hm
    rw [h.ready.readMember_str] at hy
    simp only [Step.read_str h.accessor, ok_bind, Except.ok.inj hy] at hentry
    exact hentry
  have hr := h.reordered_obj hpreserved
  refine hb.smooth.follow (h.complete [] _ outcome ⟨⟨fun _ e => ?_, fun _ e => ?_, .inr fun e => ?_⟩,
    h.plain, fun _ e => ?_, fun _ z e e' => ?_, fun e => ?_⟩ ho)
  · cases e
    exact good_of_simple hs
  · cases e
    exact h.sound_members hpreserved
  · cases e
  · cases e
    exact hs
  · cases e
    cases e'
    exact ⟨step.path, (Probe.issues_iff_of_reordered h.accessor hr).1 hvalid⟩
  · cases e

/-- **A name among patterns goes on smoothly.** -/
theorem name_smooth (hm : (name, y) ∈ value) (ht : step.TakesName properties name b b')
    (hb : Builds value b) : Builds value b' := by
  rcases ht with ⟨_, rfl⟩ | ⟨hd, patterns, hp, hc⟩
  · exact hb
  have hvalid := v.patterned (name, y) hm
  rw [Probe.patternIssues, hd, Step.membersOf_memberTable (h.simple.here.tables _ (by simp)), hp]
    at hvalid
  simp only [Bool.false_eq_true, if_false, ok_bind, Probe.gather_eq_nil_iff] at hvalid
  refine hc.keeps (P := Builds value) (fun pattern hpattern b b' ht hb => ?_) hb
  have hs := wholly_of_table h.simple (by simp) hp hpattern
  refine hb.next ht.grows (h.ready.pattern (good_of_simple hs) ht hb.holds) fun hi hpreserved => ?_
  rcases ht with ⟨_, rfl⟩ | ⟨hf, outcome, ho, rfl⟩
  · exact hb.smooth
  have hentry := hvalid pattern hpattern
  simp only [hf, ok_bind, if_true] at hentry
  exact h.member_smooth hs hm hentry hpreserved ho hb.smooth

/-- **A name among additional members goes on smoothly.** -/
theorem additional_smooth (ha : get? step.fields "additionalProperties" = some additional)
    (hnull : additional ≠ .null) (hm : (name, y) ∈ value)
    (ht : step.TakesAdditional value additional name b b') (hb : Builds value b) :
    Builds value b' := by
  have hs : Wholly Simple additional := h.simple.part ha (List.mem_singleton_self _)
  refine hb.next ht.grows (h.ready.uncovered (good_of_simple hs) ht hb.holds) fun hi hpreserved => ?_
  have hvalid := v.additional
  unfold Probe.allAdditionalIssues at hvalid
  rw [ha] at hvalid
  simp only [Probe.gather_eq_nil_iff] at hvalid
  have hentry := hvalid (name, y) hm
  rcases ht with ⟨_, rfl⟩ | ⟨-, uncovered, hu, ht⟩
  · exact hb.smooth
  cases uncovered with
  | false => exact ht ▸ hb.smooth
  | true =>
    have hexpand : Reference.expand step.setting.options.source step.setting.root additional =
        .ok (some (.node additional)) := by
      refine Step.expand_eq hnull ?_
      cases additional with
      | obj atag fields => exact hs.here.lacks "$ref" (by simp)
      | _ => rfl
    simp only [Probe.additionalIssues, hu, ok_bind, Bool.not_true, Bool.false_eq_true, if_false,
      hexpand] at hentry
    cases ht with
    | forbidden hfalse => simp [hfalse] at hentry
    | dead _ hx =>
      rw [hexpand] at hx
      cases hx
    | resolved hfalse hx ho =>
      rw [hexpand] at hx
      cases hx
      simp only [hfalse, Bool.false_eq_true, if_false] at hentry
      exact h.member_smooth hs hm hentry hpreserved ho hb.smooth

/-- **The names go on smoothly among patterns.** -/
theorem patterns_smooth (hc : Chain (step.TakesName properties) (Fields.names b.members) b b')
    (hb : Builds value b) : Builds value b' := by
  rcases hb.smooth with hi | hstopped
  · refine hc.keeps (P := Builds value) (fun name hm _ _ ht hbuilt => ?_) hb
    obtain ⟨y, hy⟩ := h.exists_mem_of_built (hb.holds hi) hm
    exact h.name_smooth v hy ht hbuilt
  · refine ⟨.of_grows hstopped (Built.grows_of_chain hc fun _ _ _ => Step.TakesName.grows), ?_⟩
    exact hc.keeps (P := Holds False value) (fun _ _ _ _ ht => h.ready.name ht) hb.holds

/-- **The names go on smoothly among additional members.** -/
theorem allAdditional_smooth (ht : step.TakesAllAdditional value b b') (hb : Builds value b) :
    Builds value b' := by
  refine hb.next ht.grows (h.ready.additional ht hb.holds) fun hi hp => ?_
  rcases ht with ⟨-, rfl⟩ | ⟨additional, ha, hnull, -, hc⟩
  · exact hb.smooth
  · refine (hc.keeps (P := Builds value) (fun name hm _ _ ht hbuilt => ?_) hb).smooth
    obtain ⟨y, hy⟩ := h.exists_mem_of_built hp hm
    exact h.additional_smooth v ha hnull hy ht hbuilt

/-- **The names of what is built are those of the value**, so they leave no issues. -/
theorem builtNameIssues_eq_nil (hp : Preserved False value members) :
    step.builtNameIssues members = .ok [] := by
  have hv := v.names
  unfold Probe.nameIssues at hv
  unfold Step.builtNameIssues Probe.nameIssues
  split at hv
  · rfl
  · rw [Probe.gather_eq_nil_iff] at hv
    simp only [Probe.gather_eq_nil_iff]
    intro _ hm
    obtain ⟨⟨name, z⟩, hmember, rfl⟩ := List.mem_map.1 hm
    obtain ⟨y, hy⟩ := h.exists_mem_of_built hp (Fields.mem_names_of_mem hmember)
    exact hv (.str name) (List.mem_map.2 ⟨_, hy, rfl⟩)

/-- **A valid object goes on smoothly** through all stages. -/
theorem members_smooth (hr : (step.resolveMembers value).result = .ok outcome) :
    Smooth outcome.issues := by
  obtain ⟨b, hb, rfl⟩ := Step.resolveMembers_result.1 hr
  suffices hsmooth : Smooth b.issues by
    unfold Step.outcomeOf
    split
    · exact .nil
    · exact hsmooth
  cases hb with
  | @intro size dependent names required missing working properties' dependents declared followed
      matched final size_eq required_eq working_eq missing_eq properties_eq declares dependent_eq
      dependents_eq follows matches_ adds names_eq =>
  obtain rfl : working = value := h.working_eq working_eq
  -- the parts that the probe does in the same way
  obtain rfl : size = [] := Except.ok.inj (size_eq.symm.trans v.size)
  obtain rfl : missing = [] := by
    have there := Step.absentNames_eq_nil_iff.2 fun name hn => h.required_there v required_eq hn
    exact Except.ok.inj (missing_eq.symm.trans there)
  obtain rfl : properties' = properties := by
    have ht := v.table
    rw [Step.membersOf_memberTable (h.simple.here.tables _ (by simp))] at ht
    exact Except.ok.inj (properties_eq.symm.trans ht)
  obtain rfl : dependent = [] := by
    rw [Step.dependentIssues_obj h.accessor tag h.validates, v.dependent] at dependent_eq
    exact (Except.ok.inj dependent_eq).symm
  -- the parts that the resolution does on what it has built
  have declares_smooth : Smooth declared.issues := by
    refine declares.keeps (P := fun b => Smooth b.issues) (fun property hm b b' ht hb => ?_) ?_
    · exact h.property_smooth v required_eq properties_eq hm ht hb
    · exact .inl (by simp)
  have start : Builds working (Built.report
      ⟨Fields.union declared.members (otherMembers properties' working), declared.issues⟩ []) := by
    refine ⟨declares_smooth.append .nil, fun hi => ?_⟩
    have hi' : declared.issues = [] := (List.append_eq_nil_iff.1 hi).1
    refine h.ready.keeps_declared (h.ready.keeps_working h.sound working_eq) missing_eq properties_eq
      ?_ hi'
    simpa [h.plain] using declares
  have hfollowed : Builds working followed :=
    follows.keeps (P := Builds working)
      (fun dependent hm _ _ ht hb => h.dependent_smooth v dependents_eq hm ht hb) start
  have hmatched : Builds working matched := h.patterns_smooth v matches_ hfollowed
  have hfinal : Builds working final := h.allAdditional_smooth v adds hmatched
  refine (hfinal.next (final.grows_report names) ?_ fun hi hp => ?_).smooth
  · exact fun hi => hfinal.holds (List.append_eq_nil_iff.1 hi).1
  · obtain rfl : names = [] := Except.ok.inj (names_eq.symm.trans (h.builtNameIssues_eq_nil v hp))
    exact .inl (by simp [Built.report, hi])

end Objects

/-! ## 6. Lists -/

/-- **A valid list goes on smoothly**, item by item. -/
theorem items_smooth {tag : Tag} {items : List Json} (h : Able step (.arr tag items))
    (hv : Probe.arrayIssues items step.fields step.path
      (fun x _ schema place => Probe.issues step.setting x schema place) = .ok [])
    (hr : step.array.result = .ok outcome) : Smooth outcome.issues := by
  obtain ⟨hwhole, heach⟩ := Probe.arrayIssues_iff.1 hv
  obtain ⟨whole, hw, hr⟩ := (Step.array_result h.value).1 hr
  obtain rfl : whole = [] := Except.ok.inj (hw.symm.trans hwhole)
  obtain ⟨-, b, hc, hr⟩ := hr.resolve_left fun hf => hf.1 rfl
  have hsmooth : Smooth b.issues := by
    refine hc.keeps (P := fun b : Step.BuiltItems => Smooth b.issues) (fun entry hm b b' ht hb => ?_) .nil
    obtain ⟨item, i⟩ := entry
    have hitem := List.fst_mem_of_mem_zipIdx hm
    have hentry := heach (item, i) hm hitem
    unfold Probe.itemIssues at hentry
    have hpresent : ∀ schema, Step.isStrayNull item schema = false := by
      intro schema
      cases item with
      | null => exact absurd rfl (h.nullFree.of_mem_items hitem).here
      | _ => rfl
    cases ht with
    | kept => exact hb
    | forbidden hs => simp [hs] at hentry
    | probed _ hnull _ =>
      rw [hpresent] at hnull
      cases hnull
    | @resolved schema outcome hs hbool _ ho =>
      have hsimple := Ready.wholly_of_itemSchema h.simple hs
      simp only [hs] at hentry
      have hvalid : Probe.issues step.setting item schema (Probe.itemPath step.path i) = .ok [] := by
        split at hentry
        · next e => cases e
        · next e => exact absurd (Option.some.inj e) hbool.1
        · next e => exact absurd (Option.some.inj e) hbool.2
        · next e =>
          cases e
          exact hentry
      have hout := h.descend hsimple (h.sound.of_mem_items hitem) hvalid ho
      cases outcome with
      | failed issues => exact hb.append hout
      | resolved value => exact hb
  rcases hr with ⟨-, rfl⟩ | ⟨-, rfl⟩
  · exact hsmooth
  · exact .nil

/-! ## 7. Types -/

/-- **A valid value of a kind goes on smoothly as one.** -/
theorem kind_smooth (h : Able step x) {kind : Kind}
    (hv : Probe.kindIssues step.setting kind x step.fields step.path (inside step.setting x)
      (narrower step.setting x step.fields) = .ok [])
    (hr : (step.ofKind kind).result = .ok outcome) : Smooth outcome.issues := by
  have unless_issues : ∀ {issues : List Issue}, issues = [] →
      (Step.doneUnless x issues).result = .ok outcome → Smooth outcome.issues := by
    rintro _ rfl hr
    cases hr
    exact .nil
  cases kind with
  | null =>
    simp only [Step.ofKind, Step.null, h.value] at hr
    cases x with
    | null =>
      cases hr
      exact .nil
    | _ => cases hv
  | boolean =>
    simp only [Step.ofKind, Step.boolean, h.value] at hr
    cases x with
    | bool b =>
      cases hr
      exact .nil
    | _ => cases hv
  | number =>
    simp only [Step.ofKind, Step.number, h.value] at hr
    exact unless_issues (Except.ok.inj hv) hr
  | integer =>
    simp only [Step.ofKind, Step.number, h.value] at hr
    exact unless_issues (Except.ok.inj hv) hr
  | string =>
    simp only [Step.ofKind, Step.string, h.value, Run.bind_result_eq_ok, Run.lift_result] at hr
    obtain ⟨issues, hi, hr⟩ := hr
    exact unless_issues (Except.ok.inj (hi.symm.trans hv)) hr
  | array =>
    cases x with
    | arr tag items => exact h.items_smooth hv hr
    | _ => cases hv
  | object =>
    cases x with
    | obj tag members =>
      simp only [Step.ofKind, Step.object, h.value] at hr
      obtain ⟨properties, v⟩ := Probe.objectIssues_iff.1 hv
      exact h.members_smooth v hr
    | _ => cases hv

/-- **A valid value goes on smoothly by its type.** -/
theorem typed_smooth (h : Able step x)
    (hv : Probe.typeIssues step.setting x step.tag step.fields step.path (inside step.setting x)
      (narrower step.setting x step.fields) = .ok [])
    (hr : step.typed.result = .ok outcome) : Smooth outcome.issues := by
  rcases Probe.typeIssues_iff.1 hv with hs | ⟨kind, remaining, hd, hk⟩
  · rw [Step.typed_of_silent h.value hs] at hr
    cases hr
    exact .nil
  · rw [Step.typed_of_decides h.value hd] at hr
    have hsimple : Wholly Simple (step.narrowed remaining).schema :=
      h.simple.of_decides (fun _ hl => h.simple.here.restrict hl) hd
    have able : Able (step.narrowed remaining) x :=
      ⟨⟨h.ready.narrowed hd, h.value, h.validates, h.plain⟩, hsimple, h.complete⟩
    exact able.kind_smooth hk hr

/-! ## 8. Steps -/

/-- A value that is valid is so without `anyOf` or `not`. -/
theorem valid_without (h : Able step x) {k : String} (hk : k ∈ ["anyOf", "not"])
    (hv : Probe.issues step.setting x step.schema step.path = .ok []) :
    Probe.issues step.setting x (step.without [k]) step.path = .ok [] := by
  obtain ⟨hpin, -, -, hany, -, hnot, htype⟩ := Probe.issues_obj_iff.1 hv
  have lacks := h.simple.here.lacks
  have same : ∀ j, j ≠ k → get? (Fields.without step.fields [k]) j = get? step.fields j := by
    intro j hj
    rw [Fields.get?_without, if_neg (by simpa using hj)]
  have none_of : ∀ j, get? step.fields j = none → get? (Fields.without step.fields [k]) j = none := by
    intro j hj
    rcases Schema.get?_without_cases step.fields [k] j with hn | he
    · exact hn
    · exact he.trans hj
  have removed : get? (Fields.without step.fields [k]) k = none := by simp [Fields.get?_without]
  refine Probe.issues_obj_iff.2 ⟨?_, ?_, ?_, ?_, ?_, ?_, ?_⟩
  · have henum : "enum" ≠ k := by rintro rfl; simp at hk
    have hconst : "const" ≠ k := by rintro rfl; simp at hk
    simpa only [Probe.pinIssues, same _ henum, same _ hconst] using hpin
  · exact Probe.conditionalIssues_of_none (none_of _ (lacks "if" (by simp)))
  · refine Probe.allOfIssues_iff.2 fun z hz => ?_
    rw [none_of _ h.simple.here.alone] at hz
    cases hz
  · by_cases he : "anyOf" = k
    · refine Probe.anyOfIssues_iff.2 fun z hz => ?_
      rw [he, removed] at hz
      cases hz
    · exact (Probe.anyOfIssues_iff_of_get? h.accessor (.refl h.proper) (same _ he).symm).1 hany
  · exact Probe.oneOfIssues_of_none (none_of _ (lacks "oneOf" (by simp)))
  · by_cases he : "not" = k
    · refine Probe.notIssues_iff.2 fun z hz => ?_
      rw [he, removed] at hz
      cases hz
    · exact (Probe.notIssues_iff_of_get? h.accessor (.refl h.proper) (same _ he).symm).1 hnot
  · refine (Probe.typeIssues_iff_of_samePlain h.accessor (.refl h.proper) (.without ?_)).1 htype
    rintro j hj
    obtain rfl := List.mem_singleton.1 hj
    rcases List.mem_pair.1 hk with rfl | rfl <;> simp [Schema.compositeKeywords]

theorem dispatch_smooth (h : Able step x)
    (hv : Probe.issues step.setting x step.schema step.path = .ok [])
    (hr : step.dispatch.result = .ok outcome) : Smooth outcome.issues := by
  have lacks := h.simple.here.lacks
  obtain ⟨-, -, -, hany, -, hnot, htype⟩ := Probe.issues_obj_iff.1 hv
  unfold Step.dispatch at hr
  split at hr
  · next hx => rw [lacks "if" (by simp)] at hx; cases hx
  · next hx => rw [h.simple.here.alone] at hx; cases hx
  · next branches _ _ hx =>
    -- a branch admits the value
    obtain ⟨entries, he, hfound⟩ := Probe.anyOfIssues_iff.1 hany branches hx
    have hprobe : step.probeBranches x entries [] = .ok none :=
      Step.probeBranches_eq_none_iff.2 hfound
    simp only [Step.anyOf, h.value, Run.bind_result_eq_ok, Run.lift_result, he] at hr
    obtain ⟨_, ⟨⟩, found, hf, hr⟩ := hr
    rw [hprobe] at hf
    cases hf
    exact h.redirect (h.simple.without (h.simple.here.without (by simp)))
      (h.valid_without (by simp) hv) hr
  · next hx => rw [lacks "oneOf" (by simp)] at hx; cases hx
  · next negated _ _ _ _ hx =>
    -- the negated schema does not
    have hplace := (Probe.notIssues_iff_of_get? (q := step.path ++ ["not"]) h.accessor
      (.refl h.proper) rfl).1 hnot
    obtain ⟨found, hi, hne⟩ := Probe.notIssues_iff.1 hplace negated hx
    simp only [Step.not, h.value, Run.bind_result_eq_ok, Run.lift_result, hi] at hr
    obtain ⟨_, ⟨⟩, hr⟩ := hr
    rw [if_neg (by simpa using hne)] at hr
    exact h.redirect (h.simple.without (h.simple.here.without (by simp)))
      (h.valid_without (by simp) hv) hr
  · exact h.typed_smooth htype hr

/-- **A valid value goes on smoothly.** -/
theorem run_smooth (h : Able step x) (hv : Probe.issues step.setting x step.schema path = .ok [])
    (hr : step.run.result = .ok outcome) : Smooth outcome.issues := by
  replace hv : Probe.issues step.setting x step.schema step.path = .ok [] :=
    (Probe.issues_iff_of_reordered h.accessor (.refl h.proper)).1 hv
  obtain ⟨hpin, -⟩ := Probe.issues_obj_iff.1 hv
  simp only [Step.run, Run.bind_result_eq_ok, Run.lift_result] at hr
  rw [Step.filled_eq h.value h.nullFree.here, ← h.value] at hr
  obtain ⟨issues, hissues, hr⟩ := hr
  replace hissues : step.pinIssues = .ok issues := hissues
  rw [Step.pinIssues_eq h.value h.validates, hpin] at hissues
  cases hissues
  exact h.dispatch_smooth hv hr

end Able

/-- **Every resolution is complete.** -/
theorem complete_resolve {setting : Probe.Setting} (ha : setting.options.accessor = .direct)
    (hv : setting.options.skipValidation = false) (guard : Guard) (request : Request)
    (outcome : Outcome) (hw : Welcome setting request)
    (h : (resolve setting guard request).result = .ok outcome) : Smooth outcome.issues := by
  have ht : Tame False setting Tolerated Unpinning := tame_tolerated ha
  rw [resolve] at h
  split at h
  · cases h
    exact .inr ⟨_, List.mem_singleton_self _, rfl⟩
  · next deep =>
    have complete : Complete setting fun extension next =>
        resolve setting (guard.enter extension) next :=
      fun extension next outcome hw h =>
        complete_resolve ha hv (guard.enter extension) next outcome hw h
    unfold resolveStep at h
    split at h
    · cases h
      exact .nil
    · cases h
      exact .nil
    · next hs =>
      split at h
      · cases h
        exact .nil
      · next x hx =>
        obtain ⟨path, hvalid⟩ := hw.valid _ x hs hx
        simp at hvalid
    · next tag fields hs =>
      have ready : Ready False Tolerated Unpinning ⟨setting, guard.path, tag, fields, request.value,
          request.parent, request.key, request.negated,
          fun extension next => resolve setting (guard.enter extension) next⟩ :=
        ⟨ht, good_of_simple (hw.simple _ hs), hw.admissible.value, hw.admissible.inner,
          fun extension next w hn h => keeps_resolve ht (guard.enter extension) next w hn h,
          fun _ _ => honest_resolve _ _ _⟩
      cases hx : request.value with
      | none =>
        have idle : Idle _ := ⟨ready, hx, hw.plain, hw.simple _ hs, hw.optional hx, complete⟩
        exact idle.run h
      | some x =>
        obtain ⟨path, hvalid⟩ := hw.valid _ x hs hx
        have able : Able _ x := ⟨⟨ready, hx, hv, hw.plain⟩, hw.simple _ hs, complete⟩
        exact able.run_smooth hvalid h
    · cases h
    · cases h
termination_by guard.rank
decreasing_by exact Guard.rank_enter_lt ‹_› extension

end Resolve

/-! ## 9. Reports -/

namespace Issue

/-- A message that is not dropped as a general one is reported if it is found. -/
theorem exists_mem_reported {issues : List Issue} {issue : Issue} (hm : issue ∈ issues)
    (hg : ∀ other : Issue, other.message = issue.message → other.isGeneric = false) :
    ∃ other ∈ reported issues, other.message = issue.message := by
  obtain ⟨other, ho, hmessage⟩ := exists_mem_distinct hm
  refine ⟨other, ?_, hmessage⟩
  rw [reported, withoutGeneric_eq]
  split
  · exact ho
  · exact List.mem_filter.2 ⟨ho, by simp [hg other hmessage]⟩

/-- The message of the depth guard is not a general one. -/
theorem isGeneric_of_tooDeep {issue : Issue} (h : issue.message = Reason.tooDeep.message) :
    issue.isGeneric = false := by
  have hone : (Reason.tooDeep.message == Reason.notExactlyOne.message) = false := by decide
  have hstart : missingStart.isPrefixOf Reason.tooDeep.message.toList = false := by decide
  simp only [isGeneric, h, hone, hstart, Bool.false_and, Bool.or_false]

end Issue

/-- The outcome reports that the schema is too deep. -/
def Resolve.Outcome.SaysTooDeep (outcome : Resolve.Outcome) : Prop :=
  ∃ issue ∈ outcome.issues, issue.message = Reason.tooDeep.message

instance {outcome : Resolve.Outcome} : Decidable outcome.SaysTooDeep :=
  inferInstanceAs (Decidable (∃ issue ∈ outcome.issues, issue.message = Reason.tooDeep.message))

/-- A whole resolution that goes on smoothly gives a value, unless it reports that the schema is too
deep. -/
theorem resolved_of_smooth {schema : Json} {value : Option Json} {outcome : Resolve.Outcome}
    {options : Options}
    (hsmooth : ∀ result, (Resolve.resolveAt ⟨options, schema⟩
      (Resolve.wholeRequest schema value)).result = .ok result → Resolve.Smooth result.issues)
    (h : resolveValues schema value options = .ok outcome) (hdeep : ¬outcome.SaysTooDeep) :
    ∃ w, outcome = .resolved w := by
  obtain ⟨notes, result, hresult, hreported⟩ := resolveValues_eq_ok h
  cases result with
  | resolved w =>
    cases hreported
    exact ⟨_, rfl⟩
  | failed issues =>
    exfalso
    rcases hsmooth _ hresult with hnil | ⟨issue, hm, hreason⟩
    · obtain rfl : issues = [] := hnil
      exact Resolve.honest_resolve _ _ _ hresult
    · have hmessage : issue.message = Reason.tooDeep.message := congrArg Reason.message hreason
      obtain ⟨other, ho, hother⟩ := Issue.exists_mem_reported (List.mem_append_right notes hm)
        fun other he => Issue.isGeneric_of_tooDeep (he.trans hmessage)
      refine hdeep ⟨other, ?_, hother.trans hmessage⟩
      simp only [Resolve.reportedOutcome] at hreported
      split at hreported
      · cases hreported
      · cases hreported
        exact ho

/-- **Resolution is complete for the probe**: where a schema only asserts and merges nothing, a value
without nulls in which the probe finds no issue comes out of a resolution, unless this reports that
the schema is too deep. -/
theorem resolved_of_validateValue {schema value : Json} {outcome : Resolve.Outcome}
    {options : Options} (hs : Wholly Simple schema) (hv : value.Proper) (hn : value.NullFree)
    (ha : options.accessor = .direct) (hskip : options.skipValidation = false)
    (hvalid : validateValue (some value) schema options = .ok [])
    (h : resolveValues schema (some value) options = .ok outcome) (hdeep : ¬outcome.SaysTooDeep) :
    ∃ w, outcome = .resolved w := by
  have welcome : Resolve.Welcome ⟨options, schema⟩ (Resolve.wholeRequest schema (some value)) := by
    refine ⟨⟨?_, ?_, .inr nofun⟩, rfl, ?_, ?_, nofun⟩
    · rintro s ⟨⟩
      exact Resolve.good_of_simple hs
    · rintro x ⟨⟩
      exact ⟨hv, .inr hn⟩
    · rintro s ⟨⟩
      exact hs
    · rintro s x ⟨⟩ ⟨⟩
      exact ⟨_, hvalid⟩
  exact resolved_of_smooth
    (fun result hresult => Resolve.complete_resolve ha hskip _ _ result welcome hresult) h hdeep

/-- A schema with a property that is required but not declared, one that an absent object requires,
compositions that are only probed, and patterns, a tuple, a schema that depends on a member and one
for additional members. -/
def demanding : Json := .obj none [
  ("type", .str "object"),
  ("required", .arr none [.str "id", .str "kind"]),
  ("properties", .obj none [
    ("id", .obj none [("type", .arr none [.str "integer", .str "string"]),
      ("minimum", .num (.int 1)), ("enum", .arr none [.num (.int 7)])]),
    ("nested", .obj none [("type", .str "object"), ("required", .arr none [.str "deep"]),
      ("properties", .obj none [("deep", .obj none [("type", .str "string")])])]),
    ("tags", .obj none [
      ("prefixItems", .arr none [.obj none [("minLength", .num (.int 2))]]),
      ("items", .obj none [("not", .obj none [("const", .str "x")])]),
      ("contains", .obj none [("default", .str "y"), ("maxLength", .num (.int 1))])])]),
  ("anyOf", .arr none [
    .obj none [("required", .arr none [.str "none"])],
    .obj none [("properties", .obj none [("id", .obj none [("default", .num (.int 0))])])]]),
  ("not", .obj none [("required", .arr none [.str "nested"])]),
  ("patternProperties", .obj none [("^k", .obj none [("enum", .arr none [.str "a", .str "b"])])]),
  ("dependentSchemas", .obj none [("id", .obj none [("maxProperties", .num (.int 4))])]),
  ("propertyNames", .obj none [("maxLength", .num (.int 4))]),
  ("additionalProperties", .obj none [("type", .str "number")])]

/-- A value that satisfies it. -/
def satisfying : Json := .obj none [
  ("rest", .num (.int 2)), ("kind", .str "a"), ("tags", .arr none [.str "ab", .str "d"]),
  ("id", .num (.int 7))]

/-- The value with its declared members in front. -/
def arranged : Json := .obj none [
  ("id", .num (.int 7)), ("tags", .arr none [.str "ab", .str "d"]), ("rest", .num (.int 2)),
  ("kind", .str "a")]

theorem resolved_of_validateValue_demanding :
    validateValue (some satisfying) demanding Options.default = .ok [] ∧
      resolveValues demanding (some satisfying) Options.default =
        .ok (.resolved (some arranged)) ∧
      ∃ w, Resolve.Outcome.resolved (some arranged) = .resolved w := by
  have hvalid : validateValue (some satisfying) demanding Options.default = .ok [] := by
    decide +kernel
  have hr : resolveValues demanding (some satisfying) Options.default =
      .ok (.resolved (some arranged)) := by decide +kernel
  exact ⟨hvalid, hr, resolved_of_validateValue (by decide +kernel) (by decide +kernel)
    (by decide +kernel) rfl rfl hvalid hr (by decide)⟩

/-- A schema with a property of a type that there is not. -/
def mistyped : Json := .obj none [
  ("properties", .obj none [("a", .obj none [("type", .str "foo")])])]

/-- **A type that there is not is asked for even where nothing is**: without the condition on single types
the resolution is not complete, since it refuses such a type of a property that the value does not
have, and the probe does not look at it. -/
theorem not_resolved_of_unknown_type :
    ¬∀ (schema value : Json) (outcome : Resolve.Outcome),
      Wholly (fun fields => Sober fields ∧ get? fields "allOf" = none) schema →
      value.Proper → value.NullFree →
      validateValue (some value) schema Options.default = .ok [] →
      resolveValues schema (some value) Options.default = .ok outcome → ¬outcome.SaysTooDeep →
      ∃ w, outcome = .resolved w := by
  intro h
  have hr : resolveValues mistyped (some (.obj none [])) Options.default =
      .ok (.failed [⟨.unknownType "foo", ["a"]⟩]) := by decide +kernel
  obtain ⟨w, hw⟩ := h mistyped (.obj none []) _ (by decide +kernel) (by decide +kernel)
    (by decide +kernel) (by decide +kernel) hr (by decide)
  cases hw

end Conform
