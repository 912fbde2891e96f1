/-
# What is resolved is valid

The resolution and the probe are two separate programs about the same keywords.  Where a schema only
asserts things of a value (`Assertive`), so that there is nothing to fill in, nothing to choose and
nothing to look up, the one is sound for the other: if a value without nulls comes out of a
resolution, the probe finds no issue in it, and it comes out as it was but for the order of members
(`issues_of_resolveValues`).

What makes this more than a comparison of clauses is `allOf`.  Its members are merged, and merging lets
later keywords replace earlier ones, so that a value which passes the merged schema need not pass the
members.  Two things make up for it: members that are composed themselves are resolved on their own,
and in the end the value is probed against what is plain of each member.  From the merged schema only
`anyOf` and `not` of the schema itself have to be read off, which merging does not touch
(`Composed`); the schemas merged on the way are not assertive any more, but still tame.

The induction is on the guard, with `Faithful` for the resolutions that a step asks for.
-/
import Conform.Proofs.Agreement
import Conform.Proofs.Counterparts
import Conform.Proofs.Deciding
import Conform.Proofs.Lossless

namespace Conform

open Fields (get?)
open Json (Reordered)
open Schema (Wholly partsOf)

namespace Resolve

open Schema (Assertive Tolerated Unpinning)

/-! ## 1. What resolutions promise -/

open Probe (inside narrower SamePlain)
open Ready (Flat)

/-- **`anyOf` and `not` of the schema have nothing against the value.** -/
def Composed (setting : Probe.Setting) (x s : Json) : Prop :=
  ∀ tag fields, s = .obj tag fields → ∀ path,
    Probe.anyOfIssues fields path (narrower setting x fields) = .ok [] ∧
      Probe.notIssues fields path (narrower setting x fields) = .ok []

/-- **Faithful resolutions**: where a value comes out, `anyOf` and `not` have nothing against it, and
if the schema is assertive, nothing has. -/
def Faithful (setting : Probe.Setting) (again : Again) : Prop :=
  ∀ extension request s x w, Admissible False Tolerated request → request.negated = false →
    request.schema = .node s → request.value = some x →
    (again extension request).result = .ok (.resolved w) →
    Composed setting x s ∧ (Wholly Assertive s → ∀ path, Probe.issues setting x s path = .ok [])

/-- A step that validates a value, and whose further resolutions are faithful. -/
structure Sure (step : Step) (x : Json) : Prop extends Validating step x where
  faithful : Faithful step.setting step.again

namespace Sure

variable {step : Step} {w : Option Json} {s x y : Json} {k : String} {path : Path}

theorem redirect (h : Sure step x) (hs : Good Tolerated s)
    (hr : (step.redirect s).result = .ok (.resolved w)) :
    Composed step.setting x s ∧ (Wholly Assertive s → ∀ path, Probe.issues step.setting x s path = .ok []) :=
  h.faithful [] _ s x w ⟨fun _ e => by cases e; exact hs, h.ready.value, h.ready.inner⟩ h.plain rfl
    h.value hr

/-- What comes out of the resolution of something inside has no issues. -/
theorem descend (h : Sure step x) {key : Json} (hs : Wholly Assertive s) (hy : Sound False y)
    (hr : (step.descend key (.node s) (some y)).result = .ok (.resolved w)) (path : Path) :
    Probe.issues step.setting y s path = .ok [] := by
  refine (h.faithful _ _ s y w ⟨fun _ e => ?_, fun _ e => ?_, .inr fun e => ?_⟩ h.plain rfl rfl hr).2
    hs path
  · cases e
    exact good_of_assertive hs
  · cases e
    exact hy
  · cases e

/-! ## 2. Compositions -/

/-- What the keywords of the schema that are not plain, and its type, say about the value. -/
structure Passes (step : Step) (x : Json) : Prop where
  composed : Composed step.setting x step.schema
  strict : Wholly Assertive step.schema → ∀ path,
    Probe.allOfIssues step.fields path (narrower step.setting x step.fields) = .ok [] ∧
      Probe.typeIssues step.setting x step.tag step.fields path (inside step.setting x)
        (narrower step.setting x step.fields) = .ok []

/-- What the type says is known from a schema that differs only in what composes it. -/
theorem typeIssues_of_samePlain (h : Sure step x) {tag : Tag} {fields : Fields}
    (hf : SamePlain step.fields fields)
    (hi : Probe.issues step.setting x (.obj tag fields) [] = .ok []) (path : Path) :
    Probe.typeIssues step.setting x step.tag step.fields path (inside step.setting x)
      (narrower step.setting x step.fields) = .ok [] := by
  obtain ⟨-, -, -, -, -, -, ht⟩ := Probe.issues_obj_iff.1 hi
  exact (Probe.typeIssues_iff_of_samePlain h.accessor (.refl h.proper) hf).2 ht

/-- Where nothing of the schema is left out but one of its compositions, and there is no `allOf`, the type
is all that is left to ask about. -/
theorem strict_of_without (h : Sure step x) (hall : get? step.fields "allOf" = none)
    (hk : k ∈ Schema.compositeKeywords)
    (rest : Wholly Assertive (step.without [k]) →
      ∀ path, Probe.issues step.setting x (step.without [k]) path = .ok [])
    (hs : Wholly Assertive step.schema) (path : Path) :
    Probe.allOfIssues step.fields path (narrower step.setting x step.fields) = .ok [] ∧
      Probe.typeIssues step.setting x step.tag step.fields path (inside step.setting x)
        (narrower step.setting x step.fields) = .ok [] := by
  constructor
  · refine Probe.allOfIssues_iff.2 fun z hz => ?_
    rw [hall] at hz
    cases hz
  · have untyped : "type" ∉ [k] := by
      rw [List.mem_singleton]
      rintro rfl
      simp [Schema.compositeKeywords] at hk
    have left_over := rest (hs.without (hs.here.without untyped)) []
    exact h.typeIssues_of_samePlain (.without fun j hj => List.mem_singleton.1 hj ▸ hk) left_over path

theorem passes_anyOf (h : Sure step x) {branches : Json}
    (hall : get? step.fields "allOf" = none) (hx : get? step.fields "anyOf" = some branches)
    (hr : (step.anyOf branches).result = .ok (.resolved w)) : Passes step x := by
  rcases Step.anyOf_resolved hr with ⟨hr, hprobe⟩ | ⟨d, hd, -⟩
  · obtain ⟨hcomposed, hstrict⟩ := h.redirect (h.ready.without ["anyOf"]) hr
    obtain ⟨entries, he, hp⟩ := hprobe x h.value
    constructor
    · rintro tag fields ⟨⟩ path
      constructor
      · have here : Probe.anyOfIssues step.fields step.path
            (narrower step.setting x step.fields) = .ok [] := by
          refine Probe.anyOfIssues_iff.2 fun z hz => ?_
          rw [hx] at hz
          cases hz
          exact ⟨entries, he, Step.probeBranches_eq_none_iff.1 hp⟩
        exact (Probe.anyOfIssues_iff_of_get? h.accessor (.refl h.proper) rfl).1 here
      · refine (Probe.notIssues_iff_of_get? h.accessor (.refl h.proper) ?_).1
          (hcomposed _ _ rfl path).2
        simp
    · exact h.strict_of_without hall (by simp [Schema.compositeKeywords]) hstrict
  · exact absurd (h.ready.member hd).lacked (by simp)

theorem passes_not (h : Sure step x) {negated : Json} (hall : get? step.fields "allOf" = none)
    (hany : get? step.fields "anyOf" = none) (hx : get? step.fields "not" = some negated)
    (hr : (step.not negated).result = .ok (.resolved w)) : Passes step x := by
  obtain ⟨hr, hprobe⟩ := Step.not_resolved hr
  obtain ⟨-, hstrict⟩ := h.redirect (h.ready.without ["not"]) hr
  obtain ⟨found, hi, hne⟩ := hprobe x h.value
  constructor
  · rintro tag fields ⟨⟩ path
    constructor
    · refine Probe.anyOfIssues_iff.2 fun z hz => ?_
      rw [hany] at hz
      cases hz
    · have here : Probe.notIssues step.fields (step.path ++ ["not"])
          (narrower step.setting x step.fields) = .ok [] := by
        refine Probe.notIssues_iff.2 fun z hz => ?_
        rw [hx] at hz
        cases hz
        exact ⟨found, hi, hne⟩
      exact (Probe.notIssues_iff_of_get? h.accessor (.refl h.proper) rfl).1 here
  · exact h.strict_of_without hall (by simp [Schema.compositeKeywords]) hstrict

section Members

variable {members member merged : Json} {entries : List Json} {flat flat' : Step.Flattened}

/-- The members of `allOf` of an assertive schema may be assertive in turn. -/
theorem assertive_of_entries (h : Sure step x) (hx : get? step.fields "allOf" = some members)
    (he : Probe.entriesOf members = .ok entries) : ∀ s ∈ entries, Wholly Assertive s := by
  intro s hs
  rcases Schema.mem_entries he hs with ⟨tag, rfl⟩ | ⟨text, rfl⟩
  · exact (h.ready.member hx).members rfl s hs
  · exact ⟨.plain rfl, Json.proper_str _⟩

/-- Taking an assertive member keeps what is known of the members so far. -/
theorem flat_of_takesMember (h : Sure step x) (hs : Wholly Assertive member)
    (ht : step.TakesMember member flat flat') (hf : Flat False Tolerated step flat) :
    Flat False Tolerated step flat' :=
  h.ready.takesMember (good_of_assertive hs) hs.unpinning ht hf

/-- Whatever has been made of the value so far, it is still the value in some order. -/
theorem reordered_of_flat (h : Sure step x) (hf : Flat False Tolerated step flat) :
    ∃ y, flat.working = some y ∧ Reordered x y := by
  have hk := hf.kept
  rw [h.value] at hk
  exact hk.reordered h.proper

/-- It can be resolved once more. -/
theorem admissible_of_flat (h : Sure step x) (hf : Flat False Tolerated step flat)
    (hs : Good Tolerated s) : Admissible False Tolerated
      ⟨.node s, flat.working, step.parent, step.key, step.negated⟩ :=
  ⟨fun _ e => by cases e; exact hs, hf.kept.sound h.ready.value, h.ready.inner_of_kept hf.kept⟩

/-- What comes out of the merged schema is the value, too. -/
theorem reordered_of_merged (h : Sure step x) (hf : Flat False Tolerated step flat)
    (hr : (step.again [] ⟨.node flat.merged, flat.working, step.parent, step.key,
      step.negated⟩).result = .ok (.resolved w)) : ∃ z, w = some z ∧ Reordered x z := by
  have hk := hf.kept.trans (h.ready.keeps [] _ w (h.admissible_of_flat hf hf.good) hr)
  rw [h.value] at hk
  exact hk.reordered h.proper

/-- **The merged schema still has `anyOf` and `not` of the schema**, and so they have nothing against the
value. -/
theorem composed_of_merged (h : Sure step x) {plain : List Json}
    (hc : Chain step.TakesMember entries ⟨step.value, step.without ["allOf"], plain, []⟩ flat)
    (hf : Flat False Tolerated step flat)
    (hr : (step.again [] ⟨.node flat.merged, flat.working, step.parent, step.key,
      step.negated⟩).result = .ok (.resolved w)) : Composed step.setting x step.schema := by
  obtain ⟨y, hy, hxy⟩ := h.reordered_of_flat hf
  obtain ⟨hcomposed, hnever⟩ := h.faithful [] _ flat.merged y _ (h.admissible_of_flat hf hf.good)
    h.plain rfl hy hr
  have kept : ∀ k ∈ ["anyOf", "not"],
      get? (Schema.fieldsOf flat.merged) k = get? step.fields k := by
    intro k hk
    rcases Step.get?_merged_of_chain hc hk with hfalse | he
    · have refused := hnever ⟨hfalse ▸ .plain rfl, hfalse ▸ Json.proper_atom trivial rfl⟩ []
      rw [hfalse] at refused
      simp at refused
    · rw [he]
      rcases List.mem_pair.1 hk with rfl | rfl <;> simp [Step.without, Schema.fieldsOf]
  rintro tag fields ⟨⟩ path
  cases hm : flat.merged with
  | obj mtag merged =>
    obtain ⟨hany, hnot⟩ := hcomposed mtag merged hm path
    rw [hm] at kept
    exact ⟨(Probe.anyOfIssues_iff_of_get? h.accessor hxy (kept "anyOf" (by simp)).symm).2 hany,
      (Probe.notIssues_iff_of_get? h.accessor hxy (kept "not" (by simp)).symm).2 hnot⟩
  | _ =>
    -- nothing is left of the schema, so it has neither keyword
    rw [hm] at kept
    constructor
    · refine Probe.anyOfIssues_iff.2 fun z hz => ?_
      rw [← kept "anyOf" (by simp)] at hz
      cases hz
    · refine Probe.notIssues_iff.2 fun z hz => ?_
      rw [← kept "not" (by simp)] at hz
      cases hz

/-- **A member admits the value** if it has been taken without an issue and what is plain of it admits the
value: a composite one is resolved on its own, and any other is plain as it is. -/
theorem issues_of_takesMember (h : Sure step x) (hs : Wholly Assertive member)
    (hf : Flat False Tolerated step flat) (ht : step.TakesMember member flat flat')
    (hi : flat'.issues = [])
    (plain : ∀ path, Probe.issues step.setting x (Step.mergedPart member) path = .ok []) (path : Path) :
    Probe.issues step.setting x member path = .ok [] := by
  cases hcomposite : Step.isComposite member with
  | true =>
    obtain ⟨value, hvalue⟩ := ht.resolved hcomposite hi h.ready.honest
    obtain ⟨y, hy, hxy⟩ := h.reordered_of_flat hf
    have resolved := h.faithful ["allOf"] _ member y value
      (h.admissible_of_flat hf (good_of_assertive hs)) h.plain rfl hy hvalue
    exact (Probe.issues_iff_of_reordered h.accessor hxy).2 (resolved.2 hs path)
  | false =>
    have same : Step.mergedPart member = member := by
      rw [Step.mergedPart, hcomposite]
      rfl
    exact same ▸ plain path

/-- **What `allOf` takes to come out with a value is that every member admits it.** -/
theorem passes_allOf (h : Sure step x) (hx : get? step.fields "allOf" = some members)
    (hr : (step.allOf members).result = .ok (.resolved w)) : Passes step x := by
  obtain ⟨entries, flat, he, hc, hi, hr, hprobe⟩ := Step.allOf_resolved hr
  have assertive : ∀ s ∈ entries, Wholly Assertive s := h.assertive_of_entries hx he
  have keeps : ∀ member ∈ entries, ∀ flat flat', step.TakesMember member flat flat' →
      Flat False Tolerated step flat → Flat False Tolerated step flat' :=
    fun member hm _ _ ht hf => h.flat_of_takesMember (assertive member hm) ht hf
  have hflat : Flat False Tolerated step flat := hc.keeps keeps h.ready.flat_start
  obtain ⟨z, rfl, hxz⟩ := h.reordered_of_merged hflat hr
  have probed : ∀ s ∈ flat.plain, ∀ path, Probe.issues step.setting x s path = .ok [] := by
    intro s hs path
    have hz := Probe.gather_eq_nil_iff.1 hprobe s (List.mem_reverse.2 hs)
    exact (Probe.issues_iff_of_reordered h.accessor hxz).2 hz
  refine ⟨h.composed_of_merged hc hflat hr, fun hs path => ⟨?_, ?_⟩⟩
  · refine Probe.allOfIssues_iff.2 fun m hm => ?_
    rw [hx] at hm
    cases hm
    refine ⟨entries, he, fun s hmem => ?_⟩
    obtain ⟨u, v, rest, hu, ht, hrest⟩ := hc.exists_of_mem keeps h.ready.flat_start hmem
    obtain ⟨stay, unblamed⟩ := Step.spec_of_chain hrest
    refine h.issues_of_takesMember (assertive s hmem) hu ht (unblamed hi) (probed _ (stay _ ?_)) path
    rw [ht.spec.1]
    exact List.mem_cons_self ..
  · -- the schema without its compositions is the first that the value is probed against
    have hplain := probed _ ((Step.spec_of_chain hc).1 _ (List.mem_singleton_self _)) []
    refine h.typeIssues_of_samePlain (.trans (.without ?_) (.without fun _ => id)) hplain path
    simp [Schema.compositeKeywords]

end Members

/-! ## 3. Objects -/

section Objects

open Ready (Holds resolved_of_take wholly_of_table)
open Step (Passage)

variable {tag : Tag} {value members : Fields} {name : String} {additional : Json}

variable (h : Sure step (.obj tag value)) (hs : Wholly Assertive step.schema) (c : Passage step value)

include h hs c

/-- **No required name is missing**: all of them are declared, so that none was left out. -/
theorem required_valid : Probe.requiredIssues step.setting.options.accessor (.obj tag value)
    step.fields step.path = .ok [] := by
  refine (Step.requiredIssues_iff h.accessor (hs.here.tables _ (by simp))).2 ?_
  have hr := c.required_eq
  rw [h.validates] at hr
  obtain ⟨names, hn, hnames⟩ := Step.requiredNames_eq_distinct hs.here.required hr
  have hmissing := c.missing_eq
  rw [h.working_eq c.working_eq, c.reported h.plain] at hmissing
  exact ⟨names, hn, hnames ▸ Step.absentNames_eq_nil_iff.1 hmissing⟩

/-- **No declared property has an issue.** -/
theorem declared_valid (hm : (name, s) ∈ c.properties) :
    Probe.propertyIssues step.setting tag value step.path (inside step.setting (.obj tag value))
      name s = .ok [] := by
  obtain ⟨u, v, rest, -, ht, hrest⟩ :=
    c.declares.exists_of_mem (P := fun _ => True) (fun _ _ _ _ _ _ => trivial) trivial hm
  have hv : v.issues = [] := (Built.grows_of_chain hrest fun _ _ _ =>
    Step.TakesProperty.grows).issues_eq_nil c.declared_issues
  rcases ht with ⟨hl, -⟩ | ⟨-, found, outcome, hf, ho, rfl⟩
  · rw [c.reported h.plain] at hl
    cases hl
  · rw [h.working_eq c.working_eq, h.ready.readMember_str] at hf
    cases hf
    obtain ⟨w, rfl⟩ := resolved_of_take (h.ready.honest _ _) ho hv
    have hread : step.setting.options.accessor.read (.obj tag value) (.str name) =
        .ok (get? value name) := Step.read_str h.accessor tag name
    cases hk : get? value name with
    | none => exact Probe.propertyIssues_of_none (hread.trans (congrArg Except.ok hk))
    | some y =>
      rw [Probe.propertyIssues_of_some (hread.trans (congrArg Except.ok hk))]
      split
      · rfl
      · rw [hk] at ho
        exact h.descend (wholly_of_table hs (by simp) c.properties_eq hm) (h.sound.of_get? hk) ho _

/-- **A member that is no declared property has no issue by the patterns**, all of which its name
can be held against. -/
theorem patterned_valid (hm : (name, y) ∈ value) (hd : Fields.has c.properties name = false) :
    ∃ patterns, Probe.membersOf (step.tableOrEmpty "patternProperties") = .ok patterns ∧
      ∀ pattern ∈ patterns, ∃ fits,
        step.setting.options.engine.search (.str pattern.1) (.str name) = .ok fits ∧
        (fits = true → ∀ path, Probe.issues step.setting y pattern.2 path = .ok []) := by
  have hfollowed := h.ready.passes_followed h.sound c
  obtain ⟨u, v, rest, hu, ht, hrest⟩ := c.matches_.exists_of_mem (P := Holds False value)
    (fun _ _ _ _ ht => h.ready.name ht) (fun _ => hfollowed)
    ((h.mem_names_iff hfollowed).1 (Fields.mem_names_of_mem hm))
  have hv : v.issues = [] := (Built.grows_of_chain hrest fun _ _ _ =>
    Step.TakesName.grows).issues_eq_nil c.matched_issues
  rcases ht with ⟨hd', -⟩ | ⟨-, patterns, hp, hc⟩
  · rw [hd] at hd'
    cases hd'
  refine ⟨patterns, hp, fun pattern hpattern => ?_⟩
  have hstrict := wholly_of_table hs (by simp) hp hpattern
  obtain ⟨a, b, rest, ha, ht, hrest⟩ := hc.exists_of_mem (P := Holds False value)
    (fun pattern hm _ _ ht => h.ready.pattern (good_of_assertive (wholly_of_table hs (by simp) hp hm)) ht)
    hu hpattern
  have hb : b.issues = [] := (Built.grows_of_chain hrest fun _ _ _ =>
    Step.TakesPattern.grows).issues_eq_nil hv
  rcases ht with ⟨hf, -⟩ | ⟨hf, outcome, ho, rfl⟩
  · exact ⟨false, hf, nofun⟩
  · refine ⟨true, hf, fun _ path => ?_⟩
    have hpreserved := ha ((a.grows_take name outcome).issues_eq_nil hb)
    obtain ⟨z, hz, hyz, hsound⟩ := h.exists_member hpreserved hm
    obtain ⟨w, rfl⟩ := resolved_of_take (h.ready.honest _ _) ho hb
    rw [hz] at ho
    exact (Probe.issues_iff_of_reordered h.accessor hyz).2 (h.descend hstrict hsound ho path)

/-- Whether a member is additional can be told. -/
theorem isAdditional_answered (hm : (name, y) ∈ value) :
    ∃ uncovered, Probe.isAdditional step.setting.options.engine name step.fields = .ok uncovered := by
  have hp := hs.here.tables "properties" (by simp)
  have hq := hs.here.tables "patternProperties" (by simp)
  refine Step.isAdditional_eq_ok hp hq fun hd pattern hpattern => ?_
  obtain ⟨_, ptag, properties, ht, he⟩ := Step.exists_table hp
  obtain ⟨_, qtag, patterns, ht', he'⟩ := Step.exists_table hq
  have hproperties := c.properties_eq
  rw [ht] at hproperties
  cases hproperties
  rw [he] at hd
  rw [he'] at hpattern
  obtain ⟨table, htable, hall⟩ := h.patterned_valid hs c hm hd
  rw [ht'] at htable
  cases htable
  obtain ⟨fits, hf, -⟩ := hall pattern hpattern
  exact ⟨fits, hf⟩

/-- **A member that nothing covers has no issue by the schema for such members.** -/
theorem additional_valid (ha : get? step.fields "additionalProperties" = some additional)
    (hm : (name, y) ∈ value) :
    Probe.additionalIssues step.setting tag value step.fields step.path
      (inside step.setting (.obj tag value)) additional (name, y) hm = .ok [] := by
  obtain ⟨uncovered, hu⟩ := h.isAdditional_answered hs c hm
  have hproper : Schema.isProperSchema additional = true := by
    simpa [ha] using hs.here.additional
  have hstrict : Wholly Assertive additional := hs.part ha (List.mem_singleton_self _)
  have hnull : additional ≠ .null := by
    rintro rfl
    cases hproper
  have hexpand : Reference.expand step.setting.options.source step.setting.root additional =
      .ok (some (.node additional)) := by
    refine Step.expand_eq hnull ?_
    cases additional with
    | obj atag fields => exact hstrict.here.lacks "$ref" (by simp)
    | _ => rfl
  -- what the resolution says where it comes to the schema for additional members
  have admitted : uncovered = true → Schema.isFalse additional = false ∧
      ∀ path, Probe.issues step.setting y additional path = .ok [] := by
    rintro rfl
    rcases c.adds with ⟨hsilent, -⟩ | ⟨_, ha', -, -, hc⟩
    · rw [ha] at hsilent
      obtain rfl : additional = .bool true := by simpa [hnull] using hsilent
      exact ⟨rfl, fun path => Probe.issues_true⟩
    · rw [ha] at ha'
      cases ha'
      have hmatched := h.ready.passes_matched h.sound c
      obtain ⟨a, b, rest, hpreserved, ht, hrest⟩ := hc.exists_of_mem (P := Holds False value)
        (fun _ _ _ _ ht => h.ready.uncovered (good_of_assertive hstrict) ht) (fun _ => hmatched)
        ((h.mem_names_iff hmatched).1 (Fields.mem_names_of_mem hm))
      have hb : b.issues = [] := (Built.grows_of_chain hrest fun _ _ _ =>
        Step.TakesAdditional.grows).issues_eq_nil c.final_issues
      rcases ht with ⟨hw, -⟩ | ⟨-, uncovered, hu', ht⟩
      · rw [h.working_eq c.working_eq] at hw
        exact absurd (Fields.mem_names_of_mem hm)
          (Fields.get?_eq_none_iff.1 (Fields.has_eq_false_iff.1 hw))
      · rw [hu] at hu'
        cases hu'
        obtain ⟨hfalse, w, rfl, ho⟩ := h.ready.resolved_of_uncovered hexpand ht hb
        refine ⟨hfalse, fun path => ?_⟩
        obtain ⟨z, hz, hyz, hsound⟩ :=
          h.exists_member (hpreserved ((a.grows_take name _).issues_eq_nil hb)) hm
        rw [hz] at ho
        exact (Probe.issues_iff_of_reordered h.accessor hyz).2 (h.descend hstrict hsound ho path)
  exact Probe.additionalIssues_of_admitted hm hu hexpand fun hk =>
    (admitted hk).imp_right fun hi => hi _

/-- **The schemas that depend on members have nothing against the object.** -/
theorem dependents_valid : Probe.dependentSchemaIssues step.setting tag value step.fields step.path
    (narrower step.setting (.obj tag value) step.fields) = .ok [] := by
  cases hx : get? step.fields "dependentSchemas" with
  | none => exact Probe.dependentSchemaIssues_of_none hx
  | some x =>
    have hobj := hs.here.tables "dependentSchemas" (by simp)
    rw [Probe.dependentSchemaIssues_of_some hx (c.membersOf_dependents hobj hx), Probe.gather_eq_nil_iff]
    rintro ⟨trigger, s⟩ hm
    simp only [Step.read_str h.accessor, ok_bind]
    obtain ⟨a, b, rest, hpreserved, ht, hrest⟩ := c.follows.exists_of_mem
      (h.ready.keeps_dependents h.sound c.dependents_eq) (fun _ => h.ready.passes_declared h.sound c) hm
    have hb : b.issues = [] := (Built.grows_of_chain hrest fun _ _ _ =>
      Step.TakesDependent.grows).issues_eq_nil c.followed_issues
    rw [Step.TakesDependent, h.working_eq c.working_eq, h.ready.readMember_str] at ht
    rcases ht with ⟨hn, -⟩ | ⟨y, outcome, hy, ho, rfl⟩
    · rw [Except.ok.inj hn]
    · rw [Except.ok.inj hy]
      have hp := hpreserved ((a.grows_follow outcome).issues_eq_nil hb)
      cases outcome with
      | failed issues =>
        obtain ⟨-, rfl⟩ := List.append_eq_nil_iff.1 hb
        exact absurd ho (h.ready.honest _ _)
      | resolved w =>
        have hr := h.reordered_obj hp
        have hstrict := wholly_of_table hs (by simp) c.dependents_eq hm
        have hsound := h.sound_members hp
        refine (Probe.issues_iff_of_reordered h.accessor hr).2
          ((h.faithful [] _ s _ w ⟨fun _ e => ?_, fun _ e => ?_, .inr fun e => ?_⟩ h.plain rfl rfl
            ho).2 hstrict step.path)
        · cases e
          exact good_of_assertive hstrict
        · cases e
          exact hsound
        · cases e

/-- **An object that comes out of its stages has no issues.** -/
theorem members_valid :
    Probe.objectIssues step.setting tag value step.fields step.path
      (inside step.setting (.obj tag value)) (narrower step.setting (.obj tag value) step.fields) =
        .ok [] := by
  have hp := hs.here.tables "properties" (by simp)
  have hq := hs.here.tables "patternProperties" (by simp)
  refine Probe.objectIssues_iff.2 ⟨c.properties, ?_⟩
  constructor
  case size => exact c.size_eq
  case required => exact h.required_valid hs c
  case dependent =>
    rw [← Step.dependentIssues_obj h.accessor tag h.validates, ← h.working_eq c.working_eq]
    exact c.dependent_eq
  case table => rw [Step.membersOf_memberTable hp, c.properties_eq]
  case declared => exact fun name schema hm => h.declared_valid hs c hm
  case patterned =>
    rintro ⟨name, y⟩ hm
    unfold Probe.patternIssues
    split
    · rfl
    · next hd =>
      obtain ⟨patterns, hpatterns, hall⟩ := h.patterned_valid hs c hm (Bool.eq_false_iff.2 hd)
      rw [Step.membersOf_memberTable hq, hpatterns, ok_bind, Probe.gather_eq_nil_iff]
      intro pattern hpattern
      obtain ⟨fits, hf, hi⟩ := hall pattern hpattern
      simp only [hf, ok_bind]
      split
      · next ht => exact hi ht _
      · rfl
  case additional =>
    unfold Probe.allAdditionalIssues
    split
    · rfl
    · next additional ha =>
      rw [Probe.gather_eq_nil_iff]
      rintro ⟨name, y⟩ hm
      exact h.additional_valid hs c ha hm
  case names =>
    have hn := c.names_eq
    unfold Step.builtNameIssues Probe.nameIssues at hn
    unfold Probe.nameIssues
    split at hn
    · rfl
    · rw [Probe.gather_eq_nil_iff] at hn
      simp only [Probe.gather_eq_nil_iff]
      intro _ hm
      obtain ⟨⟨name, y⟩, hmember, rfl⟩ := List.mem_map.1 hm
      obtain ⟨z, hz, -⟩ := h.exists_member (h.ready.passes_final h.sound c) hmember
      exact hn (.str name) (List.mem_map.2 ⟨(name, z), Json.mem_of_get? hz, rfl⟩)
  case schemas => exact h.dependents_valid hs c

end Objects

/-! ## 4. Lists -/

/-- **A list that comes out item by item has no issues.** -/
theorem items_valid {tag : Tag} {items : List Json} (h : Sure step (.arr tag items))
    (hs : Wholly Assertive step.schema) (hr : step.array.result = .ok (.resolved w)) :
    Probe.arrayIssues items step.fields step.path
      (fun x _ schema place => Probe.issues step.setting x schema place) = .ok [] := by
  obtain ⟨hwhole, ys, hys, -⟩ := (Step.array_resolved_iff h.ready.honest h.value).1 hr
  refine Probe.arrayIssues_iff.2 ⟨hwhole, ?_⟩
  rintro ⟨item, i⟩ hm hitem
  obtain ⟨y, hy⟩ := Step.exists_becomesItem hys hm
  unfold Probe.itemIssues
  cases hy with
  | kept hk =>
    simp only [List.mem_cons, List.not_mem_nil, or_false] at hk
    rcases hk with hk | hk <;> simp only [hk]
  | @resolved s value hk hbool _ ho =>
    simp only [hk]
    split
    · rfl
    · rfl
    · next e => exact absurd (Option.some.inj e) hbool.2
    · next e =>
      cases e
      exact h.descend (Ready.wholly_of_itemSchema hs hk) (h.sound.of_mem_items hitem) ho _

/-! ## 5. Types -/

/-- **A value that comes out as one of a kind has no issues as one.** -/
theorem kind_valid (h : Sure step x) (hs : Wholly Assertive step.schema) {kind : Kind}
    (hr : (step.ofKind kind).result = .ok (.resolved w)) :
    Probe.kindIssues step.setting kind x step.fields step.path (inside step.setting x)
      (narrower step.setting x step.fields) = .ok [] := by
  cases Step.comesOut hr with
  | null hv | boolean hv | missing hv | built hv | unbuilt hv => cases h.value.symm.trans hv
  | scalar _ hv hi =>
    cases h.value.symm.trans hv
    exact hi
  | list hv hr =>
    cases h.value.symm.trans hv
    exact h.items_valid hs hr
  | members hv hr =>
    cases h.value.symm.trans hv
    obtain ⟨passage, -⟩ := Step.exists_passage hr
    exact h.members_valid hs passage

/-- **What comes out by its type has no issues by it.** -/
theorem typed_valid (h : Sure step x) (hs : Wholly Assertive step.schema)
    (hr : step.typed.result = .ok (.resolved w)) :
    Probe.typeIssues step.setting x step.tag step.fields step.path (inside step.setting x)
      (narrower step.setting x step.fields) = .ok [] := by
  rw [Probe.typeIssues_iff]
  rcases Step.decides_of_typed h.value hr with hsilent | ⟨kind, remaining, hd⟩
  · exact .inl hsilent
  · refine .inr ⟨kind, remaining, hd, ?_⟩
    rw [Step.typed_of_decides h.value hd] at hr
    have sure : Sure (step.narrowed remaining) x :=
      ⟨⟨h.ready.narrowed hd, h.value, h.validates, h.plain⟩, h.faithful⟩
    exact sure.kind_valid (hs.of_decides (fun _ hl => hs.here.restrict hl) hd) hr

/-! ## 6. Steps -/

/-- Without compositions the type has the last word. -/
theorem passes_typed (h : Sure step x) (hall : get? step.fields "allOf" = none)
    (hany : get? step.fields "anyOf" = none) (hnot : get? step.fields "not" = none)
    (hr : step.typed.result = .ok (.resolved w)) : Passes step x := by
  constructor
  · rintro tag fields ⟨⟩ path
    constructor
    · refine Probe.anyOfIssues_iff.2 fun z hz => ?_
      rw [hany] at hz
      cases hz
    · refine Probe.notIssues_iff.2 fun z hz => ?_
      rw [hnot] at hz
      cases hz
  · intro hs path
    refine ⟨Probe.allOfIssues_iff.2 fun z hz => ?_, ?_⟩
    · rw [hall] at hz
      cases hz
    · exact (Probe.typeIssues_iff_of_samePlain h.accessor (.refl h.proper) (.refl _)).1
        (h.typed_valid hs hr)

theorem passes (h : Sure step x) (hr : step.dispatch.result = .ok (.resolved w)) :
    Passes step x := by
  unfold Step.dispatch at hr
  split at hr
  · next hx => exact absurd (by simp) (h.ready.member hx).lacked
  · next hx => exact h.passes_allOf hx hr
  · next hall hx => exact h.passes_anyOf hall hx hr
  · next hx => exact absurd (by simp) (h.ready.member hx).lacked
  · next hall hany _ hx => exact h.passes_not hall hany hx hr
  · next hall hany _ hnot => exact h.passes_typed hall hany hnot hr

/-- **A step that comes out with a value is faithful.** -/
theorem run_valid (h : Sure step x) (hnull : x ≠ .null)
    (hr : step.run.result = .ok (.resolved w)) :
    Composed step.setting x step.schema ∧
      (Wholly Assertive step.schema → ∀ path, Probe.issues step.setting x step.schema path = .ok []) := by
  obtain ⟨hpin, hr⟩ := Step.run_resolved_iff.1 hr
  rw [Step.filled_eq h.value hnull, ← h.value] at hpin hr
  replace hpin : step.pinIssues = .ok [] := hpin
  rw [Step.pinIssues_eq h.value h.validates] at hpin
  have passes := h.passes hr
  refine ⟨passes.composed, fun hs path => ?_⟩
  have lacks := hs.here.lacks
  obtain ⟨hany, hnot⟩ := passes.composed _ _ rfl step.path
  obtain ⟨hall, htype⟩ := passes.strict hs step.path
  have hhere : Probe.issues step.setting x step.schema step.path = .ok [] := by
    refine Probe.issues_obj_iff.2 ⟨hpin, ?_, hall, hany, ?_, hnot, htype⟩
    · exact Probe.conditionalIssues_of_none (lacks "if" (by simp))
    · exact Probe.oneOfIssues_of_none (lacks "oneOf" (by simp))
  exact (Probe.issues_iff_of_reordered h.accessor (.refl h.proper)).1 hhere

end Sure

/-- **Every resolution is faithful.** -/
theorem faithful_resolve {setting : Probe.Setting} (ha : setting.options.accessor = .direct)
    (hv : setting.options.skipValidation = false) (guard : Guard) :
    ∀ request s x w, Admissible False Tolerated request → request.negated = false →
      request.schema = .node s → request.value = some x →
      (resolve setting guard request).result = .ok (.resolved w) →
      Composed setting x s ∧ (Wholly Assertive s → ∀ path, Probe.issues setting x s path = .ok []) := by
  intro request s x w hr hn hs hx h
  have ht : Tame False setting Tolerated Unpinning := tame_tolerated ha
  obtain ⟨deep, h⟩ := resolve_resolved_iff.1 h
  cases h with
  | unasked hs' htrivial =>
    cases hs.symm.trans hs'
    refine ⟨fun _ _ he => ?_, fun _ path => ?_⟩
    · subst he
      simp at htrivial
    · rcases List.mem_pair.1 htrivial with rfl | rfl
      · exact Probe.issues_null
      · exact Probe.issues_true
  | missing _ hv => cases hx.symm.trans hv
  | @step tag fields _ hs' h =>
    cases hs.symm.trans hs'
    have faithful : Faithful setting fun extension next =>
        resolve setting (guard.enter extension) next :=
      fun extension next s x w hr hn hs hx h =>
        faithful_resolve ha hv (guard.enter extension) next s x w hr hn hs hx h
    have ready : Ready False Tolerated Unpinning (request.step setting guard tag fields) :=
      ⟨ht, hr.schema _ hs, hr.value, hr.inner,
        fun extension next w hn h => keeps_resolve ht (guard.enter extension) next w hn h,
        fun _ _ => honest_resolve _ _ _⟩
    have sure : Sure _ x := ⟨⟨ready, hx, hv, hn⟩, faithful⟩
    exact sure.run_valid ((hr.value x hx).plain.resolve_left id).here h
termination_by guard.rank
decreasing_by exact Guard.rank_enter_lt ‹_› extension

/-- A value that comes out of an assertive schema has no issues. -/
theorem valid_of_resolve {setting : Probe.Setting} (ha : setting.options.accessor = .direct)
    (hv : setting.options.skipValidation = false) {guard : Guard} {s x : Json} {w : Option Json}
    (hs : Wholly Assertive s) (hx : x.Proper) (hn : x.NullFree)
    (h : (resolve setting guard (wholeRequest s (some x))).result = .ok (.resolved w)) (path : Path) :
    Probe.issues setting x s path = .ok [] := by
  have admissible : Admissible False Tolerated (wholeRequest s (some x)) := by
    refine ⟨?_, ?_, .inr nofun⟩
    · rintro s ⟨⟩
      exact good_of_assertive hs
    · rintro x ⟨⟩
      exact ⟨hx, .inr hn⟩
  exact (faithful_resolve ha hv guard _ s x w admissible rfl rfl rfl h).2 hs path

end Resolve

/-! ## 7. Whole resolutions -/

/-- A value that comes out of a schema with members comes out of the keyword that decides. -/
theorem dispatch_of_resolveValues {tag : Tag} {fields : Fields} {value : Json} {w : Option Json}
    {options : Options} (hn : value ≠ .null)
    (h : resolveValues (.obj tag fields) (some value) options = .ok (.resolved w)) :
    ∃ (guard : Resolve.Guard) (y : Option Json),
      (Resolve.Step.dispatch ⟨⟨options, .obj tag fields⟩, options.currentPath, tag, fields, some value,
        .null, .null, false, fun extension next =>
          Resolve.resolve ⟨options, .obj tag fields⟩ (guard.enter extension) next⟩).result =
        .ok (.resolved y) := by
  obtain ⟨y, hy, -⟩ := resolveValues_resolved h
  rw [Resolve.resolveAt] at hy
  obtain ⟨-, hy⟩ := Resolve.resolve_resolved_iff.1 hy
  cases hy with
  | unasked hs htrivial =>
    cases hs
    simp at htrivial
  | missing hs => cases hs
  | step hs hr =>
    cases hs
    obtain ⟨-, hr⟩ := Resolve.Step.run_resolved_iff.1 hr
    rw [Resolve.Step.filled_eq rfl hn] at hr
    exact ⟨_, y, hr⟩

open Schema (Assertive Tolerated Unpinning)

/-- **Resolution is sound for the probe**: where a schema only asserts, a value without nulls that
comes out of a resolution has no issues, and it comes out as it was but for the order of members. -/
theorem issues_of_resolveValues {schema value : Json} {w : Option Json} {options : Options}
    (hs : Wholly Assertive schema) (hv : value.Proper) (hn : value.NullFree)
    (ha : options.accessor = .direct) (hskip : options.skipValidation = false)
    (h : resolveValues schema (some value) options = .ok (.resolved w)) :
    validateValue (some value) schema options = .ok [] ∧ ∃ y, w = some y ∧ Json.Alike value y := by
  obtain ⟨y, hy, rfl⟩ := resolveValues_resolved h
  have ht : Resolve.Tame False ⟨options, schema⟩ Tolerated Unpinning := Resolve.tame_tolerated ha
  have admissible : Resolve.Admissible False Tolerated
      (Resolve.wholeRequest schema (some value)) := by
    refine ⟨?_, ?_, .inr nofun⟩
    · rintro s ⟨⟩
      exact Resolve.good_of_assertive hs
    · rintro x ⟨⟩
      exact ⟨hv, .inr hn⟩
  obtain ⟨-, hvalid⟩ :=
    Resolve.faithful_resolve ha hskip _ _ schema value y admissible rfl rfl rfl hy
  have hk : Resolve.Kept False (some value) y := Resolve.keeps_resolve ht _ _ y admissible hy
  obtain ⟨z, rfl, hz⟩ := hk.reordered hv
  exact ⟨hvalid hs _, z, rfl, hz.alike⟩

/-- A schema with bounds on one property in three members of `allOf`, one of them under `anyOf` and one
with a composition of its own, and with patterns, a tuple, a schema that depends on a member and no
additional members. -/
def intricate : Json := .obj none [
  ("type", .str "object"),
  ("required", .arr none [.str "name"]),
  ("properties", .obj none [
    ("name", .obj none [("type", .str "string"), ("minLength", .num (.int 1))]),
    ("size", .obj none [("type", .arr none [.str "integer", .str "string"]),
      ("minimum", .num (.int 1))])]),
  ("allOf", .arr none [
    .obj none [("properties", .obj none [("size", .obj none [("maximum", .num (.int 9))])])],
    .obj none [
      ("anyOf", .arr none [
        .obj none [("required", .arr none [.str "none"])],
        .obj none [("required", .arr none [.str "size"])]]),
      ("properties", .obj none [("size", .obj none [("minimum", .num (.int 2))])])],
    .obj none [
      ("allOf", .arr none [
        .obj none [("not", .obj none [("required", .arr none [.str "none"])])]]),
      ("propertyNames", .obj none [("maxLength", .num (.int 4))])]]),
  ("patternProperties", .obj none [
    ("^x", .obj none [
      ("items", .arr none [.obj none [("type", .str "integer")]]),
      ("additionalItems", .obj none [("not", .obj none [("type", .str "integer")])])])]),
  ("dependentSchemas", .obj none [
    ("xs", .obj none [("minProperties", .num (.int 2))])]),
  ("additionalProperties", .bool false)]

/-- A value that it admits. -/
def shuffled : Json := .obj none [
  ("xs", .arr none [.num (.int 1), .str "a"]), ("size", .num (.int 4)), ("name", .str "n")]

/-- The value with its members in the order of the schema. -/
def ordered : Json := .obj none [
  ("name", .str "n"), ("size", .num (.int 4)), ("xs", .arr none [.num (.int 1), .str "a"])]

theorem issues_of_resolveValues_intricate :
    resolveValues intricate (some shuffled) Options.default = .ok (.resolved (some ordered)) ∧
      validateValue (some shuffled) intricate Options.default = .ok [] ∧
        ∃ y, some ordered = some y ∧ Json.Alike shuffled y := by
  have hr : resolveValues intricate (some shuffled) Options.default =
      .ok (.resolved (some ordered)) := by decide +kernel
  exact ⟨hr, issues_of_resolveValues (by decide +kernel) (by decide +kernel) (by decide +kernel)
    rfl rfl hr⟩

end Conform
