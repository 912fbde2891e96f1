/-
# Schemas that look at names only

What a schema requires of the members of an object may concern their names alone: how many there are, which
of them have to be there, also because of others, and what a name has to look like.  Such a schema
(`Nominal`) lets an object come out of its resolution with the members it has, and if it does, there are no
issues with any other object whose members have the same names, whatever they hold (`nominal_resolve`).
-/
import Conform.Proofs.Steadfast
import Conform.Proofs.Lossless
import Conform.Proofs.Agreement
import Conform.Proofs.Wellformed
import Mathlib.Data.List.Perm.Subperm

namespace Conform

open Fields (get?)
open Json (Reordered)
open Schema (Wholly Steadfast Decides tableOf Nominal windingKeywords)

/-! ## 1. Checks of what has grown -/

/-- Members with names among others are no more of them. -/
theorem Fields.length_le_of_names {a b : Fields} (ha : Distinct a)
    (h : ∀ k ∈ names a, k ∈ names b) : a.length ≤ b.length := by
  have hl := (List.Nodup.subperm ha h).length_le
  simpa [names] using hl

namespace Probe

variable {fields f g : Fields} {path : Path} {tag tag' : Tag} {m n : Nat}

/-- A limit gives no issue if it is not missed. -/
theorem limitIssue_eq_nil_iff {k : String} {missed : Json → Check Bool} {reason : Json → Reason} :
    limitIssue fields k missed reason path = .ok [] ↔
      ∀ limit, get? fields k = some limit → missed limit = .ok false := by
  unfold limitIssue
  cases get? fields k with
  | none => simp
  | some limit =>
    simp only [Option.some.injEq, forall_eq', bind_eq_ok]
    constructor
    · rintro ⟨miss, hm, h⟩
      cases miss with
      | true => cases h
      | false => exact hm
    · exact fun h => ⟨false, h, rfl⟩

/-- More than enough is enough. -/
theorem isUnder_of_le (hmn : m ≤ n) {limit : Json} (h : isUnder m limit = .ok false) :
    isUnder n limit = .ok false := by
  obtain ⟨bound, hb, h⟩ := bind_eq_ok.1 h
  refine bind_eq_ok.2 ⟨bound, hb, ?_⟩
  rw [Except.ok.injEq] at h ⊢
  rw [Number.lt, Number.value] at h ⊢
  cases hv : bound.value with
  | exact q =>
    rw [hv] at h
    simp only [Number.Value.lt, decide_eq_false_iff_not] at h ⊢
    have hq : ((m : Int) : Rat) ≤ ((n : Int) : Rat) := by exact_mod_cast hmn
    exact fun hn => h (Std.lt_of_le_of_lt hq hn)
  | _ =>
    rw [hv] at h
    exact h

/-- **More members are enough** if fewer were, as long as there are no more where they are counted. -/
theorem memberCountIssues_of_le (hmn : m ≤ n)
    (hnm : Fields.has fields "maxProperties" = true → n ≤ m)
    (h : memberCountIssues m fields path = .ok []) : memberCountIssues n fields path = .ok [] := by
  simp only [memberCountIssues, bind_eq_ok, Except.ok.injEq, List.append_eq_nil_iff] at h ⊢
  obtain ⟨_, hfew, _, hmany, rfl, rfl⟩ := h
  refine ⟨[], ?_, [], ?_, rfl, rfl⟩
  · rw [limitIssue_eq_nil_iff] at hfew ⊢
    exact fun limit hl => isUnder_of_le hmn (hfew limit hl)
  · rw [limitIssue_eq_nil_iff] at hmany ⊢
    intro limit hl
    obtain rfl : n = m := Nat.le_antisymm (hnm (by rw [Fields.has, hl]; rfl)) hmn
    exact hmany limit hl

/-- **Members that others require are still there** where only members have been added, and none that
requires others. -/
theorem dependentIssues_of_names (hnames : ∀ k ∈ Fields.names f, k ∈ Fields.names g)
    (htriggers : ∀ k ∈ Fields.names (tableOf fields "dependentRequired"),
      k ∈ Fields.names g → k ∈ Fields.names f)
    (h : dependentIssues .direct (.obj tag f) fields path = .ok []) :
    dependentIssues .direct (.obj tag' g) fields path = .ok [] := by
  obtain ⟨table, ht, h⟩ := bind_eq_ok.1 h
  refine bind_eq_ok.2 ⟨table, ht, ?_⟩
  rw [gather_eq_nil_iff] at h ⊢
  rintro ⟨trigger, names⟩ hm
  have hentry := h (trigger, names) hm
  have hread : ∀ {tag : Tag} {f : Fields} (k : String),
      Accessor.direct.read (.obj tag f) (.str k) = .ok (get? f k) := fun _ => rfl
  simp only [hread, ok_bind] at hentry ⊢
  cases hg : get? g trigger with
  | none => rfl
  | some y =>
    have htable : table = tableOf fields "dependentRequired" := by
      rw [tableOf]
      cases hx : memberTable fields "dependentRequired" with
      | obj =>
        rw [hx] at ht
        exact (Except.ok.inj ht).symm
      | _ =>
        rw [hx] at ht
        cases ht
    obtain ⟨x, hf⟩ := Fields.exists_get?_of_mem_names
      (htriggers trigger (htable ▸ Fields.mem_names_of_mem hm) (Fields.mem_names_of_get? hg))
    rw [hf] at hentry
    obtain ⟨listed, hl, hentry⟩ := bind_eq_ok.1 hentry
    refine bind_eq_ok.2 ⟨listed, hl, ?_⟩
    rw [gather_eq_nil_iff] at hentry ⊢
    intro name hname
    obtain ⟨found, hr, hfound⟩ := bind_eq_ok.1 (hentry name hname)
    cases name with
    | str k =>
      have hthere : k ∈ Fields.names f := by
        rw [hread] at hr
        cases hr
        refine Classical.byContradiction fun hn => ?_
        rw [Fields.get?_eq_none_iff.2 hn] at hfound
        cases hfound
      obtain ⟨z, hz⟩ := Fields.exists_get?_of_mem_names (hnames k hthere)
      exact bind_eq_ok.2 ⟨some z, by rw [hread, hz], rfl⟩
    | arr | obj => cases hr
    | _ =>
      cases hr
      cases hfound

end Probe

/-! ## 2. Objects -/

namespace Resolve

/-- **A step at a schema that looks at names only.** -/
structure Named (step : Step) : Prop extends Regular step where
  nominal : Nominal step.schema
  lacks : ∀ k ∈ windingKeywords, get? step.fields k = none
  declared : Schema.declaresRequired step.fields = true
  validates : step.skips = false

namespace Named

open Step (Passage)

variable {step : Step} {w : Option Json} {x : Json} {k : String} {members table g : Fields}

variable (h : Named step)

include h

/-- There are no schemas for members. -/
theorem table_eq_nil (hk : k ∈ ["properties", "patternProperties", "dependentSchemas"])
    (ht : Probe.membersOf (step.tableOrEmpty k) = .ok table) : table = [] := by
  have hnone : get? step.fields k = none := h.nominal k (by
    simp only [List.mem_cons, List.not_mem_nil, or_false] at hk
    rcases hk with rfl | rfl | rfl <;> simp [Schema.lookingKeywords])
  rw [Step.tableOrEmpty, hnone] at ht
  exact (Except.ok.inj ht).symm

variable (c : Passage step members)

theorem properties_eq_nil : c.properties = [] := h.table_eq_nil (by simp) c.properties_eq

/-- No default is put in. -/
theorem working_eq : c.working = members := by
  refine Ready.withDefaults_eq_of_bare (fun name tag fields hs => ?_) c.working_eq
  obtain ⟨table, ht, hm⟩ := Ready.mem_of_propertySchema hs
  rw [h.table_eq_nil (by simp) ht] at hm
  cases hm

/-- Nothing happens to members that no property declares. -/
theorem final_eq : c.final.members = c.gathered := by
  have hfollowed : c.followed.members = c.gathered := by
    have hf := c.follows
    rw [h.table_eq_nil (by simp) c.dependents_eq, Chain.nil_iff] at hf
    rw [hf]
  have hmatched : c.matched = c.followed := by
    refine c.matches_.keeps (P := (· = c.followed)) (fun name _ b b' ht hb => ?_) rfl
    rcases ht with ⟨-, rfl⟩ | ⟨-, patterns, hp, hc⟩
    · exact hb
    · rw [h.table_eq_nil (by simp) hp, Chain.nil_iff] at hc
      exact hc ▸ hb
  rcases c.adds with ⟨-, he⟩ | ⟨additional, ha, -⟩
  · rw [he, hmatched, hfollowed]
  · cases ha.symm.trans (h.nominal "additionalProperties" (by simp [Schema.lookingKeywords]))

/-- **The members stay what they are.** -/
theorem get?_final (hd : Fields.Distinct members) (k : String) :
    get? c.final.members k = get? members k := by
  have hw := h.working_eq c
  rw [h.final_eq c, c.get?_gathered h.toRegular (hw.symm ▸ hd), h.properties_eq_nil c, hw]
  rfl

theorem distinct_final : Fields.Distinct c.final.members := by
  rw [h.final_eq c]
  exact c.distinct_declared.union

include c in
/-- **An object that comes out has no issues**, nor has another one with the same names. -/
theorem members_valid (hd : Fields.Distinct members) (hg : Fields.Distinct g)
    (same : ∀ k, k ∈ Fields.names g ↔ k ∈ Fields.names members) {tag : Tag} :
    Probe.objectIssues step.setting tag g step.fields step.path (Probe.inside step.setting (.obj tag g))
      (Probe.narrower step.setting (.obj tag g) step.fields) = .ok [] := by
  have absent : ∀ k ∈ Schema.lookingKeywords, get? step.fields k = none := h.nominal
  have hproperties : get? step.fields "properties" = none :=
    absent _ (by simp [Schema.lookingKeywords])
  have hp : (get? step.fields "properties").all Json.isObject = true := by rw [hproperties]; rfl
  have hw := h.working_eq c
  refine Probe.objectIssues_iff.2 ⟨[], ?_⟩
  constructor
  case size =>
    have hlength : g.length = members.length := Nat.le_antisymm
      (Fields.length_le_of_names hg fun k hk => (same k).1 hk)
      (Fields.length_le_of_names hd fun k hk => (same k).2 hk)
    rw [hlength]
    exact c.size_eq
  case required =>
    refine (Step.requiredIssues_iff h.accessor hp).2 ?_
    have hr := c.required_eq
    rw [h.validates] at hr
    obtain ⟨names, hn, hnames⟩ := Step.requiredNames_eq_distinct h.declared hr
    refine ⟨names, hn, hnames ▸ c.required_stays h.toRegular (fun k s hm => ?_) fun k _ hk => ?_⟩
    · rw [h.properties_eq_nil c] at hm
      cases hm
    · exact (same k).2 (hw ▸ hk)
  case dependent =>
    have hdep := c.dependent_eq
    rw [Step.dependentIssues_obj h.accessor none h.validates, hw] at hdep
    rw [h.accessor] at hdep ⊢
    exact Probe.dependentIssues_of_names (fun k hk => (same k).2 hk) (fun k _ hk => (same k).1 hk) hdep
  case table => rw [Probe.memberTable, hproperties]; rfl
  case declared =>
    intro _ _ hm
    cases hm
  case patterned =>
    intro member hm
    have hpatterns : get? step.fields "patternProperties" = none :=
      absent _ (by simp [Schema.lookingKeywords])
    unfold Probe.patternIssues
    rw [Probe.memberTable, hpatterns]
    rfl
  case additional =>
    have hnone : get? step.fields "additionalProperties" = none :=
      absent _ (by simp [Schema.lookingKeywords])
    simp only [Probe.allAdditionalIssues, hnone]
  case names =>
    have hnames := c.names_eq
    unfold Step.builtNameIssues at hnames
    unfold Probe.nameIssues at hnames ⊢
    split
    · rfl
    · next schema hs =>
      simp only [hs] at hnames
      rw [Probe.gather_eq_nil_iff] at hnames ⊢
      intro name hname
      refine hnames name ?_
      obtain ⟨⟨k, y⟩, hm, rfl⟩ := List.mem_map.1 hname
      obtain ⟨x, hx⟩ := Fields.exists_get?_of_mem_names ((same k).1 (Fields.mem_names_of_mem hm))
      exact List.mem_map.2 ⟨(k, x), Json.mem_of_get? (h.get?_final c hd k ▸ hx), rfl⟩
  case schemas =>
    exact Probe.dependentSchemaIssues_of_none (absent _ (by simp [Schema.lookingKeywords]))

omit c

/-- The step at what remains of its schema. -/
theorem narrowed {kind : Kind} {remaining : Fields} (hd : Decides step.fields x kind remaining) :
    Named (step.narrowed remaining) := by
  cases hd with
  | inferred | single =>
    exact ⟨⟨h.accessor, h.proper.retag, h.plain, h.honest⟩, h.nominal, h.lacks, h.declared, h.validates⟩
  | several =>
    have kept : ∀ {type : Json}, ∀ k ≠ "type", get? step.fields k = none →
        get? (Schema.restrict step.fields type) k = none := by
      intro type k hk hnone
      rcases @Schema.get?_restrict_cases step.fields type k hk with hn | he
      · exact hn
      · exact he.trans hnone
    refine ⟨⟨h.accessor, Schema.proper_restrict h.proper, h.plain, h.honest⟩, fun k hk => ?_,
      fun k hk => ?_, ?_, h.validates⟩
    · refine kept k ?_ (h.nominal k hk)
      rintro rfl
      simp [Schema.lookingKeywords] at hk
    · refine kept k ?_ (h.lacks k hk)
      rintro rfl
      simp [Schema.windingKeywords, Schema.compositeKeywords] at hk
    · exact Schema.declaresRequired_of_get? h.declared fun k hk => Schema.get?_restrict_cases hk

variable {tag : Tag} (tag' : Tag) (hd : Fields.Distinct members) (hg : Fields.Distinct g)
  (same : ∀ k, k ∈ Fields.names g ↔ k ∈ Fields.names members)
  (hv : step.value = some (.obj tag members))

include hd hg same hv

/-- An object that comes out by type keeps its members, and no object with their names has issues by type. -/
theorem typed_valid (hr : step.typed.result = .ok (.resolved w)) :
    (∃ tag upper, w = some (.obj tag upper) ∧ Fields.Distinct upper ∧
      ∀ k, get? upper k = get? members k) ∧
    Probe.typeIssues step.setting (.obj tag' g) step.tag step.fields step.path
      (Probe.inside step.setting (.obj tag' g)) (Probe.narrower step.setting (.obj tag' g) step.fields) =
        .ok [] := by
  have shape : Json.SameShape (.obj tag members) (.obj tag' g) := .objects
  rcases Step.decides_of_typed hv hr with hs | ⟨kind, remaining, hdecides⟩
  · rw [Step.typed_of_silent hv hs] at hr
    cases hr
    refine ⟨⟨tag, members, rfl, hd, fun _ => rfl⟩, Probe.typeIssues_iff.2 (.inl ⟨hs.1, ?_⟩)⟩
    simpa only [Schema.inferKind, shape.ofValue_eq] using hs.2
  · rw [Step.typed_of_decides hv hdecides] at hr
    have named := h.narrowed hdecides
    have hv' : (step.narrowed remaining).value = some (.obj tag members) := hv
    cases Step.comesOut hr with
    | members hv'' hr =>
      cases hv'.symm.trans hv''
      obtain ⟨c, rfl⟩ := Step.exists_passage hr
      refine ⟨⟨none, _, rfl, named.distinct_final c, named.get?_final c hd⟩,
        Probe.typeIssues_iff.2 (.inr ⟨_, remaining, hdecides.of_sameShape shape, ?_⟩)⟩
      exact named.members_valid c hd hg same
    | scalar hk hv'' hi =>
      cases hv'.symm.trans hv''
      have fits := Probe.fits_of_kindIssues hi
      revert hk fits
      cases kind <;> simp [Kind.fits, Json.isNumber, Json.isInteger]
    | null hn | boolean hn | missing hn | built hn | unbuilt hn | list hn => cases hv'.symm.trans hn

/-- **An object that comes out keeps its members**, and no object with their names has issues. -/
theorem run_valid (hr : step.run.result = .ok (.resolved w)) :
    (∃ tag upper, w = some (.obj tag upper) ∧ Fields.Distinct upper ∧
      ∀ k, get? upper k = get? members k) ∧
    Probe.issues step.setting (.obj tag' g) step.schema step.path = .ok [] := by
  obtain ⟨-, hr⟩ := Step.run_resolved_iff.1 hr
  have hfilled : step.filled = some (.obj tag members) := Step.filled_eq hv Json.noConfusion
  rw [hfilled, ← hv] at hr
  replace hr : step.typed.result = .ok (.resolved w) := by
    rw [← Step.dispatch_of_lone h.lacks]
    exact hr
  obtain ⟨out, valid⟩ := h.typed_valid tag' hd hg same hv hr
  have unpinned : Schema.isPinned step.fields = false := by
    have hnone : ∀ k ∈ ["const", "enum"], get? step.fields k = none := fun k hk =>
      h.nominal k (by rcases List.mem_pair.1 hk with rfl | rfl <;> simp [Schema.lookingKeywords])
    simp [Schema.isPinned, Fields.has, hnone]
  refine ⟨out, ?_⟩
  rw [show step.schema = .obj step.tag step.fields from rfl,
    Probe.issues_of_uncomposed fun k hk => h.lacks k (List.mem_cons_of_mem _ hk),
    Probe.pinIssues_of_unpinned unpinned, ok_bind]
  exact valid

end Named

/-- **An object comes out of a schema that looks at names only** with the members it has, and no object with
their names has issues. -/
structure NamesOnly (setting : Probe.Setting) (s : Json) (members : Fields) (w : Option Json) :
    Prop where
  out : ∃ tag upper, w = some (.obj tag upper) ∧ Fields.Distinct upper ∧
    ∀ k, get? upper k = get? members k
  valid : ∀ tag g, (Json.obj tag g).Proper → (∀ k, k ∈ Fields.names g ↔ k ∈ Fields.names members) →
    ∀ path, Probe.issues setting (.obj tag g) s path = .ok []

/-- A request for a schema that looks at names only, with an object. -/
structure Naming (request : Request) (s : Json) (members : Fields) : Prop where
  schema : request.schema = .node s
  nominal : Nominal s
  steadfast : Wholly Steadfast s
  value : ∃ tag, request.value = some (.obj tag members)
  distinct : Fields.Distinct members
  plain : request.negated = false

/-- **Resolutions that look at names only** where the schema does. -/
def Nominally (setting : Probe.Setting) (again : Again) : Prop :=
  ∀ extension request s members w, Naming request s members →
    (again extension request).result = .ok (.resolved w) → NamesOnly setting s members w

/-- **Every resolution looks at names only** where the schema does. -/
theorem nominal_resolve {setting : Probe.Setting} (ha : setting.options.accessor = .direct)
    (hskip : setting.options.skipValidation = false) (guard : Guard) (request : Request) (s : Json)
    (members : Fields) (w : Option Json) (hf : Naming request s members)
    (h : (resolve setting guard request).result = .ok (.resolved w)) :
    NamesOnly setting s members w := by
  obtain ⟨tag, hv⟩ := hf.value
  obtain ⟨-, h⟩ := resolve_resolved_iff.1 h
  cases h with
  | unasked hs ht =>
    cases hs.symm.trans hf.schema
    refine ⟨⟨tag, members, hv, hf.distinct, fun _ => rfl⟩, fun tag g _ _ path => ?_⟩
    rcases List.mem_pair.1 ht with rfl | rfl
    · exact Probe.issues_null
    · exact Probe.issues_true
  | missing _ hn => cases hv.symm.trans hn
  | @step stag fields _ hs hr =>
    cases hs.symm.trans hf.schema
    have here := hf.steadfast.here
    have named : Named (request.step setting guard stag fields) :=
      ⟨⟨ha, hf.steadfast.proper, hf.plain, fun _ _ => honest_resolve _ _ _⟩, hf.nominal, here.lacks,
        here.declared, hskip⟩
    refine ⟨(named.run_valid tag hf.distinct hf.distinct (fun _ => .rfl) hv hr).1,
      fun gtag g hg same path => ?_⟩
    have valid := (named.run_valid gtag hf.distinct hg.distinct same hv hr).2
    exact (Probe.issues_iff_of_reordered ha (.refl hg)).1 valid

end Resolve

end Conform
