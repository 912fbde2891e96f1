/-
# Resolution loses nothing

On its way through a resolution a value is taken apart and rebuilt many times: member by member, item
by item, by schemas that depend on members, by the composite members of `allOf`, and by merged schemas
that are written down nowhere.  This module shows that every one of these rebuilds extends the value
it started from, and so the resolution as a whole does (`keeps_resolve`).

The statement has two readings, by what `grows` is (see `Json.Extends`).  If something may grow,
defaults and constants may be filled in, and nothing of the value is lost.  If nothing may, there must
be no defaults and constants, and then the value comes out as it was but for the order of members.
What both need of the schemas is `Tame`: what holds of the members of all schemas that the resolution
comes to, given as a condition `A` on members that merging keeps.

The induction is on the guard: a step may assume that the resolutions it asks for keep their values
(`Keeps`).  Within a step, the members built so far are `Preserved` at every stage.
-/
import Conform.Proofs.Compositions
import Conform.Proofs.Extension
import Conform.Proofs.Failures
import Conform.Proofs.Merging

namespace Conform.Resolve

open Fields (get?)
open Json (Extends Extends? Proper NullFree)
open Schema (Everywhere OfMembers Wholly Mergeable partsOf listedTypes)

/-! ## 1. Schemas and values that are taken along -/

/-- A schema whose members satisfy a condition, at every place that a resolution can come to. -/
abbrev Good (A : String → Json → Prop) (s : Json) : Prop := Wholly (OfMembers A) s

/-- **What is assumed of all schemas on the way**: their members satisfy `A`, and what is merged into
them satisfies `B`. -/
structure Tame (grows : Prop) (setting : Probe.Setting) (A B : String → Json → Prop) : Prop where
  accessor : setting.options.accessor = .direct
  mergeable : Mergeable A B
  /-- Either something may grow, or nothing is there to be filled in. -/
  steady : grows ∨ (∀ x, ¬A "default" x) ∧ (∀ x, ¬A "const" x) ∧
    ∀ x, A "type" x → ∀ name ∈ ["null", "boolean"], Json.listsName (listedTypes x) name = false
  /-- A default never stands in for a value that no branch admits. -/
  chosen : (∀ x, ¬A "default" x) ∨ (∀ x, ¬A "anyOf" x) ∧ ∀ x, ¬A "oneOf" x
  /-- A schema may be reduced to one of its types. -/
  narrowed : ∀ x name, A "type" x → Json.listsName (listedTypes x) name = true →
    A "type" (.str name)
  /-- What is merged in satisfies `B`. -/
  parts : ∀ k ∈ ["then", "else", "allOf", "oneOf"], ∀ x, A k x → ∀ s ∈ partsOf k x,
    Everywhere (OfMembers A) s → Everywhere (OfMembers B) s
  /-- References lead to schemas of the same sort. -/
  referred : (∀ x, ¬A "$ref" x) ∨ Mergeable A A ∧ ∀ ref x, A "$ref" ref →
    setting.options.source.lookup ref setting.root = .ok (.node x) → Good A x

/-- A value that is taken along: proper, and without nulls if nothing may grow. -/
structure Sound (grows : Prop) (x : Json) : Prop where
  proper : x.Proper
  plain : grows ∨ x.NullFree

/-- What comes out extends what went in. -/
structure Kept (grows : Prop) (value out : Option Json) : Prop where
  extends? : Extends? grows value out
  proper : ∀ y, out = some y → y.Proper

variable {grows : Prop}

theorem Sound.of_get? {tag : Tag} {fields : Fields} {k : String} {x : Json}
    (h : Sound grows (.obj tag fields)) (hk : get? fields k = some x) : Sound grows x :=
  ⟨h.proper.of_get? hk, h.plain.imp_right fun h => h.of_get? hk⟩

theorem Sound.empty : Sound grows (.obj none []) where
  proper := Json.proper_obj Fields.distinct_nil fun _ _ hm => nomatch hm
  plain := .inr (.intro Json.noConfusion fun _ hm => nomatch hm)

theorem Sound.of_mem_items {tag : Tag} {items : List Json} {x : Json}
    (h : Sound grows (.arr tag items)) (hx : x ∈ items) : Sound grows x :=
  ⟨h.proper.of_mem_items hx, h.plain.imp_right fun h => h.of_mem_items hx⟩

/-- A value that counts as missing is missing or, if something may grow, null. -/
theorem extends?_none_of_absent {value : Option Json} {schema : Json}
    (hv : ∀ x, value = some x → Sound grows x) (h : Schema.isAbsent value schema = true) :
    Extends? grows value none := by
  cases value with
  | none => exact .inr rfl
  | some x =>
    have hx : x = .null := by cases x <;> simp_all [Schema.isAbsent]
    exact .inl ⟨(hv x rfl).plain.resolve_right fun hn => hn.here hx, hx⟩

namespace Kept

variable {a b c : Option Json} {x y : Json}

theorem refl (h : ∀ x, a = some x → Sound grows x) : Kept grows a a :=
  ⟨Json.extends?_refl fun x hx => (h x hx).proper, fun x hx => (h x hx).proper⟩

theorem trans (hab : Kept grows a b) (hbc : Kept grows b c) : Kept grows a c :=
  ⟨Json.extends?_trans hab.extends? hbc.extends?, hbc.proper⟩

/-- What is kept stays sound. -/
theorem sound (h : Kept grows a b) (ha : ∀ x, a = some x → Sound grows x) :
    ∀ y, b = some y → Sound grows y := by
  rintro y rfl
  refine ⟨h.proper y rfl, ?_⟩
  by_cases hg : grows
  · exact .inl hg
  · cases a with
    | none => exact absurd (h.extends?.resolve_left hg) (by simp)
    | some x =>
      have hx := (ha x rfl).plain.resolve_left hg
      have hxy := Json.extends_of_extends? h.extends?
      rw [eq_false hg] at hxy
      exact .inr (Json.Alike.nullFree hxy (h.proper y rfl) hx)

end Kept

/-- **What a schema for additional members stands for is good**, if references lead to good schemas. -/
theorem good_of_expand {setting : Probe.Setting} {A : String → Json → Prop} {additional s : Json}
    (referred : (∀ x, ¬A "$ref" x) ∨ Mergeable A A ∧ ∀ ref x, A "$ref" ref →
      setting.options.source.lookup ref setting.root = .ok (.node x) → Good A x)
    (hgood : Good A additional)
    (hx : Reference.expand setting.options.source setting.root additional = .ok (some (.node s))) :
    Good A s := by
  cases additional with
  | obj tag fields =>
    rw [Reference.expand] at hx
    split at hx
    · cases hx
      exact hgood
    · next ref href =>
      have hm := hgood.everywhere.here _ _ (Json.mem_of_get? href)
      obtain ⟨hAA, hlead⟩ := referred.resolve_left fun hn => hn ref hm
      have siblings : Good A (.obj none (Fields.erase fields "$ref")) := by
        constructor
        · exact hgood.everywhere.of_subset
            (fun k x hm => hgood.everywhere.here k x (Fields.mem_of_mem_erase hm))
            fun k x hm => .inl (Fields.mem_of_mem_erase hm)
        · exact Json.proper_obj hgood.proper.distinct.filter
            fun k x hm => hgood.proper.of_mem_fields (Fields.mem_of_mem_erase hm)
      have merges : ∀ {x m}, Good A x →
          Schema.merge false x (.obj none (Fields.erase fields "$ref")) = .ok m → Good A m :=
        fun hx hm => ⟨hAA.everywhere_merge hx.everywhere siblings.everywhere siblings.proper hm,
          Schema.proper_merge hx.proper siblings.proper hm⟩
      simp only [bind_eq_ok] at hx
      obtain ⟨target, hl, hx⟩ := hx
      split at hx
      · cases hx
      · next x _ =>
        have hgx := hlead ref x hm hl
        split at hx
        · cases hx
          exact hgx
        · obtain ⟨merged, hmerge, hx⟩ := bind_eq_ok.1 hx
          cases hx
          exact merges hgx hmerge
      · split at hx
        · cases hx
        · obtain ⟨merged, hmerge, hx⟩ := bind_eq_ok.1 hx
          cases hx
          refine merges ⟨?_, ?_⟩ hmerge
          · exact .node (fun _ _ hm => nomatch hm) fun _ hm => nomatch hm
          · exact Json.proper_obj List.nodup_nil fun _ _ hm => nomatch hm
  | null => cases hx
  | _ =>
    cases hx
    exact hgood

/-! ## 2. Requests and steps -/

variable {A B : String → Json → Prop}

/-- A request for a good schema and a sound value; if nothing may grow, a missing value is one of an
object. -/
structure Admissible (grows : Prop) (A : String → Json → Prop) (request : Request) : Prop where
  schema : ∀ s, request.schema = .node s → Good A s
  value : ∀ x, request.value = some x → Sound grows x
  inner : grows ∨ (request.value = none → request.parent.isObject = true)

/-- Resolutions that keep the value of every admissible request. -/
def Keeps (grows : Prop) (A : String → Json → Prop) (again : Again) : Prop :=
  ∀ extension request w, Admissible grows A request →
    (again extension request).result = .ok (.resolved w) → Kept grows request.value w

/-- A step at a good schema with a sound value, whose further resolutions keep their values. -/
structure Ready (grows : Prop) (A B : String → Json → Prop) (step : Step) : Prop where
  tame : Tame grows step.setting A B
  good : Good A step.schema
  value : ∀ x, step.value = some x → Sound grows x
  inner : grows ∨ (step.value = none → step.parent.isObject = true)
  keeps : Keeps grows A step.again
  honest : ∀ extension request, Honest (step.again extension request)

namespace Ready

variable {step : Step} {w : Option Json} {s x : Json} {k : String}

theorem redirect (h : Ready grows A B step) (hs : Good A s)
    (hr : (step.redirect s).result = .ok (.resolved w)) : Kept grows step.value w :=
  h.keeps [] _ w ⟨fun _ hn => by cases hn; exact hs, h.value, h.inner⟩ hr

theorem descend (h : Ready grows A B step) {key : Json} {node : Reference.Node}
    {value : Option Json} (hs : ∀ s, node = .node s → Good A s)
    (hv : ∀ x, value = some x → Sound grows x)
    (hr : (step.descend key node value).result = .ok (.resolved w)) : Kept grows value w :=
  h.keeps _ _ w ⟨hs, hv, .inr fun _ => rfl⟩ hr

theorem member (h : Ready grows A B step) (hk : get? step.fields k = some x) : A k x :=
  h.good.everywhere.here k x (Json.mem_of_get? hk)

/-- A value that nothing was added to is missing only if that of the step is. -/
theorem inner_of_kept (h : Ready grows A B step) {value : Option Json}
    (hk : Kept grows step.value value) :
    grows ∨ (value = none → step.parent.isObject = true) := by
  by_cases hg : grows
  · exact .inl hg
  · refine .inr fun hnone => h.inner.resolve_left hg ?_
    have hext := hk.extends?
    rw [hnone] at hext
    cases hv : step.value with
    | none => rfl
    | some x => simp [hv, Json.Extends?, hg] at hext

/-- The schemas below the schema of the step are good. -/
theorem part (h : Ready grows A B step) (hk : get? step.fields k = some x)
    (hs : s ∈ partsOf k x) : Good A s := h.good.part hk hs

/-- The schema of the step without some of its members is good. -/
theorem without (h : Ready grows A B step) (keys : List String) : Good A (step.without keys) :=
  h.good.without fun k x hm => h.good.here k x (Fields.mem_of_mem_without hm)

end Ready

/-! ## 3. Members built so far -/

/-- **Members that extend others**: proper ones, every one of which extends that of its name. -/
structure Preserved (grows : Prop) (start members : Fields) : Prop where
  distinct : Fields.Distinct members
  sound : ∀ k x, get? members k = some x → Sound grows x
  extends? : ∀ k, Extends? grows (get? start k) (get? members k)

namespace Preserved

variable {start members : Fields} {name : String}

/-- The members of a sound object extend themselves. -/
theorem refl {tag : Tag} (h : Sound grows (.obj tag start)) : Preserved grows start start where
  distinct := h.proper.distinct
  sound _ _ hk := h.of_get? hk
  extends? _ := Json.extends?_refl fun _ hx => h.proper.of_get? hx

/-- Members that extend others as the members of an object. -/
theorem kept (h : Preserved grows start members) {tag tag' : Tag} (hd : Fields.Distinct start) :
    Kept grows (some (.obj tag start)) (some (.obj tag' members)) := by
  refine ⟨(Json.extends_of_get? hd h.extends?).some, fun y hy => ?_⟩
  cases hy
  exact Json.proper_obj h.distinct fun k x hm =>
    (h.sound k x (Fields.get?_of_mem h.distinct hm)).proper

/-- The members as an object are sound. -/
theorem sound_obj (h : Preserved grows start members) (hd : Fields.Distinct start)
    (hs : grows ∨ (Json.obj none start).NullFree) : Sound grows (.obj none members) := by
  have hk : Kept grows (some (.obj none start)) (some (.obj none members)) := h.kept hd
  refine ⟨hk.proper _ rfl, ?_⟩
  by_cases hg : grows
  · exact .inl hg
  · have ha := Json.extends_of_extends? hk.extends?
    rw [eq_false hg] at ha
    exact .inr (Json.Alike.nullFree ha (hk.proper _ rfl) (hs.resolve_left hg))

/-- Setting a member to what extends it. -/
theorem put (h : Preserved grows start members) {x : Json}
    (hx : Kept grows (get? members name) (some x)) :
    Preserved grows start (Fields.put members name x) := by
  refine ⟨h.distinct.put, fun k y hy => ?_, fun k => ?_⟩
  · rw [Fields.get?_put] at hy
    split at hy
    · cases hy
      exact hx.sound (h.sound name) x rfl
    · exact h.sound k y hy
  · rw [Fields.get?_put]
    split
    · next hk => exact hk ▸ Json.extends?_trans (h.extends? name) hx.extends?
    · exact h.extends? k

/-- Taking up a member that extends what is there. -/
theorem take (h : Preserved grows start members) {issues : List Issue} {value : Option Json}
    (hv : Kept grows (get? members name) value) :
    Preserved grows start (Built.take ⟨members, issues⟩ name (.resolved value)).members := by
  cases value with
  | none => exact h
  | some x => exact h.put hv

/-- Laying members over that extend what is there. -/
theorem union (h : Preserved grows start members) {tag : Tag} {upper : Fields}
    (hu : Kept grows (some (.obj none members)) (some (.obj tag upper)))
    (hs : Sound grows (.obj none members)) :
    Preserved grows start (Fields.union members upper) := by
  have hup := hu.sound (fun x hx => by cases hx; exact hs) _ rfl
  have hd : Fields.Distinct upper := hup.proper.distinct
  refine ⟨h.distinct.union, fun k x hx => ?_, fun k => ?_⟩
  · rw [Fields.get?_union hd] at hx
    cases hk : get? upper k with
    | some y =>
      simp only [hk, Option.some_or, Option.some.injEq] at hx
      exact hx ▸ hup.of_get? hk
    | none =>
      simp only [hk, Option.none_or] at hx
      exact h.sound k x hx
  · rw [Fields.get?_union hd]
    obtain ⟨_, _, he, hx⟩ :=
      (Json.extends_obj_iff h.distinct).1 (Json.extends_of_extends? hu.extends?)
    cases he
    cases hk : get? upper k with
    | some y =>
      have hy := hx k
      rw [hk] at hy
      exact Json.extends?_trans (h.extends? k) hy
    | none => simpa using h.extends? k

end Preserved

/-! ## 4. Objects -/

namespace Ready

variable {step : Step} {w : Option Json} {s x : Json} {k : String}

theorem readMember_str (h : Ready grows A B step) {members : Fields} {name : String} :
    step.readMember members (.str name) = .ok (get? members name) := by
  rw [Step.readMember, h.tame.accessor]
  rfl

/-- A table of schemas by name is there, or it stands for an empty one. -/
theorem mem_tableOrEmpty {keyword name : String} {table : Fields}
    (ht : Probe.membersOf (step.tableOrEmpty keyword) = .ok table) (hm : (name, s) ∈ table) :
    ∃ tag, get? step.fields keyword = some (.obj tag table) := by
  unfold Step.tableOrEmpty at ht
  split at ht
  · next x hx =>
    split at ht
    · cases x with
      | obj tag fields =>
        cases ht
        exact ⟨tag, hx⟩
      | _ => cases ht
    · cases ht
      cases hm
  · cases ht
    cases hm

/-- In a table no name occurs twice. -/
theorem distinct_of_table {keyword : String} {table : Fields} (h : step.schema.Proper)
    (ht : Probe.membersOf (step.tableOrEmpty keyword) = .ok table) : Fields.Distinct table := by
  cases table with
  | nil => exact Fields.distinct_nil
  | cons m rest =>
    obtain ⟨tag, hk⟩ := mem_tableOrEmpty ht (List.mem_cons_self ..)
    exact Json.Proper.distinct (h.of_get? hk)

/-- The schemas in a table are right below the schema. -/
theorem mem_subschemas_of_table {name : String} {table : Fields}
    (hk : k ∈ ["properties", "patternProperties", "dependentSchemas"])
    (ht : Probe.membersOf (step.tableOrEmpty k) = .ok table) (hm : (name, s) ∈ table) :
    s ∈ Schema.subschemas step.fields := by
  obtain ⟨tag, hx⟩ := mem_tableOrEmpty ht hm
  refine Schema.mem_subschemas_of_get? hx ?_
  rw [partsOf, Schema.Place.ofKeyword, if_pos hk]
  exact List.mem_map.2 ⟨_, hm, rfl⟩

/-- What holds of a schema and all below it holds of the schemas in its tables. -/
theorem wholly_of_table {P : Fields → Prop} {name : String} {table : Fields}
    (h : Wholly P step.schema) (hk : k ∈ ["properties", "patternProperties", "dependentSchemas"])
    (ht : Probe.membersOf (step.tableOrEmpty k) = .ok table) (hm : (name, s) ∈ table) :
    Wholly P s := h.below (mem_subschemas_of_table hk ht hm)

/-- The schemas in the tables of a schema are good. -/
theorem table (h : Ready grows A B step) {name : String} {table : Fields}
    (hk : k ∈ ["properties", "patternProperties", "dependentSchemas"])
    (ht : Probe.membersOf (step.tableOrEmpty k) = .ok table) (hm : (name, s) ∈ table) :
    Good A s := wholly_of_table h.good hk ht hm

/-- The schema found for a property is one of the table. -/
theorem mem_of_propertySchema {name : String} {tag : Tag} {fields : Fields}
    (hs : Probe.propertySchema (step.tableOrEmpty "properties") (.str name) = .ok (.obj tag fields)) :
    ∃ table, Probe.membersOf (step.tableOrEmpty "properties") = .ok table ∧
      (name, .obj tag fields) ∈ table := by
  cases ht : step.tableOrEmpty "properties" with
  | obj ttag table =>
    rw [ht] at hs
    simp only [Probe.propertySchema, Except.ok.injEq] at hs
    refine ⟨table, rfl, ?_⟩
    cases hg : get? table name with
    | none => simp [hg] at hs
    | some y =>
      rw [hg] at hs
      exact Json.mem_of_get? (hg.trans (congrArg some hs))
  | _ =>
    rw [ht] at hs
    cases hs

/-- A declared property has a default only where something may grow. -/
theorem default_of_property (h : Ready grows A B step) {name : String} {tag : Tag} {fields : Fields}
    {d : Json}
    (hs : Probe.propertySchema (step.tableOrEmpty "properties") (.str name) = .ok (.obj tag fields))
    (hd : get? fields "default" = some d) : grows ∧ d.Proper := by
  obtain ⟨table, ht, hmem⟩ := mem_of_propertySchema hs
  have hgood := h.table (by simp) ht hmem
  have hA := hgood.everywhere.here _ _ (Json.mem_of_get? hd)
  exact ⟨h.tame.steady.resolve_right fun hn => hn.1 d hA, hgood.proper.of_get? hd⟩

/-- **What each default that is put in keeps is kept by all of them.**  A default is put in where the member
of its name is absent. -/
theorem keeps_withDefaults {P : Fields → Prop} {names : List Json} {members working : Fields}
    (put : ∀ members name tag fields d found,
      Probe.propertySchema (step.tableOrEmpty "properties") (.str name) = .ok (.obj tag fields) →
      get? fields "default" = some d → step.readMember members (.str name) = .ok found →
      Schema.isAbsent found (.obj tag fields) = true → P members → P (Fields.put members name d))
    (hw : step.withDefaults names members = .ok working) (hm : P members) : P working := by
  induction names generalizing members with
  | nil =>
    cases hw
    exact hm
  | cons name rest ih =>
    rw [Step.withDefaults, bind_eq_ok] at hw
    obtain ⟨schema, hs, hw⟩ := hw
    split at hw
    · split at hw
      · next d hd =>
        obtain ⟨found, hf, hw⟩ := bind_eq_ok.1 hw
        split at hw
        · next ha => exact ih hw (put _ _ _ _ d found hs hd hf ha hm)
        · exact ih hw hm
      · exact ih hw hm
    · exact ih hw hm

/-- **Defaults only take the place of what is absent.** -/
theorem withDefaults (h : Ready grows A B step) {names : List Json} {start members working : Fields}
    (hm : Preserved grows start members)
    (hw : step.withDefaults names members = .ok working) : Preserved grows start working := by
  refine keeps_withDefaults (P := Preserved grows start) ?_ hw hm
  intro members name tag fields d found hs hd hf ha hm
  obtain ⟨hg, hproper⟩ := h.default_of_property hs hd
  rw [h.readMember_str] at hf
  cases hf
  refine hm.put ⟨?_, fun y hy => ?_⟩
  · exact Json.extends?_trans (extends?_none_of_absent (hm.sound name) ha) (.inl hg)
  · cases hy
    exact hproper

/-- Where no property has a default there is none to put in. -/
theorem withDefaults_eq_of_bare {names : List Json} {members working : Fields}
    (h : ∀ name tag fields, Probe.propertySchema (step.tableOrEmpty "properties") (.str name) =
      .ok (.obj tag fields) → get? fields "default" = none)
    (hw : step.withDefaults names members = .ok working) : working = members := by
  refine keeps_withDefaults (P := (· = members)) ?_ hw rfl
  intro _ name tag fields d _ hs hd
  rw [h name tag fields hs] at hd
  cases hd

/-- Where nothing may grow there are no defaults to put in. -/
theorem withDefaults_eq (h : Ready False A B step) {names : List Json} {members working : Fields}
    (hw : step.withDefaults names members = .ok working) : working = members := by
  refine withDefaults_eq_of_bare (fun name tag fields hs => ?_) hw
  cases hd : get? fields "default" with
  | none => rfl
  | some d => exact (h.default_of_property hs hd).1.elim

/-- What is reported missing is absent. -/
theorem absent_of_listed (h : Ready grows A B step) {names missing : List Json} {working : Fields}
    {name : String} (hs : ∀ k x, get? working k = some x → Sound grows x)
    (hn : step.absentNames working names = .ok missing)
    (hl : Json.listsName missing name = true) : Extends? grows (get? working name) none := by
  induction names generalizing missing with
  | nil =>
    cases hn
    cases hl
  | cons n rest ih =>
    simp only [Step.absentNames, bind_eq_ok, Except.ok.injEq] at hn
    obtain ⟨found, hf, schema, -, others, ho, rfl⟩ := hn
    split at hl
    · next ha =>
      simp only [Json.listsName, List.any_cons, Bool.or_eq_true] at hl
      rcases hl with hl | hl
      · cases n with
        | str s =>
          obtain rfl : s = name := by simpa using hl
          rw [h.readMember_str] at hf
          cases hf
          exact extends?_none_of_absent (hs s) ha
        | _ => cases hl
      · exact ih ho hl
    · exact ih ho hl

/-- What a resolution adds where it gives no issue. -/
theorem resolved_of_take {b : Built} {name : String} {run : Run Outcome} {outcome : Outcome}
    (hr : Honest run) (ho : run.result = .ok outcome) (hi : (b.take name outcome).issues = []) :
    ∃ value, outcome = .resolved value := by
  cases outcome with
  | resolved value => exact ⟨value, rfl⟩
  | failed issues =>
    obtain ⟨-, rfl⟩ := List.append_eq_nil_iff.1 hi
    exact absurd ho hr

/-- **A member that nothing covers was resolved** where it gave no issue, by the schema for such members if
that leads on to no other. -/
theorem resolved_of_uncovered (h : Ready grows A B step) {additional : Json} {name : String}
    {b b' : Built} (hself : Reference.expand step.setting.options.source step.setting.root additional =
      .ok (some (.node additional)))
    (ht : step.TakesUncovered additional name b b') (hi : b'.issues = []) :
    Schema.isFalse additional = false ∧ ∃ w, b' = b.take name (.resolved w) ∧
      (step.descend (.str name) (.node additional) (get? b.members name)).result = .ok (.resolved w) := by
  cases ht with
  | forbidden | dead => exact absurd hi (by simp [Built.report])
  | @resolved node outcome hfalse hx ho =>
    rw [hself] at hx
    cases hx
    obtain ⟨w, rfl⟩ := resolved_of_take (h.honest _ _) ho hi
    exact ⟨hfalse, w, rfl, ho⟩

/-- **The declared properties keep their members**, and no other member appears. -/
theorem properties (h : Ready grows A B step) {props working : Fields} {missing : List Json}
    {b b' : Built} (hgood : ∀ name s, (name, s) ∈ props → Good A s)
    (hd : Fields.Distinct props) (hs : ∀ k x, get? working k = some x → Sound grows x)
    (hmissing : ∀ name, Json.listsName missing name = true →
      Extends? grows (get? working name) none)
    (hb : Fields.Distinct b.members ∧ ∀ k x, get? b.members k = some x → Sound grows x)
    (hnew : ∀ k ∈ Fields.names props, get? b.members k = none)
    (hc : Chain (step.TakesProperty working missing) props b b') (hi : b'.issues = []) :
    Fields.Distinct b'.members ∧ (∀ k x, get? b'.members k = some x → Sound grows x) ∧
      (∀ k ∈ Fields.names props, Extends? grows (get? working k) (get? b'.members k)) ∧
      ∀ k ∉ Fields.names props, get? b'.members k = get? b.members k := by
  induction hc with
  | nil => exact ⟨hb.1, hb.2, fun _ hk => absurd hk List.not_mem_nil, fun _ _ => rfl⟩
  | @cons property rest b t b' first chain ih =>
    obtain ⟨name, schema⟩ := property
    obtain ⟨hn, hrest⟩ := Fields.distinct_cons.1 hd
    have ht : t.issues = [] :=
      (Built.grows_of_chain chain fun _ _ _ => Step.TakesProperty.grows).issues_eq_nil hi
    -- either way the property is settled in `t`, and nothing else has changed
    have settled : (Fields.Distinct t.members ∧ ∀ k x, get? t.members k = some x → Sound grows x) ∧
        Extends? grows (get? working name) (get? t.members name) ∧
        ∀ k ≠ name, get? t.members k = get? b.members k := by
      have hnone : get? b.members name = none := hnew name (List.mem_cons_self ..)
      rcases first with ⟨hl, rfl⟩ | ⟨_, found, outcome, hf, ho, rfl⟩
      · exact ⟨hb, hnone ▸ hmissing name hl, fun _ _ => rfl⟩
      · rw [h.readMember_str] at hf
        cases hf
        obtain ⟨value, rfl⟩ := resolved_of_take (h.honest _ _) ho ht
        have hk := h.descend (fun _ e => by cases e; exact hgood name schema (List.mem_cons_self ..))
          (hs name) ho
        cases value with
        | none =>
          refine ⟨hb, ?_, fun _ _ => rfl⟩
          change Extends? grows _ (get? b.members name)
          rw [hnone]
          exact hk.extends?
        | some x =>
          refine ⟨⟨hb.1.put, fun k y hy => ?_⟩, ?_, fun k hk => ?_⟩
          · rw [Built.take, Fields.get?_put] at hy
            split at hy
            · cases hy
              exact hk.sound (hs name) x rfl
            · exact hb.2 k y hy
          · rw [Built.take, Fields.get?_put, if_pos rfl]
            exact hk.extends?
          · rw [Built.take, Fields.get?_put, if_neg hk]
    obtain ⟨htm, hname, hother⟩ := settled
    obtain ⟨hd', hs', hin, hout⟩ := ih (fun n s hm => hgood n s (List.mem_cons_of_mem _ hm)) hrest htm
      (fun k hk => by
        rw [hother k fun e => hn (e ▸ hk)]
        exact hnew k (List.mem_cons_of_mem _ hk)) hi
    refine ⟨hd', hs', fun k hk => ?_, fun k hk => ?_⟩
    · rcases List.mem_cons.1 hk with rfl | hk
      · rw [hout _ hn]
        exact hname
      · exact hin k hk
    · rw [hout k fun hr => hk (List.mem_cons_of_mem _ hr)]
      exact hother k fun e => hk (e ▸ List.mem_cons_self ..)

/-- What is known of members while there are no issues. -/
def Holds (grows : Prop) (start : Fields) (b : Built) : Prop :=
  b.issues = [] → Preserved grows start b.members

/-- Taking up what came out for a member keeps the members if it extends the one that is there. -/
theorem Holds.take {start : Fields} {name : String} {b : Built} {run : Run Outcome} {outcome : Outcome}
    (hr : Honest run) (ho : run.result = .ok outcome)
    (hk : ∀ w, outcome = .resolved w → Preserved grows start b.members →
      Kept grows (get? b.members name) w)
    (hb : Holds grows start b) : Holds grows start (b.take name outcome) := by
  intro hi
  have hm := hb ((b.grows_take name outcome).issues_eq_nil hi)
  obtain ⟨value, rfl⟩ := resolved_of_take hr ho hi
  exact hm.take (hk value rfl hm)

/-- Laying over what came out for all members keeps them if it extends them. -/
theorem Holds.follow {start : Fields} {b : Built} {outcome : Outcome} (hd : Fields.Distinct start)
    (hs : grows ∨ (Json.obj none start).NullFree)
    (hk : ∀ w, outcome = .resolved w → Preserved grows start b.members →
      Kept grows (some (.obj none b.members)) w)
    (hb : Holds grows start b) : Holds grows start (b.follow outcome) := by
  intro hi
  have hm := hb ((b.grows_follow outcome).issues_eq_nil hi)
  unfold Built.follow
  split
  · exact hm
  · exact hm.union (hk _ rfl hm) (hm.sound_obj hd hs)
  · exact hm

/-- **A dependent schema keeps the members.** -/
theorem dependent (h : Ready grows A B step) {working start : Fields} {d : String × Json}
    {b b' : Built} (hd : Fields.Distinct start) (hs : grows ∨ (Json.obj none start).NullFree)
    (hgood : Good A d.2) (ht : step.TakesDependent working d b b')
    (hb : Holds grows start b) : Holds grows start b' := by
  rcases ht with ⟨_, rfl⟩ | ⟨x, outcome, _, ho, rfl⟩
  · exact hb
  · refine hb.follow hd hs ?_
    rintro w rfl hm
    refine h.keeps [] _ w ⟨fun _ e => by cases e; exact hgood, ?_, .inr fun e => by cases e⟩ ho
    exact fun y e => by cases e; exact hm.sound_obj hd hs

/-- A member resolved by a good schema keeps the members. -/
theorem member_taken (h : Ready grows A B step) {start : Fields} {name : String}
    {node : Reference.Node} {b : Built} {outcome : Outcome}
    (hgood : ∀ s, node = .node s → Good A s)
    (ho : (step.descend (.str name) node (get? b.members name)).result = .ok outcome)
    (hb : Holds grows start b) : Holds grows start (b.take name outcome) := by
  refine hb.take (h.honest _ _) ho ?_
  rintro w rfl hm
  exact h.descend hgood (hm.sound name) ho

/-- A pattern keeps the members. -/
theorem pattern (h : Ready grows A B step) {start : Fields} {name : String}
    {pattern : String × Json} {b b' : Built} (hgood : Good A pattern.2)
    (ht : step.TakesPattern name pattern b b') (hb : Holds grows start b) :
    Holds grows start b' := by
  rcases ht with ⟨_, rfl⟩ | ⟨_, outcome, ho, rfl⟩
  · exact hb
  · exact h.member_taken (fun _ e => by cases e; exact hgood) ho hb

/-- **A name among patterns keeps the members.** -/
theorem name (h : Ready grows A B step) {start properties : Fields} {name : String} {b b' : Built}
    (ht : step.TakesName properties name b b') (hb : Holds grows start b) :
    Holds grows start b' := by
  rcases ht with ⟨_, rfl⟩ | ⟨_, patterns, hp, hc⟩
  · exact hb
  · exact hc.keeps (fun pattern hm _ _ ht => h.pattern (h.table (by simp) hp hm) ht) hb

/-- **A name among additional members keeps the members.** -/
theorem uncovered (h : Ready grows A B step) {start working : Fields} {additional : Json}
    {name : String} {b b' : Built} (hgood : Good A additional)
    (ht : step.TakesAdditional working additional name b b') (hb : Holds grows start b) :
    Holds grows start b' := by
  rcases ht with ⟨_, rfl⟩ | ⟨_, uncovered, _, hu⟩
  · exact hb
  · cases uncovered with
    | false => exact hu ▸ hb
    | true =>
      cases hu with
      | forbidden | dead => exact fun hi => absurd hi (by simp [Built.report])
      | resolved _ hx ho =>
        exact h.member_taken (fun _ e => good_of_expand h.tame.referred hgood (e ▸ hx)) ho hb

/-- The additional members, if anything is said about them, keep the members. -/
theorem additional (h : Ready grows A B step) {start working : Fields} {b b' : Built}
    (ht : step.TakesAllAdditional working b b') (hb : Holds grows start b) :
    Holds grows start b' := by
  rcases ht with ⟨_, rfl⟩ | ⟨additional, ha, -, -, hc⟩
  · exact hb
  · exact hc.keeps (fun _ _ _ _ ht => h.uncovered (h.part ha (List.mem_singleton_self _)) ht) hb

section Passes

open Step (Passage otherMembers)

variable {tag : Tag} {value working properties : Fields} {required missing : List Json}
  {declared : Built}

/-- The members with defaults in place extend those of the value. -/
theorem keeps_working (h : Ready grows A B step) (hv : Sound grows (.obj tag value))
    (hw : step.withDefaults required value = .ok working) : Preserved grows value working := by
  exact h.withDefaults (.refl hv) hw

/-- **With the other members behind the declared properties, nothing is lost.** -/
theorem keeps_declared (h : Ready grows A B step) (hw : Preserved grows value working)
    (hm : step.absentNames working required = .ok missing)
    (hp : Probe.membersOf (step.tableOrEmpty "properties") = .ok properties)
    (hc : Chain (step.TakesProperty working missing) properties ⟨[], []⟩ declared)
    (hi : declared.issues = []) :
    Preserved grows value (Fields.union declared.members (otherMembers properties working)) := by
  have distinct_properties := distinct_of_table h.good.proper hp
  have nothing : Fields.Distinct [] ∧ ∀ k x, get? [] k = some x → Sound grows x :=
    ⟨List.nodup_nil, fun k x hk => by cases hk⟩
  obtain ⟨hdd, hds, hdin, hdout⟩ := h.properties
    (fun name s hm => h.table (by simp) hp hm) distinct_properties hw.sound
    (fun name hl => h.absent_of_listed hw.sound hm hl) nothing (fun _ _ => rfl) hc hi
  have combined : ∀ k, get? (Fields.union declared.members (otherMembers properties working)) k =
      if k ∈ Fields.names properties then get? declared.members k else get? working k :=
    fun k => Step.get?_union_otherMembers hw.distinct hdout
  refine ⟨hdd.union, fun k x hk => ?_, fun k => ?_⟩
  · rw [combined] at hk
    split at hk
    · exact hds k x hk
    · exact hw.sound k x hk
  · rw [combined]
    split
    · next hk => exact Json.extends?_trans (hw.extends? k) (hdin k hk)
    · exact hw.extends? k

/-- Every dependent schema keeps the members. -/
theorem keeps_dependents (h : Ready grows A B step) (hv : Sound grows (.obj tag value))
    {dependents : Fields}
    (hd : Probe.membersOf (step.tableOrEmpty "dependentSchemas") = .ok dependents) :
    ∀ d ∈ dependents, ∀ b b', step.TakesDependent working d b b' →
      Holds grows value b → Holds grows value b' := by
  have hplain : grows ∨ (Json.obj none value).NullFree :=
    hv.plain.imp_right fun hn => .intro Json.noConfusion fun y hy => hn.inner hy
  intro d hm b b' ht
  exact h.dependent hv.proper.distinct hplain (h.table (by simp) hd hm) ht

theorem passes_declared (h : Ready grows A B step) (hv : Sound grows (.obj tag value))
    (c : Passage step value) :
    Preserved grows value (Fields.union c.declared.members (otherMembers c.properties c.working)) :=
  h.keeps_declared (h.keeps_working hv c.working_eq) c.missing_eq c.properties_eq c.declares c.declared_issues

theorem passes_followed (h : Ready grows A B step) (hv : Sound grows (.obj tag value))
    (c : Passage step value) : Preserved grows value c.followed.members :=
  c.follows.keeps (h.keeps_dependents hv c.dependents_eq) (fun _ => h.passes_declared hv c) c.followed_issues

theorem passes_matched (h : Ready grows A B step) (hv : Sound grows (.obj tag value))
    (c : Passage step value) : Preserved grows value c.matched.members :=
  c.matches_.keeps (P := Holds grows value) (fun _ _ _ _ ht => h.name ht)
    (fun _ => h.passes_followed hv c) c.matched_issues

theorem passes_final (h : Ready grows A B step) (hv : Sound grows (.obj tag value))
    (c : Passage step value) : Preserved grows value c.final.members :=
  h.additional c.adds (fun _ => h.passes_matched hv c) c.final_issues

end Passes

/-- **An object keeps its members.** -/
theorem members (h : Ready grows A B step) {tag : Tag} {value : Fields}
    (hv : Sound grows (.obj tag value))
    (hr : (step.resolveMembers value).result = .ok (.resolved w)) :
    Kept grows (some (.obj tag value)) w := by
  obtain ⟨c, rfl⟩ := Step.exists_passage hr
  exact (h.passes_final hv c).kept hv.proper.distinct

/-! ## 5. Lists -/

/-- What holds of a schema and all below it holds of the schema of a position. -/
theorem wholly_of_itemSchema {P : Fields → Prop} {i : Nat} (h : Wholly P step.schema)
    (hs : Probe.itemSchema step.fields i = some s) : Wholly P s := by
  obtain ⟨k, x, hk, hp⟩ := Schema.exists_of_itemSchema hs
  exact h.part hk hp

/-- **A list keeps its items** if every schema of a position keeps the item. -/
theorem items_kept {tag : Tag} {items : List Json} (hsound : Sound grows (.arr tag items))
    (honest : ∀ extension request, Honest (step.again extension request))
    (hk : ∀ i s x w, Probe.itemSchema step.fields i = some s → Sound grows x →
      (step.descend (Step.indexKey i) (.node s) (some x)).result = .ok (.resolved w) →
      Kept grows (some x) w)
    (hv : step.value = some (.arr tag items))
    (hr : step.array.result = .ok (.resolved w)) : Kept grows (some (.arr tag items)) w := by
  obtain ⟨-, ys, hys, rfl⟩ := (Step.array_resolved_iff honest hv).1 hr
  have each : ∀ entry ∈ items.zipIdx, ∀ y, step.BecomesItem entry.2 entry.1 y →
      Extends grows entry.1 y ∧ y.Proper := by
    rintro ⟨item, i⟩ hm y hy
    have hitem := hsound.of_mem_items (List.fst_mem_of_mem_zipIdx hm)
    cases hy with
    | kept => exact ⟨Json.extends_refl hitem.proper, hitem.proper⟩
    | @resolved schema value hs _ _ ho =>
      have hk := hk i schema item value hs hitem ho
      cases value with
      | some y => exact ⟨Json.extends_of_extends? hk.extends?, hk.proper y rfl⟩
      | none =>
        obtain ⟨-, rfl⟩ := hk.extends?.resolve_right (by simp)
        exact ⟨.inr rfl, hitem.proper⟩
  have all : ∀ {entries : List (Json × Nat)} {ys : List Json},
      List.Forall₂ (fun entry => step.BecomesItem entry.2 entry.1) entries ys →
      (∀ entry ∈ entries, ∀ y, step.BecomesItem entry.2 entry.1 y →
        Extends grows entry.1 y ∧ y.Proper) →
      List.Forall₂ (Extends grows) (entries.map (·.1)) ys ∧ ∀ y ∈ ys, y.Proper := by
    intro entries ys hys each
    induction hys with
    | nil => exact ⟨.nil, fun _ h => nomatch h⟩
    | @cons entry y entries ys hy _ ih =>
      obtain ⟨hext, hproper⟩ := each entry (List.mem_cons_self ..) y hy
      obtain ⟨hrest, hall⟩ := ih fun e hm => each e (List.mem_cons_of_mem _ hm)
      refine ⟨.cons hext hrest, fun z hz => ?_⟩
      rcases List.mem_cons.1 hz with rfl | hz
      · exact hproper
      · exact hall z hz
  obtain ⟨hext, hproper⟩ := all hys each
  rw [List.zipIdx_map_fst] at hext
  refine ⟨(Json.extends_arr (hext)).some, fun y hy => ?_⟩
  cases hy
  exact Json.proper_arr (by simpa using hproper)

theorem items (h : Ready grows A B step) {tag : Tag} {items : List Json}
    (hv : step.value = some (.arr tag items))
    (hr : step.array.result = .ok (.resolved w)) : Kept grows step.value w := by
  rw [hv]
  refine items_kept (h.value _ hv) h.honest (fun i s x w hs hx ho => ?_) hv hr
  exact h.descend (fun _ e => by cases e; exact wholly_of_itemSchema h.good hs)
    (fun _ e => by cases e; exact hx) ho

/-! ## 6. Types -/

theorem missing (h : Ready grows A B step) {atRoot : Option Json} (hv : step.value = none)
    (hp : ∀ x, atRoot = some x → x.Proper)
    (hr : (step.missing atRoot).result = .ok (.resolved w)) : Kept grows step.value w := by
  simp only [Step.missing, Run.bind_result_eq_ok, Run.lift_result] at hr
  obtain ⟨required, -, hr⟩ := hr
  split at hr
  · exact absurd hr fail_result_ne
  · rw [hv]
    cases hroot : step.isRoot with
    | false =>
      rw [hroot] at hr
      cases hr
      exact ⟨.inr rfl, fun _ e => nomatch e⟩
    | true =>
      rw [hroot] at hr
      cases hr
      have hg : grows := h.inner.resolve_right fun hn => by
        have hobj := hn hv
        cases hparent : step.parent <;>
          simp [Step.isRoot, hparent, Json.isObject] at hroot hobj
      exact ⟨.inl hg, hp⟩

/-- An object built from nothing is kept only if something may grow. -/
theorem built (h : Ready grows A B step) (hv : step.value = none)
    (hr : (step.resolveMembers []).result = .ok (.resolved w))
    (hkeep : (step.isRoot || Step.Outcome.holdsMembers (.resolved w)) = true) :
    Kept grows step.value w := by
  have hk := h.members .empty hr
  rw [hv]
  refine ⟨?_, hk.proper⟩
  by_cases hg : grows
  · exact .inl hg
  · -- nothing is built out of nothing, and an empty object is not kept
    have hobj := h.inner.resolve_left hg hv
    obtain ⟨y, rfl, -, hy⟩ := Json.exists_of_extends? Json.noConfusion hk.extends?
    obtain ⟨tag, rfl⟩ := Json.eq_empty_of_extends hg hy
    cases hp : step.parent <;>
      simp [hp, Json.isObject, Step.isRoot, Step.Outcome.holdsMembers, Json.truthy] at hobj hkeep

/-- **A value of a kind is kept** if its items or members are. -/
theorem kept_of_kind {kind : Kind} (hv : step.value = some x) (hx : Sound grows x)
    (items : ∀ tag items, x = .arr tag items → step.array.result = .ok (.resolved w) →
      Kept grows (some x) w)
    (members : ∀ tag members, x = .obj tag members →
      (step.resolveMembers members).result = .ok (.resolved w) → Kept grows (some x) w)
    (hr : (step.ofKind kind).result = .ok (.resolved w)) : Kept grows (some x) w := by
  cases Step.comesOut hr with
  | null hv' | boolean hv' | missing hv' | built hv' | unbuilt hv' => cases hv.symm.trans hv'
  | scalar _ hv' =>
    cases hv.symm.trans hv'
    exact .refl fun y hy => by cases hy; exact hx
  | list hv' hr =>
    cases hv.symm.trans hv'
    exact items _ _ rfl hr
  | members hv' hr =>
    cases hv.symm.trans hv'
    exact members _ _ rfl hr

/-- A value of a kind is kept; a missing one is filled in by its kind only if something may grow. -/
theorem ofKind (h : Ready grows A B step) {kind : Kind}
    (hkind : step.value = none → grows ∨ kind ≠ .null ∧ kind ≠ .boolean)
    (hr : (step.ofKind kind).result = .ok (.resolved w)) : Kept grows step.value w := by
  have grown : ∀ {y : Json}, step.value = none → ¬(kind ≠ .null ∧ kind ≠ .boolean) → y.Proper →
      Kept grows step.value (some y) := by
    intro y hv hk hy
    rw [hv]
    refine ⟨.inl ((hkind hv).resolve_right hk), fun z hz => ?_⟩
    cases hz
    exact hy
  cases Step.comesOut hr with
  | null hv => exact grown hv (by simp) (Json.proper_atom trivial rfl)
  | boolean hv => exact grown hv (by simp) (Json.proper_atom trivial rfl)
  | missing hv ha hr =>
    refine h.missing hv (fun y hy => ?_) hr
    simp only [List.mem_cons, List.not_mem_nil, or_false] at ha
    rcases ha with rfl | rfl | rfl <;> cases hy
    · exact Json.proper_atom trivial rfl
    · exact Json.proper_atom trivial rfl
  | scalar _ hv =>
    rw [hv]
    exact .refl fun y hy => h.value y (hv.trans hy)
  | list hv hr => exact h.items hv hr
  | members hv hr => exact hv ▸ h.members (h.value _ hv) hr
  | built hv hr hk => exact h.built hv hr hk
  | unbuilt hv =>
    rw [hv]
    exact ⟨.inr rfl, by simp⟩

/-- The members of a schema reduced to one of its types are good. -/
theorem restrict (h : Ready grows A B step) {kind : Kind}
    (hl : Json.listsName (Schema.declaredTypes (.obj none step.fields)) kind.name = true) :
    OfMembers A (Schema.restrict step.fields (.str kind.name)) := by
  obtain ⟨type, hm, -⟩ := List.any_eq_true.1 hl
  obtain ⟨t, ht, he⟩ := Schema.exists_type_of_mem_declaredTypes hm
  intro k y hm
  rcases Schema.mem_restrict hm with hm | ⟨rfl, rfl⟩
  · exact h.good.here k y hm
  · exact h.tame.narrowed t _ (h.member ht) (he ▸ hl)

/-- A step is ready at what remains of its schema. -/
theorem narrowed (h : Ready grows A B step) {kind : Kind} {remaining : Fields}
    (hd : Schema.Decides step.fields x kind remaining) :
    Ready grows A B (step.narrowed remaining) :=
  ⟨h.tame, h.good.of_decides (fun _ hl => h.restrict hl) hd, h.value, h.inner, h.keeps, h.honest⟩

/-- **A value is kept by its type.** -/
theorem typed (h : Ready grows A B step) (hr : step.typed.result = .ok (.resolved w)) :
    Kept grows step.value w := by
  cases hv : step.value with
  | some x =>
    rw [← hv]
    rcases Step.decides_of_typed hv hr with hs | ⟨kind, remaining, hd⟩
    · rw [Step.typed_of_silent hv hs] at hr
      cases hr
      exact hv ▸ .refl h.value
    · rw [Step.typed_of_decides hv hd] at hr
      refine (h.narrowed hd).ofKind (fun hn => ?_) hr
      cases hv.symm.trans hn
  | none =>
    rw [← hv]
    unfold Step.typed at hr
    split at hr
    · split at hr
      · cases hr
        exact .refl h.value
      · next kind hk =>
        refine h.ofKind (fun _ => .inr ?_) hr
        rw [hv] at hk
        unfold Schema.inferKind at hk
        simp only at hk
        split at hk
        · cases hk
          exact ⟨nofun, nofun⟩
        · split at hk
          · cases hk
            exact ⟨nofun, nofun⟩
          · cases hk
    · next type hd =>
      unfold Step.ofType at hr
      split at hr
      · next s =>
        split at hr
        · next kind hk =>
          refine h.ofKind (fun _ => h.tame.steady.imp_right fun hn => ?_) hr
          obtain ⟨t, ht, hl⟩ :=
            Schema.exists_type_of_mem_declaredTypes (hd ▸ List.mem_singleton_self (Json.str s))
          rw [show Schema.declaredTypes (.obj step.tag step.fields) = _ from hd] at hl
          have hnamed := hn.2.2 t (h.member ht)
          have hs : kind.name = s := by simpa using List.find?_some hk
          constructor <;> rintro rfl <;> subst hs
          · simpa [← hl, Json.listsName, Kind.name] using hnamed "null" (by simp)
          · simpa [← hl, Json.listsName, Kind.name] using hnamed "boolean" (by simp)
        · exact absurd hr fail_result_ne
      · split at hr
        · cases hr
        · exact absurd hr fail_result_ne
    · unfold Step.ofTypes at hr
      rw [hv] at hr
      exact h.missing hv (fun _ e => by cases e) hr

/-! ## 7. Conditions and compositions -/

/-- A good schema with another one merged in is good. -/
theorem merged (h : Ready grows A B step) {conjunction : Bool} {a b m : Json} (ha : Good A a)
    (hb : Everywhere (OfMembers B) b) (hp : b.Proper)
    (hm : Schema.merge conjunction a b = .ok m) : Good A m :=
  ⟨h.tame.mergeable.everywhere_merge ha.everywhere hb hp hm,
    Schema.proper_merge ha.proper hp hm⟩

/-- What stands in a list of schemas is good, and can be merged in. -/
theorem entry (h : Ready grows A B step) {entries : List Json} (hk : k ∈ ["allOf", "oneOf"])
    (hx : get? step.fields k = some x) (he : Probe.entriesOf x = .ok entries) (hs : s ∈ entries) :
    Good A s ∧ Everywhere (OfMembers B) s := by
  rcases Schema.mem_entries he hs with ⟨tag, rfl⟩ | ⟨text, rfl⟩
  · have hp : s ∈ partsOf k (.arr tag entries) := by
      rcases List.mem_pair.1 hk with rfl | rfl <;> exact hs
    have hgood := h.part hx hp
    refine ⟨hgood, h.tame.parts k ?_ _ (h.member hx) s hp hgood.everywhere⟩
    rcases List.mem_pair.1 hk with rfl | rfl <;> simp
  · exact ⟨⟨.plain rfl, Json.proper_str _⟩, .plain rfl⟩

theorem conditional (h : Ready grows A B step) {condition : Json}
    (hr : (step.conditional condition).result = .ok (.resolved w)) : Kept grows step.value w := by
  have hbase := h.without ["if", "then", "else"]
  obtain ⟨met, -, ⟨-, hr⟩ | ⟨branch, effective, hb, hm, hr⟩⟩ := Step.conditional_resolved hr
  · exact h.redirect hbase hr
  · have hk : (if met then "then" else "else") ∈ ["then", "else"] := by cases met <;> simp
    generalize (if met then "then" else "else") = k at hk hb
    have hp : branch ∈ partsOf k branch := by
      rcases List.mem_pair.1 hk with rfl | rfl <;> exact List.mem_singleton_self _
    have hgood := h.part hb hp
    have hmergeable : Everywhere (OfMembers B) branch := by
      refine h.tame.parts k ?_ _ (h.member hb) branch hp hgood.everywhere
      rcases List.mem_pair.1 hk with rfl | rfl <;> simp
    exact h.redirect (h.merged hbase hmergeable hgood.proper hm) hr

theorem plainPart {P : Fields → Prop} {member : Json}
    (hP : ∀ fields, P fields → P (Fields.without fields Schema.compositeKeywords))
    (h : Everywhere P member) : Everywhere P (Step.plainPart member) := by
  cases member with
  | obj tag fields =>
    exact h.of_subset (hP _ h.here) fun k x hm => .inl (Fields.mem_of_mem_without hm)
  | _ => exact h

theorem kept_overlaid {a b : Option Json} (ha : ∀ x, a = some x → Sound grows x)
    (h : Kept grows a b) : Kept grows a (Step.overlaid a b) := by
  cases a with
  | none => cases b <;> exact h
  | some x =>
    cases b with
    | none => exact .refl ha
    | some y =>
      have hx := (ha x rfl).proper
      refine ⟨(Json.extends_overlay (Json.extends_of_extends? h.extends?) hx
        (h.proper y rfl)).some, fun z hz => ?_⟩
      cases hz
      exact Json.proper_overlay hx (h.proper y rfl)

/-- What is merged of a member of `allOf` can be merged in. -/
theorem mergedPart {member : Json} (hgood : Good A member)
    (hB : Everywhere (OfMembers B) member) :
    Everywhere (OfMembers B) (Step.mergedPart member) ∧ (Step.mergedPart member).Proper := by
  unfold Step.mergedPart
  split
  · refine ⟨plainPart (fun fields hf k x hm => hf k x (Fields.mem_of_mem_without hm)) hB, ?_⟩
    cases member with
    | obj tag fields =>
      exact Json.proper_obj hgood.proper.distinct.filter
        fun k x hm => hgood.proper.of_mem_fields (Fields.mem_of_mem_without hm)
    | _ => exact hgood.proper
  · exact ⟨hB, hgood.proper⟩

/-- What is known of the members of `allOf` so far: the value is kept, and what is merged is good. -/
structure Flat (grows : Prop) (A : String → Json → Prop) (step : Step) (flat : Step.Flattened) :
    Prop where
  kept : Kept grows step.value flat.working
  good : Good A flat.merged

/-- **A member of `allOf` keeps the value**, and what is merged of it is good. -/
theorem takesMember (h : Ready grows A B step) {member : Json} {flat flat' : Step.Flattened}
    (hgood : Good A member) (hB : Everywhere (OfMembers B) member)
    (ht : step.TakesMember member flat flat') (hf : Flat grows A step flat) :
    Flat grows A step flat' := by
  obtain ⟨resolved, merged, hr, hmerge, rfl⟩ := ht
  obtain ⟨hmerged, hproper⟩ := mergedPart hgood hB
  have hstep : Kept grows step.value resolved.working ∧ resolved.merged = flat.merged := by
    split at hr
    · simp only [Step.resolveMember, Run.bind_result_eq_ok] at hr
      obtain ⟨outcome, ho, hr⟩ := hr
      cases outcome with
      | failed issues =>
        cases hr
        exact ⟨hf.kept, rfl⟩
      | resolved value =>
        cases hr
        have hsound := hf.kept.sound h.value
        refine ⟨hf.kept.trans (kept_overlaid hsound ?_), rfl⟩
        exact h.keeps ["allOf"] _ value
          ⟨fun _ e => by cases e; exact hgood, hsound, h.inner_of_kept hf.kept⟩ ho
    · obtain rfl : resolved = flat := hr
      exact ⟨hf.kept, rfl⟩
  exact ⟨hstep.1, h.merged (hstep.2 ▸ hf.good) hmerged hproper hmerge⟩

/-- The schema without `allOf` is where its members start from. -/
theorem flat_start (h : Ready grows A B step) {plain : List Json} :
    Flat grows A step ⟨step.value, step.without ["allOf"], plain, []⟩ :=
  ⟨.refl h.value, h.without ["allOf"]⟩

theorem allOf (h : Ready grows A B step) {members : Json}
    (hx : get? step.fields "allOf" = some members)
    (hr : (step.allOf members).result = .ok (.resolved w)) : Kept grows step.value w := by
  obtain ⟨entries, flat, he, hc, -, hr, -⟩ := Step.allOf_resolved hr
  have hflat : Flat grows A step flat := by
    refine hc.keeps (fun member hm _ _ ht hf => ?_) h.flat_start
    obtain ⟨hgood, hB⟩ := h.entry (by simp) hx he hm
    exact h.takesMember hgood hB ht hf
  exact hflat.kept.trans (h.keeps [] _ w ⟨fun _ e => by cases e; exact hflat.good,
    hflat.kept.sound h.value, h.inner_of_kept hflat.kept⟩ hr)

theorem anyOf (h : Ready grows A B step) {branches : Json}
    (hx : get? step.fields "anyOf" = some branches)
    (hr : (step.anyOf branches).result = .ok (.resolved w)) : Kept grows step.value w := by
  rcases Step.anyOf_resolved hr with ⟨hr, -⟩ | ⟨d, hd, -⟩
  · exact h.redirect (h.without ["anyOf"]) hr
  · rcases h.tame.chosen with hn | hn
    · exact absurd (h.member hd) (hn d)
    · exact absurd (h.member hx) (hn.1 branches)

theorem oneOf (h : Ready grows A B step) {branches : Json}
    (hx : get? step.fields "oneOf" = some branches)
    (hr : (step.oneOf branches).result = .ok (.resolved w)) : Kept grows step.value w := by
  rcases Step.oneOf_resolved hr with ⟨-, hr⟩ |
    ⟨_, entries, branch, effective, -, he, hm, hmerge, hr⟩ | ⟨d, hd, -⟩
  · exact h.redirect (h.without ["oneOf"]) hr
  · obtain ⟨hgood, hB⟩ := h.entry (by simp) hx he hm.mem
    exact h.redirect (h.merged (h.without ["oneOf"]) hB hgood.proper hmerge) hr
  · rcases h.tame.chosen with hn | hn
    · exact absurd (h.member hd) (hn d)
    · exact absurd (h.member hx) (hn.2 branches)

theorem not (h : Ready grows A B step) {negated : Json}
    (hr : (step.not negated).result = .ok (.resolved w)) : Kept grows step.value w :=
  h.redirect (h.without ["not"]) (Step.not_resolved hr).1

/-! ## 8. Resolution -/

theorem dispatch (h : Ready grows A B step) (hr : step.dispatch.result = .ok (.resolved w)) :
    Kept grows step.value w := by
  unfold Step.dispatch at hr
  split at hr
  · exact h.conditional hr
  · next hx => exact h.allOf hx hr
  · next hx => exact h.anyOf hx hr
  · next hx => exact h.oneOf hx hr
  · exact h.not hr
  · exact h.typed hr

/-- **What is filled in only takes the place of what is absent.** -/
theorem filled (h : Ready grows A B step) : Kept grows step.value step.filled := by
  unfold Step.filled
  split
  · next ha =>
    have habs := extends?_none_of_absent h.value ha
    have fills : ∀ {k d}, k ∈ ["default", "const"] → get? step.fields k = some d →
        Kept grows step.value (some d) := by
      intro k d hk hd
      have hg : grows := by
        refine h.tame.steady.resolve_right fun hn => ?_
        rcases List.mem_pair.1 hk with rfl | rfl
        · exact hn.1 d (h.member hd)
        · exact hn.2.1 d (h.member hd)
      refine ⟨Json.extends?_trans habs (.inl hg), fun y hy => ?_⟩
      cases hy
      exact h.good.proper.of_get? hd
    split
    · next hd => exact fills (by simp) hd
    · next hc => exact fills (by simp) hc
    · exact ⟨habs, fun _ e => by cases e⟩
  · exact .refl h.value

/-- **A step keeps its value.** -/
theorem run (h : Ready grows A B step) (hr : step.run.result = .ok (.resolved w)) :
    Kept grows step.value w := by
  obtain ⟨-, hr⟩ := Step.run_resolved_iff.1 hr
  have hf := h.filled
  have ready : Ready grows A B { step with value := step.filled } :=
    ⟨h.tame, h.good, hf.sound h.value, h.inner_of_kept hf, h.keeps, h.honest⟩
  exact hf.trans (ready.dispatch hr)

end Ready

/-- **A resolution keeps the value of every admissible request.** -/
theorem keeps_resolve {setting : Probe.Setting} (ht : Tame grows setting A B) (guard : Guard)
    (request : Request) (w : Option Json) (hr : Admissible grows A request)
    (h : (resolve setting guard request).result = .ok (.resolved w)) :
    Kept grows request.value w := by
  obtain ⟨deep, h⟩ := resolve_resolved_iff.1 h
  cases h with
  | unasked => exact .refl hr.value
  | missing _ hv => exact hv ▸ .refl hr.value
  | @step tag fields _ hs h =>
    have keeps : Keeps grows A fun extension next => resolve setting (guard.enter extension) next :=
      fun extension next w hn h => keeps_resolve ht (guard.enter extension) next w hn h
    have ready : Ready grows A B (request.step setting guard tag fields) :=
      ⟨ht, hr.schema _ hs, hr.value, hr.inner, keeps, fun _ _ => honest_resolve _ _ _⟩
    exact ready.run h
termination_by guard.rank
decreasing_by exact Guard.rank_enter_lt ‹_› extension

end Conform.Resolve
