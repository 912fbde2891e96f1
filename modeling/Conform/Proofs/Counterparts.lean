/-
# The same keywords in both programs

The probe and the resolution read the same keywords of objects, each in its own way.  Where the
resolution takes an empty object for a table that is not truthy, the probe takes it only for a missing
one; the resolution reads members out of an object without a tag; it leaves out required names that no
property declares, and it never asks which members are additional if all are allowed.  What follows
says how far either can be read as the other.
-/
import Conform.Proofs.Assertive

namespace Conform

open Fields (get?)
open Json (Reordered)
open Schema (Sober Tolerated Unpinning)

namespace Resolve

namespace Step

variable {step : Step} {keyword name : String} {members table : Fields} {names missing : List Json}

/-! ## 1. Tables -/

/-- **A table is the same for both**, as long as it is an object if it is there at all. -/
theorem exists_table (h : (get? step.fields keyword).all Json.isObject = true) :
    ∃ tag tag' table, step.tableOrEmpty keyword = .obj tag table ∧
      Probe.memberTable step.fields keyword = .obj tag' table := by
  unfold tableOrEmpty Probe.memberTable
  cases hk : get? step.fields keyword with
  | none => exact ⟨none, none, [], rfl, rfl⟩
  | some x =>
    rw [hk] at h
    cases x with
    | obj tag table =>
      cases table with
      | nil => exact ⟨none, tag, [], rfl, rfl⟩
      | cons m rest => exact ⟨tag, tag, m :: rest, rfl, rfl⟩
    | _ => cases h

/-- Only an object has members to ask for. -/
theorem exists_of_membersOf {x : Json} (h : Probe.membersOf x = .ok table) :
    ∃ tag, x = .obj tag table := by
  cases x with
  | obj tag fields =>
    cases h
    exact ⟨tag, rfl⟩
  | _ => cases h

theorem membersOf_memberTable (h : (get? step.fields keyword).all Json.isObject = true) :
    Probe.membersOf (Probe.memberTable step.fields keyword) =
      Probe.membersOf (step.tableOrEmpty keyword) := by
  obtain ⟨tag, tag', table, ht, hm⟩ := exists_table h
  rw [ht, hm]
  rfl

/-- The schemas that depend on members, as the probe finds them. -/
theorem Passage.membersOf_dependents {members : Fields} (c : Passage step members) {x : Json}
    (h : (get? step.fields "dependentSchemas").all Json.isObject = true)
    (hx : get? step.fields "dependentSchemas" = some x) : Probe.membersOf x = .ok c.dependents := by
  have he := membersOf_memberTable h
  rw [c.dependents_eq, Probe.memberTable, hx] at he
  exact he

theorem propertySchema_memberTable (h : (get? step.fields keyword).all Json.isObject = true)
    (name : Json) : Probe.propertySchema (Probe.memberTable step.fields keyword) name =
      Probe.propertySchema (step.tableOrEmpty keyword) name := by
  obtain ⟨tag, tag', table, ht, hm⟩ := exists_table h
  rw [ht, hm]
  cases name <;> rfl

/-! ## 2. Reading members -/

/-- The tag of an object makes no difference to what is read out of it. -/
theorem read_obj (ha : step.setting.options.accessor = .direct) (tag : Tag) (name : Json) :
    step.setting.options.accessor.read (.obj tag members) name = step.readMember members name := by
  rw [readMember, ha]
  cases name <;> rfl

theorem read_str (ha : step.setting.options.accessor = .direct) (tag : Tag) (name : String) :
    step.setting.options.accessor.read (.obj tag members) (.str name) = .ok (get? members name) := by
  rw [ha]
  rfl

/-- Properties that others require are looked up in the same way. -/
theorem dependentIssues_obj (ha : step.setting.options.accessor = .direct) (tag : Tag)
    (hv : step.skips = false) : step.dependentIssues members =
      Probe.dependentIssues step.setting.options.accessor (.obj tag members) step.fields
        step.path := by
  simp only [dependentIssues, hv, Bool.false_eq_true, if_false, Probe.dependentIssues,
    read_obj ha]

/-! ## 3. Required names -/

/-- The name is there: it can be read, and what is read does not count as missing. -/
def HasRequired (step : Step) (members : Fields) (name : Json) : Prop :=
  ∃ found schema, step.readMember members name = .ok found ∧
    Probe.propertySchema (step.tableOrEmpty "properties") name = .ok schema ∧
    Schema.isAbsent found schema = false

/-- No name is absent if every name is there. -/
theorem absentNames_eq_nil_iff :
    step.absentNames members names = .ok [] ↔ ∀ name ∈ names, step.HasRequired members name := by
  induction names with
  | nil => simp [absentNames]
  | cons name rest ih =>
    rw [List.forall_mem_cons, ← ih]
    simp only [absentNames, bind_eq_ok, Except.ok.injEq]
    constructor
    · rintro ⟨found, hf, schema, hs, others, ho, h⟩
      split at h
      · cases h
      · next ha => exact ⟨⟨found, schema, hf, hs, Bool.eq_false_iff.2 ha⟩, h ▸ ho⟩
    · rintro ⟨⟨found, schema, hf, hs, ha⟩, ho⟩
      exact ⟨found, hf, schema, hs, [], ho, by simp [ha]⟩

/-- Nothing is put in if every name is there. -/
theorem withDefaults_of_there (h : ∀ name ∈ names, step.HasRequired members name) :
    step.withDefaults names members = .ok members := by
  induction names with
  | nil => rfl
  | cons name rest ih =>
    obtain ⟨found, schema, hf, hs, ha⟩ := h name (List.mem_cons_self ..)
    have hrest := ih fun n hn => h n (List.mem_cons_of_mem _ hn)
    rw [withDefaults, hs, ok_bind]
    split
    · split
      · rw [hf, ok_bind, ha]
        exact hrest
      · exact hrest
    · exact hrest

/-- **No required name is missing for the probe** if every name that is listed is there. -/
theorem requiredIssues_iff (ha : step.setting.options.accessor = .direct) {tag : Tag}
    (hp : (get? step.fields "properties").all Json.isObject = true) :
    Probe.requiredIssues step.setting.options.accessor (.obj tag members) step.fields step.path =
        .ok [] ↔
      ∃ names, Probe.entriesOf ((get? step.fields "required").getD (.arr none [])) = .ok names ∧
        ∀ name ∈ Json.distinct names, step.HasRequired members name := by
  simp only [Probe.requiredIssues, bind_eq_ok, Probe.gather_eq_nil_iff, read_obj ha,
    propertySchema_memberTable hp]
  refine exists_congr fun names => and_congr_right fun _ => forall_congr' fun name =>
    forall_congr' fun _ => exists_congr fun found => ?_
  constructor
  · rintro ⟨hf, schema, hs, h⟩
    refine ⟨schema, hf, hs, Bool.eq_false_iff.2 fun ha => ?_⟩
    simp [ha] at h
  · rintro ⟨schema, hf, hs, ha⟩
    exact ⟨hf, schema, hs, by simp [ha]⟩

/-- Names that are members are all kept. -/
theorem memberNames_eq {properties : Fields}
    (h : ∀ name ∈ names, ∃ s, name = .str s ∧ Fields.has properties s = true) :
    memberNames properties names = .ok names := by
  induction names with
  | nil => rfl
  | cons name rest ih =>
    obtain ⟨s, rfl, hs⟩ := h name (List.mem_cons_self ..)
    rw [memberNames, ih fun n hn => h n (List.mem_cons_of_mem _ hn)]
    simp [isMemberName, hs, ok_bind]

/-- What is kept of names is listed among them. -/
theorem mem_of_mem_memberNames {properties : Fields} {kept : List Json} {name : Json}
    (h : memberNames properties names = .ok kept) (hm : name ∈ kept) : name ∈ names := by
  induction names generalizing kept with
  | nil =>
    cases h
    cases hm
  | cons n rest ih =>
    simp only [memberNames, bind_eq_ok, Except.ok.injEq] at h
    obtain ⟨named, -, others, ho, rfl⟩ := h
    split at hm
    · rcases List.mem_cons.1 hm with rfl | hm
      · exact List.mem_cons_self ..
      · exact List.mem_cons_of_mem _ (ih ho hm)
    · exact List.mem_cons_of_mem _ (ih ho hm)

/-- The names that are required are listed. -/
theorem requiredNames_cases {fields : Fields} {required : List Json}
    (h : requiredNames false fields = .ok required) :
    ∃ names, Probe.entriesOf ((get? fields "required").getD (.arr none [])) = .ok names ∧
      ((∃ tag properties, get? fields "properties" = some (.obj tag properties) ∧
          memberNames properties (Json.distinct names) = .ok required) ∨
        required = Json.distinct names) := by
  simp only [requiredNames, Bool.false_eq_true, if_false, bind_eq_ok] at h
  obtain ⟨names, hn, h⟩ := h
  refine ⟨names, hn, ?_⟩
  split at h
  · next hp => exact .inl ⟨_, _, hp, h⟩
  · exact .inr (Except.ok.inj h).symm

/-- **Where all required names are declared, none is left out.** -/
theorem requiredNames_eq_distinct {fields : Fields} {required : List Json}
    (hd : Schema.declaresRequired fields = true) (h : requiredNames false fields = .ok required) :
    ∃ names, Probe.entriesOf ((get? fields "required").getD (.arr none [])) = .ok names ∧
      required = Json.distinct names := by
  obtain ⟨names, hn, hnames⟩ := requiredNames_cases h
  refine ⟨names, hn, ?_⟩
  rcases hnames with ⟨ptag, properties, hp, hkept⟩ | he
  · have declared : ∀ name ∈ Json.distinct names,
        ∃ s, name = .str s ∧ Fields.has properties s = true := by
      intro name hm
      unfold Schema.declaresRequired at hd
      rw [hp] at hd
      cases hr : get? fields "required" with
      | none =>
        rw [hr] at hn
        cases hn
        cases hm
      | some listed =>
        rw [hr] at hd hn
        have he : listed.entries? = some names := by
          simp only [Option.getD_some, Probe.entriesOf] at hn
          split at hn
          · next he =>
            cases hn
            exact he
          · cases hn
        simp only [he, Option.getD_some, List.all_eq_true] at hd
        have hname := hd name (Schema.mem_of_mem_distinct hm)
        cases name with
        | str s => exact ⟨s, rfl, hname⟩
        | _ => cases hname
    rw [memberNames_eq declared] at hkept
    exact (Except.ok.inj hkept).symm
  · exact he

/-! ## 4. Names that nothing covers -/

/-- A name that is declared is not additional. -/
theorem isAdditional_of_declared {properties : Fields}
    (hp : Probe.membersOf (step.tableOrEmpty "properties") = .ok properties)
    (hk : name ∈ Fields.names properties) :
    Probe.isAdditional step.setting.options.engine name step.fields = .ok false := by
  obtain ⟨s, hs⟩ := Fields.exists_get?_of_mem_names hk
  obtain ⟨tag, ht⟩ := Ready.mem_tableOrEmpty hp (Json.mem_of_get? hs)
  simp [Probe.isAdditional, Probe.memberTable, ht, Probe.isNamedIn, Fields.has_iff.2 hk, ok_bind]

/-- Whether a member is additional can be told if its name can be held against every pattern. -/
theorem isAdditional_eq_ok (hp : (get? step.fields "properties").all Json.isObject = true)
    (hq : (get? step.fields "patternProperties").all Json.isObject = true)
    (h : Fields.has (Schema.fieldsOf (Probe.memberTable step.fields "properties")) name = false →
      ∀ pattern ∈ Schema.fieldsOf (Probe.memberTable step.fields "patternProperties"),
        ∃ fits, step.setting.options.engine.search (.str pattern.1) (.str name) = .ok fits) :
    ∃ uncovered, Probe.isAdditional step.setting.options.engine name step.fields = .ok uncovered := by
  obtain ⟨-, tag, properties, -, ht⟩ := exists_table hp
  obtain ⟨-, tag', patterns, -, ht'⟩ := exists_table hq
  rw [ht, ht'] at h
  have searched : ∀ patterns : Fields,
      (∀ pattern ∈ patterns,
        ∃ fits, step.setting.options.engine.search (.str pattern.1) (.str name) = .ok fits) →
      ∃ matched, Probe.exists? (patterns.map fun field => Json.str field.1)
        (fun pattern _ => step.setting.options.engine.search pattern (.str name)) = .ok matched := by
    intro patterns h
    induction patterns with
    | nil => exact ⟨false, rfl⟩
    | cons pattern rest ih =>
      obtain ⟨fits, hf⟩ := h pattern (List.mem_cons_self ..)
      rw [List.map_cons, Probe.exists?, hf, ok_bind]
      cases fits with
      | true => exact ⟨true, rfl⟩
      | false => exact ih fun p hm => h p (List.mem_cons_of_mem _ hm)
  rw [Probe.isAdditional, ht, ht']
  simp only [Probe.isNamedIn, ok_bind]
  cases hd : Fields.has properties name with
  | true => exact ⟨false, rfl⟩
  | false =>
    obtain ⟨matched, hm⟩ := searched patterns (h hd)
    refine ⟨!matched, ?_⟩
    simp only [Bool.false_eq_true, if_false, Probe.entriesOf, Json.entries?, ok_bind, hm]

/-- The name of a member that nothing covers fits no pattern. -/
theorem search_of_isAdditional (hq : (get? step.fields "patternProperties").all Json.isObject = true)
    (h : Probe.isAdditional step.setting.options.engine name step.fields = .ok true)
    {pattern : String × Json}
    (hm : pattern ∈ Schema.fieldsOf (Probe.memberTable step.fields "patternProperties")) :
    step.setting.options.engine.search (.str pattern.1) (.str name) = .ok false := by
  obtain ⟨-, tag, patterns, -, ht⟩ := exists_table hq
  rw [ht] at hm
  simp only [Probe.isAdditional, ht, bind_eq_ok] at h
  obtain ⟨declared, -, h⟩ := h
  split at h
  · cases h
  · simp only [Probe.entriesOf, Json.entries?, bind_eq_ok, Except.ok.injEq, Bool.not_eq_true'] at h
    obtain ⟨names, rfl, matched, hf, rfl⟩ := h
    exact Probe.exists?_eq_false_iff.1 hf _ (List.mem_map.2 ⟨pattern, hm, rfl⟩)

/-! ## 5. Values and references -/

/-- Nothing takes the place of a value that is there and not null. -/
theorem filled_eq {x : Json} (hv : step.value = some x) (hx : x ≠ .null) :
    step.filled = some x := by
  have hpresent : Schema.isAbsent step.value step.schema = false := by
    rw [hv]
    cases x with
    | null => exact absurd rfl hx
    | _ => rfl
  rw [filled, hpresent, hv]
  rfl

/-- A value that is validated is compared as the probe compares it. -/
theorem pinIssues_eq {x : Json} (hv : step.value = some x) (hs : step.skips = false) :
    step.pinIssues = Probe.pinIssues x step.fields step.path := by
  rw [pinIssues, hv]
  simp only [hs, Bool.false_eq_true, if_false]

/-- A schema without a reference stands for itself. -/
theorem expand_eq {source : Reference.Source} {root s : Json} (hn : s ≠ .null)
    (hr : get? (Schema.fieldsOf s) "$ref" = none) :
    Reference.expand source root s = .ok (some (.node s)) := by
  cases s with
  | obj tag fields =>
    replace hr : get? fields "$ref" = none := hr
    simp only [Reference.expand, hr]
  | null => exact absurd rfl hn
  | _ => rfl

end Step

/-! ## 6. Steps that validate -/

/-- **A step that validates a value** and adds nothing to it, at a schema where all is tolerated. -/
structure Validating (step : Step) (x : Json) : Prop where
  ready : Ready False Tolerated Unpinning step
  value : step.value = some x
  validates : step.skips = false
  plain : step.negated = false

namespace Validating

variable {step : Step} {x y : Json} {tag : Tag} {value members : Fields} {name : String}

theorem accessor (h : Validating step x) : step.setting.options.accessor = .direct :=
  h.ready.tame.accessor

theorem sound (h : Validating step x) : Sound False x := h.ready.value x h.value

theorem proper (h : Validating step x) : x.Proper := h.sound.proper

theorem nullFree (h : Validating step x) : x.NullFree := h.sound.plain.resolve_left id

/-- There is nothing to fill in. -/
theorem working_eq (h : Validating step x) {names : List Json} {working : Fields}
    (hw : step.withDefaults names members = .ok working) : working = members :=
  h.ready.withDefaults_eq hw

/-- What extends the members without adding to any is the object in another order. -/
theorem reordered_obj (h : Validating step (.obj tag value)) (hp : Preserved False value members) :
    Reordered (.obj tag value) (.obj none members) := hp.reordered h.proper

/-- A member of the value has its counterpart among such members. -/
theorem exists_member (h : Validating step (.obj tag value)) (hp : Preserved False value members)
    (hm : (name, y) ∈ value) :
    ∃ z, get? members name = some z ∧ Reordered y z ∧ Sound False z := by
  obtain ⟨z, hz, hyz⟩ := (h.reordered_obj hp).members.exists_mem hm
  have hk := Fields.get?_of_mem hp.distinct hz
  exact ⟨z, hk, hyz, hp.sound name z hk⟩

theorem mem_names_iff (h : Validating step (.obj tag value)) (hp : Preserved False value members) :
    name ∈ Fields.names value ↔ name ∈ Fields.names members :=
  (h.reordered_obj hp).members.mem_names_iff

/-- Such members make an object that can be taken along. -/
theorem sound_members (h : Validating step (.obj tag value)) (hp : Preserved False value members) :
    Sound False (.obj none members) :=
  hp.sound_obj h.proper.distinct (.inr (.intro Json.noConfusion fun _ hy => h.nullFree.inner hy))

end Validating

end Resolve

end Conform
