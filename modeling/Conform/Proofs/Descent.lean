/-
# What the probe asks for, and why it ends

References may lead back to where they came from, and what a reference stands for may be larger than the
schema it is found in.  The probe ends all the same.  The argument has three parts.

* **What is asked for.**  `asked` lists the further probes that the probe of a value against a schema may
  ask for.  One step of the probe depends on their answers and on no others (`step_of_answers`); there is one
  lemma for each function that a step goes through.
* **Descent.**  Everything asked for is about something smaller than the value, or about the value and a
  schema smaller than the one at hand (`descends_of_mem_asked`).  What a reference stands for is used for
  members of the value only (`part_or_expansion`), so it does not matter how large it is.
* **The end.**  A step asks for finitely many probes.  So for each value and schema there is a depth such
  that the recursion, written without a thought of its end and cut off at that depth, is the probe,
  whatever stands in for what has been cut off (`exists_depth`).

Conditions ask for probes in the same way, of something smaller than the value or against what is no
larger than the condition.
-/
import Conform.Proofs.Valid
import Conform.Session

namespace Conform.Probe

open Fields (get?)
open Schema (fieldsOf)

/-! ## 1. What is asked for -/

/-- An answer to every probe. -/
abbrev Answers := (value schema : Json) → Path → Check (List Issue)

/-- **One step of the probe**, where what it asks for is answered in some way. -/
def step (setting : Setting) (answers : Answers) : Answers := fun value schema path =>
  schemaIssues setting value schema path (fun x _ s place => answers x s place)
    fun s _ place => answers value s place

/-- The probe is what one step makes of it. -/
theorem issues_eq_step (setting : Setting) : issues setting = step setting (issues setting) := by
  funext value schema path
  exact issues_eq setting value schema path

/-- One answer to whether a condition is met, where what is asked for is answered in some way. -/
def conditionStep (setting : Setting) (answers : Answers) (value condition : Json) (path : Path) :
    Check Bool :=
  conditionHolds setting.options.accessor value condition path (fun x _ s place => answers x s place)
    fun s _ place => answers value s place

/-- The schemas that are listed by name under a keyword. -/
def listed (fields : Fields) (keyword : String) : Fields := fieldsOf (memberTable fields keyword)

/-- What is read out of an object by the names of a table, with the schemas that stand under them. -/
def readings (accessor : Accessor) (value : Json) (table : Fields) : List (Json × Json) :=
  table.filterMap fun (name, schema) =>
    match value, accessor.read value (.str name) with
    | .obj _ _, .ok (some x) => some (x, schema)
    | _, _ => none

/-- What the schema for further members stands for: nothing or one schema. -/
def expansions (setting : Setting) (fields : Fields) : List Json :=
  match get? fields "additionalProperties" with
  | none => []
  | some additional =>
    match Reference.expand setting.options.source setting.root additional with
    | .ok (some (.node s)) => [s]
    | _ => []

/-- What is asked about something inside an object. -/
def askedInObject (setting : Setting) (tag : Tag) (members fields : Fields) : List (Json × Json) :=
  readings setting.options.accessor (.obj tag members) (listed fields "properties") ++
  members.flatMap (fun m => (listed fields "patternProperties").map fun p => (m.2, p.2)) ++
  members.flatMap (fun m => (expansions setting fields).map fun s => (m.2, s)) ++
  (nameValues members).flatMap (fun name =>
    (get? fields "propertyNames").toList.map fun s => (name, s))

/-- What is asked about the items of a list. -/
def askedInArray (items : List Json) (fields : Fields) : List (Json × Json) :=
  items.flatMap (fun x => (get? fields "contains").toList.map fun s => (x, s)) ++
  items.zipIdx.flatMap (fun (x, i) => (itemSchema fields i).toList.map fun s => (x, s))

/-- What a condition asks about something inside a value. -/
def askedInCondition (accessor : Accessor) (value condition : Json) : List (Json × Json) :=
  readings accessor value (listed (fieldsOf condition) "properties")

/-- What a condition asks about the value itself: all of it, or what it says beside properties. -/
def conditionParts : Json → List Json
  | .obj tag fields => [.obj tag fields, .obj none (Fields.erase fields "properties")]
  | condition => [condition]

/-- What is asked about something inside the value. -/
def askedInside (setting : Setting) (value : Json) (fields : Fields) : List (Json × Json) :=
  (match value with
    | .obj tag members => askedInObject setting tag members fields
    | .arr _ items => askedInArray items fields
    | _ => []) ++
  (get? fields "if").toList.flatMap (askedInCondition setting.options.accessor value)

/-- The schemas about which the value itself is asked. -/
def askedAgain (fields : Fields) : List Json :=
  (listed fields "dependentSchemas").map Prod.snd ++
  (get? fields "if").toList.flatMap conditionParts ++
  ["then", "else", "not"].flatMap (fun k => (get? fields k).toList) ++
  ["allOf", "anyOf", "oneOf"].flatMap (fun k => ((get? fields k).bind Json.entries?).getD [])

/-- **The further probes that a probe may ask for**, each of a value against a schema. -/
def asked (setting : Setting) (value : Json) : Json → List (Json × Json)
  | .obj _ fields =>
    askedInside setting value fields ++ (askedAgain fields).map fun s => (value, s)
  | _ => []

/-- The probes that a condition may ask for. -/
def askedByCondition (setting : Setting) (value condition : Json) : List (Json × Json) :=
  askedInCondition setting.options.accessor value condition ++
    (conditionParts condition).map fun s => (value, s)

/-! ## 2. Descent -/

variable {setting : Setting} {value : Json} {tag : Tag} {fields members : Fields} {path : Path}

/-- **A probe is below another**: its value is smaller, or its value is no larger and its schema is
smaller. -/
def Descends (next here : Json × Json) : Prop :=
  next.1.size < here.1.size ∨ next.1.size ≤ here.1.size ∧ next.2.size < here.2.size

theorem wellFounded_descends : WellFounded Descends := by
  refine Subrelation.wf ?_ (InvImage.wf (fun c : Json × Json => (c.1.size, c.2.size))
    (Prod.lex Nat.lt_wfRel Nat.lt_wfRel).wf)
  rintro ⟨x, s⟩ ⟨y, t⟩ (smaller | ⟨no_larger, smaller⟩)
  · exact .left _ _ smaller
  · rcases Nat.lt_or_ge x.size y.size with h | h
    · exact .left _ _ h
    · have same : x.size = y.size := by
        dsimp only at no_larger
        omega
      show Prod.Lex _ _ (x.size, s.size) (y.size, t.size)
      rw [same]
      exact .right _ smaller

theorem size_lt_of_mem_fieldsOf {x s : Json} {k : String} (h : (k, s) ∈ fieldsOf x) :
    s.size < x.size := by
  cases x with
  | obj tag fields => exact Json.size_lt_of_mem_fields tag h
  | _ => cases h

theorem size_lt_of_mem_listed {k name : String} {s : Json} (h : (name, s) ∈ listed fields k) :
    s.size < Json.sizeFields fields := by
  unfold listed memberTable at h
  cases hk : get? fields k with
  | none =>
    rw [hk] at h
    cases h
  | some x =>
    rw [hk] at h
    exact Nat.lt_trans (size_lt_of_mem_fieldsOf h) (Json.size_lt_sizeFields_of_get? hk)

theorem mem_readings {accessor : Accessor} {table : Fields} {x s : Json} :
    (x, s) ∈ readings accessor value table ↔ ∃ name tag members, (name, s) ∈ table ∧
      value = .obj tag members ∧ accessor.read value (.str name) = .ok (some x) := by
  simp only [readings, List.mem_filterMap, Prod.exists]
  constructor
  · rintro ⟨name, schema, hm, h⟩
    split at h
    · next tag members y hr =>
      cases h
      exact ⟨name, tag, members, hm, rfl, hr⟩
    · cases h
  · rintro ⟨name, tag, members, hm, rfl, hr⟩
    exact ⟨name, s, hm, by rw [hr]⟩

/-- What is read by the names of a table is inside the value, and its schema is inside the table. -/
theorem size_lt_of_mem_readings {accessor : Accessor} {table : Fields} {x s : Json} {n : Nat}
    (table_lt : ∀ name s, (name, s) ∈ table → s.size < n) (h : (x, s) ∈ readings accessor value table) :
    x.size < value.size ∧ s.size < n := by
  obtain ⟨name, tag, members, hm, rfl, hr⟩ := mem_readings.1 h
  exact ⟨Accessor.size_lt_of_read hr, table_lt name s hm⟩

theorem size_of_mem_conditionParts {condition s : Json} (h : s ∈ conditionParts condition) :
    s.size ≤ condition.size := by
  cases condition with
  | obj tag fields =>
    have erased := Json.sizeFields_filter_le (fun f => f.1 != "properties") fields
    simp only [conditionParts, List.mem_cons, List.not_mem_nil, or_false] at h
    rcases h with rfl | rfl
    · exact Nat.le_refl _
    · simp only [Json.size]
      exact Nat.add_le_add_left erased 2
  | _ =>
    obtain rfl := List.mem_singleton.1 h
    exact Nat.le_refl _

/-- **What an object is asked about is a member or a name**, against a part of the schema or, if it is a
member, against what the schema for further members stands for. -/
theorem askedInObject_spec {x s : Json} (h : (x, s) ∈ askedInObject setting tag members fields) :
    x.size < (Json.obj tag members).size ∧
      (s.size < Json.sizeFields fields ∨ s ∈ expansions setting fields ∧ ∃ name, (name, x) ∈ members) := by
  simp only [askedInObject, List.mem_append, List.mem_flatMap, List.mem_map, Prod.mk.injEq,
    Option.mem_toList] at h
  rcases h with ((h | ⟨m, hm, p, hp, rfl, rfl⟩) | ⟨m, hm, s, hs, rfl, rfl⟩) | ⟨name, hn, s, hs, rfl, rfl⟩
  · obtain ⟨hx, hs⟩ := size_lt_of_mem_readings (fun _ _ => size_lt_of_mem_listed) h
    exact ⟨hx, .inl hs⟩
  · exact ⟨Json.size_lt_of_mem_fields tag hm, .inl (size_lt_of_mem_listed hp)⟩
  · exact ⟨Json.size_lt_of_mem_fields tag hm, .inr ⟨hs, m.1, hm⟩⟩
  · exact ⟨size_lt_of_mem_nameValues tag hn, .inl (Json.size_lt_sizeFields_of_get? hs)⟩

/-- The schema of a position is a part of the schema. -/
theorem size_lt_of_itemSchema {i : Nat} {s : Json} (h : itemSchema fields i = some s) :
    s.size < Json.sizeFields fields := by
  have of_list : ∀ {k : String} {tag : Tag} {schemas : List Json} {j : Nat},
      get? fields k = some (.arr tag schemas) → schemas[j]? = some s →
      s.size < Json.sizeFields fields := by
    intro k tag schemas j hk hj
    have inside := Json.size_lt_of_mem_items tag (List.mem_of_getElem? hj)
    have whole := Json.size_lt_sizeFields_of_get? hk
    omega
  have of_tuple : ∀ {tag : Tag} {schemas : List Json} {j : Nat},
      get? fields "items" = some (.arr tag schemas) →
      tupleSchema fields schemas j = some s → s.size < Json.sizeFields fields := by
    intro tag schemas j hk ht
    unfold tupleSchema at ht
    split at ht
    · exact of_list hk ht
    · exact Json.size_lt_sizeFields_of_get? ht
  unfold itemSchema at h
  split at h
  · next hp =>
    dsimp only at h
    split at h
    · exact of_list hp h
    · split at h
      · next hi => exact of_tuple hi h
      · exact Json.size_lt_sizeFields_of_get? h
  · dsimp only at h
    split at h
    · next hi => exact of_tuple hi h
    · exact Json.size_lt_sizeFields_of_get? h

/-- What a list is asked about is an item, against a part of the schema. -/
theorem askedInArray_spec {items : List Json} {x s : Json} (h : (x, s) ∈ askedInArray items fields) :
    x.size < (Json.arr tag items).size ∧ s.size < Json.sizeFields fields := by
  simp only [askedInArray, List.mem_append, List.mem_flatMap, List.mem_map, Prod.mk.injEq,
    Option.mem_toList] at h
  rcases h with ⟨x, hx, s, hs, rfl, rfl⟩ | ⟨entry, he, s, hs, rfl, rfl⟩
  · exact ⟨Json.size_lt_of_mem_items tag hx, Json.size_lt_sizeFields_of_get? hs⟩
  · exact ⟨Json.size_lt_of_mem_items tag (List.fst_mem_of_mem_zipIdx he), size_lt_of_itemSchema hs⟩

theorem askedInCondition_spec {accessor : Accessor} {condition x s : Json}
    (h : (x, s) ∈ askedInCondition accessor value condition) :
    x.size < value.size ∧ s.size < condition.size := by
  refine size_lt_of_mem_readings (fun name s hm => ?_) h
  cases condition with
  | obj tag fields =>
    have inside : s.size < Json.sizeFields fields := size_lt_of_mem_listed hm
    simp only [Json.size]
    omega
  | _ => cases hm

/-- **What is asked about something inside the value**: that is smaller, and the schema is a part of the
schema at hand unless it is what the schema for further members stands for. -/
theorem askedInside_spec {x s : Json} (h : (x, s) ∈ askedInside setting value fields) :
    x.size < value.size ∧ (s.size < Json.sizeFields fields ∨ s ∈ expansions setting fields ∧
      ∃ tag members name, value = .obj tag members ∧ (name, x) ∈ members) := by
  rcases List.mem_append.1 h with h | h
  · cases value with
    | obj tag members =>
      obtain ⟨hx, hs | ⟨hs, name, hm⟩⟩ := askedInObject_spec h
      · exact ⟨hx, .inl hs⟩
      · exact ⟨hx, .inr ⟨hs, tag, members, name, rfl, hm⟩⟩
    | arr tag items =>
      obtain ⟨hx, hs⟩ := askedInArray_spec h
      exact ⟨hx, .inl hs⟩
    | _ => cases h
  · obtain ⟨condition, hc, h⟩ := List.mem_flatMap.1 h
    obtain ⟨hx, hs⟩ := askedInCondition_spec h
    have whole := Json.size_lt_sizeFields_of_get? (Option.mem_toList.1 hc)
    exact ⟨hx, .inl (Nat.lt_trans hs whole)⟩

/-- **What is asked about the value itself** is about a part of the schema. -/
theorem size_lt_of_mem_askedAgain {s : Json} (h : s ∈ askedAgain fields) :
    s.size < Json.sizeFields fields := by
  simp only [askedAgain, List.mem_append, List.mem_map, List.mem_flatMap, Option.mem_toList] at h
  rcases h with ((⟨⟨name, s⟩, hm, rfl⟩ | ⟨condition, hc, hs⟩) | ⟨k, -, hs⟩) | ⟨k, -, hs⟩
  · exact size_lt_of_mem_listed hm
  · exact Nat.lt_of_le_of_lt (size_of_mem_conditionParts hs) (Json.size_lt_sizeFields_of_get? hc)
  · exact Json.size_lt_sizeFields_of_get? hs
  · cases hk : get? fields k with
    | none => simp [hk] at hs
    | some x =>
      cases hx : x.entries? with
      | none => simp [hk, hx] at hs
      | some xs =>
        rw [hk, Option.bind_some, hx] at hs
        exact Nat.lt_of_le_of_lt (Json.size_le_of_mem_entries hx hs)
          (Json.size_lt_sizeFields_of_get? hk)

/-- **Whatever is asked for is below the probe that asks for it.** -/
theorem descends_of_mem_asked {schema : Json} {c : Json × Json} (h : c ∈ asked setting value schema) :
    Descends c (value, schema) := by
  cases schema with
  | obj tag fields =>
    rcases List.mem_append.1 h with h | h
    · exact .inl (askedInside_spec h).1
    · obtain ⟨s, hs, rfl⟩ := List.mem_map.1 h
      have smaller := size_lt_of_mem_askedAgain hs
      refine .inr ⟨Nat.le_refl _, ?_⟩
      simp only [Json.size]
      omega
  | _ => cases h

/-- **A schema is asked about because it is a part of the one at hand**, or because it is what the schema
for further members stands for; and then what is asked about is a member of the value. -/
theorem part_or_expansion {schema x s : Json} (h : (x, s) ∈ asked setting value schema) :
    s.size < schema.size ∨ ∃ tag stag members fields additional name,
      value = .obj tag members ∧ schema = .obj stag fields ∧
      get? fields "additionalProperties" = some additional ∧
      Reference.expand setting.options.source setting.root additional = .ok (some (.node s)) ∧
      (name, x) ∈ members := by
  cases schema with
  | obj stag fields =>
    have inside : s.size < Json.sizeFields fields → s.size < (Json.obj stag fields).size := by
      simp only [Json.size]
      omega
    rcases List.mem_append.1 h with h | h
    · obtain ⟨-, hs | ⟨hs, tag, members, name, hv, hm⟩⟩ := askedInside_spec h
      · exact .inl (inside hs)
      · unfold expansions at hs
        split at hs
        · cases hs
        · next additional ha =>
          split at hs
          · next he =>
            obtain rfl := List.mem_singleton.1 hs
            exact .inr ⟨tag, stag, members, fields, additional, name, hv, rfl, ha, he, hm⟩
          · cases hs
    · obtain ⟨s, hs, ⟨⟩⟩ := List.mem_map.1 h
      exact .inl (inside (size_lt_of_mem_askedAgain hs))
  | _ => cases h

/-! ## 3. A step depends on what it asks for -/

variable {f g : Answers}

section Walks

variable {α : Type} {xs : List α}

theorem gatherFrom_congr {i : Nat} {f g : Nat → (x : α) → x ∈ xs → Check (List Issue)}
    (h : ∀ x j hx, (x, j) ∈ xs.zipIdx i → f j x hx = g j x hx) :
    gatherFrom i xs f = gatherFrom i xs g := by
  induction xs generalizing i with
  | nil => rfl
  | cons x xs ih =>
    have first : f i x (List.mem_cons_self ..) = g i x (List.mem_cons_self ..) := by
      refine h x i _ ?_
      rw [List.zipIdx_cons]
      exact List.mem_cons_self ..
    have others : gatherFrom (i + 1) xs (fun j y hy => f j y (List.mem_cons_of_mem _ hy)) =
        gatherFrom (i + 1) xs (fun j y hy => g j y (List.mem_cons_of_mem _ hy)) := by
      refine ih fun y j hy hm => h y j _ ?_
      rw [List.zipIdx_cons]
      exact List.mem_cons_of_mem _ hm
    rw [gatherFrom, gatherFrom, first, others]

end Walks

theorem listed_of_membersOf {k : String} {table : Fields}
    (h : membersOf (memberTable fields k) = .ok table) : listed fields k = table := by
  unfold listed
  cases hx : memberTable fields k with
  | obj tag table' =>
    rw [hx] at h
    cases h
    rfl
  | _ =>
    rw [hx] at h
    cases h

section Objects

variable (h : ∀ x s, (x, s) ∈ askedInObject setting tag members fields → f x s = g x s)

include h

theorem propertyIssues_of_answers {name : String} {schema : Json}
    (hm : (name, schema) ∈ listed fields "properties") :
    propertyIssues setting tag members path (fun x _ s place => f x s place) name schema =
      propertyIssues setting tag members path (fun x _ s place => g x s place) name schema := by
  unfold propertyIssues
  split
  · rfl
  · rfl
  · next x hr =>
    have read : (x, schema) ∈ askedInObject setting tag members fields := by
      simp only [askedInObject, List.mem_append]
      exact .inl (.inl (.inl (mem_readings.2 ⟨name, tag, members, hm, rfl, hr⟩)))
    simp only [h x schema read]

theorem patternIssues_of_answers (properties : Fields) (member : String × Json) (hm : member ∈ members) :
    patternIssues setting tag members fields path (fun x _ s place => f x s place) properties member hm =
      patternIssues setting tag members fields path (fun x _ s place => g x s place) properties member
        hm := by
  unfold patternIssues
  split
  · rfl
  · refine bind_congr_of_ok fun patterns hp => congrArg _ (funext fun entry => funext fun he => ?_)
    have fitting : (member.2, entry.2) ∈ askedInObject setting tag members fields := by
      rw [← listed_of_membersOf hp] at he
      simp only [askedInObject, List.mem_append, List.mem_flatMap, List.mem_map]
      exact .inl (.inl (.inr ⟨member, hm, entry, he, rfl⟩))
    simp only [h _ _ fitting]

theorem additionalIssues_of_answers {additional : Json}
    (ha : get? fields "additionalProperties" = some additional) (member : String × Json)
    (hm : member ∈ members) :
    additionalIssues setting tag members fields path (fun x _ s place => f x s place) additional member
        hm =
      additionalIssues setting tag members fields path (fun x _ s place => g x s place) additional member
        hm := by
  unfold additionalIssues
  refine bind_congr_of_ok fun uncovered _ => ?_
  dsimp only
  split
  · rfl
  · split
    · rfl
    · refine bind_congr_of_ok fun found hf => ?_
      cases found with
      | none => rfl
      | some node =>
        cases node with
        | endOfList items => rfl
        | node schema =>
          have expanded : (member.2, schema) ∈ askedInObject setting tag members fields := by
            have stands : schema ∈ expansions setting fields := by
              simp only [expansions, ha, hf, List.mem_singleton]
            simp only [askedInObject, List.mem_append, List.mem_flatMap, List.mem_map]
            exact .inl (.inr ⟨member, hm, schema, stands, rfl⟩)
          simp only [nodeIssues, h _ _ expanded]

theorem nameIssues_of_answers :
    nameIssues (nameValues members) fields path (fun name _ s place => f name s place) =
      nameIssues (nameValues members) fields path (fun name _ s place => g name s place) := by
  unfold nameIssues
  split
  · rfl
  · next schema hs =>
    refine congrArg _ (funext fun name => funext fun hn => ?_)
    have named : (name, schema) ∈ askedInObject setting tag members fields := by
      simp only [askedInObject, List.mem_append, List.mem_flatMap, List.mem_map, Option.mem_toList]
      exact .inr ⟨name, hn, schema, hs, rfl⟩
    simp only [h _ _ named]

theorem objectIssues_of_answers
    (ha : ∀ entry ∈ listed fields "dependentSchemas",
      f (.obj tag members) entry.2 = g (.obj tag members) entry.2) :
    objectIssues setting tag members fields path (fun x _ s place => f x s place)
        (fun s _ place => f (.obj tag members) s place) =
      objectIssues setting tag members fields path (fun x _ s place => g x s place)
        (fun s _ place => g (.obj tag members) s place) := by
  have declared : ∀ properties, membersOf (memberTable fields "properties") = .ok properties →
      gather properties (fun entry _ => propertyIssues setting tag members path
          (fun x _ s place => f x s place) entry.1 entry.2) =
        gather properties (fun entry _ => propertyIssues setting tag members path
          (fun x _ s place => g x s place) entry.1 entry.2) := by
    intro properties hp
    refine congrArg _ (funext fun entry => funext fun hm => ?_)
    exact propertyIssues_of_answers h (listed_of_membersOf hp ▸ hm)
  have additional : allAdditionalIssues setting tag members fields path
        (fun x _ s place => f x s place) =
      allAdditionalIssues setting tag members fields path (fun x _ s place => g x s place) := by
    unfold allAdditionalIssues
    split
    · rfl
    · next x hx => exact congrArg _ (funext fun m => funext fun hm => additionalIssues_of_answers h hx m hm)
  have dependent : dependentSchemaIssues setting tag members fields path
        (fun s _ place => f (.obj tag members) s place) =
      dependentSchemaIssues setting tag members fields path
        (fun s _ place => g (.obj tag members) s place) := by
    unfold dependentSchemaIssues
    split
    · rfl
    · next x hx =>
      split
      · rfl
      · next table ht =>
        refine congrArg _ (funext fun entry => funext fun hm => ?_)
        have tabled : membersOf (memberTable fields "dependentSchemas") = .ok table := by
          rw [memberTable, hx]
          exact ht
        have there : entry ∈ listed fields "dependentSchemas" := listed_of_membersOf tabled ▸ hm
        simp only [ha entry there]
  unfold objectIssues
  refine bind_congr_of_ok fun _ _ => bind_congr_of_ok fun _ _ => bind_congr_of_ok fun _ _ => ?_
  refine bind_congr_of_ok fun properties hp => ?_
  simp only [patternIssues_of_answers h, additional, nameIssues_of_answers h, dependent]
  rw [declared properties hp]

end Objects

theorem arrayIssues_of_answers {items : List Json}
    (h : ∀ x s, (x, s) ∈ askedInArray items fields → f x s = g x s) :
    arrayIssues items fields path (fun x _ s place => f x s place) =
      arrayIssues items fields path (fun x _ s place => g x s place) := by
  have contained : containsIssues items fields path (fun x _ s place => f x s place) =
      containsIssues items fields path (fun x _ s place => g x s place) := by
    unfold containsIssues
    split
    · rfl
    · next schema hs =>
      have found : (fun i x (hx : x ∈ items) => valid (f x schema (itemPath path i))) =
          fun i x (hx : x ∈ items) => valid (g x schema (itemPath path i)) := by
        funext i x hx
        have item : (x, schema) ∈ askedInArray items fields := by
          simp only [askedInArray, List.mem_append, List.mem_flatMap, List.mem_map, Option.mem_toList]
          exact .inl ⟨x, hx, schema, hs, rfl⟩
        rw [h _ _ item]
      rw [found]
  have each : gatherFrom 0 items (fun i x _ => itemIssues fields path i fun s place => f x s place) =
      gatherFrom 0 items (fun i x _ => itemIssues fields path i fun s place => g x s place) := by
    refine gatherFrom_congr fun x i hx hi => ?_
    unfold itemIssues
    split
    · rfl
    · rfl
    · rfl
    · next schema _ _ hs =>
      have item : (x, schema) ∈ askedInArray items fields := by
        simp only [askedInArray, List.mem_append, List.mem_flatMap, List.mem_map, Option.mem_toList]
        exact .inr ⟨(x, i), hi, schema, hs, rfl⟩
      simp only [h _ _ item]
  unfold arrayIssues listIssues
  rw [contained, each]

/-- What is asked about the inside of a value is the same where the keywords are. -/
theorem askedInObject_of_keywords {fields' : Fields}
    (h : ∀ k ∈ Schema.objectKeywords, get? fields' k = get? fields k) :
    askedInObject setting tag members fields' = askedInObject setting tag members fields := by
  simp only [askedInObject, listed, memberTable, expansions,
    h "properties" (by simp [Schema.objectKeywords]),
    h "patternProperties" (by simp [Schema.objectKeywords]),
    h "additionalProperties" (by simp [Schema.objectKeywords]),
    h "propertyNames" (by simp [Schema.objectKeywords])]

theorem askedInArray_of_keywords {fields' : Fields} {items : List Json}
    (h : ∀ k ∈ Schema.arrayKeywords, get? fields' k = get? fields k) :
    askedInArray items fields' = askedInArray items fields := by
  simp only [askedInArray, h "contains" (by simp [Schema.arrayKeywords]), itemSchema_congr h]

section Steps

variable (hi : ∀ x s, (x, s) ∈ askedInside setting value fields → f x s = g x s)
  (ha : ∀ s ∈ askedAgain fields, f value s = g value s)

include hi ha

/-- The kind that decides asks for no more than the whole schema, of which it sees its own keywords. -/
theorem kindIssues_of_answers (kind : Kind) {fields' : Fields}
    (hk : ∀ k ∈ Schema.keywordsOf kind, get? fields' k = get? fields k) :
    kindIssues setting kind value fields' path (fun x _ s place => f x s place)
        (fun s _ place => f value s place) =
      kindIssues setting kind value fields' path (fun x _ s place => g x s place)
        (fun s _ place => g value s place) := by
  cases kind with
  | array =>
    cases value with
    | arr tag items =>
      refine arrayIssues_of_answers fun x s hm => hi x s ?_
      rw [askedInArray_of_keywords hk] at hm
      exact List.mem_append_left _ hm
    | _ => rfl
  | object =>
    cases value with
    | obj tag members =>
      refine objectIssues_of_answers (fun x s hm => hi x s ?_) fun entry hm => ha entry.2 ?_
      · rw [askedInObject_of_keywords hk] at hm
        exact List.mem_append_left _ hm
      · rw [listed, memberTable, hk "dependentSchemas" (by simp [Schema.keywordsOf, Schema.objectKeywords])]
          at hm
        simp only [askedAgain, List.mem_append, List.mem_map]
        exact .inl (.inl (.inl ⟨entry, hm, rfl⟩))
    | _ => rfl
  | _ => rfl

theorem typeIssues_of_answers :
    typeIssues setting value tag fields path (fun x _ s place => f x s place)
        (fun s _ place => f value s place) =
      typeIssues setting value tag fields path (fun x _ s place => g x s place)
        (fun s _ place => g value s place) := by
  have by_kind : ∀ kind, kindIssues setting kind value fields path (fun x _ s place => f x s place)
        (fun s _ place => f value s place) =
      kindIssues setting kind value fields path (fun x _ s place => g x s place)
        (fun s _ place => g value s place) :=
    fun kind => kindIssues_of_answers hi ha kind fun _ _ => rfl
  cases ht : Schema.declaredTypes (.obj tag fields) with
  | nil =>
    rw [typeIssues_of_nil ht, typeIssues_of_nil ht]
    simp only [by_kind]
  | cons a rest =>
    cases rest with
    | nil =>
      rw [typeIssues_of_single ht, typeIssues_of_single ht]
      simp only [by_kind]
    | cons b rest =>
      obtain ⟨_, hf⟩ := @typeIssues_of_several setting value tag fields path
        (fun x _ s place => f x s place) (fun s _ place => f value s place) a b rest ht
      obtain ⟨_, hg⟩ := @typeIssues_of_several setting value tag fields path
        (fun x _ s place => g x s place) (fun s _ place => g value s place) a b rest ht
      rw [hf, hg]
      split
      · rfl
      · next kind _ =>
        exact kindIssues_of_answers hi ha kind fun k hk => get?_restrict_of_mem hk rfl

end Steps

theorem conditionHolds_of_answers {accessor : Accessor} {condition : Json}
    (hi : ∀ x s, (x, s) ∈ askedInCondition accessor value condition → f x s = g x s)
    (ha : ∀ s ∈ conditionParts condition, f value s = g value s) :
    conditionHolds accessor value condition path (fun x _ s place => f x s place)
        (fun s _ place => f value s place) =
      conditionHolds accessor value condition path (fun x _ s place => g x s place)
        (fun s _ place => g value s place) := by
  cases condition with
  | obj ctag cfields =>
    have whole : f value (.obj ctag cfields) = g value (.obj ctag cfields) :=
      ha _ (List.mem_cons_self ..)
    have rest : f value (.obj none (Fields.erase cfields "properties")) =
        g value (.obj none (Fields.erase cfields "properties")) :=
      ha _ (List.mem_cons_of_mem _ (List.mem_cons_self ..))
    simp only [conditionHolds]
    split
    · next ptag properties hp =>
      cases value with
      | obj tag members =>
        have held : (fun (entry : String × Json) (_ : entry ∈ properties) => propertyHolds accessor tag
              members path (fun x _ s place => f x s place) entry.1 entry.2) =
            fun entry _ => propertyHolds accessor tag members path (fun x _ s place => g x s place)
              entry.1 entry.2 := by
          funext entry hm
          unfold propertyHolds
          split
          · rfl
          · rfl
          · next x hr =>
            have read : (x, entry.2) ∈ askedInCondition accessor (.obj tag members)
                (.obj ctag cfields) := by
              refine mem_readings.2 ⟨entry.1, tag, members, ?_, rfl, hr⟩
              rw [fieldsOf, listed, memberTable, hp]
              exact hm
            simp only [hi x entry.2 read]
        simp only [rest]
        rw [held]
      | _ => rfl
    · simp only [whole]
  | _ =>
    simp only [conditionHolds, ha _ (List.mem_singleton_self _)]

/-- The branches of a composition are asked about. -/
theorem mem_askedAgain_of_branches {k : String} (hk : k ∈ ["allOf", "anyOf", "oneOf"])
    {xs : { xs : List Json // ∀ x ∈ xs, x.size < Json.sizeFields fields }}
    (hb : branches fields k = .ok (some xs)) {s : Json} (hs : s ∈ xs.1) : s ∈ askedAgain fields := by
  rcases branches_cases fields k with ⟨-, hb'⟩ | ⟨x, hx, ⟨_, -, hb'⟩ | ⟨ys, _, hy, hb'⟩⟩
  · rw [hb'] at hb
    cases hb
  · rw [hb'] at hb
    cases hb
  · rw [hb'] at hb
    cases hb
    have entries : x.entries? = some ys := by
      unfold entriesOf at hy
      split at hy
      · next he =>
        cases hy
        exact he
      · cases hy
    simp only [askedAgain, List.mem_append, List.mem_flatMap]
    exact .inr ⟨k, hk, by rw [hx, Option.bind_some, entries]; exact hs⟩

/-- So are the schemas that stand under the other keywords about the value itself. -/
theorem mem_askedAgain_of_get? {k : String} (hk : k ∈ ["then", "else", "not"]) {s : Json}
    (hs : get? fields k = some s) : s ∈ askedAgain fields := by
  simp only [askedAgain, List.mem_append, List.mem_flatMap, Option.mem_toList]
  exact .inl (.inr ⟨k, hk, hs⟩)

section Steps

variable (hi : ∀ x s, (x, s) ∈ askedInside setting value fields → f x s = g x s)
  (ha : ∀ s ∈ askedAgain fields, f value s = g value s)

include ha

theorem allOfIssues_of_answers : allOfIssues fields path (fun s _ place => f value s place) =
    allOfIssues fields path (fun s _ place => g value s place) := by
  refine bind_congr_of_ok fun found hb => ?_
  cases found with
  | none => rfl
  | some xs =>
    refine congrArg _ (funext fun s => funext fun hs => ?_)
    simp only [ha s (mem_askedAgain_of_branches (by simp) hb hs)]

/-- The verdicts on the branches are the same. -/
theorem verdicts_of_answers {k : String} (hk : k ∈ ["allOf", "anyOf", "oneOf"])
    {xs : { xs : List Json // ∀ x ∈ xs, x.size < Json.sizeFields fields }}
    (hb : branches fields k = .ok (some xs)) :
    (fun s (_ : s ∈ xs.1) => valid (f value s path)) = fun s _ => valid (g value s path) := by
  funext s hs
  rw [ha s (mem_askedAgain_of_branches hk hb hs)]

theorem anyOfIssues_of_answers : anyOfIssues fields path (fun s _ place => f value s place) =
    anyOfIssues fields path (fun s _ place => g value s place) := by
  refine bind_congr_of_ok fun found hb => ?_
  cases found with
  | none => rfl
  | some xs =>
    simp only [verdicts_of_answers ha (by simp) hb]

theorem oneOfIssues_of_answers : oneOfIssues fields path (fun s _ place => f value s place) =
    oneOfIssues fields path (fun s _ place => g value s place) := by
  refine bind_congr_of_ok fun found hb => ?_
  cases found with
  | none => rfl
  | some xs =>
    simp only [verdicts_of_answers ha (by simp) hb]

theorem notIssues_of_answers : notIssues fields path (fun s _ place => f value s place) =
    notIssues fields path (fun s _ place => g value s place) := by
  unfold notIssues
  split
  · rfl
  · next schema hs => simp only [ha schema (mem_askedAgain_of_get? (by simp) hs)]

include hi

theorem conditionalIssues_of_answers :
    conditionalIssues setting value fields path (fun x _ s place => f x s place)
        (fun s _ place => f value s place) =
      conditionalIssues setting value fields path (fun x _ s place => g x s place)
        (fun s _ place => g value s place) := by
  unfold conditionalIssues
  split
  · rfl
  · next condition hc =>
    have held : conditionHolds setting.options.accessor value condition path
          (fun x _ s place => f x s place) (fun s _ place => f value s place) =
        conditionHolds setting.options.accessor value condition path
          (fun x _ s place => g x s place) (fun s _ place => g value s place) := by
      refine conditionHolds_of_answers (fun x s hm => hi x s ?_) fun s hs => ha s ?_
      · simp only [askedInside, List.mem_append, List.mem_flatMap, Option.mem_toList]
        exact .inr ⟨condition, hc, hm⟩
      · simp only [askedAgain, List.mem_append, List.mem_flatMap, Option.mem_toList]
        exact .inl (.inl (.inr ⟨condition, hc, hs⟩))
    rw [held]
    refine bind_congr_of_ok fun met _ => ?_
    split
    · rfl
    · rfl
    · next branch _ hb =>
      have asked : branch ∈ askedAgain fields := by
        cases met
        · exact mem_askedAgain_of_get? (by simp) hb
        · exact mem_askedAgain_of_get? (by simp) hb
      simp only [ha branch asked]

end Steps

/-- **A step depends on the answers to what it asks for**, and on no others. -/
theorem step_of_answers {schema : Json}
    (h : ∀ x s, (x, s) ∈ asked setting value schema → f x s = g x s) :
    step setting f value schema = step setting g value schema := by
  funext path
  cases schema with
  | obj tag fields =>
    have hi : ∀ x s, (x, s) ∈ askedInside setting value fields → f x s = g x s :=
      fun x s hm => h x s (List.mem_append_left _ hm)
    have ha : ∀ s ∈ askedAgain fields, f value s = g value s :=
      fun s hs => h value s (List.mem_append_right _ (List.mem_map_of_mem hs))
    simp only [step, schemaIssues, memberIssues]
    rw [conditionalIssues_of_answers hi ha, allOfIssues_of_answers ha, anyOfIssues_of_answers ha,
      oneOfIssues_of_answers ha, notIssues_of_answers ha, typeIssues_of_answers hi ha]
  | bool b => cases b <;> rfl
  | _ => rfl

/-- Whether a condition is met depends on the answers to what it asks for, and on no others. -/
theorem conditionStep_of_answers {condition : Json}
    (h : ∀ x s, (x, s) ∈ askedByCondition setting value condition → f x s = g x s) :
    conditionStep setting f value condition = conditionStep setting g value condition := by
  funext path
  refine conditionHolds_of_answers (fun x s hm => h x s ?_) fun s hs => h value s ?_
  · exact List.mem_append_left _ hm
  · exact List.mem_append_right _ (List.mem_map_of_mem hs)

/-- What a condition asks for is about something smaller than the value, or about the value and no more
than the condition. -/
theorem size_of_mem_askedByCondition {condition x s : Json}
    (h : (x, s) ∈ askedByCondition setting value condition) :
    x.size < value.size ∨ x = value ∧ s.size ≤ condition.size := by
  rcases List.mem_append.1 h with h | h
  · exact .inl (askedInCondition_spec h).1
  · obtain ⟨s, hs, ⟨⟩⟩ := List.mem_map.1 h
    exact .inr ⟨rfl, size_of_mem_conditionParts hs⟩

/-! ## 4. The end -/

/-- **The recursion without a thought of its end**, cut off at a depth: whatever lies deeper is answered in
some way. -/
def issuesTo (setting : Setting) (beyond : Answers) : (depth : Nat) → Answers
  | 0 => beyond
  | depth + 1 => step setting (issuesTo setting beyond depth)

/-- A depth for each of finitely many is a depth for all of them. -/
theorem exists_common_depth {P : Json × Json → Nat → Prop} {cs : List (Json × Json)}
    (h : ∀ c ∈ cs, ∃ depth, ∀ n, depth ≤ n → P c n) :
    ∃ depth, ∀ c ∈ cs, ∀ n, depth ≤ n → P c n := by
  induction cs with
  | nil => exact ⟨0, nofun⟩
  | cons c cs ih =>
    obtain ⟨first, hf⟩ := h c (List.mem_cons_self ..)
    obtain ⟨others, ho⟩ := ih fun c hc => h c (List.mem_cons_of_mem _ hc)
    refine ⟨max first others, fun c' hc n hn => ?_⟩
    rcases List.mem_cons.1 hc with rfl | hc
    · exact hf n (by omega)
    · exact ho c' hc n (by omega)

/-- **The recursion ends**: from some depth on it makes no difference where it is cut off and what stands
in for the rest. -/
theorem exists_depth (setting : Setting) (value schema : Json) :
    ∃ depth, ∀ n, depth ≤ n → ∀ beyond,
      issuesTo setting beyond n value schema = issues setting value schema := by
  suffices h : ∀ c : Json × Json, ∃ depth, ∀ n, depth ≤ n → ∀ beyond,
      issuesTo setting beyond n c.1 c.2 = issues setting c.1 c.2 from h (value, schema)
  intro c
  induction c using wellFounded_descends.induction with
  | _ c ih =>
    obtain ⟨depth, hd⟩ := exists_common_depth fun c' hc => ih c' (descends_of_mem_asked hc)
    refine ⟨depth + 1, fun n hn beyond => ?_⟩
    obtain ⟨n, rfl⟩ : ∃ m, n = m + 1 := ⟨n - 1, by omega⟩
    have answered : ∀ x s, (x, s) ∈ asked setting c.1 c.2 →
        issuesTo setting beyond n x s = issues setting x s :=
      fun x s hm => hd (x, s) hm n (by omega) beyond
    rw [issuesTo, step_of_answers answered, ← issues_eq_step]

theorem exists_depth_of_condition (setting : Setting) (value condition : Json) :
    ∃ depth, ∀ n, depth ≤ n → ∀ beyond path,
      conditionStep setting (issuesTo setting beyond n) value condition path =
        meets setting (some value) condition path := by
  have each : ∀ c ∈ askedByCondition setting value condition, ∃ depth, ∀ n, depth ≤ n →
      ∀ beyond, issuesTo setting beyond n c.1 c.2 = issues setting c.1 c.2 :=
    fun c _ => exists_depth setting c.1 c.2
  obtain ⟨depth, hd⟩ := exists_common_depth each
  refine ⟨depth, fun n hn beyond path => ?_⟩
  rw [conditionStep_of_answers fun x s hm => hd (x, s) hm n hn beyond]
  rfl

end Conform.Probe

namespace Conform

open Probe
open Fields (get?)

/-- **Probing ends, whatever references lead to.**  A step of the probe, or of a condition, depends on the
probes in a finite list and on no others.  Each of them is about a smaller value, or about a value that is
no larger and a smaller schema, for a condition one that is no larger; and where the schema is not a part
of the one at hand it is what the schema for further members stands for, and a member of the value is
probed against it.  So asking for probes is well founded, and the recursion that takes no care to end may
be cut off at some depth without making a difference. -/
theorem probing_ends (options : Options) (root : Json) :
    let setting : Setting := ⟨options, root⟩
    (∀ (value schema : Json) (f g : Answers),
      (∀ x s, (x, s) ∈ asked setting value schema → f x s = g x s) →
        step setting f value schema = step setting g value schema) ∧
    (∀ (value condition : Json) (f g : Answers),
      (∀ x s, (x, s) ∈ askedByCondition setting value condition → f x s = g x s) →
        conditionStep setting f value condition = conditionStep setting g value condition) ∧
    (∀ value schema x s, (x, s) ∈ asked setting value schema →
      x.size < value.size ∨ x.size ≤ value.size ∧ s.size < schema.size) ∧
    (∀ value condition x s, (x, s) ∈ askedByCondition setting value condition →
      x.size < value.size ∨ x = value ∧ s.size ≤ condition.size) ∧
    (∀ value schema x s, (x, s) ∈ asked setting value schema →
      s.size < schema.size ∨ ∃ tag stag members fields additional name,
        value = .obj tag members ∧ schema = .obj stag fields ∧
        get? fields "additionalProperties" = some additional ∧
        Reference.expand options.source root additional = .ok (some (.node s)) ∧
        (name, x) ∈ members) ∧
    WellFounded (fun next here : Json × Json => next ∈ asked setting here.1 here.2) ∧
    (∀ value schema, ∃ depth, ∀ n, depth ≤ n → ∀ beyond,
      issuesTo setting beyond n value schema = issues setting value schema) ∧
    (∀ value condition, ∃ depth, ∀ n, depth ≤ n → ∀ beyond path,
      conditionStep setting (issuesTo setting beyond n) value condition path =
        meets setting (some value) condition path) ∧
    (∀ value, ∃ depth, ∀ n, depth ≤ n → ∀ beyond,
      issuesTo setting beyond n value root options.currentPath =
        validateValue (some value) root options) := by
  intro setting
  refine ⟨?_, ?_, ?_, ?_, ?_, ?_, ?_, ?_, ?_⟩
  · intro value schema f g h
    exact step_of_answers h
  · intro value condition f g h
    exact conditionStep_of_answers h
  · intro value schema x s h
    exact descends_of_mem_asked h
  · intro value condition x s h
    exact size_of_mem_askedByCondition h
  · intro value schema x s h
    exact part_or_expansion h
  · exact Subrelation.wf descends_of_mem_asked wellFounded_descends
  · intro value schema
    exact exists_depth setting value schema
  · intro value condition
    exact exists_depth_of_condition setting value condition
  · intro value
    obtain ⟨depth, hd⟩ := exists_depth setting value root
    refine ⟨depth, fun n hn beyond => ?_⟩
    rw [hd n hn beyond]
    rfl

/-- The document refers to itself with a title beside, so that what is asked about a member is larger than
what is asked about the value. -/
theorem probing_ends_self_reference :
    let titled : Json := .obj none [("$ref", .str "#"), ("title", .str "further")]
    let schema : Json := .obj none [("additionalProperties", titled)]
    let larger : Json := .obj none [("additionalProperties", titled), ("title", .str "further")]
    let value : Json := .obj none [("a", .obj none [])]
    schema.size < larger.size ∧
      (.obj none [], larger) ∈ asked ⟨.default, schema⟩ value schema ∧
      (Json.obj none []).size < value.size := by
  intro titled schema larger value
  have grows : schema.size < larger.size := by decide
  have there : (.obj none [], larger) ∈ asked ⟨.default, schema⟩ value schema := by
    have led : (Reference.Source.document .standard).lookup (.str "#") schema = .ok (.node schema) := by cbv
    have merged : Schema.merge false schema (.obj none [("title", .str "further")]) = .ok larger := by
      rw [Schema.merge]
      rfl
    have expanded : Reference.expand (.document .standard) schema titled = .ok (some (.node larger)) := by
      refine (congrArg (· >>= _) led).trans ?_
      exact congrArg (Except.map fun s => some (Reference.Target.node s)) merged
    have stands : expansions ⟨.default, schema⟩ [("additionalProperties", titled)] = [larger] := by
      show (match Reference.expand (.document .standard) schema titled with
        | .ok (some (.node s)) => [s]
        | _ => []) = [larger]
      rw [expanded]
    refine List.mem_append_left _ (List.mem_append_left _ (List.mem_append_left _
      (List.mem_append_right _ ?_)))
    rw [stands]
    exact List.mem_singleton_self _
  refine ⟨grows, there, ?_⟩
  obtain ⟨-, -, descends, -⟩ := probing_ends .default schema
  rcases descends value schema _ larger there with smaller | ⟨-, smaller⟩
  · exact smaller
  · omega

end Conform
