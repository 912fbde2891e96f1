/-
# Where the members of a merged schema come from

Section 1 names the places of a schema at which the resolution can come to a further schema
(`subschemas`), and `Everywhere P` says `P` of the members of a schema and of all schemas at such
places, at any depth.

Merging applies a dozen rules to one list of members.  Section 2 opens them once: every member of a
merged schema is a member of the one schema or of the other, or it is a `Blend` of two members of the
same name.  Section 3 does the same for documents that are united.  Whatever is to be shown of merged
schemas follows from this without opening the rules again: that what is said of members by their names
lasts, and that a merge of proper schemas is proper (`Lasting`, Section 4), and that what holds of the
members of two schemas everywhere holds of their merge everywhere, as long as it holds of the blends
(`Mergeable`, Section 5).
-/
import Conform.Proofs.Endings
import Conform.Proofs.Firsts
import Conform.Proofs.Members

namespace Conform

open Fields (get?)

namespace Schema

/-! ## 1. Places of further schemas -/

/-- Where the value of a keyword holds further schemas. -/
inductive Place where
  /-- Under the names of an object. -/
  | table
  /-- In the items of a list. -/
  | list
  /-- The value itself. -/
  | itself
  /-- In the items of a list, or else the value itself. -/
  | listOrItself
  | nowhere

namespace Place

/-- The place for the schemas of a keyword. -/
def ofKeyword (keyword : String) : Place :=
  if keyword ∈ ["properties", "patternProperties", "dependentSchemas"] then .table
  else if keyword ∈ ["prefixItems", "allOf", "oneOf"] then .list
  else if keyword ∈ ["additionalProperties", "additionalItems", "then", "else"] then .itself
  else if keyword = "items" then .listOrItself
  else .nowhere

/-- The schemas at a place of a value. -/
def schemas : Place → Json → List Json
  | .table, .obj _ fields => fields.map (·.2)
  | .list, .arr _ schemas => schemas
  | .itself, x => [x]
  | .listOrItself, .arr _ schemas => schemas
  | .listOrItself, x => [x]
  | _, _ => []

end Place

/-- The schemas that a keyword with this value holds. -/
def partsOf (keyword : String) (x : Json) : List Json := (Place.ofKeyword keyword).schemas x

/-- **The schemas right below a schema that the resolution can come to.**  Those that are only probed
are not among them: conditions, the branches of `anyOf`, what is negated or looked for in a list. -/
def subschemas (fields : Fields) : List Json := fields.flatMap fun field => partsOf field.1 field.2

/-- Something holds of the members of a schema and of all schemas below it. -/
inductive Everywhere (P : Fields → Prop) : Json → Prop
  | plain {s : Json} (h : s.isObject = false) : Everywhere P s
  | node {tag : Tag} {fields : Fields} (here : P fields)
      (inner : ∀ s ∈ subschemas fields, Everywhere P s) : Everywhere P (.obj tag fields)

/-- Something holds of every member. -/
def OfMembers (A : String → Json → Prop) (fields : Fields) : Prop :=
  ∀ k x, (k, x) ∈ fields → A k x

/-- A schema at a place of a value is the value or stands directly inside. -/
theorem Place.mem_schemas {place : Place} {x s : Json} (h : s ∈ place.schemas x) :
    s = x ∨ s ∈ x.children := by
  unfold Place.schemas at h
  split at h
  · exact .inr h
  · exact .inr h
  · exact .inl (List.mem_singleton.1 h)
  · exact .inr h
  · exact .inl (List.mem_singleton.1 h)
  · cases h

/-- A schema that a keyword holds is its value or stands directly inside. -/
theorem mem_partsOf {k : String} {x s : Json} (h : s ∈ partsOf k x) : s = x ∨ s ∈ x.children :=
  Place.mem_schemas h

theorem Place.size_le_of_mem_schemas {place : Place} {x s : Json} (h : s ∈ place.schemas x) :
    s.size ≤ x.size := by
  rcases Place.mem_schemas h with rfl | h
  · exact Nat.le_refl _
  · exact Nat.le_of_lt (Json.size_lt_of_mem_children h)

theorem size_le_of_mem_partsOf {k : String} {x s : Json} (h : s ∈ partsOf k x) :
    s.size ≤ x.size := Place.size_le_of_mem_schemas h

theorem Place.proper_of_mem_schemas {place : Place} {x s : Json} (hx : x.Proper)
    (h : s ∈ place.schemas x) : s.Proper := by
  rcases Place.mem_schemas h with rfl | h
  · exact hx
  · exact hx.inner h

theorem proper_of_mem_partsOf {k : String} {x s : Json} (hx : x.Proper) (h : s ∈ partsOf k x) :
    s.Proper := Place.proper_of_mem_schemas hx h

theorem mem_subschemas {fields : Fields} {s : Json} :
    s ∈ subschemas fields ↔ ∃ k x, (k, x) ∈ fields ∧ s ∈ partsOf k x := by
  simp [subschemas, Prod.exists]

theorem mem_subschemas_of_get? {fields : Fields} {k : String} {x s : Json}
    (hk : get? fields k = some x) (hs : s ∈ partsOf k x) : s ∈ subschemas fields :=
  mem_subschemas.2 ⟨k, x, Json.mem_of_get? hk, hs⟩

theorem size_lt_of_mem_subschemas {fields : Fields} {s : Json} (tag : Tag)
    (h : s ∈ subschemas fields) : s.size < (Json.obj tag fields).size := by
  obtain ⟨k, x, hx, hs⟩ := mem_subschemas.1 h
  exact Nat.lt_of_le_of_lt (size_le_of_mem_partsOf hs) (Json.size_lt_of_mem_fields tag hx)

/-- The schema of a position is one of those below the schema. -/
theorem exists_of_itemSchema {fields : Fields} {i : Nat} {s : Json}
    (hs : Probe.itemSchema fields i = some s) :
    ∃ k x, get? fields k = some x ∧ s ∈ partsOf k x := by
  have of_list : ∀ {k : String} {tag : Tag} {schemas : List Json} {j : Nat},
      Place.ofKeyword k = .list ∨ Place.ofKeyword k = .listOrItself →
      get? fields k = some (.arr tag schemas) → schemas[j]? = some s →
      ∃ k x, get? fields k = some x ∧ s ∈ partsOf k x := by
    intro k tag schemas j hp hk hj
    refine ⟨k, _, hk, ?_⟩
    have hm := List.mem_of_getElem? hj
    rcases hp with hp | hp <;> rw [partsOf, hp] <;> exact hm
  have of_tuple : ∀ {tag : Tag} {schemas : List Json} {j : Nat},
      get? fields "items" = some (.arr tag schemas) →
      Probe.tupleSchema fields schemas j = some s → ∃ k x, get? fields k = some x ∧ s ∈ partsOf k x := by
    intro tag schemas j hk ht
    unfold Probe.tupleSchema at ht
    split at ht
    · exact of_list (.inr rfl) hk ht
    · exact ⟨_, _, ht, List.mem_singleton_self _⟩
  have of_items : (∀ tag schemas, get? fields "items" ≠ some (.arr tag schemas)) →
      get? fields "items" = some s → ∃ k x, get? fields k = some x ∧ s ∈ partsOf k x := by
    intro hn hk
    refine ⟨_, _, hk, ?_⟩
    cases s with
    | arr tag schemas => exact absurd hk (hn tag schemas)
    | _ => exact List.mem_singleton_self _
  unfold Probe.itemSchema at hs
  simp only at hs
  split at hs
  · next hp =>
    split at hs
    · exact of_list (.inl rfl) hp hs
    · split at hs
      · next hk => exact of_tuple hk hs
      · next hn => exact of_items hn hs
  · split at hs
    · next hk => exact of_tuple hk hs
    · next hn => exact of_items hn hs

namespace Everywhere

variable {P Q : Fields → Prop}

theorem here {tag : Tag} {fields : Fields} (h : Everywhere P (.obj tag fields)) : P fields := by
  cases h with
  | plain h => cases h
  | node here _ => exact here

theorem inner {tag : Tag} {fields : Fields} {s : Json} (h : Everywhere P (.obj tag fields))
    (hs : s ∈ subschemas fields) : Everywhere P s := by
  cases h with
  | plain h => cases h
  | node _ inner => exact inner s hs

theorem retag {tag tag' : Tag} {fields : Fields} (h : Everywhere P (.obj tag fields)) :
    Everywhere P (.obj tag' fields) := .node h.here fun _ hs => h.inner hs

/-- The members of a schema, of which there are none if it is no object. -/
theorem fieldsOf {s : Json} {A : String → Json → Prop} (h : Everywhere (OfMembers A) s) :
    OfMembers A (fieldsOf s) := by
  cases s with
  | obj tag fields => exact h.here
  | _ => exact fun _ _ hm => nomatch hm

theorem of_mem_partsOf {s x y : Json} {k : String} (h : Everywhere P s)
    (hx : (k, x) ∈ Schema.fieldsOf s) (hy : y ∈ partsOf k x) : Everywhere P y := by
  cases s with
  | obj tag fields => exact h.inner (mem_subschemas.2 ⟨k, x, hx, hy⟩)
  | _ => cases hx

theorem imp {s : Json} (h : Everywhere P s)
    (hPQ : ∀ fields, P fields → (∀ s ∈ subschemas fields, Everywhere P s) → Q fields) :
    Everywhere Q s := by
  induction h with
  | plain h => exact .plain h
  | node here inner ih => exact .node (hPQ _ here inner) ih

/-- Leaving members out and setting others that hold no schemas keeps what holds everywhere. -/
theorem of_subset {tag tag' : Tag} {fields fields' : Fields} (h : Everywhere P (.obj tag fields))
    (hP : P fields')
    (hsub : ∀ k x, (k, x) ∈ fields' → (k, x) ∈ fields ∨ partsOf k x = []) :
    Everywhere P (.obj tag' fields') := by
  refine .node hP fun s hs => ?_
  obtain ⟨k, x, hm, hs⟩ := mem_subschemas.1 hs
  rcases hsub k x hm with hm | hnil
  · exact h.inner (mem_subschemas.2 ⟨k, x, hm, hs⟩)
  · rw [hnil] at hs
    cases hs

end Everywhere

/-- A member of a schema reduced to a type was there before, or is the type. -/
theorem mem_restrict {fields : Fields} {k name : String} {x : Json}
    (h : (k, x) ∈ restrict fields (.str name)) : (k, x) ∈ fields ∨ k = "type" ∧ x = .str name := by
  rcases Fields.mem_put h with he | hm
  · exact .inr he
  · exact .inl (List.mem_of_mem_filter hm)

theorem proper_without {tag tag' : Tag} {fields : Fields} {keys : List String}
    (h : (Json.obj tag fields).Proper) : (Json.obj tag' (Fields.without fields keys)).Proper :=
  Json.proper_obj h.distinct.filter fun _ _ hm => h.of_mem_fields (Fields.mem_of_mem_without hm)

theorem proper_restrict {tag tag' : Tag} {fields : Fields} {name : String}
    (h : (Json.obj tag fields).Proper) : (Json.obj tag' (restrict fields (.str name))).Proper := by
  refine Json.proper_obj (Fields.Distinct.put h.distinct.filter) fun k x hm => ?_
  rcases mem_restrict hm with hm | ⟨rfl, rfl⟩
  · exact h.of_mem_fields hm
  · exact Json.proper_str _

/-- A proper schema with something that holds of its members and of all schemas below it. -/
structure Wholly (P : Fields → Prop) (s : Json) : Prop where
  everywhere : Everywhere P s
  proper : s.Proper

namespace Wholly

variable {P : Fields → Prop} {tag tag' : Tag} {fields fields' : Fields} {k : String} {s x : Json}

theorem here (h : Wholly P (.obj tag fields)) : P fields := h.everywhere.here

theorem retag (h : Wholly P (.obj tag fields)) : Wholly P (.obj tag' fields) :=
  ⟨h.everywhere.retag, Json.Proper.retag h.proper⟩

/-- It holds of what a keyword holds. -/
theorem part (h : Wholly P (.obj tag fields)) (hk : get? fields k = some x)
    (hs : s ∈ partsOf k x) : Wholly P s :=
  ⟨h.everywhere.inner (mem_subschemas_of_get? hk hs), proper_of_mem_partsOf (h.proper.of_get? hk) hs⟩

/-- It holds of the schemas right below. -/
theorem below (h : Wholly P (.obj tag fields)) (hs : s ∈ subschemas fields) : Wholly P s := by
  obtain ⟨k, x, hm, hx⟩ := mem_subschemas.1 hs
  exact ⟨h.everywhere.inner hs, proper_of_mem_partsOf (h.proper.of_mem_fields hm) hx⟩

/-- It holds without some of the keywords. -/
theorem without {keys : List String} (h : Wholly P (.obj tag fields))
    (hP : P (Fields.without fields keys)) : Wholly P (.obj tag' (Fields.without fields keys)) :=
  ⟨h.everywhere.of_subset hP fun _ _ hm => .inl (Fields.mem_of_mem_without hm),
    proper_without h.proper⟩

/-- What holds of every member of such a schema holds of the members of all below it. -/
theorem ofMembers {A : String → Json → Prop}
    (hA : ∀ tag fields, Wholly P (.obj tag fields) → ∀ k x, get? fields k = some x → A k x)
    (h : Wholly P s) : Everywhere (OfMembers A) s := by
  induction s using Json.sizeInduction with
  | step s ih =>
    cases s with
    | obj tag fields =>
      have hd : Fields.Distinct fields := h.proper.distinct
      refine .node (fun k x hm => hA tag fields h k x (Fields.get?_of_mem hd hm)) fun t ht => ?_
      have hlt := size_lt_of_mem_subschemas tag ht
      obtain ⟨k, x, hm, ht⟩ := mem_subschemas.1 ht
      exact ih t hlt (h.part (Fields.get?_of_mem hd hm) ht)
    | _ => exact .plain rfl

/-- It holds of the schema reduced to one of its types. -/
theorem restrict {name : String} (h : Wholly P (.obj tag fields))
    (hP : P (Schema.restrict fields (.str name))) :
    Wholly P (.obj tag' (Schema.restrict fields (.str name))) := by
  refine ⟨h.everywhere.of_subset hP fun k x hm => ?_, proper_restrict h.proper⟩
  rcases mem_restrict hm with hm | ⟨rfl, rfl⟩
  · exact .inl hm
  · exact .inr rfl

end Wholly

/-! ## 2. Members of a merged schema -/

/-- **A member that merging makes of two members of the same name.** -/
inductive Blend (conjunction : Bool) (a b : Fields) : String → Json → Prop
  /-- Types in common. -/
  | types {x y z : Json} (ha : get? a "type" = some x) (hb : get? b "type" = some y)
      (h : intersectTypes x y = .ok z) : Blend conjunction a b "type" z
  /-- Two enumerations joined. -/
  | enumeration {x y : Json} {left right : List Json} (ha : get? a "enum" = some x)
      (hb : get? b "enum" = some y) (hx : entries x = .ok left) (hy : entries y = .ok right) :
      Blend conjunction a b "enum" (.arr none (Json.distinct (left ++ right)))
  /-- The value that both schemas pin down. -/
  | constant {x y : Json} (ha : pinned? a = some x) (hb : pinned? b = some y) :
      Blend conjunction a b "const" x
  /-- Required names joined. -/
  | required {left right : List Json}
      (ha : entries ((get? a "required").getD (.arr none [])) = .ok left)
      (hb : entries ((get? b "required").getD (.arr none [])) = .ok right) :
      Blend conjunction a b "required" (.arr none (Json.distinct (left ++ right)))
  /-- Properties merged name by name. -/
  | properties {x y : Json} {left right merged : Fields} (ha : get? a "properties" = some x)
      (hb : get? b "properties" = some y) (hx : copiedMembers x = .ok left)
      (hy : members y = .ok right)
      (h : ∀ k s, (k, s) ∈ merged → (k, s) ∈ left ∨ (k, s) ∈ right ∨
        ∃ u v, (k, u) ∈ left ∧ (k, v) ∈ right ∧ merge conjunction u v = .ok s)
      (hd : Fields.Distinct left → Fields.Distinct merged) :
      Blend conjunction a b "properties" (.obj none merged)
  /-- Two documents united. -/
  | united {k : String} {x y : Json} (hk : k ∈ ["patternProperties", "dependentSchemas"])
      (ha : get? a k = some x) (hb : get? b k = some y) : Blend conjunction a b k (Json.unite x y)
  /-- Two schemas merged. -/
  | merged {k : String} {x y z : Json} (hk : k ∈ ["additionalProperties", "items", "not"])
      (ha : get? a k = some x) (hb : get? b k = some y)
      (hobj : k = "not" ∨ x.isObject = true ∧ y.isObject = true)
      (h : merge conjunction x y = .ok z) : Blend conjunction a b k z
  /-- Two lists of schemas concatenated. -/
  | composed {k : String} {x y : Json} {left right : List Json}
      (hk : k ∈ ["allOf", "anyOf", "oneOf"]) (ha : get? a k = some x) (hb : get? b k = some y)
      (hx : entries x = .ok left) (hy : entries y = .ok right) :
      Blend conjunction a b k (.arr none (distinctOccurrences (left ++ right)))

section Rules

variable {conjunction : Bool} {a b : Fields} {r r' : Fields} {k : String} {x : Json}

/-- The keywords that merging may change although the second schema does not have them. -/
def remade : List String := ["const", "enum", "required", "if", "then", "else"]

/-- Every member comes from one of the two schemas or is a blend, no name occurs twice if none does
in the first schema, and what the second schema does not have is kept. -/
structure Sourced (conjunction : Bool) (a b r : Fields) : Prop where
  source : ∀ k x, (k, x) ∈ r → (k, x) ∈ a ∨ (k, x) ∈ b ∨ Blend conjunction a b k x
  distinct : Fields.Distinct a → Fields.Distinct r
  kept : ∀ k ∉ remade, get? b k = none → get? r k = get? a k

theorem Sourced.start : Sourced conjunction a b (Fields.union a b) := by
  refine ⟨fun _ _ h => (Fields.mem_union h).imp_right .inl, fun hd => hd.union, fun k _ hk => ?_⟩
  induction b generalizing a with
  | nil => rfl
  | cons m rest ih =>
    obtain ⟨j, y⟩ := m
    rw [Fields.get?_cons] at hk
    split at hk
    · cases hk
    · next hj => rw [Fields.union_cons, ih hk, Fields.get?_put, if_neg hj]

theorem Sourced.put (h : Sourced conjunction a b r)
    (hx : (k, x) ∈ b ∨ Blend conjunction a b k x) (hk : get? b k = none → k ∈ remade) :
    Sourced conjunction a b (Fields.put r k x) := by
  refine ⟨fun j y hm => ?_, fun hd => (h.distinct hd).put, fun j hj hb => ?_⟩
  · rcases Fields.mem_put hm with ⟨rfl, rfl⟩ | hm
    · exact .inr hx
    · exact h.source j y hm
  · have hne : j ≠ k := by
      rintro rfl
      exact hj (hk hb)
    rw [Fields.get?_put, if_neg hne]
    exact h.kept j hj hb

theorem Sourced.erase (h : Sourced conjunction a b r) (hk : k ∈ remade) :
    Sourced conjunction a b (Fields.erase r k) := by
  refine ⟨fun j y hm => h.source j y (Fields.mem_of_mem_erase hm),
    fun hd => (h.distinct hd).filter, fun j hj hb => ?_⟩
  have hne : j ≠ k := by
    rintro rfl
    exact hj hk
  rw [Fields.get?_erase, if_neg hne]
  exact h.kept j hj hb

theorem Sourced.mergeTypes (h : Sourced conjunction a b r)
    (hr : mergeTypes conjunction a b r = .ok r') : Sourced conjunction a b r' := by
  unfold Schema.mergeTypes at hr
  split at hr
  · next x y ha hb =>
    split at hr
    · simp only [bind_eq_ok, Except.ok.injEq] at hr
      obtain ⟨z, hz, rfl⟩ := hr
      exact h.put (.inr (.types ha hb hz)) (by simp [hb])
    · cases hr
      exact h.put (.inl (Json.mem_of_get? hb)) (by simp [hb])
  · cases hr
    exact h

theorem Sourced.mergePinned (h : Sourced conjunction a b r)
    (hr : mergePinned a b r = .ok r') : Sourced conjunction a b r' := by
  rcases mergePinned_cases a b r with ⟨x, y, ha, hb, hm⟩ | ⟨x, y, ha, hb, hm⟩ | hm
  · cases hm.symm.trans hr
    exact (h.erase (by simp [remade])).put (.inr (.constant ha hb)) (by simp [remade])
  · rw [hm] at hr
    simp only [bind_eq_ok, Except.ok.injEq] at hr
    obtain ⟨left, hx, right, hy, rfl⟩ := hr
    exact h.put (.inr (.enumeration ha hb hx hy)) (by simp [hb])
  · cases hm.symm.trans hr
    exact h

theorem Sourced.mergeRequired (h : Sourced conjunction a b r)
    (hr : mergeRequired a b r = .ok r') : Sourced conjunction a b r' := by
  unfold Schema.mergeRequired at hr
  split at hr
  · simp only [bind_eq_ok, Except.ok.injEq] at hr
    obtain ⟨left, ha, right, hb, rfl⟩ := hr
    exact h.put (.inr (.required ha hb)) (by simp [remade])
  · cases hr
    exact h

/-- Members merged into those of `left`. -/
theorem mem_mergeMembers {left : Fields} {self : MergeBelow (Json.sizeFields left)}
    (hself : ∀ x y h, self x y h = merge conjunction x y) {right acc merged : Fields}
    (h : mergeMembers left self right acc = .ok merged) :
    (∀ k s, (k, s) ∈ merged → (k, s) ∈ acc ∨ (k, s) ∈ right ∨
      ∃ u v, (k, u) ∈ left ∧ (k, v) ∈ right ∧ merge conjunction u v = .ok s) ∧
    (Fields.Distinct acc → Fields.Distinct merged) := by
  induction right generalizing acc with
  | nil =>
    cases h
    exact ⟨fun k s hm => .inl hm, id⟩
  | cons m rest ih =>
    obtain ⟨j, y⟩ := m
    -- either way a single member is put into `acc` before the others follow
    have step : ∃ z, mergeMembers left self rest (Fields.put acc j z) = .ok merged ∧
        (z = y ∨ ∃ u, (j, u) ∈ left ∧ merge conjunction u y = .ok z) := by
      unfold mergeMembers at h
      split at h
      · next x hx =>
        simp only [bind_eq_ok, hself] at h
        obtain ⟨z, hz, h⟩ := h
        exact ⟨z, h, .inr ⟨x, Json.mem_of_get? hx, hz⟩⟩
      · exact ⟨y, h, .inl rfl⟩
    obtain ⟨z, hrest, hz⟩ := step
    obtain ⟨hm, hd⟩ := ih hrest
    refine ⟨fun k s hs => ?_, fun hacc => hd hacc.put⟩
    rcases hm k s hs with hs | hs | ⟨u, v, hu, hv, hs⟩
    · rcases Fields.mem_put hs with ⟨rfl, rfl⟩ | hs
      · rcases hz with rfl | ⟨u, hu, hz⟩
        · exact .inr (.inl (List.mem_cons_self ..))
        · exact .inr (.inr ⟨u, y, hu, List.mem_cons_self .., hz⟩)
      · exact .inl hs
    · exact .inr (.inl (List.mem_cons_of_mem _ hs))
    · exact .inr (.inr ⟨u, v, hu, List.mem_cons_of_mem _ hv, hs⟩)

variable {self : MergeBelow (Json.sizeFields a)}
  (hself : ∀ x y h, self x y h = merge conjunction x y)

include hself

theorem Sourced.mergeProperties (h : Sourced conjunction a b r)
    (hr : mergeProperties a b self r = .ok r') : Sourced conjunction a b r' := by
  unfold Schema.mergeProperties at hr
  split at hr
  · next x y ha hb =>
    split at hr
    · cases hr
    · next left hx =>
      simp only [bind_eq_ok, Except.ok.injEq] at hr
      obtain ⟨right, hy, merged, hm, rfl⟩ := hr
      obtain ⟨hmem, hd⟩ := mem_mergeMembers (fun u v _ => hself u v _) hm
      exact h.put (.inr (.properties ha hb hx hy hmem hd)) (by simp [hb])
  · cases hr
    exact h

theorem Sourced.mergeObjects (h : Sourced conjunction a b r)
    (hk : k ∈ ["additionalProperties", "items", "not"])
    (hr : mergeObjects k a b self r = .ok r') : Sourced conjunction a b r' := by
  unfold Schema.mergeObjects at hr
  split at hr
  · next ha hb =>
    split at hr
    · next hobj =>
      simp only [Bool.and_eq_true] at hobj
      simp only [bind_eq_ok, Except.ok.injEq, hself] at hr
      obtain ⟨z, hz, rfl⟩ := hr
      exact h.put (.inr (.merged hk ha hb (.inr hobj) hz)) (by simp [hb])
    · cases hr
      exact h
  · cases hr
    exact h

theorem Sourced.mergeNegated (h : Sourced conjunction a b r)
    (hr : mergeNegated a b self r = .ok r') : Sourced conjunction a b r' := by
  unfold Schema.mergeNegated at hr
  split at hr
  · next x y ha hb =>
    simp only [bind_eq_ok, Except.ok.injEq, hself] at hr
    obtain ⟨z, hz, rfl⟩ := hr
    exact h.put (.inr (.merged (by simp) ha hb (.inl rfl) hz)) (by simp [hb])
  · cases hr
    exact h

omit hself

theorem Sourced.uniteKeyword (h : Sourced conjunction a b r)
    (hk : k ∈ ["patternProperties", "dependentSchemas"]) :
    Sourced conjunction a b (uniteKeyword k a b r) := by
  unfold Schema.uniteKeyword
  split
  · next x y ha hb => exact h.put (.inr (.united hk ha hb)) (by simp [hb])
  · exact h

theorem Sourced.mergeConditions (h : Sourced conjunction a b r) :
    Sourced conjunction a b (mergeConditions b r) := by
  unfold Schema.mergeConditions
  split
  · refine List.foldlRecOn _ _ h fun r h keyword hk => ?_
    have listed : keyword ∈ remade := by
      simp only [List.mem_cons, List.not_mem_nil, or_false] at hk
      rcases hk with rfl | rfl | rfl <;> simp [remade]
    split
    · next x hx => exact h.put (.inl (Json.mem_of_get? hx)) fun _ => listed
    · exact h.erase listed
  · exact h

theorem Sourced.mergeComposition (h : Sourced conjunction a b r)
    (hk : k ∈ ["allOf", "anyOf", "oneOf"])
    (hr : mergeComposition k a b r = .ok r') : Sourced conjunction a b r' := by
  unfold Schema.mergeComposition at hr
  split at hr
  · next x y ha hb =>
    simp only [bind_eq_ok, Except.ok.injEq] at hr
    obtain ⟨left, hx, right, hy, rfl⟩ := hr
    exact h.put (.inr (.composed hk ha hb hx hy)) (by simp [hb])
  · cases hr
    exact h

end Rules

/-- **Where the members of a merged schema come from.**  The merge is the schema that allows nothing,
or every member of it comes from one of the two schemas or blends two members. -/
theorem merge_sourced {conjunction : Bool} {a b m : Json} (h : merge conjunction a b = .ok m) :
    m = .bool false ∨
      ∃ r, m = .obj none r ∧ Sourced conjunction (fieldsOf a) (fieldsOf b) r := by
  rw [merge] at h
  split at h
  · cases h
    exact .inl rfl
  · simp only [bind_eq_ok, Except.ok.injEq, mergeFields] at h
    obtain ⟨r, ⟨_, h₁, _, h₂, _, h₃, _, h₄, _, h₅, _, h₆, _, h₇, _, h₈, _, h₉, hr⟩, rfl⟩ := h
    refine .inr ⟨r, rfl, ?_⟩
    have s₄ := (((Sourced.start.mergeTypes h₁).mergePinned h₂).mergeRequired h₃).mergeProperties
      (fun _ _ _ => rfl) h₄
    have s₆ := (((s₄.uniteKeyword (by simp)).uniteKeyword (by simp)).mergeObjects
      (fun _ _ _ => rfl) (by simp) h₅).mergeObjects (fun _ _ _ => rfl) (by simp) h₆
    exact (((s₆.mergeConditions.mergeNegated (fun _ _ _ => rfl) h₇).mergeComposition (by simp)
      h₈).mergeComposition (by simp) h₉).mergeComposition (by simp) hr

/-- The schema that allows nothing stays when something is merged in. -/
theorem eq_false_of_merge_false {conjunction : Bool} {b m : Json}
    (h : merge conjunction (.bool false) b = .ok m) : m = .bool false := by
  rw [merge] at h
  simpa [isFalse, eq_comm] using h

/-! ## 3. Documents that are united -/

section United

open Json (unite uniteFields)

theorem distinct_uniteFields {fields upper : Fields} (hd : Fields.Distinct fields) :
    Fields.Distinct (uniteFields fields upper) := by
  induction upper generalizing fields with
  | nil => rwa [uniteFields]
  | cons m rest ih =>
    rw [uniteFields]
    exact ih hd.put

/-- Every member of united objects comes from one of them or unites one member of each. -/
theorem mem_uniteFields {fields upper : Fields} {k : String} {z : Json}
    (hd : Fields.Distinct upper) (h : (k, z) ∈ uniteFields fields upper) :
    (k, z) ∈ fields ∨ (k, z) ∈ upper ∨
      ∃ x y, (k, x) ∈ fields ∧ (k, y) ∈ upper ∧ z = unite x y := by
  induction upper generalizing fields with
  | nil =>
    rw [uniteFields] at h
    exact .inl h
  | cons m rest ih =>
    obtain ⟨j, y⟩ := m
    obtain ⟨hj, hrest⟩ := Fields.distinct_cons.1 hd
    rw [uniteFields] at h
    rcases ih hrest h with h | h | ⟨u, v, hu, hv, rfl⟩
    · rcases Fields.mem_put h with ⟨rfl, rfl⟩ | h
      · cases hf : get? fields k with
        | none => exact .inr (.inl (List.mem_cons_self ..))
        | some x =>
          exact .inr (.inr ⟨x, y, Json.mem_of_get? hf, List.mem_cons_self .., rfl⟩)
      · exact .inl h
    · exact .inr (.inl (List.mem_cons_of_mem _ h))
    · -- the name occurs once in `upper`, so `u` has not been united before
      rcases Fields.mem_put hu with ⟨rfl, _⟩ | hu
      · exact absurd (Fields.mem_names_of_mem hv) hj
      · exact .inr (.inr ⟨u, v, hu, List.mem_cons_of_mem _ hv, rfl⟩)

theorem mem_of_mem_distinct {items : List Json} {x : Json} (h : x ∈ Json.distinct items) : x ∈ items :=
  (Json.distinct_sublist items).subset h

/-- What two values become when they are united: objects and lists are put together, and anything
else is replaced. -/
theorem unite_cases (x y : Json) :
    (∃ tag fields tag' upper, x = .obj tag fields ∧ y = .obj tag' upper ∧
      unite x y = .obj none (uniteFields fields upper)) ∨
    (∃ tag items tag' upper, x = .arr tag items ∧ y = .arr tag' upper ∧
      unite x y = .arr none (Json.distinct (items ++ upper))) ∨
    unite x y = y := by
  cases x with
  | obj tag fields =>
    cases y with
    | obj tag' upper => exact .inl ⟨tag, fields, tag', upper, rfl, rfl, by rw [unite]⟩
    | _ => refine .inr (.inr ?_); rw [unite] <;> simp
  | arr tag items =>
    cases y with
    | arr tag' upper => exact .inr (.inl ⟨tag, items, tag', upper, rfl, rfl, by rw [unite]⟩)
    | _ => refine .inr (.inr ?_); rw [unite] <;> simp
  | _ => refine .inr (.inr ?_); rw [unite] <;> simp

/-- The schemas at a place of a united value come from one of the two or unite a schema of each. -/
theorem Place.mem_schemas_unite {place : Place} {x y s : Json} (hy : y.Proper)
    (h : s ∈ place.schemas (unite x y)) :
    s ∈ place.schemas x ∨ s ∈ place.schemas y ∨ place ≠ .list ∧
      ∃ u v, u ∈ place.schemas x ∧ v ∈ place.schemas y ∧ s = unite u v := by
  rcases unite_cases x y with ⟨tag, f, tag', g, rfl, rfl, hu⟩ | ⟨tag, xs, tag', ys, rfl, rfl, hu⟩ | hu
  · have whole : Json.obj none (uniteFields f g) = unite (.obj tag f) (.obj tag' g) := hu.symm
    rw [hu] at h
    cases place <;> simp only [Place.schemas] at h ⊢
    case table =>
      obtain ⟨⟨j, z⟩, hz, rfl⟩ := List.mem_map.1 h
      rcases mem_uniteFields hy.distinct hz with hz | hz | ⟨u, v, hu, hv, rfl⟩
      · exact .inl (List.mem_map.2 ⟨_, hz, rfl⟩)
      · exact .inr (.inl (List.mem_map.2 ⟨_, hz, rfl⟩))
      · exact .inr (.inr ⟨nofun, u, v, List.mem_map.2 ⟨_, hu, rfl⟩, List.mem_map.2 ⟨_, hv, rfl⟩,
          rfl⟩)
    case list | nowhere => cases h
    case itself | listOrItself =>
      exact .inr (.inr ⟨nofun, _, _, List.mem_singleton_self _, List.mem_singleton_self _,
        (List.mem_singleton.1 h).trans whole⟩)
  · have whole : Json.arr none (Json.distinct (xs ++ ys)) = unite (.arr tag xs) (.arr tag' ys) :=
      hu.symm
    rw [hu] at h
    cases place <;> simp only [Place.schemas] at h ⊢
    case table | nowhere => cases h
    case itself =>
      exact .inr (.inr ⟨nofun, _, _, List.mem_singleton_self _, List.mem_singleton_self _,
        (List.mem_singleton.1 h).trans whole⟩)
    case list | listOrItself =>
      rcases List.mem_append.1 (mem_of_mem_distinct h) with h | h
      · exact .inl h
      · exact .inr (.inl h)
  · rw [hu] at h
    exact .inr (.inl h)

/-- The schemas that a united keyword holds come from one of the two or unite a schema of each. -/
theorem mem_partsOf_unite {k : String} {x y s : Json} (hy : y.Proper)
    (h : s ∈ partsOf k (unite x y)) :
    s ∈ partsOf k x ∨ s ∈ partsOf k y ∨ Place.ofKeyword k ≠ .list ∧
      ∃ u v, u ∈ partsOf k x ∧ v ∈ partsOf k y ∧ s = unite u v :=
  Place.mem_schemas_unite hy h

end United

/-! ## 4. What is said of members by their names

That a merge of proper schemas is proper is one case of this: nothing more is said of the members. -/

/-- No name occurs twice in the value, if it is an object, and `A` holds of its members. -/
def HasMembers (A : String → Json → Prop) (x : Json) : Prop :=
  x.HasDistinctNames ∧ OfMembers A (fieldsOf x)

/-- **A proper value with `A` of all members in it**, at any depth and wherever they stand. -/
abbrev ProperWith (A : String → Json → Prop) (x : Json) : Prop := x.Throughout (HasMembers A)

/-- **What is said of members by their names lasts** when documents are united and schemas merged. -/
structure Lasting (A : String → Json → Prop) : Prop where
  united : ∀ {k x y}, A k x → A k y → A k (Json.unite x y)
  merged : ∀ {conjunction k x y z}, A k x → A k y → merge conjunction x y = .ok z → A k z
  blended : ∀ {conjunction a b k z}, Blend conjunction a b k z → A k z

section Lasting

variable {A : String → Json → Prop}

theorem ProperWith.distinct {tag : Tag} {fields : Fields} (h : ProperWith A (.obj tag fields)) :
    Fields.Distinct fields := h.here.1

theorem ProperWith.of_mem {tag : Tag} {fields : Fields} (h : ProperWith A (.obj tag fields)) {k : String}
    {x : Json} (hx : (k, x) ∈ fields) : A k x := h.here.2 k x hx

theorem ProperWith.proper {x : Json} (h : ProperWith A x) : x.Proper := h.imp fun _ hx => hx.1

theorem properWith_of_proper {x : Json} (h : x.Proper) : ProperWith (fun _ _ => True) x :=
  h.imp fun _ hx => ⟨hx, fun _ _ _ => trivial⟩

theorem lasting_true : Lasting fun _ _ => True :=
  ⟨fun _ _ => trivial, fun _ _ _ => trivial, fun _ => trivial⟩

theorem properWith_arr {tag : Tag} {items : List Json} (h : ∀ x ∈ items, ProperWith A x) :
    ProperWith A (.arr tag items) := .intro ⟨trivial, fun _ _ h => nomatch h⟩ h

theorem properWith_obj {tag : Tag} {fields : Fields} (hd : Fields.Distinct fields)
    (h : ∀ k x, (k, x) ∈ fields → A k x ∧ ProperWith A x) : ProperWith A (.obj tag fields) :=
  .intro ⟨hd, fun k x hx => (h k x hx).1⟩ fun y hy => by
    obtain ⟨⟨k, x⟩, hm, rfl⟩ := List.mem_map.1 hy
    exact (h k x hm).2

/-- A value without anything inside has no members of which something could be said. -/
theorem properWith_atom {x : Json} (hx : fieldsOf x = []) (h : x.HasDistinctNames)
    (hc : x.children = []) : ProperWith A x :=
  .intro ⟨h, by rw [hx]; exact fun _ _ h => nomatch h⟩ fun y hy => by
    rw [hc] at hy
    cases hy

theorem properWith_str (s : String) : ProperWith A (.str s) := properWith_atom rfl trivial rfl

/-- **What is said of members lasts when documents are united.** -/
theorem properWith_unite (hA : Lasting A) {x y : Json} (hx : ProperWith A x) (hy : ProperWith A y) :
    ProperWith A (Json.unite x y) := by
  induction x using Json.induction generalizing y with
  | step x ih =>
    rcases unite_cases x y with ⟨tag, f, tag', g, rfl, rfl, h⟩ | ⟨tag, xs, tag', ys, rfl, rfl, h⟩ | h
    · rw [h]
      refine properWith_obj (distinct_uniteFields hx.distinct) fun k z hz => ?_
      rcases mem_uniteFields hy.distinct hz with hz | hz | ⟨u, v, hu, hv, rfl⟩
      · exact ⟨hx.of_mem hz, hx.of_mem_fields hz⟩
      · exact ⟨hy.of_mem hz, hy.of_mem_fields hz⟩
      · exact ⟨hA.united (hx.of_mem hu) (hy.of_mem hv),
          ih u (List.mem_map.2 ⟨_, hu, rfl⟩) (hx.of_mem_fields hu) (hy.of_mem_fields hv)⟩
    · rw [h]
      refine properWith_arr fun z hz => ?_
      rcases List.mem_append.1 (mem_of_mem_distinct hz) with hz | hz
      · exact hx.of_mem_items hz
      · exact hy.of_mem_items hz
    · rwa [h]

theorem proper_unite {x y : Json} (hx : x.Proper) (hy : y.Proper) : (Json.unite x y).Proper :=
  (properWith_unite lasting_true (properWith_of_proper hx) (properWith_of_proper hy)).proper

theorem mem_of_mem_distinctOccurrences {schemas : List Json} {x : Json}
    (h : x ∈ distinctOccurrences schemas) : x ∈ schemas := by
  have from_kept : ∀ kept : List Json, x ∈ schemas.foldl
      (fun acc y => if acc.any (Json.sameOccurrence y) then acc else acc ++ [y]) kept →
      x ∈ kept ∨ x ∈ schemas := by
    clear h
    induction schemas with
    | nil => exact fun _ h => .inl h
    | cons y rest ih =>
      intro kept h
      rw [List.foldl_cons] at h
      split at h
      · exact (ih kept h).imp_right (List.mem_cons_of_mem _)
      · rcases ih _ h with h | h
        · rcases List.mem_append.1 h with h | h
          · exact .inl h
          · exact .inr (List.mem_singleton.1 h ▸ List.mem_cons_self ..)
        · exact .inr (List.mem_cons_of_mem _ h)
  exact (from_kept [] h).resolve_left List.not_mem_nil

/-- An entry of a value is one of its items, or text. -/
theorem mem_entries {x y : Json} {items : List Json} (h : entries x = .ok items) (hy : y ∈ items) :
    (∃ tag, x = .arr tag items) ∨ ∃ s, y = .str s := by
  unfold entries at h
  split at h
  · next entries hx =>
    cases h
    cases x with
    | arr tag xs =>
      cases hx
      exact .inl ⟨tag, rfl⟩
    | str s =>
      cases hx
      obtain ⟨c, _, rfl⟩ := List.mem_map.1 hy
      exact .inr ⟨_, rfl⟩
    | obj tag fields =>
      cases hx
      obtain ⟨f, _, rfl⟩ := List.mem_map.1 hy
      exact .inr ⟨_, rfl⟩
    | _ => cases hx
  · cases h

theorem properWith_of_mem_entries {x y : Json} {items : List Json} (hx : ProperWith A x)
    (h : entries x = .ok items) (hy : y ∈ items) : ProperWith A y := by
  rcases mem_entries h hy with ⟨tag, rfl⟩ | ⟨s, rfl⟩
  · exact hx.of_mem_items hy
  · exact properWith_str s

theorem properWith_of_pinned? {fields : Fields} {x : Json}
    (hf : ∀ k y, get? fields k = some y → ProperWith A y) (h : pinned? fields = some x) :
    ProperWith A x := by
  unfold pinned? at h
  split at h
  · next y hc =>
    cases h
    exact hf _ _ hc
  · next tag y _ he =>
    cases h
    exact (hf _ _ he).of_mem_items (List.mem_singleton_self _)
  · cases h

/-- The types that a declaration lists: its items, or itself. -/
def listedTypes : Json → List Json
  | .arr _ types => types
  | type => [type]

/-- The types that a schema declares are those that its keyword lists. -/
theorem declaredTypes_eq {tag : Tag} {fields : Fields} {t : Json}
    (h : get? fields "type" = some t) : declaredTypes (.obj tag fields) = listedTypes t := by
  cases t <;> simp [declaredTypes, h, listedTypes]

theorem exists_type_of_mem_declaredTypes {tag : Tag} {fields : Fields} {type : Json}
    (h : type ∈ declaredTypes (.obj tag fields)) :
    ∃ t, get? fields "type" = some t ∧ declaredTypes (.obj tag fields) = listedTypes t := by
  cases ht : get? fields "type" with
  | none => simp [declaredTypes, ht] at h
  | some t => exact ⟨t, rfl, declaredTypes_eq ht⟩

/-- The types in common are listed in the first declaration, but for the whole numbers that two
declarations of numbers may come to. -/
theorem intersectTypes_eq_ok {x y z : Json} (h : intersectTypes x y = .ok z) :
    (∃ types, z = .arr none types ∧ ∀ type ∈ types, type ∈ listedTypes x) ∨
      z ∈ listedTypes x ∨ z = .str "integer" := by
  unfold intersectTypes at h
  extract_lets typesOf left right shared listed common at h
  have common_mem : ∀ type ∈ shared, type ∈ listedTypes x := fun type ht => List.mem_of_mem_filter ht
  have hcommon : common = [.str "integer"] ∨ common = shared := ite_eq_or_eq _ _ _
  clear_value common
  split at h
  · cases h
  · cases h
    rcases hcommon with hcommon | hcommon
    · exact .inr (.inr (List.cons.inj hcommon).1)
    · exact .inr (.inl (common_mem _ (hcommon ▸ List.mem_singleton_self _)))
  · next types hnil hone =>
    cases h
    rcases hcommon with hcommon | hcommon
    · exact absurd hcommon (hone _)
    · exact .inl ⟨_, rfl, hcommon ▸ common_mem⟩

theorem properWith_of_mem_fieldsOf {a x : Json} {k : String} (ha : ProperWith A a)
    (h : (k, x) ∈ fieldsOf a) : A k x ∧ ProperWith A x := by
  cases a with
  | obj tag fields => exact ⟨ha.of_mem h, ha.of_mem_fields h⟩
  | _ => cases h

theorem proper_of_mem_fieldsOf {a x : Json} {k : String} (ha : a.Proper) (h : (k, x) ∈ fieldsOf a) :
    x.Proper := (properWith_of_mem_fieldsOf (properWith_of_proper ha) h).2.proper

theorem size_lt_of_mem_fieldsOf {a x : Json} {k : String} (h : (k, x) ∈ fieldsOf a) :
    x.size < a.size :=
  Nat.lt_of_lt_of_le (Json.size_lt_sizeFields h) (sizeFields_fieldsOf_le a)

/-- The members that are copied out of a value are members of it. -/
theorem mem_fieldsOf_of_copiedMembers {x y : Json} {k : String} {fields : Fields}
    (h : copiedMembers x = .ok fields) (hy : (k, y) ∈ fields) : (k, y) ∈ fieldsOf x := by
  unfold copiedMembers at h
  split at h
  · cases h
    exact hy
  · split at h
    · cases h
    · cases h
      cases hy
    · split at h <;> cases h

theorem distinct_of_copiedMembers {x : Json} {fields : Fields} (hx : x.Proper)
    (h : copiedMembers x = .ok fields) : Fields.Distinct fields := by
  unfold copiedMembers at h
  split at h
  · cases h
    exact hx.distinct
  · split at h
    · cases h
    · cases h
      exact List.nodup_nil
    · split at h <;> cases h

theorem mem_fieldsOf_of_members {x y : Json} {k : String} {fields : Fields}
    (h : members x = .ok fields) (hy : (k, y) ∈ fields) : (k, y) ∈ fieldsOf x := by
  cases x with
  | obj tag f =>
    cases h
    exact hy
  | _ => cases h

/-- What is said of members lasts in a blend, as long as it does in the merges of smaller schemas. -/
theorem Blend.properWith (hA : Lasting A) {conjunction : Bool} {a b : Fields} {k : String} {z : Json}
    (ha : ∀ k x, (k, x) ∈ a → ProperWith A x) (hb : ∀ k x, (k, x) ∈ b → ProperWith A x)
    (ih : ∀ x y z : Json, x.size < Json.sizeFields a → ProperWith A x → ProperWith A y →
      merge conjunction x y = .ok z → ProperWith A z)
    (h : Blend conjunction a b k z) : ProperWith A z := by
  have left : ∀ {k x}, get? a k = some x → ProperWith A x := fun h => ha _ _ (Json.mem_of_get? h)
  have right : ∀ {k x}, get? b k = some x → ProperWith A x := fun h => hb _ _ (Json.mem_of_get? h)
  have entries_with : ∀ {fields : Fields} {items : List Json} {x : Json},
      (∀ {k x}, get? fields k = some x → ProperWith A x) →
      entries ((get? fields "required").getD (.arr none [])) = .ok items → x ∈ items →
      ProperWith A x := by
    intro fields items x hf h hx
    refine properWith_of_mem_entries ?_ h hx
    cases hr : get? fields "required" with
    | none => exact properWith_arr fun _ h => nomatch h
    | some y => exact hf hr
  cases h with
  | @types x y _ hx hy h =>
    have listed_with : ∀ type ∈ listedTypes x, ProperWith A type := by
      intro type ht
      cases x with
      | arr tag types => exact (left hx).of_mem_items ht
      | _ => exact List.mem_singleton.1 ht ▸ left hx
    rcases intersectTypes_eq_ok h with ⟨types, rfl, ht⟩ | ht | rfl
    · exact properWith_arr fun type hm => listed_with type (ht type hm)
    · exact listed_with z ht
    · exact properWith_str _
  | enumeration hx hy hl hr =>
    refine properWith_arr fun z hz => ?_
    rcases List.mem_append.1 (mem_of_mem_distinct hz) with hz | hz
    · exact properWith_of_mem_entries (left hx) hl hz
    · exact properWith_of_mem_entries (right hy) hr hz
  | constant hx hy => exact properWith_of_pinned? (fun _ _ => left) hx
  | required hl hr =>
    refine properWith_arr fun z hz => ?_
    rcases List.mem_append.1 (mem_of_mem_distinct hz) with hz | hz
    · exact entries_with left hl hz
    · exact entries_with right hr hz
  | properties hx hy hl hr hm hd =>
    refine properWith_obj (hd (distinct_of_copiedMembers (left hx).proper hl)) fun k s hs => ?_
    rcases hm k s hs with hs | hs | ⟨u, v, hu, hv, hs⟩
    · exact properWith_of_mem_fieldsOf (left hx) (mem_fieldsOf_of_copiedMembers hl hs)
    · exact properWith_of_mem_fieldsOf (right hy) (mem_fieldsOf_of_members hr hs)
    · have hux := mem_fieldsOf_of_copiedMembers hl hu
      obtain ⟨hau, hpu⟩ := properWith_of_mem_fieldsOf (left hx) hux
      obtain ⟨hav, hpv⟩ := properWith_of_mem_fieldsOf (right hy) (mem_fieldsOf_of_members hr hv)
      refine ⟨hA.merged hau hav hs, ih u v s ?_ hpu hpv hs⟩
      exact Nat.lt_trans (size_lt_of_mem_fieldsOf hux) (Json.size_lt_sizeFields_of_get? hx)
  | united _ hx hy => exact properWith_unite hA (left hx) (right hy)
  | merged _ hx hy _ h =>
    exact ih _ _ _ (Json.size_lt_sizeFields_of_get? hx) (left hx) (right hy) h
  | composed _ hx hy hl hr =>
    refine properWith_arr fun z hz => ?_
    rcases List.mem_append.1 (mem_of_mem_distinctOccurrences hz) with hz | hz
    · exact properWith_of_mem_entries (left hx) hl hz
    · exact properWith_of_mem_entries (right hy) hr hz

/-- **What is said of members lasts when schemas are merged.** -/
theorem properWith_merge (hA : Lasting A) {conjunction : Bool} {a b m : Json} (ha : ProperWith A a)
    (hb : ProperWith A b) (h : merge conjunction a b = .ok m) : ProperWith A m := by
  induction a using Json.sizeInduction generalizing b m with
  | step a ih =>
    rcases merge_sourced h with rfl | ⟨r, rfl, hr⟩
    · exact properWith_atom rfl trivial rfl
    · have hd : Fields.Distinct (fieldsOf a) := by
        cases a with
        | obj tag fields => exact ha.distinct
        | _ => exact List.nodup_nil
      refine properWith_obj (hr.distinct hd) fun k z hz => ?_
      rcases hr.source k z hz with hz | hz | hz
      · exact properWith_of_mem_fieldsOf ha hz
      · exact properWith_of_mem_fieldsOf hb hz
      · refine ⟨hA.blended hz, hz.properWith hA (fun _ _ hx => (properWith_of_mem_fieldsOf ha hx).2)
          (fun _ _ hx => (properWith_of_mem_fieldsOf hb hx).2) fun x y z hx hxp hyp hxy => ?_⟩
        exact ih x (Nat.lt_of_lt_of_le hx (sizeFields_fieldsOf_le a)) hxp hyp hxy

/-- **A merge of proper schemas is proper.** -/
theorem proper_merge {conjunction : Bool} {a b m : Json} (ha : a.Proper) (hb : b.Proper)
    (h : merge conjunction a b = .ok m) : m.Proper :=
  (properWith_merge lasting_true (properWith_of_proper ha) (properWith_of_proper hb) h).proper

end Lasting

/-! ## 5. What holds everywhere in a merged schema -/

/-- An entry under a keyword for lists of schemas is one of the schemas below. -/
theorem Everywhere.of_mem_entries {P : Fields → Prop} {a s x : Json} {k : String} {items : List Json}
    (ha : Everywhere P a) (hk : k ∈ ["allOf", "oneOf"]) (hx : get? (Schema.fieldsOf a) k = some x)
    (he : entries x = .ok items) (hs : s ∈ items) : Everywhere P s := by
  rcases mem_entries he hs with ⟨tag, rfl⟩ | ⟨text, rfl⟩
  · refine ha.of_mem_partsOf (Json.mem_of_get? hx) ?_
    rcases List.mem_pair.1 hk with rfl | rfl <;> exact hs
  · exact .plain rfl

theorem mem_partsOf_properties {x s : Json} {name : String} (h : (name, s) ∈ fieldsOf x) :
    s ∈ partsOf "properties" x := by
  cases x with
  | obj tag fields => exact List.mem_map.2 ⟨_, h, rfl⟩
  | _ => cases h

/-- A schema that stands alone under a keyword is the only one there. -/
theorem partsOf_alone {k : String} {x : Json} (hk : k ∈ ["additionalProperties", "items"])
    (hx : x.isObject = true ∨ x = .bool false) : partsOf k x = [x] := by
  rcases List.mem_pair.1 hk with rfl | rfl
  · rfl
  · rcases hx with hx | rfl
    · cases x with
      | obj tag fields => rfl
      | _ => cases hx
    · rfl

/-- What two schemas are merged to is an object, or allows nothing. -/
theorem isObject_or_false_of_merge {conjunction : Bool} {x y z : Json}
    (h : merge conjunction x y = .ok z) : z.isObject = true ∨ z = .bool false := by
  rcases merge_sourced h with rfl | ⟨r, rfl, _⟩
  · exact .inr rfl
  · exact .inl rfl

/-- Something that holds of every member of a schema (`A`) still does when a schema is merged in of
whose members something holds (`B`). -/
structure Mergeable (A B : String → Json → Prop) : Prop where
  weaken : ∀ {fields}, OfMembers B fields →
    (∀ s ∈ subschemas fields, Everywhere (OfMembers B) s) → OfMembers A fields
  blend : ∀ {conjunction a b k z}, OfMembers A a → OfMembers A b → OfMembers B b →
    Blend conjunction a b k z → A k z
  unite : ∀ {k x y}, A k x → A k y → A k (Json.unite x y)

namespace Mergeable

variable {A B : String → Json → Prop}

theorem everywhere_weaken (hAB : Mergeable A B) {s : Json} (h : Everywhere (OfMembers B) s) :
    Everywhere (OfMembers A) s :=
  h.imp fun _ => hAB.weaken

theorem everywhere_unite (hAB : Mergeable A B) {x y : Json} (hy : y.Proper)
    (hx' : Everywhere (OfMembers A) x) (hy' : Everywhere (OfMembers A) y) :
    Everywhere (OfMembers A) (Json.unite x y) := by
  induction x using Json.sizeInduction generalizing y with
  | step x ih =>
    rcases unite_cases x y with ⟨tag, f, tag', g, rfl, rfl, h⟩ | ⟨tag, xs, tag', ys, rfl, rfl, h⟩ | h
    · rw [h]
      have source := fun k z hz => @mem_uniteFields f g k z hy.distinct hz
      refine .node (fun k z hz => ?_) fun s hs => ?_
      · rcases source k z hz with hz | hz | ⟨u, v, hu, hv, rfl⟩
        · exact hx'.here k z hz
        · exact hy'.here k z hz
        · exact hAB.unite (hx'.here k u hu) (hy'.here k v hv)
      · obtain ⟨k, z, hz, hs⟩ := mem_subschemas.1 hs
        rcases source k z hz with hz | hz | ⟨u, v, hu, hv, rfl⟩
        · exact hx'.inner (mem_subschemas.2 ⟨k, z, hz, hs⟩)
        · exact hy'.inner (mem_subschemas.2 ⟨k, z, hz, hs⟩)
        · have hv' := hy.of_mem_fields hv
          rcases mem_partsOf_unite hv' hs with hs | hs | ⟨-, p, q, hp, hq, rfl⟩
          · exact hx'.inner (mem_subschemas.2 ⟨k, u, hu, hs⟩)
          · exact hy'.inner (mem_subschemas.2 ⟨k, v, hv, hs⟩)
          · refine ih p ?_ ?_ (hx'.inner (mem_subschemas.2 ⟨k, u, hu, hp⟩))
              (hy'.inner (mem_subschemas.2 ⟨k, v, hv, hq⟩))
            · exact Nat.lt_of_le_of_lt (size_le_of_mem_partsOf hp) (Json.size_lt_of_mem_fields tag hu)
            · exact proper_of_mem_partsOf hv' hq
    · rw [h]
      exact .plain rfl
    · rwa [h]

/-- The schemas that a blend holds. -/
theorem everywhere_blend (hAB : Mergeable A B) {conjunction : Bool} {a b : Json} {k : String}
    {z s : Json} (ha : Everywhere (OfMembers A) a) (hb : Everywhere (OfMembers B) b)
    (hpb : b.Proper)
    (ih : ∀ x y z : Json, x.size < a.size → Everywhere (OfMembers A) x →
      Everywhere (OfMembers B) y → y.Proper → merge conjunction x y = .ok z →
      Everywhere (OfMembers A) z)
    (h : Blend conjunction (Schema.fieldsOf a) (Schema.fieldsOf b) k z) (hs : s ∈ partsOf k z) :
    Everywhere (OfMembers A) s := by
  cases h with
  | types | enumeration | constant | required => cases hs
  | properties hx hy hl hr hm =>
    obtain ⟨⟨j, s⟩, hjs, rfl⟩ := List.mem_map.1 (show s ∈ _ from hs)
    rcases hm j s hjs with hs | hs | ⟨u, v, hu, hv, hs⟩
    · exact ha.of_mem_partsOf (Json.mem_of_get? hx)
        (mem_partsOf_properties (mem_fieldsOf_of_copiedMembers hl hs))
    · exact hAB.everywhere_weaken (hb.of_mem_partsOf (Json.mem_of_get? hy)
        (mem_partsOf_properties (mem_fieldsOf_of_members hr hs)))
    · have hux := mem_fieldsOf_of_copiedMembers hl hu
      have hvy := mem_fieldsOf_of_members hr hv
      refine ih u v s ?_ (ha.of_mem_partsOf (Json.mem_of_get? hx) (mem_partsOf_properties hux))
        (hb.of_mem_partsOf (Json.mem_of_get? hy) (mem_partsOf_properties hvy))
        (proper_of_mem_fieldsOf (proper_of_mem_fieldsOf hpb (Json.mem_of_get? hy)) hvy) hs
      exact Nat.lt_trans (size_lt_of_mem_fieldsOf hux)
        (size_lt_of_mem_fieldsOf (Json.mem_of_get? hx))
  | united hk hx hy =>
    have hpy := proper_of_mem_fieldsOf hpb (Json.mem_of_get? hy)
    rcases mem_partsOf_unite hpy hs with hs | hs | ⟨-, u, v, hu, hv, rfl⟩
    · exact ha.of_mem_partsOf (Json.mem_of_get? hx) hs
    · exact hAB.everywhere_weaken (hb.of_mem_partsOf (Json.mem_of_get? hy) hs)
    · exact hAB.everywhere_unite (proper_of_mem_partsOf hpy hv)
        (ha.of_mem_partsOf (Json.mem_of_get? hx) hu)
        (hAB.everywhere_weaken (hb.of_mem_partsOf (Json.mem_of_get? hy) hv))
  | @merged k x y z hk hx hy hobj h =>
    by_cases hne : k = "not"
    · subst hne
      cases hs
    · have alone : k ∈ ["additionalProperties", "items"] := by
        simp only [List.mem_cons, List.not_mem_nil, or_false] at hk ⊢
        exact hk.imp_right fun h => h.resolve_right hne
      obtain ⟨hxo, hyo⟩ := hobj.resolve_left hne
      have hxs := partsOf_alone alone (.inl hxo)
      have hys := partsOf_alone alone (.inl hyo)
      rw [partsOf_alone alone (isObject_or_false_of_merge h)] at hs
      obtain rfl := List.mem_singleton.1 hs
      exact ih x y s (size_lt_of_mem_fieldsOf (Json.mem_of_get? hx))
        (ha.of_mem_partsOf (Json.mem_of_get? hx) (hxs ▸ List.mem_singleton_self _))
        (hb.of_mem_partsOf (Json.mem_of_get? hy) (hys ▸ List.mem_singleton_self _))
        (proper_of_mem_fieldsOf hpb (Json.mem_of_get? hy)) h
  | @composed k x y left right hk hx hy hl hr =>
    by_cases hne : k = "anyOf"
    · subst hne
      cases hs
    · have listed : k ∈ ["allOf", "oneOf"] := by
        simp only [List.mem_cons, List.not_mem_nil, or_false] at hk ⊢
        exact hk.imp_right fun h => h.resolve_left hne
      have members : partsOf k (.arr none (distinctOccurrences (left ++ right))) =
          distinctOccurrences (left ++ right) := by
        rcases List.mem_pair.1 listed with rfl | rfl <;> rfl
      rw [members] at hs
      rcases List.mem_append.1 (mem_of_mem_distinctOccurrences hs) with hs | hs
      · exact ha.of_mem_entries listed hx hl hs
      · exact hAB.everywhere_weaken (hb.of_mem_entries listed hy hr hs)

/-- **What holds everywhere in two schemas holds everywhere in their merge**, as long as it holds of
the blends. -/
theorem everywhere_merge (hAB : Mergeable A B) {conjunction : Bool} {a b m : Json}
    (ha : Everywhere (OfMembers A) a) (hb : Everywhere (OfMembers B) b) (hpb : b.Proper)
    (h : merge conjunction a b = .ok m) : Everywhere (OfMembers A) m := by
  induction a using Json.sizeInduction generalizing b m with
  | step a ih =>
    rcases merge_sourced h with rfl | ⟨r, rfl, hr⟩
    · exact .plain rfl
    · refine .node (fun k z hz => ?_) fun s hs => ?_
      · rcases hr.source k z hz with hz | hz | hz
        · exact ha.fieldsOf k z hz
        · exact (hAB.everywhere_weaken hb).fieldsOf k z hz
        · exact hAB.blend ha.fieldsOf (hAB.everywhere_weaken hb).fieldsOf hb.fieldsOf hz
      · obtain ⟨k, z, hz, hs⟩ := mem_subschemas.1 hs
        rcases hr.source k z hz with hz | hz | hz
        · exact ha.of_mem_partsOf hz hs
        · exact hAB.everywhere_weaken (hb.of_mem_partsOf hz hs)
        · exact hAB.everywhere_blend ha hb hpb (fun x y z hx hxa hyb hyp hxy =>
            ih x hx hxa hyb hyp hxy) hz hs

end Mergeable

end Schema

end Conform
