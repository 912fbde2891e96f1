/-
# Well-formed schemas

A schema is well formed if every keyword holds what belongs there (`Shape`), in the schema and in all
schemas below it.  Here that means all of them: conditions, what is negated, what is looked for in a
list and what names are asked for are schemas as well, although a resolution only probes them.

A resolution seldom works with the schemas that were given to it.  It works with what is left of
them, with schemas reduced to one type, merged or united.  All of these are well formed if they are
made of well-formed schemas (Section 3), so that nothing else is ever met on the way.
-/
import Conform.Proofs.Merging

namespace Conform

open Fields (get?)

namespace Schema

/-! ## 1. What belongs to a keyword -/

/-- What a keyword holds. -/
inductive Shape where
  | schema
  | schemas
  /-- A schema, or a list of schemas. -/
  | schemaOrSchemas
  /-- Schemas by name. -/
  | table
  /-- Schemas by pattern. -/
  | patternTable
  /-- A text, or a list of texts. -/
  | type
  | texts
  /-- Lists of texts by name. -/
  | textTable
  | list
  | number
  /-- A number, or a boolean. -/
  | bound
  | pattern
  | format
  /-- Nothing at all: the keyword does not occur. -/
  | nothing
  | anything
  deriving DecidableEq

/-- **The texts that a schema may use**: as formats, and as patterns. -/
structure Terms where
  formats : String → Bool
  patterns : String → Bool

/-- Is the value a text? -/
def isText : Json → Bool
  | .str _ => true
  | _ => false

/-- Is the value a list of texts? -/
def isTextList : Json → Bool
  | .arr _ items => items.all isText
  | _ => false

namespace Shape

/-- What belongs to a keyword. -/
def ofKeyword (keyword : String) : Shape :=
  if keyword ∈ ["additionalProperties", "additionalItems", "propertyNames", "contains", "not",
    "if", "then", "else"] then .schema
  else if keyword ∈ ["prefixItems", "allOf", "anyOf", "oneOf"] then .schemas
  else if keyword = "items" then .schemaOrSchemas
  else if keyword ∈ ["properties", "dependentSchemas"] then .table
  else if keyword = "patternProperties" then .patternTable
  else if keyword = "type" then .type
  else if keyword = "required" then .texts
  else if keyword = "dependentRequired" then .textTable
  else if keyword = "enum" then .list
  else if keyword ∈ ["minLength", "maxLength", "minItems", "maxItems", "minContains",
    "maxContains", "minProperties", "maxProperties", "minimum", "maximum", "multipleOf"]
    then .number
  else if keyword ∈ ["exclusiveMinimum", "exclusiveMaximum"] then .bound
  else if keyword = "pattern" then .pattern
  else if keyword = "format" then .format
  else if keyword = "$ref" then .nothing
  else .anything

/-- Is the value what belongs there, the schemas inside it aside?  Only some formats and patterns are
admitted. -/
def fits (terms : Terms) : Shape → Json → Bool
  | .schema, _ => true
  | .schemas, .arr _ _ => true
  | .schemaOrSchemas, _ => true
  | .table, .obj _ _ => true
  | .patternTable, .obj _ fields => (Fields.names fields).all terms.patterns
  | .type, x => isText x || isTextList x
  | .texts, x => isTextList x
  | .textTable, .obj _ fields => fields.all fun field => isTextList field.2
  | .list, .arr _ _ => true
  | .number, x => x.isNumber
  | .bound, .bool _ => true
  | .bound, x => x.isNumber
  | .pattern, .str s => terms.patterns s
  | .format, .str s => terms.formats s
  | .anything, _ => true
  | _, _ => false

/-- Where the schemas stand in it. -/
def place : Shape → Place
  | .schema => .itself
  | .schemas => .list
  | .schemaOrSchemas => .listOrItself
  | .table => .table
  | .patternTable => .table
  | _ => .nowhere

end Shape

/-- The schemas in what a keyword holds. -/
def schemasIn (k : String) (x : Json) : List Json := (Shape.ofKeyword k).place.schemas x

/-- The schemas that a resolution can come to are among them. -/
theorem mem_schemasIn_of_mem_partsOf {k : String} {x s : Json} (h : s ∈ partsOf k x) :
    s ∈ schemasIn k x := by
  unfold partsOf Place.ofKeyword at h
  split at h
  · next hk =>
    simp only [List.mem_cons, List.not_mem_nil, or_false] at hk
    rcases hk with rfl | rfl | rfl <;> exact h
  · split at h
    · next hk =>
      simp only [List.mem_cons, List.not_mem_nil, or_false] at hk
      rcases hk with rfl | rfl | rfl <;> exact h
    · split at h
      · next hk =>
        simp only [List.mem_cons, List.not_mem_nil, or_false] at hk
        rcases hk with rfl | rfl | rfl | rfl <;> exact h
      · split at h
        · next hk =>
          subst hk
          exact h
        · cases h

/-! ## 2. Well-formed schemas -/

/-- **A schema in which every keyword holds what belongs there**, as in all schemas below it.  Only
some formats and patterns are admitted. -/
inductive Formed (terms : Terms) : Json → Prop
  | boolean (b : Bool) : Formed terms (.bool b)
  | node {tag : Tag} {fields : Fields}
      (fits : ∀ k x, (k, x) ∈ fields → (Shape.ofKeyword k).fits terms x = true)
      (inner : ∀ k x, (k, x) ∈ fields → ∀ s ∈ schemasIn k x, Formed terms s) :
      Formed terms (.obj tag fields)

/-- What a keyword holds in such a schema. -/
structure Holds (terms : Terms) (k : String) (x : Json) : Prop where
  fits : (Shape.ofKeyword k).fits terms x = true
  inner : ∀ s ∈ schemasIn k x, Formed terms s

/-- **A well-formed schema.** -/
structure WellFormed (terms : Terms) (s : Json) : Prop where
  formed : Formed terms s
  proper : s.Proper

section Forms

variable {terms : Terms} {tag tag' : Tag} {fields fields' : Fields} {k : String}
  {x y s : Json}

theorem formed_obj (h : ∀ k x, (k, x) ∈ fields → Holds terms k x) :
    Formed terms (.obj tag fields) :=
  .node (fun k x hx => (h k x hx).fits) fun k x hx => (h k x hx).inner

theorem Formed.holds (h : Formed terms (.obj tag fields)) (hx : (k, x) ∈ fields) :
    Holds terms k x := by
  cases h with
  | node fits inner => exact ⟨fits k x hx, inner k x hx⟩

theorem Formed.get? (h : Formed terms (.obj tag fields)) (hk : Fields.get? fields k = some x) :
    Holds terms k x := h.holds (Json.mem_of_get? hk)

theorem Formed.holds_fieldsOf (h : Formed terms s) (hx : (k, x) ∈ fieldsOf s) :
    Holds terms k x := by
  cases s with
  | obj tag fields => exact h.holds hx
  | _ => cases hx

/-- Leaving members out and setting others keeps a schema well formed. -/
theorem Formed.of_subset (h : Formed terms (.obj tag fields))
    (hsub : ∀ k x, (k, x) ∈ fields' → (k, x) ∈ fields ∨ Holds terms k x) :
    Formed terms (.obj tag' fields') :=
  formed_obj fun k x hx => (hsub k x hx).elim h.holds id

theorem isText_iff : isText x = true ↔ ∃ s, x = .str s := by
  cases x <;> simp [isText]

theorem isTextList_iff : isTextList x = true ↔
    ∃ tag items, x = .arr tag items ∧ ∀ y ∈ items, isText y = true := by
  cases x <;> simp [isTextList]

namespace Holds

/-- What a keyword holds by its shape, the schemas in it apart. -/
theorem fits_of {shape : Shape} (h : Holds terms k x) (hk : Shape.ofKeyword k = shape) :
    shape.fits terms x = true := hk ▸ h.fits

theorem inner_of {shape : Shape} (h : Holds terms k x) (hk : Shape.ofKeyword k = shape) :
    ∀ s ∈ shape.place.schemas x, Formed terms s := hk ▸ h.inner

theorem of_shape {shape : Shape} (hk : Shape.ofKeyword k = shape)
    (fits : shape.fits terms x = true)
    (inner : ∀ s ∈ shape.place.schemas x, Formed terms s) : Holds terms k x := by
  subst hk
  exact ⟨fits, inner⟩

theorem schema (h : Holds terms k x) (hk : Shape.ofKeyword k = .schema) : Formed terms x :=
  h.inner_of hk x (List.mem_singleton_self x)

theorem of_schema (hk : Shape.ofKeyword k = .schema) (h : Formed terms x) : Holds terms k x :=
  of_shape hk rfl fun _ hs => List.mem_singleton.1 hs ▸ h

theorem schemas (h : Holds terms k x) (hk : Shape.ofKeyword k = .schemas) :
    ∃ tag items, x = .arr tag items ∧ ∀ s ∈ items, Formed terms s := by
  have hx := h.fits_of hk
  have inner := h.inner_of hk
  cases x with
  | arr tag items => exact ⟨tag, items, rfl, inner⟩
  | _ => cases hx

theorem table (h : Holds terms k x) (hk : Shape.ofKeyword k = .table) :
    ∃ tag fields, x = .obj tag fields ∧ ∀ j s, (j, s) ∈ fields → Formed terms s := by
  have hx := h.fits_of hk
  have inner := h.inner_of hk
  cases x with
  | obj tag fields =>
    exact ⟨tag, fields, rfl, fun j s hs => inner s (List.mem_map.2 ⟨(j, s), hs, rfl⟩)⟩
  | _ => cases hx

theorem patternTable (h : Holds terms "patternProperties" x) :
    ∃ tag fields, x = .obj tag fields ∧
      ∀ j s, (j, s) ∈ fields → terms.patterns j = true ∧ Formed terms s := by
  have hx := h.fits
  have inner := h.inner
  cases x with
  | obj tag fields =>
    refine ⟨tag, fields, rfl, fun j s hs => ⟨?_, inner s (List.mem_map.2 ⟨(j, s), hs, rfl⟩)⟩⟩
    exact List.all_eq_true.1 hx j (Fields.mem_names_of_mem hs)
  | _ => cases hx

theorem textTable (h : Holds terms "dependentRequired" x) :
    ∃ tag fields, x = .obj tag fields ∧ ∀ j y, (j, y) ∈ fields → isTextList y = true := by
  have hx := h.fits
  cases x with
  | obj tag fields => exact ⟨tag, fields, rfl, fun j y hy => List.all_eq_true.1 hx _ hy⟩
  | _ => cases hx

theorem list (h : Holds terms "enum" x) : ∃ tag items, x = .arr tag items := by
  have hx := h.fits
  cases x with
  | arr tag items => exact ⟨tag, items, rfl⟩
  | _ => cases hx

/-- What is said of items is one schema, if it is an object. -/
theorem items (h : Holds terms "items" x) (ho : x.isObject = true) : Formed terms x := by
  cases x with
  | obj tag fields => exact h.inner _ (List.mem_singleton_self _)
  | _ => cases ho

/-- The types that a keyword lists are texts. -/
theorem listedTypes (h : Holds terms "type" x) : ∀ y ∈ listedTypes x, isText y = true := by
  have hx : (isText x || isTextList x) = true := h.fits
  intro y hy
  cases x with
  | arr tag items => exact List.all_eq_true.1 hx y hy
  | _ => exact List.mem_singleton.1 hy ▸ (by simpa [isTextList] using hx)

end Holds

/-! ## 3. Schemas made of well-formed schemas -/

theorem Formed.without {keys : List String} (h : Formed terms (.obj tag fields)) :
    Formed terms (.obj tag' (Fields.without fields keys)) :=
  h.of_subset fun _ _ hx => .inl (Fields.mem_of_mem_without hx)

theorem Formed.erase {key : String} (h : Formed terms (.obj tag fields)) :
    Formed terms (.obj tag' (Fields.erase fields key)) :=
  h.of_subset fun _ _ hx => .inl (Fields.mem_of_mem_erase hx)

theorem Formed.restrict {name : String} (h : Formed terms (.obj tag fields)) :
    Formed terms (.obj tag' (restrict fields (.str name))) := by
  refine h.of_subset fun k x hx => ?_
  rcases mem_restrict hx with hx | ⟨rfl, rfl⟩
  · exact .inl hx
  · exact .inr ⟨rfl, fun _ hs => nomatch hs⟩

section United

open Json (unite uniteFields)

/-- What is united fits, if both do. -/
theorem Shape.fits_unite {shape : Shape} (hy : y.Proper) (hx : shape.fits terms x = true)
    (hy' : shape.fits terms y = true) : shape.fits terms (unite x y) = true := by
  have texts_unite : ∀ {u v : Json}, isTextList u = true → isTextList v = true →
      isTextList (unite u v) = true := by
    intro u v hu hv
    obtain ⟨tag, us, rfl, hus⟩ := isTextList_iff.1 hu
    obtain ⟨tag', vs, rfl, hvs⟩ := isTextList_iff.1 hv
    rw [unite]
    refine List.all_eq_true.2 fun z hz => ?_
    exact (List.mem_append.1 (mem_of_mem_distinct hz)).elim (hus z) (hvs z)
  rcases unite_cases x y with ⟨tag, f, tag', g, rfl, rfl, h⟩ | ⟨tag, xs, tag', ys, rfl, rfl, h⟩ | h
  · have members := fun k z hz => @mem_uniteFields f g k z hy.distinct hz
    rw [h]
    cases shape
    case patternTable =>
      have hf : ∀ j ∈ Fields.names f, terms.patterns j = true := List.all_eq_true.1 hx
      have hg : ∀ j ∈ Fields.names g, terms.patterns j = true := List.all_eq_true.1 hy'
      refine List.all_eq_true.2 fun j hj => ?_
      obtain ⟨z, hz⟩ := Fields.exists_get?_of_mem_names hj
      rcases members j z (Json.mem_of_get? hz) with hz | hz | ⟨u, _, hu, _, _⟩
      · exact hf j (Fields.mem_names_of_mem hz)
      · exact hg j (Fields.mem_names_of_mem hz)
      · exact hf j (Fields.mem_names_of_mem hu)
    case textTable =>
      have hf : ∀ field ∈ f, isTextList field.2 = true := List.all_eq_true.1 hx
      have hg : ∀ field ∈ g, isTextList field.2 = true := List.all_eq_true.1 hy'
      refine List.all_eq_true.2 fun member hz => ?_
      obtain ⟨j, z⟩ := member
      rcases members j z hz with hz | hz | ⟨u, v, hu, hv, rfl⟩
      · exact hf _ hz
      · exact hg _ hz
      · exact texts_unite (hf _ hu) (hg _ hv)
    all_goals exact hx
  · cases shape
    case type | texts =>
      have hxs : isTextList (.arr tag xs) = true := hx
      have hys : isTextList (.arr tag' ys) = true := hy'
      exact texts_unite hxs hys
    all_goals
      rw [h]
      exact hx
  · rwa [h]

/-- United members hold what belongs there, if they do and the schemas in them do when united. -/
theorem holds_unite_of (hpy : y.Proper) (hx : Holds terms k x) (hy : Holds terms k y)
    (ih : ∀ p q : Json, p.size ≤ x.size → q.Proper → Formed terms p → Formed terms q →
      Formed terms (unite p q)) : Holds terms k (unite x y) := by
  refine ⟨Shape.fits_unite hpy hx.fits hy.fits, fun s hs => ?_⟩
  rcases Place.mem_schemas_unite hpy hs with hs | hs | ⟨-, p, q, hp, hq, rfl⟩
  · exact hx.inner s hs
  · exact hy.inner s hs
  · exact ih p q (Place.size_le_of_mem_schemas hp) (Place.proper_of_mem_schemas hpy hq)
      (hx.inner p hp) (hy.inner q hq)

/-- **United well-formed schemas are well formed.** -/
theorem formed_unite (hy : y.Proper) (hx : Formed terms x) (hy' : Formed terms y) :
    Formed terms (unite x y) := by
  induction x using Json.sizeInduction generalizing y with
  | step x ih =>
    rcases unite_cases x y with ⟨tag, f, tag', g, rfl, rfl, h⟩ | ⟨_, _, _, _, rfl, _, _⟩ | h
    · rw [h]
      refine formed_obj fun k z hz => ?_
      rcases mem_uniteFields hy.distinct hz with hz | hz | ⟨u, v, hu, hv, rfl⟩
      · exact hx.holds hz
      · exact hy'.holds hz
      · refine holds_unite_of (hy.of_mem_fields hv) (hx.holds hu) (hy'.holds hv) ?_
        exact fun p q hp hq => ih p (Nat.lt_of_le_of_lt hp (Json.size_lt_of_mem_fields tag hu)) hq
    · cases hx
    · rwa [h]

theorem holds_unite (hpy : y.Proper) (hx : Holds terms k x) (hy : Holds terms k y) :
    Holds terms k (unite x y) :=
  holds_unite_of hpy hx hy fun _ _ _ hq => formed_unite hq

end United

section Merged

variable {conjunction : Bool} {a b m z : Json}

/-- The required names of a well-formed schema are texts, also where there are none. -/
theorem texts_of_required {items : List Json} (h : Formed terms s)
    (he : entries ((get? (fieldsOf s) "required").getD (.arr none [])) = .ok items) :
    ∀ y ∈ items, isText y = true := by
  cases hr : get? (fieldsOf s) "required" with
  | none =>
    rw [hr] at he
    cases he
    exact fun _ hy => nomatch hy
  | some x =>
    rw [hr] at he
    obtain ⟨tag, texts, rfl, htexts⟩ :=
      isTextList_iff.1 (h.holds_fieldsOf (Json.mem_of_get? hr)).fits
    cases he
    exact htexts

/-- What blends two members holds what belongs there, if they do. -/
theorem holds_blend (ha : Formed terms a) (hb : Formed terms b) (hpb : b.Proper)
    (ih : ∀ x y z : Json, x.size < a.size → Formed terms x → Formed terms y → y.Proper →
      merge conjunction x y = .ok z → Formed terms z)
    (h : Blend conjunction (fieldsOf a) (fieldsOf b) k z) : Holds terms k z := by
  have left : ∀ {k x}, get? (fieldsOf a) k = some x → Holds terms k x :=
    fun h => ha.holds_fieldsOf (Json.mem_of_get? h)
  have right : ∀ {k x}, get? (fieldsOf b) k = some x → Holds terms k x :=
    fun h => hb.holds_fieldsOf (Json.mem_of_get? h)
  have proper_right : ∀ {k x}, get? (fieldsOf b) k = some x → x.Proper :=
    fun h => proper_of_mem_fieldsOf hpb (Json.mem_of_get? h)
  cases h with
  | @types x y _ hx hy h =>
    have listed := (left hx).listedTypes
    refine ⟨?_, fun _ hs => nomatch hs⟩
    change (isText z || isTextList z) = true
    rcases intersectTypes_eq_ok h with ⟨types, rfl, ht⟩ | ht | rfl
    · exact List.all_eq_true.2 fun type hm => listed type (ht type hm)
    · rw [listed z ht, Bool.true_or]
    · rfl
  | enumeration => exact ⟨rfl, fun _ hs => nomatch hs⟩
  | constant => exact ⟨rfl, fun _ hs => nomatch hs⟩
  | required hl hr =>
    refine ⟨List.all_eq_true.2 fun y hy => ?_, fun _ hs => nomatch hs⟩
    exact (List.mem_append.1 (mem_of_mem_distinct hy)).elim (texts_of_required ha hl y)
      (texts_of_required hb hr y)
  | properties hx hy hl hr hm =>
    refine ⟨rfl, fun s hs => ?_⟩
    obtain ⟨⟨j, s⟩, hjs, rfl⟩ := List.mem_map.1 hs
    obtain ⟨tag, f, rfl, hf⟩ := (left hx).table rfl
    obtain ⟨tag', g, rfl, hg⟩ := (right hy).table rfl
    cases hl
    cases hr
    rcases hm j s hjs with hs | hs | ⟨u, v, hu, hv, hs⟩
    · exact hf j s hs
    · exact hg j s hs
    · refine ih u v s ?_ (hf j u hu) (hg j v hv) ((proper_right hy).of_mem_fields hv) hs
      exact Nat.lt_trans (Json.size_lt_of_mem_fields tag hu)
        (size_lt_of_mem_fieldsOf (Json.mem_of_get? hx))
  | united hk hx hy => exact holds_unite (proper_right hy) (left hx) (right hy)
  | merged hk hx hy hobj h =>
    have size_lt := size_lt_of_mem_fieldsOf (Json.mem_of_get? hx)
    simp only [List.mem_cons, List.not_mem_nil, or_false] at hk
    rcases hk with rfl | rfl | rfl
    · exact .of_schema rfl
        (ih _ _ _ size_lt ((left hx).schema rfl) ((right hy).schema rfl) (proper_right hy) h)
    · -- both are objects, so what is merged are the values themselves, and so is what comes out
      obtain ⟨hxo, hyo⟩ := hobj.resolve_left (by decide)
      have formed := ih _ _ _ size_lt ((left hx).items hxo) ((right hy).items hyo)
        (proper_right hy) h
      refine ⟨rfl, fun s hs => ?_⟩
      cases z with
      | arr tag xs => cases formed
      | _ => exact List.mem_singleton.1 hs ▸ formed
    · exact .of_schema rfl
        (ih _ _ _ size_lt ((left hx).schema rfl) ((right hy).schema rfl) (proper_right hy) h)
  | composed hk hx hy hl hr =>
    have shape : Shape.ofKeyword k = .schemas := by
      simp only [List.mem_cons, List.not_mem_nil, or_false] at hk
      rcases hk with rfl | rfl | rfl <;> rfl
    obtain ⟨tag, xs, rfl, hxs⟩ := (left hx).schemas shape
    obtain ⟨tag', ys, rfl, hys⟩ := (right hy).schemas shape
    cases hl
    cases hr
    refine .of_shape shape rfl fun s hs => ?_
    exact (List.mem_append.1 (mem_of_mem_distinctOccurrences hs)).elim (hxs s) (hys s)

/-- **A merge of well-formed schemas is well formed.** -/
theorem formed_merge (ha : Formed terms a) (hb : Formed terms b) (hpb : b.Proper)
    (h : merge conjunction a b = .ok m) : Formed terms m := by
  induction a using Json.sizeInduction generalizing b m with
  | step a ih =>
    rcases merge_sourced h with rfl | ⟨r, rfl, hr⟩
    · exact .boolean false
    · refine formed_obj fun k z hz => ?_
      rcases hr.source k z hz with hz | hz | hz
      · exact ha.holds_fieldsOf hz
      · exact hb.holds_fieldsOf hz
      · exact holds_blend ha hb hpb (fun x y z hx hxa hyb hyp hxy => ih x hx hxa hyb hyp hxy) hz

end Merged

namespace WellFormed

/-- What a keyword holds in a well-formed schema. -/
theorem inside (h : WellFormed terms (.obj tag fields)) (hk : get? fields k = some x)
    (hs : s ∈ schemasIn k x) : WellFormed terms s :=
  ⟨(h.formed.get? hk).inner s hs, Place.proper_of_mem_schemas (h.proper.of_get? hk) hs⟩

/-- The schema of a position in a list. -/
theorem item (h : WellFormed terms (.obj tag fields)) {i : Nat}
    (hs : Probe.itemSchema fields i = some s) : WellFormed terms s := by
  obtain ⟨k, x, hk, hp⟩ := exists_of_itemSchema hs
  exact h.inside hk (mem_schemasIn_of_mem_partsOf hp)

theorem schema (h : WellFormed terms (.obj tag fields)) (hs : Shape.ofKeyword k = .schema)
    (hk : get? fields k = some x) : WellFormed terms x :=
  ⟨(h.formed.get? hk).schema hs, h.proper.of_get? hk⟩

theorem schemas (h : WellFormed terms (.obj tag fields)) (hs : Shape.ofKeyword k = .schemas)
    (hk : get? fields k = some x) :
    ∃ tag items, x = .arr tag items ∧ ∀ s ∈ items, WellFormed terms s := by
  obtain ⟨tag, items, rfl, formed⟩ := (h.formed.get? hk).schemas hs
  exact ⟨tag, items, rfl, fun s hm => ⟨formed s hm, (h.proper.of_get? hk).of_mem_items hm⟩⟩

theorem without {keys : List String} (h : WellFormed terms (.obj tag fields)) :
    WellFormed terms (.obj tag' (Fields.without fields keys)) :=
  ⟨h.formed.without, proper_without h.proper⟩

theorem restrict {name : String} (h : WellFormed terms (.obj tag fields)) :
    WellFormed terms (.obj tag' (Schema.restrict fields (.str name))) :=
  ⟨h.formed.restrict, proper_restrict h.proper⟩

/-- A well-formed schema stays so when others are merged in. -/
theorem merge {conjunction : Bool} {a b m : Json} (ha : WellFormed terms a)
    (hb : WellFormed terms b) (h : Schema.merge conjunction a b = .ok m) : WellFormed terms m :=
  ⟨formed_merge ha.formed hb.formed hb.proper h, proper_merge ha.proper hb.proper h⟩

end WellFormed

end Forms

/-! ## 4. Deciding whether a schema is well formed -/

/-- Is the schema well formed, down to a depth? -/
def formedTo (terms : Terms) : (depth : Nat) → Json → Bool
  | _, .bool _ => true
  | depth + 1, .obj _ fields => fields.all fun field =>
      (Shape.ofKeyword field.1).fits terms field.2
        && (schemasIn field.1 field.2).all (formedTo terms depth)
  | _, _ => false

theorem formedTo_iff {terms : Terms} {depth : Nat} {s : Json} (hs : s.size ≤ depth) :
    formedTo terms depth s = true ↔ Formed terms s := by
  induction depth generalizing s with
  | zero => exact absurd (Json.size_pos s) (Nat.not_lt.2 hs)
  | succ depth ih =>
    cases s with
    | obj tag fields =>
      have below : ∀ k x, (k, x) ∈ fields → ∀ t ∈ schemasIn k x, t.size ≤ depth :=
        fun k x hx t ht => Nat.le_of_lt_succ (Nat.lt_of_lt_of_le (Nat.lt_of_le_of_lt
          (Place.size_le_of_mem_schemas ht) (Json.size_lt_of_mem_fields tag hx)) hs)
      simp only [formedTo, List.all_eq_true, Bool.and_eq_true, Prod.forall]
      constructor
      · intro h
        exact .node (fun k x hx => (h k x hx).1)
          fun k x hx t ht => (ih (below k x hx t ht)).1 ((h k x hx).2 t ht)
      · intro h k x hx
        exact ⟨(h.holds hx).fits, fun t ht => (ih (below k x hx t ht)).2 ((h.holds hx).inner t ht)⟩
    | bool b => exact iff_of_true rfl (.boolean b)
    | _ => exact iff_of_false Bool.false_ne_true nofun

instance {terms : Terms} : DecidablePred (Formed terms) := fun _ =>
  decidable_of_iff _ (formedTo_iff (Nat.le_refl _))

end Schema

end Conform
