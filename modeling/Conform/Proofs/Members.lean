/-
# Members of objects, and what holds throughout a value

The members of an object are a list, and a name is looked up in it from the front.  Section 1 says
how every operation on members looks under `Fields.get?`, so that nothing later has to open the
operations again.  As long as no name occurs twice (`Fields.Distinct`), looking up a name and being a
member are the same thing, and every operation keeps it so.

Section 2 is about whole values.  `Json.Throughout p` says `p` of a value and of everything inside it,
and `Json.induction` is the one induction over values: a value may use that the claim holds of its
items or members.
-/
import Conform.Json.Overlay
import Mathlib.Data.List.Nodup

namespace Conform

/-! ## 1. Members under look-up -/

namespace Fields

variable {fields a b : Fields} {k j : String} {x y : Json}

@[simp] theorem get?_nil : get? [] k = none := rfl

theorem get?_cons : get? ((j, x) :: fields) k = if k = j then some x else get? fields k := by
  by_cases h : k = j
  · subst h
    simp [get?]
  · have hb : (k == j) = false := by simpa using h
    simp [get?, List.lookup_cons, hb, h]

theorem get?_eq_none_iff : get? fields k = none ↔ k ∉ names fields := by
  induction fields with
  | nil => simp [names]
  | cons f rest ih =>
    obtain ⟨j, y⟩ := f
    rw [get?_cons]
    by_cases h : k = j
    · simp [h, names]
    · simp only [h, if_false, ih, names, List.map_cons, List.mem_cons, false_or]

theorem has_iff : has fields k = true ↔ k ∈ names fields := by
  rw [has, Option.isSome_iff_ne_none, ne_eq, get?_eq_none_iff, not_not]

theorem has_eq_false_iff : has fields k = false ↔ get? fields k = none := by
  simp [has]

theorem mem_names_of_get? (h : get? fields k = some x) : k ∈ names fields :=
  List.mem_map.2 ⟨(k, x), Json.mem_of_get? h, rfl⟩

theorem mem_names_of_mem (h : (k, x) ∈ fields) : k ∈ names fields :=
  List.mem_map.2 ⟨(k, x), h, rfl⟩

theorem exists_get?_of_mem_names (h : k ∈ names fields) : ∃ x, get? fields k = some x := by
  cases hx : get? fields k with
  | some x => exact ⟨x, rfl⟩
  | none => exact absurd h (get?_eq_none_iff.1 hx)

@[simp] theorem distinct_nil : Distinct [] := List.nodup_nil

theorem distinct_cons : Distinct ((k, x) :: fields) ↔ k ∉ names fields ∧ Distinct fields :=
  List.nodup_cons

/-- **Being a member and being found are the same**, as long as no name occurs twice. -/
theorem get?_of_mem (hd : Distinct fields) (h : (k, x) ∈ fields) : get? fields k = some x := by
  induction fields with
  | nil => cases h
  | cons f rest ih =>
    obtain ⟨j, y⟩ := f
    obtain ⟨hj, hrest⟩ := distinct_cons.1 hd
    rw [get?_cons]
    rcases List.mem_cons.1 h with he | h
    · cases he
      simp
    · have hne : k ≠ j := fun e => hj (e ▸ mem_names_of_mem h)
      rw [if_neg hne]
      exact ih hrest h

/-- **Members with the same names in the same order are equal if they are under every name.** -/
theorem eq_of_get? (hn : names a = names b) (hd : Distinct a) (h : ∀ k, get? a k = get? b k) :
    a = b := by
  induction a generalizing b with
  | nil =>
    cases b with
    | nil => rfl
    | cons f rest => cases hn
  | cons f rest ih =>
    cases b with
    | nil => cases hn
    | cons g others =>
      obtain ⟨i, x⟩ := f
      obtain ⟨j, y⟩ := g
      simp only [names, List.map_cons, List.cons.injEq] at hn
      obtain ⟨rfl, hrest⟩ := hn
      obtain ⟨hi, hd⟩ := distinct_cons.1 hd
      have hxy : x = y := by simpa [get?_cons] using h i
      have heq : rest = others := by
        refine ih hrest hd fun k => ?_
        by_cases hk : k = i
        · subst hk
          have hi' : k ∉ names others := by
            rw [← show names rest = names others from hrest]
            exact hi
          rw [get?_eq_none_iff.2 hi, get?_eq_none_iff.2 hi']
        · simpa [get?_cons, hk] using h k
      rw [hxy, heq]

/-! ### Setting a member -/

@[simp] theorem get?_put : get? (put fields k x) j = if j = k then some x else get? fields j := by
  induction fields with
  | nil => simp [put, get?_cons]
  | cons f rest ih =>
    obtain ⟨i, y⟩ := f
    by_cases hi : i = k
    · subst hi
      by_cases hj : j = i <;> simp [put, get?_cons, hj]
    · rw [put, if_neg hi, get?_cons, get?_cons, ih]
      by_cases hj : j = i
      · subst hj
        simp [hi]
      · simp [hj]

theorem mem_put (h : (j, y) ∈ put fields k x) : (j = k ∧ y = x) ∨ (j, y) ∈ fields := by
  induction fields with
  | nil =>
    simp only [put, List.mem_singleton, Prod.mk.injEq] at h
    exact .inl h
  | cons f rest ih =>
    obtain ⟨i, z⟩ := f
    by_cases hi : i = k
    · simp only [put, hi, if_true, List.mem_cons, Prod.mk.injEq] at h
      rcases h with h | h
      · exact .inl h
      · exact .inr (List.mem_cons_of_mem _ h)
    · simp only [put, hi, if_false, List.mem_cons] at h
      rcases h with h | h
      · exact .inr (h ▸ List.mem_cons_self ..)
      · exact (ih h).imp_right (List.mem_cons_of_mem _)

theorem names_put :
    names (put fields k x) = if k ∈ names fields then names fields else names fields ++ [k] := by
  induction fields with
  | nil => simp [put, names]
  | cons f rest ih =>
    obtain ⟨i, z⟩ := f
    by_cases hi : i = k
    · simp [put, hi, names]
    · have hki : ¬ k = i := fun e => hi e.symm
      simp only [put, hi, if_false, names, List.map_cons, List.mem_cons, hki, false_or] at ih ⊢
      rw [ih]
      by_cases hk : k ∈ rest.map (·.1)
      · simp only [hk, if_true]
      · simp only [hk, if_false, List.cons_append]

theorem put_of_notMem (h : k ∉ names fields) : put fields k x = fields ++ [(k, x)] := by
  induction fields with
  | nil => rfl
  | cons f rest ih =>
    obtain ⟨i, z⟩ := f
    simp only [names, List.map_cons, List.mem_cons, not_or] at h ih
    rw [put, if_neg (fun e => h.1 e.symm), ih h.2, List.cons_append]

/-- Setting a member to what it is changes nothing. -/
theorem put_of_get? (h : get? fields k = some x) : put fields k x = fields := by
  induction fields with
  | nil => simp at h
  | cons f rest ih =>
    obtain ⟨i, z⟩ := f
    rw [get?_cons] at h
    by_cases hi : k = i
    · simp only [hi, if_true, Option.some.injEq] at h
      simp [put, hi, h]
    · rw [if_neg hi] at h
      rw [put, if_neg (fun e => hi e.symm), ih h]

theorem Distinct.put (hd : Distinct fields) : Distinct (put fields k x) := by
  rw [Distinct, names_put]
  split
  · exact hd
  · next h => exact List.Nodup.append hd (List.nodup_singleton k) (by simpa using h)

/-! ### Members over members -/

theorem union_nil : union a [] = a := rfl

theorem union_cons : union a ((k, x) :: b) = union (put a k x) b := rfl

theorem get?_union (hb : Distinct b) : get? (union a b) k = (get? b k).or (get? a k) := by
  induction b generalizing a with
  | nil => simp [union_nil]
  | cons f rest ih =>
    obtain ⟨i, z⟩ := f
    obtain ⟨hi, hrest⟩ := distinct_cons.1 hb
    rw [union_cons, ih hrest, get?_put, get?_cons]
    by_cases hk : k = i
    · subst hk
      simp [get?_eq_none_iff.2 hi]
    · simp [hk]

theorem mem_union (h : (k, x) ∈ union a b) : (k, x) ∈ a ∨ (k, x) ∈ b := by
  induction b generalizing a with
  | nil => exact .inl h
  | cons f rest ih =>
    obtain ⟨i, z⟩ := f
    rw [union_cons] at h
    rcases ih h with h | h
    · rcases mem_put h with ⟨rfl, rfl⟩ | h
      · exact .inr (List.mem_cons_self ..)
      · exact .inl h
    · exact .inr (List.mem_cons_of_mem _ h)

theorem Distinct.union (ha : Distinct a) : Distinct (union a b) := by
  induction b generalizing a with
  | nil => exact ha
  | cons f rest ih => exact ih ha.put

/-- New members go to the end. -/
theorem union_of_disjoint (hb : Distinct b) (h : ∀ k ∈ names b, k ∉ names a) :
    union a b = a ++ b := by
  induction b generalizing a with
  | nil => simp [union_nil]
  | cons f rest ih =>
    obtain ⟨i, z⟩ := f
    obtain ⟨hi, hrest⟩ := distinct_cons.1 hb
    have hia : i ∉ names a := h i (by simp [names])
    rw [union_cons, put_of_notMem hia, ih hrest, List.append_assoc, List.singleton_append]
    intro k hk hka
    simp only [names, List.map_append, List.map_cons, List.map_nil, List.mem_append,
      List.mem_singleton] at hka
    rcases hka with hka | rfl
    · exact h k (by simp only [names, List.map_cons, List.mem_cons]; exact .inr hk) hka
    · exact hi hk

/-- Only the names of the first matter to the names of both. -/
theorem names_union_congr {a' : Fields} (h : names a = names a') :
    names (union a b) = names (union a' b) := by
  induction b generalizing a a' with
  | nil => exact h
  | cons m rest ih =>
    obtain ⟨k, x⟩ := m
    rw [union_cons, union_cons]
    exact ih (by rw [names_put, names_put, h])

/-- Names that are new go to the end, in their own order. -/
theorem names_union (hb : Distinct b) :
    names (union a b) = names a ++ (names b).filter (· ∉ names a) := by
  induction b generalizing a with
  | nil => simp [union_nil, names]
  | cons m rest ih =>
    obtain ⟨k, x⟩ := m
    obtain ⟨hk, hrest⟩ := distinct_cons.1 hb
    have split : names ((k, x) :: rest) = k :: names rest := rfl
    rw [union_cons, ih hrest, names_put, split]
    by_cases hka : k ∈ names a
    · rw [if_pos hka, List.filter_cons_of_neg (by simpa using hka)]
    · have later : (names rest).filter (· ∉ names a ++ [k]) = (names rest).filter (· ∉ names a) := by
        refine List.filter_congr fun j hj => ?_
        have hjk : j ≠ k := fun e => hk (e ▸ hj)
        simp [hjk]
      rw [if_neg hka, List.filter_cons_of_pos (by simpa using hka), later, List.append_assoc,
        List.singleton_append]

/-! ### Leaving members out -/

theorem get?_filter_name (p : String → Bool) :
    get? (fields.filter fun field => p field.1) k = if p k then get? fields k else none := by
  induction fields with
  | nil => simp
  | cons f rest ih =>
    obtain ⟨i, z⟩ := f
    by_cases hk : k = i
    · subst hk
      by_cases hp : p k
      · simp [hp, get?_cons]
      · simp [hp, ih]
    · by_cases hp : p i
      · simp [hp, get?_cons, hk, ih]
      · simp [hp, get?_cons, hk, ih]

theorem Distinct.filter {p : String × Json → Bool} (hd : Distinct fields) :
    Distinct (fields.filter p) :=
  List.Nodup.sublist (List.Sublist.map _ List.filter_sublist) hd

@[simp] theorem get?_without {keys : List String} :
    get? (without fields keys) k = if k ∈ keys then none else get? fields k := by
  rw [without, get?_filter_name (fun name => !keys.contains name)]
  by_cases h : k ∈ keys <;> simp [h]

@[simp] theorem get?_erase : get? (erase fields j) k = if k = j then none else get? fields k := by
  rw [erase, get?_filter_name (fun name => name != j)]
  by_cases h : k = j <;> simp [h]

theorem mem_of_mem_without {keys : List String} (h : (k, x) ∈ without fields keys) :
    (k, x) ∈ fields :=
  List.mem_of_mem_filter h

theorem mem_of_mem_erase (h : (k, x) ∈ erase fields j) : (k, x) ∈ fields :=
  List.mem_of_mem_filter h

end Fields

/-! ## 2. Whole values -/

namespace Json

/-- What stands directly inside a value: the items of an array, the values of an object. -/
def children : Json → List Json
  | .arr _ items => items
  | .obj _ fields => fields.map (·.2)
  | _ => []

theorem size_lt_of_mem_children {x y : Json} (h : y ∈ children x) : y.size < x.size := by
  cases x with
  | arr tag items => exact size_lt_of_mem_items tag h
  | obj tag fields =>
    obtain ⟨f, hf, rfl⟩ := List.mem_map.1 h
    exact size_lt_of_mem_fields tag hf
  | _ => cases h

/-- Induction over sizes: a value may use the claim of whatever is smaller. -/
@[elab_as_elim]
theorem sizeInduction {motive : Json → Prop} (x : Json)
    (step : ∀ x, (∀ y : Json, y.size < x.size → motive y) → motive x) : motive x :=
  step x fun y _h => sizeInduction y step
termination_by x.size

/-- **Induction over values**: a value may use the claim of whatever stands directly inside it. -/
@[elab_as_elim]
theorem induction {motive : Json → Prop} (x : Json)
    (step : ∀ x, (∀ y ∈ children x, motive y) → motive x) : motive x :=
  sizeInduction x fun x ih => step x fun y hy => ih y (size_lt_of_mem_children hy)

/-- Something holds of a value and of everything inside it. -/
inductive Throughout (p : Json → Prop) : Json → Prop
  | intro {x : Json} (here : p x) (inside : ∀ y ∈ children x, Throughout p y) : Throughout p x

namespace Throughout

variable {p : Json → Prop}

theorem here {x : Json} : Throughout p x → p x
  | intro here _ => here

theorem inner {x y : Json} (h : Throughout p x) (hy : y ∈ children x) : Throughout p y := by
  cases h with
  | intro _ inside => exact inside y hy

theorem imp {q : Json → Prop} {x : Json} (h : Throughout p x) (hpq : ∀ y, p y → q y) :
    Throughout q x := by
  induction h with
  | intro here _ ih => exact .intro (hpq _ here) ih

theorem of_mem_items {tag : Tag} {items : List Json} {x : Json}
    (h : Throughout p (.arr tag items)) (hx : x ∈ items) : Throughout p x := h.inner hx

theorem of_mem_fields {tag : Tag} {fields : Fields} {k : String} {x : Json}
    (h : Throughout p (.obj tag fields)) (hx : (k, x) ∈ fields) : Throughout p x :=
  h.inner (List.mem_map.2 ⟨(k, x), hx, rfl⟩)

theorem of_get? {tag : Tag} {fields : Fields} {k : String} {x : Json}
    (h : Throughout p (.obj tag fields)) (hx : Fields.get? fields k = some x) :
    Throughout p x :=
  h.of_mem_fields (mem_of_get? hx)

end Throughout

/-- No name occurs twice in the value, if it is an object. -/
def HasDistinctNames : Json → Prop
  | .obj _ fields => Fields.Distinct fields
  | _ => True

/-- **A proper value**: in none of its objects does a name occur twice.  Everything that can be
written down as a document is proper. -/
abbrev Proper (x : Json) : Prop := Throughout HasDistinctNames x

/-- There is no null anywhere in the value. -/
abbrev NullFree (x : Json) : Prop := Throughout (· ≠ .null) x

theorem Proper.distinct {tag : Tag} {fields : Fields} (h : Proper (.obj tag fields)) :
    Fields.Distinct fields := h.here

theorem proper_arr {tag : Tag} {items : List Json} (h : ∀ x ∈ items, Proper x) :
    Proper (.arr tag items) := .intro trivial h

theorem proper_obj {tag : Tag} {fields : Fields} (hd : Fields.Distinct fields)
    (h : ∀ k x, (k, x) ∈ fields → Proper x) : Proper (.obj tag fields) :=
  .intro hd fun y hy => by
    obtain ⟨⟨k, x⟩, hm, rfl⟩ := List.mem_map.1 hy
    exact h k x hm

/-- A value without anything inside is proper. -/
theorem proper_atom {x : Json} (h : HasDistinctNames x) (hc : children x = []) : Proper x :=
  .intro h fun y hy => by
    rw [hc] at hy
    cases hy

theorem proper_str (s : String) : Proper (.str s) := proper_atom trivial rfl

/-- The tag of an object does not matter. -/
theorem Proper.retag {tag tag' : Tag} {fields : Fields} (h : Proper (.obj tag fields)) :
    Proper (.obj tag' fields) :=
  proper_obj h.distinct fun _ _ hm => h.of_mem_fields hm

/-- A name is listed if it stands among the items. -/
theorem listsName_iff {items : List Json} {name : String} :
    listsName items name = true ↔ .str name ∈ items := by
  simp only [listsName, List.any_eq_true]
  constructor
  · rintro ⟨x, hx, h⟩
    cases x with
    | str s =>
      obtain rfl : s = name := by simpa using h
      exact hx
    | _ => cases h
  · exact fun h => ⟨_, h, by simp⟩

/-- Among other values a text is only loosely equal to itself. -/
theorem mem_of_isAmong {items : List Json} {name : String}
    (h : isAmong (.str name) items = true) : .str name ∈ items := by
  obtain ⟨x, hx, he⟩ := List.any_eq_true.1 h
  cases x with
  | str s =>
    obtain rfl : name = s := by simpa [looselyEqual] using he
    exact hx
  | _ => simp [looselyEqual] at he

end Json

end Conform
