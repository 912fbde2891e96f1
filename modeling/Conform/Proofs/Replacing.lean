/-
# Nulls that stand for true

A schema may be null, and a null schema asks for nothing, just as `true` does.  `Replaced` relates a schema
to one in which nulls are replaced: in any number of the places where one schema stands, at any depth, and
nowhere else.  What is no schema stays as it is.  Required names may be listed anew, as merging lists them.

How much may be replaced depends on what becomes of the schema (`Use`).  If it is only probed, any null may
be.  If it is resolved, lists of schemas are joined in which one occurrence is not listed twice, and null and
true are one occurrence each, but not the same one.  That tells in `oneOf`, which counts its members, so they
have to be told apart as before (`Manner.counted`).  In `allOf` and `anyOf` it does not tell: behind one
member that asks for nothing, others make no difference (`thin`).  Below patterns and members that others
depend on, documents are united and lists joined by their canonical text, so there the members of all lists
have to be told apart as before (`Manner.listed`).

A null in the place of `additionalProperties` is replaced only if the `Manner` says so, for there it does
make a difference.  References are followed in that place and nowhere else, and the `Manner` says which there
are; what stands beside one is merged, so it is related as if it were resolved.

The relation is not reflexive: a schema is related to itself only if lists and tables of schemas and the names
of required members are written as such.  So it is if the schema is well formed but for nulls, and then any one
null may be replaced in it (Section 6).
-/
import Conform.Proofs.Wellformed
import Mathlib.Data.List.Forall2

namespace Conform

open Fields (get?)

/-! ## 1. Members matched up in order -/

/-- **Members under the same names in the same order**, related name by name. -/
inductive Fields.Aligned (C : String → Json → Json → Prop) : Fields → Fields → Prop
  | nil : Aligned C [] []
  | cons {k : String} {x y : Json} {f g : Fields} (h : C k x y) (rest : Aligned C f g) :
      Aligned C ((k, x) :: f) ((k, y) :: g)

namespace Fields.Aligned

variable {C : String → Json → Json → Prop} {f g f' g' : Fields} {k : String} {x y : Json}

theorem forall₂ (h : Aligned C f g) :
    List.Forall₂ (fun a b => a.1 = b.1 ∧ C a.1 a.2 b.2) f g := by
  induction h with
  | nil => exact .nil
  | cons first _ ih => exact .cons ⟨rfl, first⟩ ih

theorem names_eq (h : Aligned C f g) : names f = names g := by
  induction h with
  | nil => rfl
  | @cons k _ _ _ _ _ _ ih => exact congrArg (k :: ·) ih

theorem isEmpty_eq (h : Aligned C f g) : f.isEmpty = g.isEmpty := by
  cases h <;> rfl

/-- **A name is on neither side, or on both**, with related values. -/
theorem get? (h : Aligned C f g) (k : String) :
    (Fields.get? f k = none ∧ Fields.get? g k = none) ∨
      ∃ x y, Fields.get? f k = some x ∧ Fields.get? g k = some y ∧ C k x y := by
  induction h with
  | nil => exact .inl ⟨rfl, rfl⟩
  | @cons i x y f g first _ ih =>
    rw [get?_cons, get?_cons]
    by_cases hk : k = i
    · subst hk
      exact .inr ⟨x, y, if_pos rfl, if_pos rfl, first⟩
    · rw [if_neg hk, if_neg hk]
      exact ih

theorem has_eq (h : Aligned C f g) (k : String) : has f k = has g k := by
  rcases h.get? k with ⟨hf, hg⟩ | ⟨_, _, hf, hg, -⟩ <;> simp [has, hf, hg]

theorem put (h : Aligned C f g) (hxy : C k x y) : Aligned C (put f k x) (put g k y) := by
  induction h with
  | nil => exact .cons hxy .nil
  | @cons i _ _ _ _ first rest ih =>
    rw [Fields.put, Fields.put]
    by_cases hi : i = k
    · subst hi
      rw [if_pos rfl, if_pos rfl]
      exact .cons hxy rest
    · rw [if_neg hi, if_neg hi]
      exact .cons first ih

/-- A member may be set on one side only, if it is still related. -/
theorem put_left {z : Json} (h : Aligned C f g) (hf : Fields.get? f k = some x)
    (hz : ∀ y, Fields.get? g k = some y → C k z y) : Aligned C (Fields.put f k z) g := by
  induction h with
  | nil => cases hf
  | @cons i u v _ _ first rest ih =>
    rw [Fields.put]
    rw [get?_cons] at hf
    by_cases hi : k = i
    · subst hi
      rw [if_pos rfl]
      exact .cons (hz v (by rw [get?_cons, if_pos rfl])) rest
    · rw [if_neg (Ne.symm hi)]
      rw [if_neg hi] at hf
      exact .cons first (ih hf fun y hy => hz y (by rw [get?_cons, if_neg hi, hy]))

theorem put_right {z : Json} (h : Aligned C f g) (hg : Fields.get? g k = some y)
    (hz : ∀ x, Fields.get? f k = some x → C k x z) : Aligned C f (Fields.put g k z) := by
  induction h with
  | nil => cases hg
  | @cons i u v _ _ first rest ih =>
    rw [Fields.put]
    rw [get?_cons] at hg
    by_cases hi : k = i
    · subst hi
      rw [if_pos rfl]
      exact .cons (hz u (by rw [get?_cons, if_pos rfl])) rest
    · rw [if_neg (Ne.symm hi)]
      rw [if_neg hi] at hg
      exact .cons first (ih hg fun x hx => hz x (by rw [get?_cons, if_neg hi, hx]))

/-- Members are left out by their names. -/
theorem filter (h : Aligned C f g) (p : String → Bool) :
    Aligned C (f.filter fun field => p field.1) (g.filter fun field => p field.1) := by
  induction h with
  | nil => exact .nil
  | @cons i _ _ _ _ first _ ih =>
    simp only [List.filter_cons]
    split
    · exact .cons first ih
    · exact ih

theorem erase (h : Aligned C f g) (k : String) : Aligned C (erase f k) (erase g k) :=
  h.filter (· != k)

theorem without (h : Aligned C f g) (keys : List String) :
    Aligned C (without f keys) (without g keys) :=
  h.filter fun name => !keys.contains name

theorem union (h : Aligned C f g) (h' : Aligned C f' g') : Aligned C (union f f') (union g g') := by
  induction h' generalizing f g with
  | nil => exact h
  | cons first _ ih => exact ih (h.put first)

theorem mono {C' : String → Json → Json → Prop} (h : Aligned C f g)
    (hC : ∀ k x y, C k x y → C' k x y) : Aligned C' f g := by
  induction h with
  | nil => exact .nil
  | cons first _ ih => exact .cons (hC _ _ _ first) ih

theorem self (h : ∀ k x, (k, x) ∈ f → C k x x) : Aligned C f f := by
  induction f with
  | nil => exact .nil
  | cons field f ih =>
    exact .cons (h _ _ (.head _)) (ih fun k x hx => h k x (.tail _ hx))

/-- One member is put in the place of another of its name. -/
theorem replace (h : ∀ i z, (i, z) ∈ f ++ (k, x) :: g → C i z z) (hxy : C k x y) :
    Aligned C (f ++ (k, x) :: g) (f ++ (k, y) :: g) := by
  induction f with
  | nil => exact .cons hxy (self fun i z hz => h i z (.tail _ hz))
  | cons field f ih =>
    exact .cons (h _ _ (.head _)) (ih fun k x hx => h k x (.tail _ hx))

end Fields.Aligned

namespace Schema

open Fields (Aligned)

/-! ## 2. Schemas that ask for nothing -/

/-- Is the value one of the two schemas that ask for nothing at all? -/
def isTrivial : Json → Bool
  | .null => true
  | .bool b => b
  | _ => false

/-- Schemas without those that ask for nothing, behind the first of them. -/
def thin : List Json → List Json
  | [] => []
  | x :: rest => if isTrivial x then x :: rest.filter (!isTrivial ·) else x :: thin rest

/-! ## 3. The relation -/

/-- **How nulls are replaced.** -/
structure Manner where
  /-- Are they replaced in the place of `additionalProperties`, too? -/
  additional : Bool
  /-- Which references are there? -/
  referred : String → Prop
  /-- What stands for what among the members of `oneOf`. -/
  counted : Json → Json → Prop
  /-- What stands for what among the members of lists in documents that are united. -/
  listed : Json → Json → Prop
  counted_apart : ∀ {u v u' v' : Json}, counted u v → counted u' v' →
    Json.sameOccurrence u u' = Json.sameOccurrence v v'
  listed_apart : ∀ {u v u' v' : Json}, listed u v → listed u' v' →
    (u.canonical = u'.canonical ↔ v.canonical = v'.canonical)

/-- What becomes of a schema. -/
inductive Use where
  /-- It is probed, and nothing else. -/
  | probed
  | resolved
  /-- It stands in a document that is united with others. -/
  | united

/-- What becomes of the schemas that a keyword holds. -/
def Use.below : Use → String → Use
  | .resolved, k => if k ∈ ["patternProperties", "dependentSchemas"] then .united else .resolved
  | use, _ => use

/-- What becomes of a schema that a keyword holds: if it has a reference that is followed, it is merged. -/
def Use.at : Use → String → Json → Use
  | .probed, k, x =>
    if k = "additionalProperties" ∧ "$ref" ∈ Fields.names (fieldsOf x) then .resolved else .probed
  | use, _, _ => use

variable (manner : Manner)

/-- What may stand in the place of what among the members of a list. -/
def Beside : Use → String → Json → Json → Prop
  | .probed, _, _, _ => True
  | .resolved, k, u, v => k = "oneOf" → manner.counted u v
  | .united, k, u, v => manner.listed u v ∧ (k = "oneOf" → manner.counted u v)

/-- The references among members are texts, and some of those that there are. -/
def Referring (f : Fields) : Prop :=
  ∀ ref, ("$ref", ref) ∈ f → ∃ s, ref = .str s ∧ manner.referred s

/-- What may stand in the place of what for additional members. -/
structure Additional (x y : Json) : Prop where
  replaced : x = .null → y = .null ∨ manner.additional = true
  referring : Referring manner (fieldsOf x)

mutual

/-- **The second schema is the first, but for nulls that are replaced by true.** -/
inductive Replaced : Use → Json → Json → Prop
  | leaf {use : Use} {x : Json} (h : x.isObject = false) : Replaced use x x
  | null {use : Use} : Replaced use .null (.bool true)
  | node {use : Use} {tag : Tag} {f g : Fields} (h : ReplacedMembers use f g) :
      Replaced use (.obj tag f) (.obj tag g)

/-- The members of a schema. -/
inductive ReplacedMembers : Use → Fields → Fields → Prop
  | nil {use : Use} : ReplacedMembers use [] []
  | cons {use : Use} {k : String} {x y : Json} {f g : Fields} (h : ReplacedAt use k x y)
      (rest : ReplacedMembers use f g) : ReplacedMembers use ((k, x) :: f) ((k, y) :: g)

/-- What a keyword holds. -/
inductive ReplacedAt : Use → String → Json → Json → Prop
  | schema {use : Use} {k : String} {x y : Json} (hk : (Shape.ofKeyword k).place = .itself)
      (h : Replaced (use.at k x) x y) (ha : k = "additionalProperties" → Additional manner x y) :
      ReplacedAt use k x y
  /-- One schema for all items. -/
  | lone {use : Use} {k : String} {x y : Json} (hk : (Shape.ofKeyword k).place = .listOrItself)
      (hx : ∀ tag xs, x ≠ .arr tag xs) (h : Replaced use x y) : ReplacedAt use k x y
  | list {use : Use} {k : String} {tag : Tag} {xs ys : List Json}
      (hk : (Shape.ofKeyword k).place ∈ [.list, .listOrItself]) (h : ReplacedItems use k xs ys) :
      ReplacedAt use k (.arr tag xs) (.arr tag ys)
  /-- Schemas that are all asked for, or of which one is. -/
  | composed {use : Use} {k : String} {tag : Tag} {xs ys : List Json} (hk : k ∈ ["allOf", "anyOf"])
      (hu : use ≠ .united) (h : ReplacedItems use k (thin xs) (thin ys)) :
      ReplacedAt use k (.arr tag xs) (.arr tag ys)
  | table {use : Use} {k : String} {tag : Tag} {f g : Fields} (hk : (Shape.ofKeyword k).place = .table)
      (h : ReplacedTable (use.below k) f g) : ReplacedAt use k (.obj tag f) (.obj tag g)
  | required {use : Use} {k : String} {tag tag' : Tag} {xs ys : List Json} (hk : k = "required")
      (h : Json.distinct xs = Json.distinct ys) : ReplacedAt use k (.arr tag xs) (.arr tag' ys)
  | same {use : Use} {k : String} {x : Json} (hk : (Shape.ofKeyword k).place = .nowhere)
      (hr : k ≠ "required") : ReplacedAt use k x x

/-- A list of schemas. -/
inductive ReplacedItems : Use → String → List Json → List Json → Prop
  | nil {use : Use} {k : String} : ReplacedItems use k [] []
  | cons {use : Use} {k : String} {u v : Json} {xs ys : List Json} (hb : Beside manner use k u v)
      (h : Replaced use u v) (rest : ReplacedItems use k xs ys) : ReplacedItems use k (u :: xs) (v :: ys)

/-- Schemas by name or by pattern. -/
inductive ReplacedTable : Use → Fields → Fields → Prop
  | nil {use : Use} : ReplacedTable use [] []
  | cons {use : Use} {k : String} {x y : Json} {f g : Fields} (h : Replaced use x y)
      (rest : ReplacedTable use f g) : ReplacedTable use ((k, x) :: f) ((k, y) :: g)

end

variable {manner} {use use' : Use} {x y u v : Json} {f g : Fields} {k : String} {tag : Tag}

/-! ## 4. Less may be replaced -/

/-- What is replaced for the one use may be replaced for the other. -/
inductive Use.Loosens : Use → Use → Prop
  | refl {use : Use} : Loosens use use
  | probed {use : Use} : Loosens use .probed
  | resolved : Loosens .united .resolved

theorem Use.Loosens.below (h : Loosens use use') (k : String) :
    Loosens (use.below k) (use'.below k) := by
  cases h with
  | refl => exact .refl
  | probed => exact .probed
  | resolved =>
    simp only [Use.below]
    split
    · exact .refl
    · exact .resolved

theorem Use.below_loosens (k : String) : Loosens (Use.resolved.below k) .resolved := by
  simp only [Use.below]
  split
  · exact .resolved
  · exact .refl

theorem Use.Loosens.at (h : Loosens use use') (k : String) (x : Json) :
    Loosens (use.at k x) (use'.at k x) := by
  cases h with
  | refl => exact .refl
  | resolved => exact .resolved
  | probed =>
    by_cases followed : k = "additionalProperties" ∧ "$ref" ∈ Fields.names (fieldsOf x)
    · cases use with
      | probed => exact .refl
      | resolved => simpa only [Use.at, if_pos followed] using .refl
      | united => simpa only [Use.at, if_pos followed] using .resolved
    · simpa only [Use.at, if_neg followed] using .probed

theorem Use.loosens_at (use : Use) (k : String) (x : Json) : Loosens (use.at k x) use := by
  cases use with
  | probed => exact .probed
  | resolved | united => exact .refl

theorem Use.Loosens.ne_united (h : Loosens use use') (hu : use ≠ .united) : use' ≠ .united := by
  cases h with
  | refl => exact hu
  | probed => nofun
  | resolved => nofun

theorem Beside.loosen (h : Beside manner use k u v) (hu : use.Loosens use') : Beside manner use' k u v := by
  cases hu with
  | refl => exact h
  | probed => exact trivial
  | resolved => exact h.2

mutual

theorem Replaced.loosen {use use' : Use} {x y : Json} (hu : use.Loosens use') :
    Replaced manner use x y → Replaced manner use' x y
  | .leaf h => .leaf h
  | .null => .null
  | .node h => .node (h.loosen hu)

theorem ReplacedMembers.loosen {use use' : Use} {f g : Fields} (hu : use.Loosens use') :
    ReplacedMembers manner use f g → ReplacedMembers manner use' f g
  | .nil => .nil
  | .cons h rest => .cons (h.loosen hu) (rest.loosen hu)

theorem ReplacedAt.loosen {use use' : Use} {k : String} {x y : Json} (hu : use.Loosens use') :
    ReplacedAt manner use k x y → ReplacedAt manner use' k x y
  | .schema hk h ha => .schema hk (h.loosen (hu.at k x)) ha
  | .lone hk hx h => .lone hk hx (h.loosen hu)
  | .list hk h => .list hk (h.loosen hu)
  | .composed hk he h => .composed hk (hu.ne_united he) (h.loosen hu)
  | .table hk h => .table hk (h.loosen (hu.below k))
  | .required hk h => .required hk h
  | .same hk hr => .same hk hr

theorem ReplacedItems.loosen {use use' : Use} {k : String} {xs ys : List Json} (hu : use.Loosens use') :
    ReplacedItems manner use k xs ys → ReplacedItems manner use' k xs ys
  | .nil => .nil
  | .cons hb h rest => .cons (hb.loosen hu) (h.loosen hu) (rest.loosen hu)

theorem ReplacedTable.loosen {use use' : Use} {f g : Fields} (hu : use.Loosens use') :
    ReplacedTable manner use f g → ReplacedTable manner use' f g
  | .nil => .nil
  | .cons h rest => .cons (h.loosen hu) (rest.loosen hu)

end

/-! ## 5. What is related -/

/-- The members of a schema, name by name. -/
abbrev MembersReplaced (manner : Manner) (use : Use) (f g : Fields) : Prop :=
  Aligned (ReplacedAt manner use) f g

theorem ReplacedMembers.aligned (h : ReplacedMembers manner use f g) :
    MembersReplaced manner use f g := by
  induction f generalizing g with
  | nil =>
    cases h
    exact .nil
  | cons _ f ih =>
    cases h with
    | cons first rest => exact .cons first (ih rest)

theorem ReplacedMembers.of_aligned (h : MembersReplaced manner use f g) :
    ReplacedMembers manner use f g := by
  induction h with
  | nil => exact .nil
  | cons first _ ih => exact .cons first ih

theorem MembersReplaced.loosen (h : MembersReplaced manner use f g) (hu : use.Loosens use') :
    MembersReplaced manner use' f g :=
  h.mono fun _ _ _ hxy => hxy.loosen hu

theorem ReplacedTable.aligned (h : ReplacedTable manner use f g) :
    Aligned (fun _ => Replaced manner use) f g := by
  induction f generalizing g with
  | nil =>
    cases h
    exact .nil
  | cons _ f ih =>
    cases h with
    | cons first rest => exact .cons first (ih rest)

theorem ReplacedTable.of_aligned (h : Aligned (fun _ => Replaced manner use) f g) :
    ReplacedTable manner use f g := by
  induction h with
  | nil => exact .nil
  | cons first _ ih => exact .cons first ih

/-- The members of two lists of schemas, one by one. -/
def PairReplaced (manner : Manner) (use : Use) (k : String) (u v : Json) : Prop :=
  Beside manner use k u v ∧ Replaced manner use u v

theorem ReplacedItems.forall₂ {xs ys : List Json} (h : ReplacedItems manner use k xs ys) :
    List.Forall₂ (PairReplaced manner use k) xs ys := by
  induction xs generalizing ys with
  | nil =>
    cases h
    exact .nil
  | cons _ xs ih =>
    cases h with
    | cons hb first rest => exact .cons ⟨hb, first⟩ (ih rest)

theorem ReplacedItems.of_forall₂ {xs ys : List Json}
    (h : List.Forall₂ (PairReplaced manner use k) xs ys) : ReplacedItems manner use k xs ys := by
  induction h with
  | nil => exact .nil
  | cons first _ ih => exact .cons first.1 first.2 ih

theorem replaced_obj (h : MembersReplaced manner use f g) :
    Replaced manner use (.obj tag f) (.obj tag g) := .node (.of_aligned h)

namespace Replaced

/-- **A schema with members stands for one with related members.** -/
theorem obj (h : Replaced manner use (.obj tag f) y) :
    ∃ g, y = .obj tag g ∧ MembersReplaced manner use f g := by
  cases h with
  | leaf h => cases h
  | node h => exact ⟨_, rfl, h.aligned⟩

theorem eq_or_null (h : Replaced manner use x y) (hx : x.isObject = false) :
    y = x ∨ x = .null ∧ y = .bool true := by
  cases h with
  | leaf => exact .inl rfl
  | null => exact .inr ⟨rfl, rfl⟩
  | node => cases hx

theorem fieldsOf (h : Replaced manner use x y) :
    MembersReplaced manner use (fieldsOf x) (fieldsOf y) := by
  cases h with
  | @leaf _ x hx =>
    cases x with
    | obj => cases hx
    | _ => exact .nil
  | null => exact .nil
  | node h => exact h.aligned

theorem isFalse_eq (h : Replaced manner use x y) : isFalse x = isFalse y := by
  cases h <;> rfl

theorem isObject_eq (h : Replaced manner use x y) : x.isObject = y.isObject := by
  cases h <;> rfl

/-- A list stands for itself only, and only for itself. -/
theorem eq_arr_iff (h : Replaced manner use x y) {xs : List Json} : x = .arr tag xs ↔ y = .arr tag xs := by
  cases h with
  | leaf => exact Iff.rfl
  | null => exact ⟨nofun, nofun⟩
  | node => exact ⟨nofun, nofun⟩

end Replaced

theorem isTrivial_eq (h : Replaced manner use x y) : isTrivial x = isTrivial y := by
  cases h <;> rfl

/-- What asks for nothing is left out on both sides. -/
theorem forall₂_filter {xs ys : List Json} (h : List.Forall₂ (PairReplaced manner use k) xs ys) :
    List.Forall₂ (PairReplaced manner use k) (xs.filter (!isTrivial ·)) (ys.filter (!isTrivial ·)) := by
  induction h with
  | nil => exact .nil
  | cons first _ ih =>
    rw [List.filter_cons, List.filter_cons, isTrivial_eq first.2]
    split
    · exact .cons first ih
    · exact ih

/-- Lists of related schemas are related without what is behind the first that asks for nothing. -/
theorem forall₂_thin {xs ys : List Json} (h : List.Forall₂ (PairReplaced manner use k) xs ys) :
    List.Forall₂ (PairReplaced manner use k) (thin xs) (thin ys) := by
  induction h with
  | nil => exact .nil
  | cons first rest ih =>
    rw [thin, thin, isTrivial_eq first.2]
    split
    · exact .cons first (forall₂_filter rest)
    · exact .cons first ih

theorem exists_getElem? {xs ys : List Json} (h : List.Forall₂ (PairReplaced manner use k) xs ys) {i : Nat}
    (hi : i < xs.length) : ∃ x y, xs[i]? = some x ∧ ys[i]? = some y ∧ Replaced manner use x y := by
  have hj : i < ys.length := h.length_eq ▸ hi
  exact ⟨_, _, List.getElem?_eq_getElem hi, List.getElem?_eq_getElem hj, (h.get hi hj).2⟩

namespace ReplacedAt

/-- **What holds no schemas stays as it is**, required names aside. -/
theorem eq (h : ReplacedAt manner use k x y) (hk : (Shape.ofKeyword k).place = .nowhere)
    (hr : k ≠ "required") : x = y := by
  cases h with
  | same => rfl
  | required hk' => exact absurd hk' hr
  | list hk' =>
    rw [hk] at hk'
    simp at hk'
  | composed hk' => rcases List.mem_pair.1 hk' with rfl | rfl <;> exact nomatch hk
  | schema hk' | lone hk' | table hk' => exact nomatch hk.symm.trans hk'

theorem itself (h : ReplacedAt manner use k x y) (hk : (Shape.ofKeyword k).place = .itself) :
    Replaced manner (use.at k x) x y ∧ (k = "additionalProperties" → Additional manner x y) := by
  cases h with
  | schema _ hxy ha => exact ⟨hxy, ha⟩
  | list hk' =>
    rw [hk] at hk'
    simp at hk'
  | composed hk' => rcases List.mem_pair.1 hk' with rfl | rfl <;> exact nomatch hk
  | required hk' =>
    subst hk'
    exact nomatch hk
  | lone hk' | table hk' | same hk' => exact nomatch hk.symm.trans hk'

/-- What holds schemas in a list is matched up as a whole, unless it may be thinned. -/
theorem items (h : ReplacedAt manner use k x y)
    (hk : (Shape.ofKeyword k).place ∈ [.list, .listOrItself])
    (hc : k ∈ ["allOf", "anyOf"] → use = .united) :
    (∃ tag xs ys, x = .arr tag xs ∧ y = .arr tag ys ∧ List.Forall₂ (PairReplaced manner use k) xs ys) ∨
      (Shape.ofKeyword k).place = .listOrItself ∧ (∀ tag xs, x ≠ .arr tag xs) ∧
        Replaced manner use x y := by
  cases h with
  | list _ items => exact .inl ⟨_, _, _, rfl, rfl, items.forall₂⟩
  | lone hk' hx hxy => exact .inr ⟨hk', hx, hxy⟩
  | composed hk' hu => exact absurd (hc hk') hu
  | required hk' =>
    subst hk'
    exact nomatch hk
  | schema hk' | table hk' | same hk' =>
    rw [hk'] at hk
    simp at hk

theorem thinned (h : ReplacedAt manner use k x y) (hk : k ∈ ["allOf", "anyOf"]) :
    ∃ tag xs ys, x = .arr tag xs ∧ y = .arr tag ys ∧
      List.Forall₂ (PairReplaced manner use k) (thin xs) (thin ys) := by
  have place : (Shape.ofKeyword k).place = .list := by rcases List.mem_pair.1 hk with rfl | rfl <;> rfl
  cases h with
  | composed _ _ items => exact ⟨_, _, _, rfl, rfl, items.forall₂⟩
  | list _ items => exact ⟨_, _, _, rfl, rfl, forall₂_thin items.forall₂⟩
  | required hk' =>
    subst hk'
    exact nomatch place
  | schema hk' | lone hk' | table hk' | same hk' => exact nomatch place.symm.trans hk'

theorem tabled (h : ReplacedAt manner use k x y) (hk : (Shape.ofKeyword k).place = .table) :
    ∃ tag f g, x = .obj tag f ∧ y = .obj tag g ∧
      Aligned (fun _ => Replaced manner (use.below k)) f g := by
  cases h with
  | table _ table => exact ⟨_, _, _, rfl, rfl, table.aligned⟩
  | list hk' =>
    rw [hk] at hk'
    simp at hk'
  | composed hk' => rcases List.mem_pair.1 hk' with rfl | rfl <;> exact nomatch hk
  | required hk' =>
    subst hk'
    exact nomatch hk
  | schema hk' | lone hk' | same hk' => exact nomatch hk.symm.trans hk'

theorem named (h : ReplacedAt manner use "required" x y) :
    ∃ tag xs tag' ys, x = .arr tag xs ∧ y = .arr tag' ys ∧ Json.distinct xs = Json.distinct ys := by
  cases h with
  | required _ names => exact ⟨_, _, _, _, rfl, rfl, names⟩
  | same _ hr => exact absurd rfl hr
  | composed hk => simp at hk
  | list hk | schema hk | lone hk | table hk => exact nomatch hk

end ReplacedAt

namespace MembersReplaced

variable (h : MembersReplaced manner use f g)

include h

theorem get?_eq (hk : (Shape.ofKeyword k).place = .nowhere) (hr : k ≠ "required") :
    get? f k = get? g k := by
  rcases h.get? k with ⟨hf, hg⟩ | ⟨x, y, hf, hg, hxy⟩
  · rw [hf, hg]
  · rw [hf, hg, hxy.eq hk hr]

theorem schema (hk : (Shape.ofKeyword k).place = .itself) :
    (get? f k = none ∧ get? g k = none) ∨
      ∃ x y, get? f k = some x ∧ get? g k = some y ∧ Replaced manner use x y := by
  refine (h.get? k).imp_right ?_
  rintro ⟨x, y, hf, hg, hxy⟩
  exact ⟨x, y, hf, hg, (hxy.itself hk).1.loosen (use.loosens_at k x)⟩

/-- What stands for additional members. -/
theorem additional :
    (get? f "additionalProperties" = none ∧ get? g "additionalProperties" = none) ∨
      ∃ x y, get? f "additionalProperties" = some x ∧ get? g "additionalProperties" = some y ∧
        Replaced manner (use.at "additionalProperties" x) x y ∧ Additional manner x y := by
  refine (h.get? "additionalProperties").imp_right ?_
  rintro ⟨x, y, hf, hg, hxy⟩
  exact ⟨x, y, hf, hg, (hxy.itself rfl).1, (hxy.itself rfl).2 rfl⟩

theorem list (hk : (Shape.ofKeyword k).place = .list) (hc : k ∉ ["allOf", "anyOf"]) :
    (get? f k = none ∧ get? g k = none) ∨
      ∃ tag xs ys, get? f k = some (.arr tag xs) ∧ get? g k = some (.arr tag ys) ∧
        List.Forall₂ (PairReplaced manner use k) xs ys := by
  refine (h.get? k).imp_right ?_
  rintro ⟨x, y, hf, hg, hxy⟩
  rcases hxy.items (by simp [hk]) fun hm => absurd hm hc with ⟨tag, xs, ys, rfl, rfl, items⟩ | ⟨hk', -⟩
  · exact ⟨tag, xs, ys, hf, hg, items⟩
  · exact nomatch hk.symm.trans hk'

/-- Schemas that are all asked for, or of which one is. -/
theorem composed (hk : k ∈ ["allOf", "anyOf"]) :
    (get? f k = none ∧ get? g k = none) ∨
      ∃ tag xs ys, get? f k = some (.arr tag xs) ∧ get? g k = some (.arr tag ys) ∧
        List.Forall₂ (PairReplaced manner use k) (thin xs) (thin ys) := by
  refine (h.get? k).imp_right ?_
  rintro ⟨x, y, hf, hg, hxy⟩
  obtain ⟨tag, xs, ys, rfl, rfl, items⟩ := hxy.thinned hk
  exact ⟨tag, xs, ys, hf, hg, items⟩

theorem items :
    (get? f "items" = none ∧ get? g "items" = none) ∨
      (∃ tag xs ys, get? f "items" = some (.arr tag xs) ∧ get? g "items" = some (.arr tag ys) ∧
        List.Forall₂ (PairReplaced manner use "items") xs ys) ∨
      ∃ x y, get? f "items" = some x ∧ get? g "items" = some y ∧ (∀ tag xs, x ≠ .arr tag xs) ∧
        (∀ tag ys, y ≠ .arr tag ys) ∧ Replaced manner use x y := by
  refine (h.get? "items").imp_right ?_
  rintro ⟨x, y, hf, hg, hxy⟩
  rcases hxy.items (List.mem_pair.2 (.inr rfl)) nofun with ⟨tag, xs, ys, rfl, rfl, items⟩ | ⟨-, hx, hxy⟩
  · exact .inl ⟨tag, xs, ys, hf, hg, items⟩
  · exact .inr ⟨x, y, hf, hg, hx, fun tag ys hy => hx tag ys (hxy.eq_arr_iff.2 hy), hxy⟩

theorem table (hk : (Shape.ofKeyword k).place = .table) :
    (get? f k = none ∧ get? g k = none) ∨
      ∃ tag f' g', get? f k = some (.obj tag f') ∧ get? g k = some (.obj tag g') ∧
        Aligned (fun _ => Replaced manner (use.below k)) f' g' := by
  refine (h.get? k).imp_right ?_
  rintro ⟨x, y, hf, hg, hxy⟩
  obtain ⟨tag, f', g', rfl, rfl, table⟩ := hxy.tabled hk
  exact ⟨tag, f', g', hf, hg, table⟩

theorem required :
    (get? f "required" = none ∧ get? g "required" = none) ∨
      ∃ tag xs tag' ys, get? f "required" = some (.arr tag xs) ∧
        get? g "required" = some (.arr tag' ys) ∧ Json.distinct xs = Json.distinct ys := by
  refine (h.get? "required").imp_right ?_
  rintro ⟨x, y, hf, hg, hxy⟩
  obtain ⟨tag, xs, tag', ys, rfl, rfl, names⟩ := hxy.named
  exact ⟨tag, xs, tag', ys, hf, hg, names⟩

/-- Required names stand in lists. -/
theorem required_lists :
    (∀ x, get? f "required" = some x → ∃ tag xs, x = .arr tag xs) ∧
      ∀ y, get? g "required" = some y → ∃ tag ys, y = .arr tag ys := by
  rcases required h with ⟨hf, hg⟩ | ⟨tag, xs, tag', ys, hf, hg, -⟩ <;> simp [hf, hg]

theorem without (keys : List String) :
    MembersReplaced manner use (Fields.without f keys) (Fields.without g keys) :=
  Aligned.without h keys

theorem declaredTypes_eq (tag tag' : Tag) :
    declaredTypes (.obj tag f) = declaredTypes (.obj tag' g) := by
  rw [declaredTypes, declaredTypes, h.get?_eq rfl (by decide)]

theorem inferKind_eq (value : Option Json) : inferKind f value = inferKind g value := by
  have same : Fields.has f = Fields.has g := funext fun k => h.has_eq k
  cases value <;> simp only [inferKind, same]

theorem restrict (type : Json) :
    MembersReplaced manner use (Schema.restrict f type) (Schema.restrict g type) :=
  (h.filter (baseKeywords ++ keywordsOfType type).contains).put (.same rfl (by decide))

/-- The schema of a position in a list, or behind it. -/
theorem tupleSchema {xs ys : List Json} (hxy : List.Forall₂ (PairReplaced manner use k) xs ys) (i : Nat) :
    (Probe.tupleSchema f xs i = none ∧ Probe.tupleSchema g ys i = none) ∨
      ∃ x y, Probe.tupleSchema f xs i = some x ∧ Probe.tupleSchema g ys i = some y ∧
        Replaced manner use x y := by
  rw [Probe.tupleSchema, Probe.tupleSchema, ← hxy.length_eq]
  split
  · next hi => exact .inr (exists_getElem? hxy hi)
  · exact schema h rfl

/-- What is said of items behind those of a prefix. -/
theorem itemsSchema (i : Nat) :
    let said := fun fields : Fields => match get? fields "items" with
      | some (.arr _ schemas) => Probe.tupleSchema fields schemas i
      | _ => get? fields "items"
    (said f = none ∧ said g = none) ∨
      ∃ x y, said f = some x ∧ said g = some y ∧ Replaced manner use x y := by
  rcases items h with ⟨hf, hg⟩ | ⟨tag, xs, ys, hf, hg, hxy⟩ | ⟨x, y, hf, hg, hx, hy, hxy⟩
  · simp [hf, hg]
  · simp only [hf, hg]
    exact tupleSchema h hxy i
  · refine .inr ⟨x, y, ?_, ?_, hxy⟩
    · simp only [hf]
      split
      · next he => exact absurd (Option.some.inj he) (hx _ _)
      · rfl
    · simp only [hg]
      split
      · next he => exact absurd (Option.some.inj he) (hy _ _)
      · rfl

/-- The schema of a position. -/
theorem itemSchema (i : Nat) :
    (Probe.itemSchema f i = none ∧ Probe.itemSchema g i = none) ∨
      ∃ x y, Probe.itemSchema f i = some x ∧ Probe.itemSchema g i = some y ∧
        Replaced manner use x y := by
  rcases list h (k := "prefixItems") rfl (by decide) with ⟨hf, hg⟩ | ⟨tag, xs, ys, hf, hg, hxy⟩
  · simp only [Probe.itemSchema, hf, hg]
    exact itemsSchema h i
  · simp only [Probe.itemSchema, hf, hg, ← hxy.length_eq]
    split
    · next hi => exact .inr (exists_getElem? hxy hi)
    · exact itemsSchema h _

end MembersReplaced

namespace Replaced

theorem allowsNull_eq (h : Replaced manner use x y) : allowsNull x = allowsNull y := by
  cases h with
  | leaf | null => rfl
  | node h => rw [allowsNull, allowsNull, h.aligned.declaredTypes_eq]

theorem isAbsent_eq (h : Replaced manner use x y) (value : Option Json) :
    isAbsent value x = isAbsent value y := by
  rcases value with _ | value
  · rfl
  · cases value <;> simp only [isAbsent, h.allowsNull_eq]

end Replaced

/-! ## 6. One null in a schema that is well formed otherwise -/

/-- **A schema that is well formed, but for nulls** in places where one schema stands. -/
inductive FormedButNulls (terms : Schema.Terms) : Json → Prop
  | null : FormedButNulls terms .null
  | boolean (b : Bool) : FormedButNulls terms (.bool b)
  | node {tag : Tag} {fields : Fields}
      (fits : ∀ k x, (k, x) ∈ fields → (Shape.ofKeyword k).fits terms x = true)
      (inner : ∀ k x, (k, x) ∈ fields → ∀ s ∈ schemasIn k x, FormedButNulls terms s) :
      FormedButNulls terms (.obj tag fields)

mutual

/-- **One null is replaced by true**, somewhere. -/
inductive OneReplaced (manner : Manner) : Use → Json → Json → Prop
  | null {use : Use} : OneReplaced manner use .null (.bool true)
  | member {use : Use} {k : String} {x y : Json} {tag : Tag} {f g : Fields}
      (h : OneReplacedAt manner use k x y) :
      OneReplaced manner use (.obj tag (f ++ (k, x) :: g)) (.obj tag (f ++ (k, y) :: g))

/-- The same in what a keyword holds. -/
inductive OneReplacedAt (manner : Manner) : Use → String → Json → Json → Prop
  | itself {use : Use} {k : String} {x y : Json}
      (hk : (Shape.ofKeyword k).place ∈ [.itself, .listOrItself])
      (ha : k = "additionalProperties" → x = .null → manner.additional = true)
      (h : OneReplaced manner use x y) : OneReplacedAt manner use k x y
  | item {use : Use} {k : String} {u v : Json} {tag : Tag} {xs ys : List Json}
      (hk : (Shape.ofKeyword k).place ∈ [.list, .listOrItself]) (hb : Beside manner use k u v)
      (h : OneReplaced manner use u v) :
      OneReplacedAt manner use k (.arr tag (xs ++ u :: ys)) (.arr tag (xs ++ v :: ys))
  | entry {use : Use} {k name : String} {u v : Json} {tag : Tag} {f g : Fields}
      (hk : (Shape.ofKeyword k).place = .table) (h : OneReplaced manner (use.below k) u v) :
      OneReplacedAt manner use k (.obj tag (f ++ (name, u) :: g)) (.obj tag (f ++ (name, v) :: g))

end

/-- Objects are told apart by their tags alone. -/
theorem sameOccurrence_obj (u : Json) (tag : Tag) (f g : Fields) :
    u.sameOccurrence (.obj tag f) = u.sameOccurrence (.obj tag g) ∧
      (Json.obj tag f).sameOccurrence u = (Json.obj tag g).sameOccurrence u := by
  rcases u with _ | _ | _ | _ | _ | ⟨_ | _, _⟩ <;> cases tag <;> simp [Json.sameOccurrence]

/-- **Nulls replaced where there are no references.**  No null is replaced that is a member of `oneOf`, and none
in a list within documents that are united. -/
def Manner.plain (additional : Bool) : Manner where
  additional := additional
  referred _ := False
  counted u v := u = v ∨ ∃ tag f g, u = .obj tag f ∧ v = .obj tag g
  listed := Eq
  counted_apart := by
    rintro u v u' v' (rfl | ⟨tag, f, g, rfl, rfl⟩) (rfl | ⟨tag', f', g', rfl, rfl⟩)
    · rfl
    · exact (sameOccurrence_obj u tag' f' g').1
    · exact (sameOccurrence_obj u' tag f g).2
    · exact (sameOccurrence_obj _ tag f g).2.trans (sameOccurrence_obj _ tag' f' g').1
  listed_apart := by
    rintro _ _ _ _ rfl rfl
    exact Iff.rfl

section OneReplaced

variable {terms : Schema.Terms} {shape : Shape} {place : Place}

/-- What holds one schema, and no list of them, is that schema. -/
theorem Place.self_mem_schemas (hp : place ∈ [.itself, .listOrItself]) (hx : ∀ tag xs, x ≠ .arr tag xs) :
    x ∈ place.schemas x := by
  rcases List.mem_pair.1 hp with rfl | rfl
  · exact List.mem_singleton_self x
  · unfold Place.schemas
    split <;> simp_all

theorem Shape.arr_of_fits (h : shape.fits terms x = true) (hp : shape.place = .list) :
    ∃ tag xs, x = .arr tag xs := by
  cases shape with
  | schemas =>
    cases x with
    | arr tag xs => exact ⟨tag, xs, rfl⟩
    | _ => cases h
  | _ => cases hp

theorem Shape.obj_of_fits (h : shape.fits terms x = true) (hp : shape.place = .table) :
    ∃ tag f, x = .obj tag f := by
  cases shape with
  | table | patternTable =>
    cases x with
    | obj tag f => exact ⟨tag, f, rfl⟩
    | _ => cases h
  | _ => cases hp

/-- There are no references in such a schema. -/
theorem FormedButNulls.unreferring (h : FormedButNulls terms x) (ref : Json) :
    ("$ref", ref) ∉ fieldsOf x := by
  intro hr
  cases h with
  | null | boolean => cases hr
  | node fits => exact nomatch fits "$ref" ref hr

theorem FormedButNulls.additional (h : FormedButNulls terms x)
    (hn : x = .null → y = .null ∨ manner.additional = true) : Additional manner x y :=
  ⟨hn, fun ref hr => absurd hr (h.unreferring ref)⟩

theorem FormedButNulls.at_eq (h : FormedButNulls terms x) (use : Use) (k : String) : use.at k x = use := by
  cases use with
  | probed =>
    refine if_neg fun ⟨_, hr⟩ => ?_
    obtain ⟨⟨_, ref⟩, hr, rfl⟩ := List.mem_map.1 hr
    exact h.unreferring ref hr
  | resolved | united => rfl

variable (hc : ∀ u, manner.counted u u) (hl : ∀ u, manner.listed u u)

include hc hl

theorem beside_self (use : Use) (k : String) (u : Json) : Beside manner use k u u := by
  cases use with
  | probed => exact trivial
  | resolved => exact fun _ => hc u
  | united => exact ⟨hl u, fun _ => hc u⟩

theorem replacedItems_self {xs : List Json} (h : ∀ s ∈ xs, ∀ use, Replaced manner use s s) (use : Use) :
    ReplacedItems manner use k xs xs := by
  induction xs with
  | nil => exact .nil
  | cons u xs ih =>
    exact .cons (beside_self hc hl use k u) (h u (.head _) use) (ih fun s hs => h s (.tail _ hs))

theorem replacedItems_replace {xs ys : List Json} {use : Use}
    (h : ∀ s ∈ xs ++ u :: ys, ∀ use, Replaced manner use s s) (hb : Beside manner use k u v)
    (huv : Replaced manner use u v) : ReplacedItems manner use k (xs ++ u :: ys) (xs ++ v :: ys) := by
  induction xs with
  | nil => exact .cons hb huv (replacedItems_self hc hl (fun s hs => h s (.tail _ hs)) use)
  | cons w xs ih =>
    exact .cons (beside_self hc hl use k w) (h w (.head _) use) (ih fun s hs => h s (.tail _ hs))

/-- What a keyword holds stays as it is, if the schemas in it do. -/
theorem replacedAt_self (fits : (Shape.ofKeyword k).fits terms x = true)
    (formed : ∀ s ∈ schemasIn k x, FormedButNulls terms s)
    (inner : ∀ s ∈ schemasIn k x, ∀ use, Replaced manner use s s) (use : Use) :
    ReplacedAt manner use k x x := by
  rw [schemasIn] at formed inner
  cases hk : (Shape.ofKeyword k).place with
  | itself =>
    rw [hk] at formed inner
    have hx := formed x (List.mem_singleton_self x)
    refine .schema hk ?_ fun _ => hx.additional .inl
    exact inner x (List.mem_singleton_self x) _
  | list =>
    obtain ⟨tag, xs, rfl⟩ := Shape.arr_of_fits fits hk
    rw [hk] at inner
    exact .list (by simp [hk]) (replacedItems_self hc hl inner use)
  | listOrItself =>
    rw [hk] at inner
    by_cases ha : ∃ tag xs, x = .arr tag xs
    · obtain ⟨tag, xs, rfl⟩ := ha
      exact .list (by simp [hk]) (replacedItems_self hc hl inner use)
    · have hx : ∀ tag xs, x ≠ .arr tag xs := fun tag xs he => ha ⟨tag, xs, he⟩
      exact .lone hk hx (inner x (Place.self_mem_schemas (by simp) hx) use)
  | table =>
    obtain ⟨tag, f, rfl⟩ := Shape.obj_of_fits fits hk
    rw [hk] at inner
    refine .table hk (.of_aligned (.self fun name s hs => ?_))
    exact inner s (List.mem_map.2 ⟨(name, s), hs, rfl⟩) _
  | nowhere =>
    by_cases hr : k = "required"
    · subst hr
      obtain ⟨tag, xs, rfl, -⟩ := isTextList_iff.1 fits
      exact .required rfl rfl
    · exact .same hk hr

/-- **Nothing has to be replaced.** -/
theorem FormedButNulls.replaced_self (h : FormedButNulls terms x) (use : Use) :
    Replaced manner use x x := by
  induction h generalizing use with
  | null | boolean => exact .leaf rfl
  | node fits inner ih =>
    exact replaced_obj (.self fun k x hx =>
      replacedAt_self hc hl (fits k x hx) (inner k x hx) (ih k x hx) use)

mutual

/-- **One null may be replaced** in a schema that is well formed but for nulls. -/
theorem OneReplaced.replaced {use : Use} {x y : Json} :
    OneReplaced manner use x y → FormedButNulls terms x → Replaced manner use x y
  | .null, _ => .null
  | @OneReplaced.member _ _ k u v tag f g h, .node fits inner => by
    have hm : (k, u) ∈ f ++ (k, u) :: g := List.mem_append_right f (.head _)
    refine replaced_obj (.replace (fun i z hz => ?_) (h.replaced (fits k u hm) (inner k u hm)))
    exact replacedAt_self hc hl (fits i z hz) (inner i z hz)
      (fun s hs => (inner i z hz s hs).replaced_self hc hl) use

theorem OneReplacedAt.replaced {use : Use} {k : String} {x y : Json} :
    OneReplacedAt manner use k x y → (Shape.ofKeyword k).fits terms x = true →
      (∀ s ∈ schemasIn k x, FormedButNulls terms s) → ReplacedAt manner use k x y
  | .itself hk ha h, fits, inner => by
    have lone : ∀ tag xs, x ≠ .arr tag xs := by
      rintro tag xs rfl
      exact nomatch h
    have formed := inner x (Place.self_mem_schemas hk lone)
    have hxy := h.replaced formed
    rcases List.mem_pair.1 hk with hk | hk
    · refine .schema hk ((formed.at_eq use k).symm ▸ hxy) fun he => ?_
      exact formed.additional fun hx => .inr (ha he hx)
    · exact .lone hk lone hxy
  | @OneReplacedAt.item _ _ k u v tag xs ys hk hb h, fits, inner => by
    have formed : ∀ s ∈ xs ++ u :: ys, FormedButNulls terms s := by
      rw [schemasIn] at inner
      rcases List.mem_pair.1 hk with hk | hk <;> rw [hk] at inner <;> exact inner
    refine .list hk (replacedItems_replace hc hl (fun s hs => (formed s hs).replaced_self hc hl) hb ?_)
    exact h.replaced (formed u (List.mem_append_right xs (.head _)))
  | @OneReplacedAt.entry _ _ k name u v tag f g hk h, fits, inner => by
    have formed : ∀ i z, (i, z) ∈ f ++ (name, u) :: g → FormedButNulls terms z := by
      rw [schemasIn, hk] at inner
      exact fun i z hz => inner z (List.mem_map.2 ⟨(i, z), hz, rfl⟩)
    refine .table hk (.of_aligned (.replace (fun i z hz => (formed i z hz).replaced_self hc hl _) ?_))
    exact h.replaced (formed name u (List.mem_append_right f (.head _)))

end

end OneReplaced

end Schema

end Conform
