/-
# Values that readers cannot tell apart

Two values can differ and still be alike to everything that reads them: in the order of members, or in
how a whole number is written.  A relation between values is a `Likeness` if related values are matched up
part by part (`Matched`): one scalar twice, two numbers of one worth, lists with related items, or objects
with related values under the same names.

Whatever the relation, what is read off the shape of a value alone is then the same on both sides: its
kind, the number of its members, its canonical text, in which members are sorted by name, and whether a
list repeats something.
-/
import Conform.Proofs.Members
import Conform.Accessor
import Conform.Schema.Keyword
import Mathlib.Data.List.Forall2

namespace Conform

open Fields (get?)

/-! ## 1. Members matched up -/

/-- **Members matched up by name**: each name is on both sides, with related values, or on neither. -/
structure Fields.Paired (R : Json → Json → Prop) (f g : Fields) : Prop where
  distinct : Fields.Distinct f
  distinct' : Fields.Distinct g
  get? : ∀ k, Option.Rel R (get? f k) (get? g k)

namespace Fields.Paired

variable {R : Json → Json → Prop} {f g : Fields} {k : String} {x y : Json}

/-- A member on the one side has its counterpart on the other. -/
theorem exists_mem (h : Paired R f g) (hx : (k, x) ∈ f) : ∃ y, (k, y) ∈ g ∧ R x y := by
  have hk := h.get? k
  rw [get?_of_mem h.distinct hx] at hk
  cases hg : Fields.get? g k with
  | none =>
    rw [hg] at hk
    cases hk
  | some y =>
    rw [hg] at hk
    cases hk with
    | some hxy => exact ⟨y, Json.mem_of_get? hg, hxy⟩

theorem exists_mem' (h : Paired R f g) (hy : (k, y) ∈ g) : ∃ x, (k, x) ∈ f ∧ R x y := by
  have hk := h.get? k
  rw [get?_of_mem h.distinct' hy] at hk
  cases hf : Fields.get? f k with
  | none =>
    rw [hf] at hk
    cases hk
  | some x =>
    rw [hf] at hk
    cases hk with
    | some hxy => exact ⟨x, Json.mem_of_get? hf, hxy⟩

theorem mem_names_iff (h : Paired R f g) : k ∈ names f ↔ k ∈ names g := by
  constructor <;> intro hk
  · obtain ⟨⟨j, x⟩, hm, rfl⟩ := List.mem_map.1 hk
    obtain ⟨y, hy, -⟩ := h.exists_mem hm
    exact mem_names_of_mem hy
  · obtain ⟨⟨j, y⟩, hm, rfl⟩ := List.mem_map.1 hk
    obtain ⟨x, hx, -⟩ := h.exists_mem' hm
    exact mem_names_of_mem hx

theorem length_eq (h : Paired R f g) : f.length = g.length := by
  have hperm : (names f).Perm (names g) :=
    (List.perm_ext_iff_of_nodup h.distinct h.distinct').2 fun _ => h.mem_names_iff
  simpa [names] using hperm.length_eq

end Fields.Paired

/-! ## 2. Values matched up -/

/-- **Two numbers of one worth**: of one exact value, both whole or neither, and of one canonical text. -/
structure Number.Akin (m n : Number) : Prop where
  value : m.value = n.value
  whole : m.isIntegral = n.isIntegral
  text : Json.canonicalNumber m = Json.canonicalNumber n

namespace Json

/-- **Both are one value, or two numbers of one worth, or lists, or objects.** -/
inductive SameShape : Json → Json → Prop
  | same {x : Json} : SameShape x x
  | numbers {m n : Number} (h : m.Akin n) : SameShape (.num m) (.num n)
  | lists {tag tag' : Tag} {xs ys : List Json} : SameShape (.arr tag xs) (.arr tag' ys)
  | objects {tag tag' : Tag} {f g : Fields} : SameShape (.obj tag f) (.obj tag' g)

namespace SameShape

variable {x y : Json}

theorem ofValue_eq (h : SameShape x y) : Kind.ofValue x = Kind.ofValue y := by
  cases h <;> rfl

theorem fits_eq (h : SameShape x y) (kind : Kind) : kind.fits x = kind.fits y := by
  cases h with
  | same => rfl
  | lists | objects => cases kind <;> rfl
  | numbers h =>
    cases kind with
    | integer => exact h.whole
    | _ => rfl

theorem firstFit_eq (h : SameShape x y) (types : List Json) :
    Kind.firstFit types x = Kind.firstFit types y := by
  simp only [Kind.firstFit, h.fits_eq]

theorem isAbsent_eq (h : SameShape x y) (schema : Json) :
    Schema.isAbsent (some x) schema = Schema.isAbsent (some y) schema := by
  cases h <;> rfl

end SameShape

/-- **Two values matched up part by part**, the parts by a relation. -/
inductive Matched (R : Json → Json → Prop) : Json → Json → Prop
  | scalar {x : Json} (h : Accessor.isContainer x = false) : Matched R x x
  | numbers {m n : Number} (h : m.Akin n) : Matched R (.num m) (.num n)
  | lists {tag tag' : Tag} {xs ys : List Json} (h : List.Forall₂ R xs ys) :
      Matched R (.arr tag xs) (.arr tag' ys)
  | objects {tag tag' : Tag} {f g : Fields} (h : Fields.Paired R f g) :
      Matched R (.obj tag f) (.obj tag' g)

namespace Matched

variable {R : Json → Json → Prop} {x y : Json} {tag tag' : Tag} {f g : Fields} {xs ys : List Json}

theorem sameShape (h : Matched R x y) : SameShape x y := by
  cases h with
  | scalar => exact .same
  | numbers h => exact .numbers h
  | lists => exact .lists
  | objects => exact .objects

theorem items (h : Matched R (.arr tag xs) (.arr tag' ys)) : List.Forall₂ R xs ys := by
  cases h with
  | scalar h => cases h
  | lists h => exact h

theorem members (h : Matched R (.obj tag f) (.obj tag' g)) : Fields.Paired R f g := by
  cases h with
  | scalar h => cases h
  | objects h => exact h

end Matched

/-- **A relation between values that are alike to every reader**: related values are matched up with related
parts.  A name is alike to itself. -/
structure Likeness (R : Json → Json → Prop) : Prop where
  matched : ∀ {x y}, R x y → Matched R x y
  text : ∀ s, R (.str s) (.str s)

/-! ## 3. Canonical texts -/

theorem canonicalItems_eq_map {xs : List Json} : canonicalItems xs = xs.map canonical := by
  induction xs with
  | nil => rfl
  | cons x xs ih => rw [canonicalItems, ih, List.map_cons]

theorem canonicalFields_eq_map {f : Fields} :
    canonicalFields f = f.map fun m => (m.1, m.2.canonical) := by
  induction f with
  | nil => rfl
  | cons m f ih =>
    obtain ⟨k, x⟩ := m
    rw [canonicalFields, ih, List.map_cons]

/-- The names of the members with their canonical texts are those of the members. -/
theorem names_canonicalFields (f : Fields) : (canonicalFields f).map (·.1) = Fields.names f := by
  rw [canonicalFields_eq_map]
  simp [Fields.names]

section Sorting

variable {α : Type} {a b : List (String × α)}

theorem pairwise_sortByName (a : List (String × α)) :
    (sortByName a).Pairwise fun p q => p.1 ≤ q.1 := by
  have upward : ∀ s t : String, (!decide (t < s)) = true ↔ s ≤ t := by
    intro s t
    rw [Bool.not_eq_true', decide_eq_false_iff_not]
    exact String.not_lt
  have hp : (sortByName a).Pairwise fun p q => (!decide (q.1 < p.1)) = true := by
    refine List.pairwise_mergeSort (fun p q r hpq hqr => ?_) (fun p q => ?_) a
    · exact (upward _ _).2 (String.le_trans ((upward _ _).1 hpq) ((upward _ _).1 hqr))
    · rw [Bool.or_eq_true]
      exact (String.le_total p.1 q.1).imp (upward _ _).2 (upward _ _).2
  exact hp.imp fun hpq => (upward _ _).1 hpq

theorem sortByName_perm (a : List (String × α)) : (sortByName a).Perm a := List.mergeSort_perm a _

/-- **Sorting by name forgets the order**, as long as no name occurs twice. -/
theorem sortByName_eq_of_perm (h : a.Perm b) (hd : (a.map (·.1)).Nodup) :
    sortByName a = sortByName b := by
  have perm : (sortByName a).Perm (sortByName b) :=
    (sortByName_perm a).trans (h.trans (sortByName_perm b).symm)
  refine List.Perm.eq_of_pairwise (fun p q hp hq hpq hqp => ?_) (pairwise_sortByName a)
    (pairwise_sortByName b) perm
  -- two members of one name are one member
  have hpa : p ∈ a := (sortByName_perm a).subset hp
  have hqa : q ∈ a := h.symm.subset ((sortByName_perm b).subset hq)
  exact List.inj_on_of_nodup_map hd hpa hqa (String.le_antisymm hpq hqp)

end Sorting

namespace Likeness

variable {R : Json → Json → Prop} {x y : Json} {xs ys : List Json}

/-- **Values that are alike have one canonical text.** -/
theorem canonical_eq (L : Likeness R) (h : R x y) : x.canonical = y.canonical := by
  induction x using Json.induction generalizing y with
  | step x ih =>
    cases L.matched h with
    | scalar => rfl
    | numbers hn =>
      rw [canonical, canonical]
      exact hn.text
    | @lists tag tag' xs ys hitems =>
      have same : xs.map canonical = ys.map canonical := by
        clear h
        induction hitems with
        | nil => rfl
        | @cons a b xs ys hab _ ihs =>
          rw [List.map_cons, List.map_cons, ih a (List.mem_cons_self ..) hab,
            ihs fun x hx => ih x (List.mem_cons_of_mem _ hx)]
      rw [canonical, canonical, canonicalItems_eq_map, canonicalItems_eq_map, same]
    | @objects tag tag' f g hp =>
      have nodup : ∀ f : Fields, Fields.Distinct f → (canonicalFields f).Nodup := by
        intro f hd
        refine List.Nodup.of_map (·.1) ?_
        rw [names_canonicalFields]
        exact hd
      have perm : (canonicalFields f).Perm (canonicalFields g) := by
        refine (List.perm_ext_iff_of_nodup (nodup f hp.distinct) (nodup g hp.distinct')).2 fun p => ?_
        rw [canonicalFields_eq_map, canonicalFields_eq_map]
        constructor <;> intro hz <;> obtain ⟨⟨k, z⟩, hm, rfl⟩ := List.mem_map.1 hz
        · obtain ⟨y, hy, hzy⟩ := hp.exists_mem hm
          exact List.mem_map.2 ⟨(k, y), hy, by
            rw [ih z (List.mem_map.2 ⟨_, hm, rfl⟩) hzy]⟩
        · obtain ⟨x, hx, hxz⟩ := hp.exists_mem' hm
          exact List.mem_map.2 ⟨(k, x), hx, by
            rw [ih x (List.mem_map.2 ⟨_, hx, rfl⟩) hxz]⟩
      have sorted := sortByName_eq_of_perm perm (by rw [names_canonicalFields]; exact hp.distinct)
      rw [canonical, canonical, sorted]

theorem same_eq (L : Likeness R) (h : R x y) (z : Json) : same x z = same y z := by
  rw [same, same, L.canonical_eq h]

/-- **Lists with items that are alike repeat something both or neither.** -/
theorem hasRepeats_eq (L : Likeness R) (h : List.Forall₂ R xs ys) : hasRepeats xs = hasRepeats ys := by
  have from_seen : ∀ seen, repeatsFrom seen xs = repeatsFrom seen ys := by
    induction h with
    | nil => exact fun _ => rfl
    | cons hxy _ ih =>
      intro seen
      rw [repeatsFrom, repeatsFrom, L.canonical_eq hxy, ih]
  exact from_seen []

end Likeness

end Json

end Conform
