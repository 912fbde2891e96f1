/-
# Sameness is structural equality

Two values are the same when their canonical texts are.  What that means of the values themselves is said
by `Equal`: numbers are equal when their exact values are, however they are written, lists item by item in
order, objects by their members in any order, and everything else only itself.

Each direction has its half in another module.  That a text can be read in one way only has been shown
but for one thing, that doubles which are no whole numbers are told apart by their texts (`Equated`), and
that they are read back from them settles it (`Double.render_injective`).  That values which are alike have
one text (`Likeness.canonical_eq`) asks of two numbers of one value that they be written alike: both are
whole and the same whole number, or both are the same double (`akin_of_value`), since a double is known
from its value.
-/
import Conform.Proofs.Deciding
import Conform.Proofs.Printing
import Conform.Proofs.Rereading
import Conform.Proofs.Texts

namespace Conform

/-! ## 1. Numbers of one value -/

namespace Number

/-- The value of a finite double. -/
theorem value_finite (negative : Bool) {m : Nat} {e : Int} (fits : Double.Fits m e) :
    value (.float (.finite negative m e fits)) =
      .exact ((if negative then -1 else 1) * ((m : ℚ) * 2 ^ e)) := by
  rw [value, Double.toRat?_finite] <;> (intro h; cases h)

/-- A double that is worth a rational is finite, and has this value. -/
theorem toRat?_of_value {x : Double} {q : ℚ} (h : value (.float x) = .exact q) : x.toRat? = some q := by
  cases x with
  | nan => cases h
  | infinite negative => cases negative <;> cases h
  | finite negative m e fits =>
    rw [value_finite, Value.exact.injEq] at h
    rw [Double.toRat?_finite, h]

/-- **A number that is worth a whole number is whole.** -/
theorem toInt?_of_value {n : Number} {k : Int} (h : n.value = .exact k) : n.toInt? = some k := by
  have whole : n.isIntegral = true := by
    cases n with
    | int => rfl
    | float x => exact Double.isIntegral_of_toRat? (toRat?_of_value h)
  obtain ⟨j, hj⟩ := Option.isSome_iff_exists.1 whole
  have worth := (Json.value_of_toInt? hj).symm.trans h
  rw [hj, show j = k by exact_mod_cast Value.exact.inj worth]

/-- Doubles of one value are equal, but for the two zeros. -/
theorem eq_of_value_eq {x y : Double} (h : value (.float x) = value (.float y)) (hx : x.isIntegral = false) :
    x = y := by
  cases x with
  | nan =>
    cases y with
    | nan => rfl
    | infinite negative => cases negative <;> cases h
    | finite =>
      rw [value_finite] at h
      cases h
  | infinite negative =>
    cases y with
    | nan => cases negative <;> cases h
    | infinite negative' => cases negative <;> cases negative' <;> first | rfl | cases h
    | finite =>
      rw [value_finite] at h
      cases negative <;> cases h
  | finite negative m e fits =>
    have worth := value_finite negative fits
    have worth' := h.symm.trans worth
    refine Double.eq_of_toRat?_eq (toRat?_of_value worth) (toRat?_of_value worth') fun zero => ?_
    -- zero is a whole number
    rw [zero] at worth
    rw [Double.isIntegral_of_toRat? (k := 0) (toRat?_of_value (worth.trans (by rw [Int.cast_zero])))] at hx
    cases hx

/-- **Numbers of one value are written alike.** -/
theorem akin_of_value {m n : Number} (h : m.value = n.value) : m.Akin n := by
  cases hm : m.toInt? with
  | some k =>
    have hn : n.toInt? = some k := toInt?_of_value (h ▸ Json.value_of_toInt? hm)
    refine ⟨h, ?_, ?_⟩
    · rw [isIntegral, isIntegral, hm, hn]
    · rw [Json.canonicalNumber, Json.canonicalNumber, hm, hn]
  | none =>
    have hn : n.toInt? = none := by
      cases hn : n.toInt? with
      | none => rfl
      | some k => rw [← hm, toInt?_of_value (h.trans (Json.value_of_toInt? hn))]
    cases m with
    | int => cases hm
    | float x =>
      cases n with
      | int => cases hn
      | float y =>
        obtain rfl := eq_of_value_eq h (congrArg Option.isSome hm)
        exact ⟨rfl, rfl, rfl⟩

end Number

/-! ## 2. Equal values -/

namespace Json

open Fields (get?)

/-- **Structural equality.**  Null, booleans and texts are equal to themselves only.  Numbers are equal if
their exact values are, whole numbers and doubles alike: minus zero equals zero, each infinity itself, and
so does the value that is no number.  Lists are equal item by item, and objects if under each name both have
equal members or neither has one. -/
inductive Equal : Json → Json → Prop
  | null : Equal .null .null
  | bool (b : Bool) : Equal (.bool b) (.bool b)
  | num {m n : Number} (worth : m.value = n.value) : Equal (.num m) (.num n)
  | str (s : String) : Equal (.str s) (.str s)
  | arr {tag tag' : Tag} {xs ys : List Json} (items : List.Forall₂ Equal xs ys) :
      Equal (.arr tag xs) (.arr tag' ys)
  | obj {tag tag' : Tag} {f g : Fields} (members : ∀ k, Option.Rel Equal (get? f k) (get? g k)) :
      Equal (.obj tag f) (.obj tag' g)

variable {a b x y : Json}

/-- Equal objects have equal members under one name. -/
theorem Equal.members {tag tag' : Tag} {f g : Fields} (h : Equal (.obj tag f) (.obj tag' g)) (k : String) :
    Option.Rel Equal (get? f k) (get? g k) := by
  cases h with
  | obj members => exact members k

/-- Values of one text are equal. -/
theorem Equated.equal (h : Equated x y) : Equal x y := by
  induction x using Json.induction generalizing y with
  | step x ih =>
    cases h.matched with
    | scalar leaf =>
      cases x with
      | null => exact .null
      | bool b => exact .bool b
      | num n => exact .num rfl
      | str s => exact .str s
      | arr | obj => cases leaf
    | numbers akin => exact .num akin.value
    | @lists tag tag' xs ys items =>
      refine .arr ?_
      replace ih : ∀ x ∈ xs, ∀ {y}, Equated x y → Equal x y := ih
      clear h
      induction items with
      | nil => exact .nil
      | cons hxy _ ihs =>
        exact .cons (ih _ List.mem_cons_self hxy) (ihs fun x hx => ih x (List.mem_cons_of_mem _ hx))
    | @objects tag tag' f g paired =>
      refine .obj fun k => ?_
      have hk := paired.get? k
      cases hf : get? f k <;> cases hg : get? g k <;> rw [hf, hg] at hk <;> cases hk
      · exact .none
      · next hxy => exact .some (ih _ (mem_children_of_get? hf) hxy)

/-- **Equal proper values are alike.** -/
theorem likeness_equal : Likeness fun x y => Equal x y ∧ x.Proper ∧ y.Proper := by
  refine ⟨?_, fun s => ⟨.str s, proper_str s, proper_str s⟩⟩
  rintro x y ⟨equal, px, py⟩
  cases equal with
  | null | bool | str => exact .scalar rfl
  | num worth => exact .numbers (Number.akin_of_value worth)
  | @arr tag tag' xs ys items =>
    refine .lists ?_
    replace px : ∀ x ∈ xs, x.Proper := fun x hx => px.inner hx
    replace py : ∀ y ∈ ys, y.Proper := fun y hy => py.inner hy
    induction items with
    | nil => exact .nil
    | cons hxy _ ih =>
      refine .cons ⟨hxy, px _ List.mem_cons_self, py _ List.mem_cons_self⟩ ?_
      exact ih (fun x hx => px x (List.mem_cons_of_mem _ hx)) fun y hy => py y (List.mem_cons_of_mem _ hy)
  | @obj tag tag' f g members =>
    refine .objects ⟨px.distinct, py.distinct, fun k => ?_⟩
    have hk := members k
    cases hf : get? f k <;> cases hg : get? g k <;> rw [hf, hg] at hk <;> cases hk
    · exact .none
    · next hxy => exact .some ⟨hxy, px.of_get? hf, py.of_get? hg⟩

/-- Two values have one text if and only if they are structurally equal. -/
theorem same_iff_equal (ha : a.Proper) (hb : b.Proper) : same a b = true ↔ Equal a b := by
  rw [same, beq_iff_eq]
  constructor
  · intro text
    exact Equated.equal ⟨text, ha, hb, fun d _ e _ alike => Double.render_injective alike⟩
  · intro equal
    exact likeness_equal.canonical_eq ⟨equal, ha, hb⟩

end Json

end Conform
