/-
# Values in another order

Two proper values that are the same but for the order of members (`Reordered`) have the same shape,
and whatever is read out of them is reordered again.  So being reordered is a likeness: what does not
depend on the order of members is equal for both.
-/
import Conform.Proofs.Extension
import Conform.Proofs.Likeness

namespace Conform.Json

open Fields (get?)

/-- **The one value is the other with its members in another order**, at any depth. -/
structure Reordered (x y : Json) : Prop where
  alike : Alike x y
  proper : x.Proper
  proper' : y.Proper

namespace Reordered

variable {x y : Json} {tag tag' : Tag} {f g : Fields} {xs ys : List Json} {k : String}

theorem refl (h : x.Proper) : Reordered x x := ⟨extends_refl h, h, h⟩

theorem trans {z : Json} (h : Reordered x y) (h' : Reordered y z) : Reordered x z :=
  ⟨extends_trans h.alike h'.alike, h.proper, h'.proper'⟩

/-- Members that are the same by name are so in any order. -/
theorem of_get? (hf : (obj tag f).Proper) (hg : Fields.Distinct g)
    (same : ∀ k, Fields.get? g k = Fields.get? f k) : Reordered (.obj tag f) (.obj tag' g) where
  alike := extends_of_get? hf.distinct fun k => by
    rw [same k]
    exact extends?_refl fun _ hx => hf.of_get? hx
  proper := hf
  proper' := proper_obj hg fun k _ hm => hf.of_get? ((same k).symm.trans (Fields.get?_of_mem hg hm))

/-- **Members of one name are there on both sides or on neither.** -/
theorem get? (h : Reordered (.obj tag f) (.obj tag' g)) (k : String) :
    Option.Rel Reordered (get? f k) (get? g k) := by
  obtain ⟨_, _, he, hx⟩ := (extends_obj_iff h.proper.distinct).1 h.alike
  cases he
  have hk := hx k
  cases hf : Fields.get? f k with
  | none =>
    rw [hf] at hk
    rw [hk.resolve_left not_false]
    exact .none
  | some a =>
    rw [hf] at hk
    obtain ⟨b, hg, hab⟩ := hk.resolve_left fun hn => hn.1
    rw [hg]
    exact .some ⟨hab, h.proper.of_get? hf, h.proper'.of_get? hg⟩

theorem items (h : Reordered (.arr tag xs) (.arr tag' ys)) : List.Forall₂ Reordered xs ys := by
  obtain ⟨_, _, he, hxy⟩ := extends_arr_iff.1 h.alike
  cases he
  have hx := fun x hx => h.proper.of_mem_items (x := x) hx
  have hy := fun y hy => h.proper'.of_mem_items (x := y) hy
  clear h
  induction hxy with
  | nil => exact .nil
  | @cons a b xs ys hab _ ih =>
    refine .cons ⟨hab, hx a (List.mem_cons_self ..), hy b (List.mem_cons_self ..)⟩ ?_
    exact ih (fun x hm => hx x (List.mem_cons_of_mem _ hm))
      fun y hm => hy y (List.mem_cons_of_mem _ hm)

/-- **Values in another order are matched up part by part.** -/
theorem matched (h : Reordered x y) : Matched Reordered x y := by
  have ha := h.alike
  cases x with
  | arr tag xs =>
    obtain ⟨tag', ys, rfl, -⟩ := extends_arr_iff.1 ha
    exact .lists h.items
  | obj tag f =>
    obtain ⟨tag', g, rfl, -⟩ := (extends_obj_iff h.proper.distinct).1 ha
    exact .objects ⟨h.proper.distinct, h.proper'.distinct, h.get?⟩
  | null =>
    cases ha.resolve_left not_false
    exact .scalar rfl
  | _ =>
    simp only [Extends] at ha
    cases ha
    exact .scalar rfl

theorem members (h : Reordered (.obj tag f) (.obj tag' g)) : Fields.Paired Reordered f g :=
  h.matched.members

/-- A number is in no other order than itself. -/
theorem num_eq {m n : Number} (h : Reordered (.num m) (.num n)) : m = n := by
  have ha := h.alike
  simp only [Alike, Extends] at ha
  cases ha
  rfl

theorem likeness : Likeness Reordered := ⟨matched, fun s => refl (proper_str s)⟩

end Reordered

end Conform.Json
