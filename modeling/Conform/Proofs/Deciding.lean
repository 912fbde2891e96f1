/-
# Deciding what a request comes to

Values, issues and outcomes can be compared, and so can what a resolution or a probe ends with: the
statement that a request comes to a certain outcome is one that the kernel can evaluate.  What holds
throughout a value or everywhere in a schema can be decided in the same way, as long as it can be
decided of each value or schema in it.
-/
import Conform.Proofs.Merging
import Conform.Session

namespace Conform

namespace Json

/-! ## 1. Equality of values -/

mutual

/-- Are the two values equal, tags and order of members included? -/
def equal : Json → Json → Bool
  | .null, .null => true
  | .bool a, .bool b => a == b
  | .num a, .num b => a == b
  | .str a, .str b => a == b
  | .arr i xs, .arr j ys => i == j && equalItems xs ys
  | .obj i f, .obj j g => i == j && equalFields f g
  | _, _ => false

/-- Are the two lists of items equal? -/
def equalItems : List Json → List Json → Bool
  | [], [] => true
  | x :: xs, y :: ys => equal x y && equalItems xs ys
  | _, _ => false

/-- Are the two lists of members equal? -/
def equalFields : List (String × Json) → List (String × Json) → Bool
  | [], [] => true
  | (j, x) :: f, (k, y) :: g => j == k && equal x y && equalFields f g
  | _, _ => false

end

theorem equal_iff {x y : Json} : equal x y = true ↔ x = y := by
  induction x using Json.induction generalizing y with
  | step x ih =>
    cases x with
    | arr i xs =>
      cases y with
      | arr j ys =>
        simp only [equal, Bool.and_eq_true, beq_iff_eq, Json.arr.injEq]
        refine and_congr_right fun _ => ?_
        induction xs generalizing ys with
        | nil => cases ys <;> simp [equalItems]
        | cons x xs ihs =>
          cases ys with
          | nil => simp [equalItems]
          | cons y ys =>
            simp only [equalItems, Bool.and_eq_true, ih x (List.mem_cons_self ..),
              ihs (fun z hz => ih z (List.mem_cons_of_mem _ hz)), List.cons.injEq]
      | _ => simp [equal]
    | obj i f =>
      cases y with
      | obj j g =>
        simp only [equal, Bool.and_eq_true, beq_iff_eq, Json.obj.injEq]
        refine and_congr_right fun _ => ?_
        induction f generalizing g with
        | nil => cases g <;> simp [equalFields]
        | cons m f ihf =>
          obtain ⟨k, x⟩ := m
          cases g with
          | nil => simp [equalFields]
          | cons n g =>
            obtain ⟨l, y⟩ := n
            simp only [equalFields, Bool.and_eq_true, beq_iff_eq, ih x (List.mem_cons_self ..),
              ihf (fun z hz => ih z (List.mem_cons_of_mem _ hz)), List.cons.injEq, Prod.mk.injEq]
      | _ => simp [equal]
    | _ => cases y <;> simp [equal]

instance : DecidableEq Json := fun _ _ => decidable_of_iff _ equal_iff

/-! ## 2. What holds throughout a value -/

mutual

/-- Does the test pass at the value and at everything inside it? -/
def all (p : Json → Bool) : Json → Bool
  | .arr i xs => p (.arr i xs) && allItems p xs
  | .obj i f => p (.obj i f) && allFields p f
  | x => p x

/-- Does the test pass at each item and at everything inside them? -/
def allItems (p : Json → Bool) : List Json → Bool
  | [] => true
  | x :: xs => all p x && allItems p xs

/-- Does the test pass at each member and at everything inside them? -/
def allFields (p : Json → Bool) : List (String × Json) → Bool
  | [] => true
  | (_, x) :: f => all p x && allFields p f

end

theorem allItems_iff {p : Json → Bool} {xs : List Json} :
    allItems p xs = true ↔ ∀ x ∈ xs, all p x = true := by
  induction xs with
  | nil => simp [allItems]
  | cons x xs ih => simp [allItems, ih]

theorem allFields_iff {p : Json → Bool} {f : List (String × Json)} :
    allFields p f = true ↔ ∀ x ∈ f.map (·.2), all p x = true := by
  induction f with
  | nil => simp [allFields]
  | cons m f ih => simp [allFields, ih]

theorem all_iff {p : Json → Bool} {x : Json} :
    all p x = true ↔ p x = true ∧ ∀ y ∈ x.children, all p y = true := by
  cases x with
  | arr i xs => rw [all, Bool.and_eq_true, allItems_iff, children]
  | obj i f => rw [all, Bool.and_eq_true, allFields_iff, children]
  | _ => simp [all, children]

theorem all_iff_throughout {p : Json → Prop} [DecidablePred p] {x : Json} :
    all (fun y => decide (p y)) x = true ↔ Throughout p x := by
  induction x using Json.induction with
  | step x ih =>
    rw [all_iff, decide_eq_true_iff]
    constructor
    · rintro ⟨here, inside⟩
      exact .intro here fun y hy => (ih y hy).1 (inside y hy)
    · intro h
      exact ⟨h.here, fun y hy => (ih y hy).2 (h.inner hy)⟩

instance {p : Json → Prop} [DecidablePred p] {x : Json} : Decidable (Throughout p x) :=
  decidable_of_iff _ all_iff_throughout

instance : DecidablePred HasDistinctNames
  | .obj _ fields => inferInstanceAs (Decidable (List.Nodup (Fields.names fields)))
  | .null | .bool _ | .num _ | .str _ | .arr _ _ => .isTrue trivial

end Json

/-! ## 3. What holds everywhere in a schema -/

namespace Schema

/-- Does the test pass at the schema and at the schemas below it, down to a depth? -/
def everywhere (p : Fields → Bool) : (depth : Nat) → Json → Bool
  | 0, s => !s.isObject
  | depth + 1, .obj _ fields => p fields && (subschemas fields).all (everywhere p depth)
  | _ + 1, _ => true

theorem everywhere_iff {P : Fields → Prop} [DecidablePred P] {depth : Nat} {s : Json}
    (hs : s.size ≤ depth) :
    everywhere (fun fields => decide (P fields)) depth s = true ↔ Everywhere P s := by
  induction depth generalizing s with
  | zero => exact absurd (Json.size_pos s) (Nat.not_lt.2 hs)
  | succ depth ih =>
    cases s with
    | obj tag fields =>
      have below : ∀ t ∈ subschemas fields, t.size ≤ depth := fun t ht =>
        Nat.le_of_lt_succ (Nat.lt_of_lt_of_le (size_lt_of_mem_subschemas tag ht) hs)
      simp only [everywhere, Bool.and_eq_true, decide_eq_true_iff, List.all_eq_true]
      constructor
      · rintro ⟨here, inner⟩
        exact .node here fun t ht => (ih (below t ht)).1 (inner t ht)
      · intro h
        exact ⟨h.here, fun t ht => (ih (below t ht)).2 (h.inner ht)⟩
    | _ => exact iff_of_true rfl (.plain rfl)

instance {P : Fields → Prop} [DecidablePred P] : DecidablePred (Everywhere P) := fun _ =>
  decidable_of_iff _ (everywhere_iff (Nat.le_refl _))

instance {P : Fields → Prop} [DecidablePred P] : DecidablePred (Wholly P) := fun s =>
  decidable_of_iff (Everywhere P s ∧ s.Proper) ⟨fun ⟨h₁, h₂⟩ => ⟨h₁, h₂⟩, fun ⟨h₁, h₂⟩ => ⟨h₁, h₂⟩⟩

instance {A : String → Json → Prop} [∀ k x, Decidable (A k x)] : DecidablePred (OfMembers A) :=
  fun fields => decidable_of_iff (∀ m ∈ fields, A m.1 m.2)
    ⟨fun h k x hm => h (k, x) hm, fun h m hm => h m.1 m.2 hm⟩

instance {A : String → Json → Prop} [∀ k x, Decidable (A k x)] : DecidablePred (HasMembers A) := fun x =>
  inferInstanceAs (Decidable (x.HasDistinctNames ∧ OfMembers A (fieldsOf x)))

end Schema

/-! ## 4. Equality of outcomes -/

deriving instance DecidableEq for Reason
deriving instance DecidableEq for Issue
deriving instance DecidableEq for Fault
deriving instance DecidableEq for Resolve.Outcome
deriving instance DecidableEq for Reference.Target

/-- What checks end with can be compared. -/
instance decidableEqEnds {ε α : Type} [DecidableEq ε] [DecidableEq α] : DecidableEq (Except ε α)
  | .error a, .error b => decidable_of_iff (a = b) (by simp)
  | .ok a, .ok b => decidable_of_iff (a = b) (by simp)
  | .error _, .ok _ => isFalse (by simp)
  | .ok _, .error _ => isFalse (by simp)

end Conform
