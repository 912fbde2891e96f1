/-
# What cannot be printed

Where there is a limit to the digits of a text, a value can be printed if every number in it can
(`isPrintable_iff`), and without one every value can (`isPrintable_none`).  Comparing values and leaving out
repetitions goes through the texts of the values, so the functions that ask for them are the ones on texts
with a fault in front: a comparison has an answer if both values can be printed (`deepEqual_eq`), and
repetitions are left out if all values can (`unique_eq`).

The search for a repetition is the exception.  It stops at the first one it finds, and what stands behind
that one is not printed: the fault comes only if nothing is repeated among what stands before the first value
without a text (`hasDuplicates_eq`).

Without a limit the fault is out of reach, and all of them are the functions on texts.
-/
import Conform.Json.Printing
import Conform.Proofs.Members
import Mathlib.Algebra.Ring.Int.Defs
import Mathlib.Data.List.TakeWhile

namespace Conform

variable {limit : Option Nat}

/-! ## 1. Values with a text -/

theorem Number.isPrintable_none (n : Number) : n.isPrintable none = true := by
  cases n <;> rfl

/-- The powers of ten that can be printed are those below the limit. -/
theorem Number.isPrintable_pow_iff {digits k : Nat} :
    Number.isPrintable (some digits) (.int (10 ^ k)) = true ↔ k < digits := by
  rw [isPrintable, Option.all_some, decide_eq_true_eq, Nat.pow_eq, Int.natAbs_pow]
  exact Nat.pow_lt_pow_iff_right (by decide)

namespace Json

variable {x : Json}

/-- The value is no number, or one that has a text. -/
def IsWritten (limit : Option Nat) : Json → Prop
  | .num n => n.isPrintable limit = true
  | _ => True

theorem arePrintable_eq_all (items : List Json) :
    arePrintable limit items = items.all (isPrintable limit) := by
  induction items with
  | nil => rfl
  | cons x rest ih => rw [arePrintable, List.all_cons, ih]

theorem membersPrintable_eq_all (fields : Fields) :
    membersPrintable limit fields = (fields.map (·.2)).all (isPrintable limit) := by
  induction fields with
  | nil => rfl
  | cons field rest ih => rw [membersPrintable, List.map_cons, List.all_cons, ih]

/-- **A value can be printed** if and only if every number in it can. -/
theorem isPrintable_iff : x.isPrintable limit = true ↔ Throughout (IsWritten limit) x := by
  induction x using Json.induction with
  | step x ih =>
    have parts : x.isPrintable limit = true ↔
        IsWritten limit x ∧ ∀ y ∈ children x, y.isPrintable limit = true := by
      cases x with
      | null | bool | str => simp [isPrintable, IsWritten, children]
      | num n => simp [isPrintable, IsWritten, children]
      | arr tag items =>
        rw [isPrintable, arePrintable_eq_all, List.all_eq_true]
        exact (and_iff_right trivial).symm
      | obj tag fields =>
        rw [isPrintable, membersPrintable_eq_all, List.all_eq_true]
        exact (and_iff_right trivial).symm
    rw [parts]
    constructor
    · rintro ⟨here, inside⟩
      exact .intro here fun y hy => (ih y hy).1 (inside y hy)
    · intro h
      exact ⟨h.here, fun y hy => (ih y hy).2 (h.inner hy)⟩

/-- **Without a limit, every value can be printed.** -/
theorem isPrintable_none (x : Json) : x.isPrintable none = true := by
  refine isPrintable_iff.2 ?_
  induction x using Json.induction with
  | step x ih =>
    refine .intro ?_ ih
    cases x with
    | num n => exact n.isPrintable_none
    | _ => trivial

theorem canonicalText_printable (h : x.isPrintable limit = true) : x.canonicalText limit = .ok x.canonical :=
  if_pos h

theorem canonicalText_unprintable (h : ¬x.isPrintable limit = true) :
    x.canonicalText limit = .error .tooManyDigits := if_neg h

/-! ## 2. Comparison and repetition -/

/-- **Two values are compared by their texts**, if both have one. -/
theorem deepEqual_eq (limit : Option Nat) (a b : Json) : deepEqual limit a b =
    if a.isPrintable limit = true ∧ b.isPrintable limit = true then .ok (same a b)
    else .error .tooManyDigits := by
  rw [deepEqual]
  by_cases ha : a.isPrintable limit = true
  · by_cases hb : b.isPrintable limit = true
    · rw [canonicalText_printable ha, canonicalText_printable hb, if_pos ⟨ha, hb⟩]
      rfl
    · rw [canonicalText_printable ha, canonicalText_unprintable hb, if_neg (not_and_of_not_right _ hb)]
      rfl
  · rw [canonicalText_unprintable ha, if_neg (not_and_of_not_left _ ha)]
    rfl

theorem deepEqual_none (a b : Json) : deepEqual none a b = .ok (same a b) := by
  rw [deepEqual_eq, if_pos ⟨isPrintable_none a, isPrintable_none b⟩]

theorem uniqueFrom_eq (seen : List String) (items : List Json) : uniqueFrom limit seen items =
    if items.all (isPrintable limit) = true then .ok (distinctFrom seen items) else .error .tooManyDigits := by
  induction items generalizing seen with
  | nil => rfl
  | cons x rest ih =>
    rw [uniqueFrom, distinctFrom, List.all_cons]
    by_cases hx : x.isPrintable limit = true
    · rw [canonicalText_printable hx, hx, Bool.true_and]
      change (if seen.contains x.canonical = true then uniqueFrom limit seen rest else _) = _
      rw [ih, ih]
      split
      · rfl
      · split <;> rfl
    · rw [canonicalText_unprintable hx, Bool.eq_false_iff.2 hx, Bool.false_and]
      rfl

/-- **Repetitions are left out by the texts**, if every value has one. -/
theorem unique_eq (limit : Option Nat) (items : List Json) : unique limit items =
    if items.all (isPrintable limit) = true then .ok (distinct items) else .error .tooManyDigits :=
  uniqueFrom_eq [] items

theorem all_isPrintable_none (items : List Json) : items.all (isPrintable none) = true :=
  List.all_eq_true.2 fun x _ => isPrintable_none x

theorem unique_none (items : List Json) : unique none items = .ok (distinct items) := by
  rw [unique_eq, if_pos (all_isPrintable_none items)]

theorem hasDuplicatesFrom_eq (seen : List String) (items : List Json) : hasDuplicatesFrom limit seen items =
    if repeatsFrom seen (items.takeWhile (isPrintable limit)) = true then .ok true
    else if items.all (isPrintable limit) = true then .ok false else .error .tooManyDigits := by
  induction items generalizing seen with
  | nil => rfl
  | cons x rest ih =>
    rw [hasDuplicatesFrom, List.all_cons]
    by_cases hx : x.isPrintable limit = true
    · rw [canonicalText_printable hx, List.takeWhile_cons_of_pos hx, hx, Bool.true_and, repeatsFrom]
      change (if seen.contains x.canonical = true then _ else _) = _
      rw [ih]
      by_cases old : seen.contains x.canonical = true
      · rw [if_pos old, old, Bool.true_or, if_pos rfl]
      · rw [if_neg old, Bool.eq_false_iff.2 old, Bool.false_or]
    · rw [canonicalText_unprintable hx, List.takeWhile_cons_of_neg hx, Bool.eq_false_iff.2 hx, Bool.false_and]
      rfl

/-- **A repetition is found among the values before the first one without a text**; there is none if all have
one, and otherwise it is not known. -/
theorem hasDuplicates_eq (limit : Option Nat) (items : List Json) : hasDuplicates limit items =
    if hasRepeats (items.takeWhile (isPrintable limit)) = true then .ok true
    else if items.all (isPrintable limit) = true then .ok false else .error .tooManyDigits :=
  hasDuplicatesFrom_eq [] items

theorem hasDuplicates_printable {items : List Json} (printable : items.all (isPrintable limit) = true) :
    hasDuplicates limit items = .ok (hasRepeats items) := by
  rw [hasDuplicates_eq, List.takeWhile_eq_self_iff.2 (List.all_eq_true.1 printable), if_pos printable]
  cases hasRepeats items <;> rfl

theorem hasDuplicates_none (items : List Json) : hasDuplicates none items = .ok (hasRepeats items) :=
  hasDuplicates_printable (all_isPrintable_none items)

end Json

end Conform
