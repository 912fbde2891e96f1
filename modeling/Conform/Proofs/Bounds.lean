/-
# Bounds that exclude themselves

There are two ways to say that a number must be greater than a limit, and not just as great.  The older
one flags the bound, `minimum: 3` with `exclusiveMinimum: true`; the newer one gives the limit a keyword of
its own, `exclusiveMinimum: 3`.  Both are understood, at either end of the range.

What the check of a number reads of the keywords about bounds is little (`numberIssues_congr`): at each end
the limit that may be reached, and the limit that may not (`Side.limits`).  A flagged bound reads like the
limit that replaces it (`limits_strict`), whatever that limit is; a flag that is `false` reads like no flag
(`limits_unflagged`).  Neither changes anything about the other end, so both ends can be rewritten at once.

The limit must be there.  A flag without a bound, or with a bound that is null, excludes nothing: there is
no limit that could stand in its place.
-/
import Conform.Proofs.Members
import Conform.Probe.Scalar

namespace Conform.Probe

open Fields (get? put erase)

/-! ## 1. The ends of a range -/

/-- An end of a range of numbers. -/
inductive Side where
  | lower
  | upper
deriving DecidableEq

namespace Side

/-- The keyword of the bound at this end. -/
def bound : Side → String
  | lower => "minimum"
  | upper => "maximum"

/-- The keyword of the exclusive bound, or of the flag that makes the bound exclusive. -/
def exclusive : Side → String
  | lower => "exclusiveMinimum"
  | upper => "exclusiveMaximum"

/-- The keywords of an end are told apart from each other and from those of the other end. -/
theorem bound_ne_exclusive (side other : Side) : side.bound ≠ other.exclusive := by
  cases side <;> cases other <;> decide

theorem bound_injective : Function.Injective bound := by
  intro side other h
  cases side <;> cases other <;> first | rfl | simp [bound] at h

theorem exclusive_injective : Function.Injective exclusive := by
  intro side other h
  cases side <;> cases other <;> first | rfl | simp [exclusive] at h

theorem bound_ne_multipleOf (side : Side) : side.bound ≠ "multipleOf" := by cases side <;> decide

theorem exclusive_ne_multipleOf (side : Side) : side.exclusive ≠ "multipleOf" := by
  cases side <;> decide

/-- The bound at this end is flagged as exclusive. -/
structure Flagged (side : Side) (fields : Fields) (limit : Json) : Prop where
  flag : get? fields side.exclusive = some (.bool true)
  found : get? fields side.bound = some limit
  /-- A bound that is null is none. -/
  given : limit ≠ .null

/-- The members with one limit in place of the bound and the flag. -/
def strict (side : Side) (fields : Fields) (limit : Json) : Fields :=
  put (erase fields side.bound) side.exclusive limit

end Side

/-! ## 2. What is read of the bounds -/

/-- A bound as a limit: only a number is one. -/
def numeric? : Option Json → Option Number
  | some (.num limit) => some limit
  | _ => none

/-- A bound is violated as the limit that it is. -/
theorem boundIssue_congr {bound bound' : Option Json} (h : numeric? bound = numeric? bound')
    (violated : Number → Bool) (reason : Json → Reason) (path : Path) :
    boundIssue bound violated reason path = boundIssue bound' violated reason path := by
  have read : ∀ bound, boundIssue bound violated reason path =
      ((numeric? bound).elim [] fun limit =>
        if violated limit then [⟨reason (.num limit), path⟩] else []) := by
    intro bound
    match bound with
    | some (.num _) => rfl
    | none | some .null | some (.bool _) | some (.str _) | some (.arr _ _) | some (.obj _ _) => rfl
  rw [read, read, h]

/-- **The limits at an end**: the one that may be reached, and the one that may not. -/
def Side.limits (side : Side) (fields : Fields) : Option Number × Option Number :=
  let bounds := effectiveBounds (get? fields side.bound) (get? fields side.exclusive)
  (numeric? bounds.1, numeric? bounds.2)

variable {fields fields' : Fields} {side other : Side} {limit : Json} {flag : Option Json}

/-- **Of the keywords about bounds, only the limits at the two ends are read.** -/
theorem numberIssues_congr (limits : ∀ side : Side, side.limits fields = side.limits fields')
    (multiple : get? fields "multipleOf" = get? fields' "multipleOf")
    (kind : Kind) (value : Json) (path : Path) :
    numberIssues kind value fields path = numberIssues kind value fields' path := by
  cases value with
  | num n =>
    have low := limits .lower
    have high := limits .upper
    simp only [Side.limits, Side.bound, Side.exclusive, Prod.mk.injEq] at low high
    obtain ⟨minimum, above⟩ := low
    obtain ⟨maximum, below⟩ := high
    simp only [numberIssues]
    rw [multiple, boundIssue_congr minimum, boundIssue_congr maximum, boundIssue_congr above,
      boundIssue_congr below]
  | _ => rfl

/-- A bound that is flagged is a limit that may not be reached. -/
theorem effectiveBounds_flagged (given : limit ≠ .null) :
    effectiveBounds (some limit) (some (.bool true)) = (none, some limit) := by
  cases limit with
  | null => exact absurd rfl given
  | _ => rfl

/-- Without a bound there is nothing to flag. -/
theorem effectiveBounds_unbounded : effectiveBounds none flag = (none, flag) := by
  unfold effectiveBounds
  split
  · next h => cases h
  · next h => cases h
  · rfl

/-! ## 3. Rewriting an end -/

/-- **A flagged bound reads like the limit that replaces it**, and the other end like before. -/
theorem limits_strict (h : side.Flagged fields limit) (other : Side) :
    other.limits (side.strict fields limit) = other.limits fields := by
  by_cases same : other = side
  · subst same
    have bound : get? (other.strict fields limit) other.bound = none := by
      rw [Side.strict, Fields.get?_put, if_neg (other.bound_ne_exclusive other), Fields.get?_erase,
        if_pos rfl]
    have exclusive : get? (other.strict fields limit) other.exclusive = some limit := by
      rw [Side.strict, Fields.get?_put, if_pos rfl]
    simp only [Side.limits, bound, exclusive, h.flag, h.found, effectiveBounds_unbounded,
      effectiveBounds_flagged h.given]
  · have bound : get? (side.strict fields limit) other.bound = get? fields other.bound := by
      rw [Side.strict, Fields.get?_put, if_neg (other.bound_ne_exclusive side), Fields.get?_erase,
        if_neg fun e => same (Side.bound_injective e)]
    have exclusive : get? (side.strict fields limit) other.exclusive = get? fields other.exclusive := by
      rw [Side.strict, Fields.get?_put, if_neg fun e => same (Side.exclusive_injective e),
        Fields.get?_erase, if_neg (side.bound_ne_exclusive other).symm]
    simp only [Side.limits, bound, exclusive]

/-- **A flag that is `false` reads like no flag**, at its own end and at the other. -/
theorem limits_unflagged (h : get? fields side.exclusive = some (.bool false)) (other : Side) :
    other.limits (erase fields side.exclusive) = other.limits fields := by
  have bound : get? (erase fields side.exclusive) other.bound = get? fields other.bound := by
    rw [Fields.get?_erase, if_neg (other.bound_ne_exclusive side)]
  by_cases same : other = side
  · subst same
    have exclusive : get? (erase fields other.exclusive) other.exclusive = none := by
      rw [Fields.get?_erase, if_pos rfl]
    simp only [Side.limits, bound, exclusive, h]
    cases get? fields other.bound <;> rfl
  · have exclusive : get? (erase fields side.exclusive) other.exclusive = get? fields other.exclusive := by
      rw [Fields.get?_erase, if_neg fun e => same (Side.exclusive_injective e)]
    simp only [Side.limits, bound, exclusive]

/-- Divisibility is not touched. -/
theorem multipleOf_strict : get? (side.strict fields limit) "multipleOf" = get? fields "multipleOf" := by
  rw [Side.strict, Fields.get?_put, if_neg side.exclusive_ne_multipleOf.symm, Fields.get?_erase,
    if_neg side.bound_ne_multipleOf.symm]

/-- One end stays flagged where the other one is rewritten. -/
theorem Side.Flagged.strict (differ : side ≠ other) {limit' : Json} (h : side.Flagged fields limit) :
    side.Flagged (other.strict fields limit') limit where
  flag := by
    rw [Side.strict, Fields.get?_put, if_neg fun e => differ (Side.exclusive_injective e),
      Fields.get?_erase, if_neg (other.bound_ne_exclusive side).symm]
    exact h.flag
  found := by
    rw [Side.strict, Fields.get?_put, if_neg (side.bound_ne_exclusive other), Fields.get?_erase,
      if_neg fun e => differ (Side.bound_injective e)]
    exact h.found
  given := h.given

/-- One end can be rewritten without any change to the issues. -/
theorem numberIssues_of_flagged (h : side.Flagged fields limit) (kind : Kind) (value : Json)
    (path : Path) :
    numberIssues kind value (side.strict fields limit) path = numberIssues kind value fields path :=
  numberIssues_congr (limits_strict h) multipleOf_strict kind value path

/-- **Flagged bounds and exclusive bounds are two spellings of one thing.**  At either end, and at both
ends together, a flagged bound can be replaced by an exclusive one, and a flag that is `false` can be left
out: no number is judged otherwise, and neither is what is no number. -/
theorem numberIssues_spelling (kind : Kind) (value : Json) (fields : Fields) (path : Path) :
    (∀ (side : Side) (limit : Json), side.Flagged fields limit →
      numberIssues kind value (side.strict fields limit) path = numberIssues kind value fields path) ∧
    (∀ minimum maximum : Json, Side.lower.Flagged fields minimum → Side.upper.Flagged fields maximum →
      numberIssues kind value (Side.upper.strict (Side.lower.strict fields minimum) maximum) path =
        numberIssues kind value fields path) ∧
    ∀ side : Side, get? fields side.exclusive = some (.bool false) →
      numberIssues kind value (erase fields side.exclusive) path =
        numberIssues kind value fields path := by
  refine ⟨fun side limit h => numberIssues_of_flagged h kind value path, ?_, ?_⟩
  · intro minimum maximum low high
    have high : Side.upper.Flagged (Side.lower.strict fields minimum) maximum :=
      high.strict (by decide)
    rw [numberIssues_of_flagged high, numberIssues_of_flagged low]
  · intro side h
    have multiple : get? (erase fields side.exclusive) "multipleOf" = get? fields "multipleOf" := by
      rw [Fields.get?_erase, if_neg side.exclusive_ne_multipleOf.symm]
    exact numberIssues_congr (limits_unflagged h) multiple kind value path

/-- A range from three to five, each bound with its flag. -/
def flaggedRange (low high : Bool) : Fields :=
  [("minimum", .num (.int 3)), ("exclusiveMinimum", .bool low), ("maximum", .num (.int 5)),
    ("exclusiveMaximum", .bool high)]

/-- Three is not above three and five is not below five, whichever way it is said; without the flags
both are within the range. -/
theorem numberIssues_spelling_flaggedRange :
    numberIssues .number (.num (.int 3)) (Side.lower.strict (flaggedRange true true) (.num (.int 3))) [] =
        [⟨.notAbove (.num (.int 3)), []⟩] ∧
      numberIssues .number (.num (.int 5))
          (Side.upper.strict (Side.lower.strict (flaggedRange true true) (.num (.int 3))) (.num (.int 5))) [] =
        [⟨.notBelow (.num (.int 5)), []⟩] ∧
      numberIssues .number (.num (.int 5)) (erase (flaggedRange true false) "exclusiveMaximum") [] = [] := by
  have low : Side.lower.Flagged (flaggedRange true true) (.num (.int 3)) := ⟨rfl, rfl, nofun⟩
  have high : Side.upper.Flagged (flaggedRange true true) (.num (.int 5)) := ⟨rfl, rfl, nofun⟩
  refine ⟨?_, ?_, ?_⟩
  · rw [(numberIssues_spelling .number _ _ _).1 .lower _ low]
    rfl
  · rw [(numberIssues_spelling .number _ _ _).2.1 _ _ low high]
    rfl
  · exact ((numberIssues_spelling .number _ _ _).2.2 .upper rfl).trans rfl

end Conform.Probe
