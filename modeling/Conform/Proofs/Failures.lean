/-
# Failures carry issues

A resolution that fails says why: it never ends with an empty list of issues (`honest_resolve`).  Most
failures name their issue on the spot.  The others pass on what further resolutions reported, so the
statement is about a step whose further resolutions are honest, and the guard's rank closes the
induction.
-/
import Conform.Proofs.Stages

namespace Conform.Resolve

namespace Step

variable {step : Step}

theorem honest_missing {atRoot : Option Json} : Honest (step.missing atRoot) := by
  refine honest_bind fun required _ => ?_
  split
  · exact honest_fail
  · exact honest_done

theorem honest_doneUnless {value : Json} {issues : List Issue} : Honest (doneUnless value issues) := by
  unfold doneUnless
  split
  · exact honest_done
  · exact honest_fail

theorem honest_resolveMembers {value : Fields} : Honest (step.resolveMembers value) := by
  intro h
  obtain ⟨b, _, hb⟩ := resolveMembers_result.1 h
  unfold outcomeOf at hb
  split at hb
  · cases hb
  · next he =>
    rw [← (Outcome.failed.inj hb)] at he
    exact he rfl

theorem honest_ofKind {kind : Kind} : Honest (step.ofKind kind) := by
  cases kind with
  | null | boolean =>
    simp only [ofKind, null, boolean]
    split
    · exact honest_done
    · exact honest_done
    · exact honest_fail
  | number | integer =>
    simp only [ofKind, number]
    split
    · exact honest_missing
    · exact honest_doneUnless
  | string =>
    simp only [ofKind, string]
    split
    · exact honest_missing
    · exact honest_bind fun _ _ => honest_doneUnless
  | array =>
    simp only [ofKind, array]
    split
    · exact honest_missing
    · refine honest_bind fun whole _ => ?_
      split
      · exact honest_fail
      · refine honest_bind fun b _ => ?_
        split
        · exact honest_done
        · exact honest_fail
    · exact honest_fail
  | object =>
    simp only [ofKind, object]
    split
    · refine honest_bind fun required _ => ?_
      split
      · exact honest_fail
      · refine honest_bind fun outcome ho => ?_
        split
        · intro h
          cases h
          exact honest_resolveMembers ho
        · exact honest_done
    · exact honest_resolveMembers
    · exact honest_fail

theorem honest_typed : Honest step.typed := by
  unfold typed
  split
  · split
    · exact honest_done
    · exact honest_ofKind
  · unfold ofType
    split
    · split
      · exact honest_ofKind
      · exact honest_fail
    · split
      · exact honest_fault
      · exact honest_fail
  · unfold ofTypes
    split
    · exact honest_missing
    · split
      · exact honest_bind fun _ _ => honest_fail
      · exact honest_ofKind

section Composed

variable (again : ∀ extension request, Honest (step.again extension request))

include again

theorem honest_redirect {schema : Json} : Honest (step.redirect schema) := again _ _

theorem honest_conditional {condition : Json} : Honest (step.conditional condition) := by
  refine honest_bind fun met _ => ?_
  split
  · exact honest_redirect again
  · exact honest_redirect again
  · exact honest_bind fun _ _ => honest_redirect again

theorem honest_allOf {members : Json} : Honest (step.allOf members) := by
  refine honest_bind fun entries _ => honest_bind fun flat _ => ?_
  split
  · exact honest_fail
  · refine honest_bind fun outcome ho => ?_
    split
    · exact honest_fail
    · split
      · intro h
        cases h
        exact again _ _ ho
      · refine honest_bind fun issues _ => ?_
        split
        · exact honest_done
        · exact honest_fail

theorem honest_anyOf {branches : Json} : Honest (step.anyOf branches) := by
  simp only [anyOf]
  split
  · exact honest_redirect again
  · refine honest_bind fun branches _ => honest_bind fun found _ => ?_
    split
    · exact honest_redirect again
    · split
      · exact honest_done
      · exact honest_fail

theorem honest_oneOf {branches : Json} : Honest (step.oneOf branches) := by
  simp only [oneOf]
  split
  · exact honest_redirect again
  · refine honest_bind fun branches _ => honest_bind fun outcomes _ => ?_
    split
    · split
      · exact honest_redirect again
      · exact honest_fail
      · exact honest_fault
    · exact honest_done
    · split
      · exact honest_fail
      · unfold noneOfOne
        split <;> exact honest_fail
    · exact honest_fail

theorem honest_not {negated : Json} : Honest (step.not negated) := by
  simp only [not]
  split
  · exact honest_redirect again
  · refine honest_bind fun issues _ => ?_
    split
    · split
      · exact honest_bind fun _ _ => honest_fail
      · exact honest_fail
    · exact honest_redirect again

theorem honest_dispatch : Honest step.dispatch := by
  unfold dispatch
  split
  · exact honest_conditional again
  · exact honest_allOf again
  · exact honest_anyOf again
  · exact honest_oneOf again
  · exact honest_not again
  · exact honest_typed

/-- A step fails with issues if the resolutions that it asks for do. -/
theorem honest_run : Honest step.run := by
  refine honest_bind fun issues _ => ?_
  split
  · exact honest_dispatch again
  · exact honest_fail

end Composed

end Step

/-- **A resolution does not fail without an issue.** -/
theorem honest_resolve (setting : Probe.Setting) (guard : Guard) (request : Request) :
    Honest (resolve setting guard request) := by
  rw [resolve]
  split
  · exact honest_fail
  · next deep =>
    have again : ∀ extension next, Honest (resolve setting (guard.enter extension) next) :=
      fun extension next => honest_resolve setting (guard.enter extension) next
    unfold resolveStep
    split
    · exact honest_done
    · exact honest_done
    · split
      · exact honest_done
      · exact honest_fail
    · exact Step.honest_run again
    · exact honest_fault
    · exact honest_fault
termination_by guard.rank
decreasing_by exact Guard.rank_enter_lt ‹_› extension

end Conform.Resolve
