/-
# What the starting path does to a report

A whole resolution sorts its issues out before it reports them: a property missing at the top is no news
beside a better reason.  The top, though, is told from the length of the whole path, the starting path
included, and not from the start on, as the depth guard does.  So an issue that says little may say enough
below a starting path (`Issue.LeavesTop`), and it is reported there.

Everything else about the report is as it is without the starting path (`reported_below_iff`).  Value and
faults are the same; and so are the issues, each with its path below the starting path, unless some of the
issues that were found leave the top and others do not.
-/
import Conform.Proofs.Lossless
import Conform.Proofs.Relocation
import Conform.Proofs.Sifting

namespace Conform

open Resolve (Outcome wholeRequest resolveAt reportedOutcome)

variable {place : Path}

namespace Issue

/-! ## 1. Issues that say little -/

/-- The issue reports a property that is missing at the top, and below the place that is no longer the
top. -/
def LeavesTop (place : Path) (issue : Issue) : Prop :=
  missingStart.isPrefixOf issue.message.toList = true ∧ issue.path.length ≤ 1 ∧
    1 < place.length + issue.path.length

instance (issue : Issue) : Decidable (issue.LeavesTop place) :=
  inferInstanceAs (Decidable (_ ∧ _ ∧ _))

/-- **An issue says little by itself but not below the place** if it leaves the top there. -/
theorem leavesTop_iff {issue : Issue} :
    issue.LeavesTop place ↔
      issue.isGeneric = true ∧ (issue.below place).isGeneric = false := by
  have other : missingStart.isPrefixOf Reason.notExactlyOne.message.toList = false := by decide
  have message : (issue.below place).message = issue.message := rfl
  have length : (issue.below place).path.length = place.length + issue.path.length :=
    List.length_append
  unfold LeavesTop isGeneric
  rw [message, length]
  by_cases same : issue.message = Reason.notExactlyOne.message
  · simp [same, other]
  · cases missingStart.isPrefixOf issue.message.toList <;> simp [same]

/-- Below a place an issue says no less. -/
theorem isGeneric_of_below {issue : Issue} (h : (issue.below place).isGeneric = true) :
    issue.isGeneric = true := by
  have length : (issue.below place).path.length = place.length + issue.path.length :=
    List.length_append
  simp only [isGeneric, Bool.or_eq_true, Bool.and_eq_true, decide_eq_true_eq, length] at h ⊢
  exact h.imp id fun h => ⟨h.1, by omega⟩

theorem below_injective : Function.Injective (Issue.below place) := by
  rintro ⟨reason, path⟩ ⟨reason', path'⟩ h
  simp only [Issue.below, Issue.mk.injEq, List.append_cancel_left_eq] at h
  rw [h.1, h.2]

/-! ## 2. Sorting out -/

/-- Messages are the same at every place. -/
theorem distinct_map_below (issues : List Issue) :
    distinct (issues.map (Issue.below place)) = (distinct issues).map (Issue.below place) := by
  rw [distinct_eq_firstsFrom, distinct_eq_firstsFrom, firstsFrom_map]
  rfl

/-- The issues that are left below the place, by themselves. -/
theorem withoutGeneric_map_below (issues : List Issue) :
    withoutGeneric (issues.map (Issue.below place)) =
      (if issues.all fun issue => (issue.below place).isGeneric then issues
        else issues.filter fun issue => !(issue.below place).isGeneric).map (Issue.below place) := by
  rw [withoutGeneric_eq, List.all_map, List.filter_map, apply_ite (List.map (Issue.below place))]
  rfl

/-- **The same issues are left below the place** if and only if none of them leaves the top there or all
do. -/
theorem withoutGeneric_below_iff (issues : List Issue) :
    withoutGeneric (issues.map (Issue.below place)) = (withoutGeneric issues).map (Issue.below place) ↔
      (∀ issue ∈ issues, ¬issue.LeavesTop place) ∨ ∀ issue ∈ issues, issue.LeavesTop place := by
  rw [withoutGeneric_map_below, List.map_inj_right below_injective, withoutGeneric_eq]
  simp only [leavesTop_iff, List.all_eq_true, not_and, Bool.not_eq_false]
  by_cases little : ∀ issue ∈ issues, issue.isGeneric = true
  · -- All are reported at the top; below the place those that have left it, if any has.
    rw [if_pos little]
    by_cases still : ∀ issue ∈ issues, (issue.below place).isGeneric = true
    · rw [if_pos still]
      exact iff_of_true rfl (.inl fun issue hi _ => still issue hi)
    · rw [if_neg still, List.filter_eq_self]
      simp only [Bool.not_eq_true']
      refine ⟨fun h => .inr fun issue hi => ⟨little issue hi, h issue hi⟩, ?_⟩
      rintro (h | h)
      · exact absurd (fun issue hi => h issue hi (little issue hi)) still
      · exact fun issue hi => (h issue hi).2
  · -- What says enough is reported at the top; below the place that and whatever leaves the top.
    have still : ¬∀ issue ∈ issues, (issue.below place).isGeneric = true :=
      fun h => little fun issue hi => isGeneric_of_below (h issue hi)
    rw [if_neg little, if_neg still]
    refine ⟨fun h => .inl fun issue hi generic => ?_, ?_⟩
    · by_contra left
      have reported : issue ∈ issues.filter fun issue => !issue.isGeneric :=
        h ▸ List.mem_filter.2 ⟨hi, by simpa using left⟩
      simp [generic] at reported
    · rintro (h | h)
      · refine List.filter_congr fun issue hi => ?_
        cases generic : issue.isGeneric with
        | true => rw [h issue hi generic]
        | false =>
          cases below : (issue.below place).isGeneric with
          | true => exact absurd (isGeneric_of_below below) (by simp [generic])
          | false => rfl
      · exact absurd (fun issue hi => (h issue hi).1) little

end Issue

/-! ## 3. Reports -/

/-- A failure is reported with the issues that are left, if there are any issues. -/
theorem reportedOutcome_failed (notes issues : List Issue) :
    reportedOutcome notes (.failed issues) =
      if Issue.distinct (notes ++ issues) = [] then .error .noIssues
      else .ok (.failed (Issue.withoutGeneric (Issue.distinct (notes ++ issues)))) := by
  simp only [reportedOutcome, Issue.reported]
  split
  · next none => rw [if_pos (Issue.withoutGeneric_eq_nil.1 none)]
  · next left => rw [if_neg fun none => left (Issue.withoutGeneric_eq_nil.2 none)]

/-- The issues that a whole resolution finds without a starting path, before they are sorted out. -/
def foundIssues (options : Options) (schema : Json) (value : Option Json) : List Issue :=
  let run := resolveAt ⟨{ options with currentPath := [] }, schema⟩ (wholeRequest schema value)
  match run.result with
  | .ok (.failed issues) => Issue.distinct (run.notes ++ issues)
  | _ => []

/-- **The starting path hardly changes what is reported.**  A value is resolved from a starting path if and
only if it is without one, and to the same; a fault is the same, met below the starting path; and what is
reported are the same issues in the same order, each below the starting path, if and only if none of the
issues that were found leaves the top there or all of them do. -/
theorem reported_below_iff (options : Options) (schema : Json) (value : Option Json) (place : Path) :
    let here := resolveValues schema value { options with currentPath := [] }
    let there := resolveValues schema value { options with currentPath := place }
    (∀ resolved, there = .ok (.resolved resolved) ↔ here = .ok (.resolved resolved)) ∧
    (∀ fault, here = .error fault → there = .error (fault.below place)) ∧
    (there = endsBelow place (Outcome.below place) here ↔
      (∀ issue ∈ foundIssues options schema value, ¬issue.LeavesTop place) ∨
        ∀ issue ∈ foundIssues options schema value, issue.LeavesTop place) := by
  have alike := Resolve.alike_resolveAt place ⟨options, schema⟩ (wholeRequest schema value)
  simp only [resolveValues_eq_reported, foundIssues]
  change Resolve.Alike place (resolveAt ⟨{ options with currentPath := place }, schema⟩ _)
    (resolveAt ⟨{ options with currentPath := [] }, schema⟩ _) at alike
  generalize resolveAt ⟨{ options with currentPath := place }, schema⟩ _ = there at alike ⊢
  generalize resolveAt ⟨{ options with currentPath := [] }, schema⟩ _ = here at alike ⊢
  obtain ⟨ends, notes⟩ := there
  obtain ⟨ends', notes'⟩ := here
  obtain ⟨result, hnotes⟩ := alike
  dsimp only at result hnotes ⊢
  cases result with
  | fault fault =>
    refine ⟨fun _ => by simp [Except.bind], ?_, iff_of_true rfl (.inl (by simp))⟩
    rintro _ ⟨⟩
    rfl
  | answer outcome =>
    cases outcome with
    | resolved value =>
      exact ⟨fun _ => Iff.rfl, by simp [Except.bind, reportedOutcome],
        iff_of_true rfl (.inl (by simp))⟩
    | @failed issues issues' hissues =>
      have found : Issue.distinct (notes ++ issues) =
          (Issue.distinct (notes' ++ issues')).map (Issue.below place) := by
        rw [hnotes, hissues, ← List.map_append, Issue.distinct_map_below]
      simp only [Except.bind, reportedOutcome_failed, found, List.map_eq_nil_iff]
      generalize Issue.distinct (notes' ++ issues') = found
      by_cases none : found = []
      · subst none
        refine ⟨fun _ => by simp, ?_, iff_of_true rfl (.inl (by simp))⟩
        rintro _ ⟨⟩
        rfl
      · simp only [none, if_false]
        refine ⟨fun _ => by simp, by simp, ?_⟩
        rw [← Issue.withoutGeneric_below_iff]
        simp [endsBelow, Outcome.below]

/-- An object with a property that has to be there, and one member at least. -/
def inhabited : Json :=
  .obj none [("type", .str "object"), ("required", .arr none [.str "a"]),
    ("minProperties", .num (.int 1))]

/-- The empty object has too few members and lacks a property.  Of the two issues only the second leaves the
top below a starting path, so that there both are reported, and only the first without it. -/
theorem reported_below_iff_inhabited :
    resolveValues inhabited (some (.obj none [])) { Options.default with currentPath := ["p"] } ≠
      endsBelow ["p"] (Outcome.below ["p"])
        (resolveValues inhabited (some (.obj none [])) { Options.default with currentPath := [] }) := by
  have found : foundIssues .default inhabited (some (.obj none [])) =
      [⟨.tooFewMembers (.num (.int 1)), []⟩, ⟨.missing "a", ["a"]⟩] := by
    decide +kernel
  intro same
  rcases (reported_below_iff .default inhabited (some (.obj none [])) ["p"]).2.2.1 same with stay | leave
  · exact stay ⟨.missing "a", ["a"]⟩ (by simp [found]) (by decide)
  · exact absurd (leave ⟨.tooFewMembers (.num (.int 1)), []⟩ (by simp [found])) (by decide)

end Conform
