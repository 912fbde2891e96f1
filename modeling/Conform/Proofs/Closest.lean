/-
# The closest branch

Where no branch of `oneOf` admits an object, the issues of one branch are reported: of the first that
shares most names of properties with the object, if any shares one.  It is found in one pass that carries
the best index so far and how many names it shares, skips branches that declare no properties, and goes on
to another branch only if that shares more.

What the pass comes to (`closestFrom_cases`): either no branch to come shares more than what is carried, and
it ends with what it started with, or it ends at the first of those that share most.  Started with no index
and no names, it ends at the first maximum (`closestBranch_iff`), or nowhere if no name is shared at all.

The pass looks at no probe, so it may name a branch that admits the object.  It does not get to where that
would matter: it is consulted only if no branch passes, and then each has issues of its own.
-/
import Conform.Proofs.Totality
import Conform.Proofs.Valid
import Mathlib.Data.Finset.Card
import Mathlib.Order.Bounds.Basic

namespace Conform.Resolve.Step

open Fields (get? names)

variable {value properties : Fields} {branch : Json} {branches : List Json} {i j m n most : Nat}
  {best : Option Nat}

/-! ## 1. How many names a branch shares -/

/-- The properties that a branch declares, if it is an object and has an object of them. -/
def declared? : Json → Option Fields
  | .obj _ fields =>
    match get? fields "properties" with
    | some (.obj _ properties) => some properties
    | _ => none
  | _ => none

/-- The names that properties and a value have in common. -/
def sharedNames (value properties : Fields) : Finset String :=
  (names properties).toFinset ∩ (names value).toFinset

/-- Counting the names of properties that the value has counts the common names, each once. -/
theorem countP_has_eq_card (distinct : Fields.Distinct properties) :
    (names properties).countP (Fields.has value) = (sharedNames value properties).card := by
  have common : sharedNames value properties =
      ((names properties).filter (Fields.has value)).toFinset := by
    ext name
    simp [sharedNames, Fields.has_iff]
  rw [common, List.toFinset_card_of_nodup (List.Nodup.filter _ distinct), List.countP_eq_length_filter]

theorem distinct_of_declared? (proper : branch.Proper) (h : declared? branch = some properties) :
    Fields.Distinct properties := by
  unfold declared? at h
  split at h
  · split at h
    · next found =>
      cases h
      exact Json.Proper.distinct (proper.of_get? found)
    · cases h
  · cases h

/-- **What the pass counts at a branch** is how many names it shares. -/
theorem overlap?_eq_some_iff (proper : branch.Proper) :
    overlap? value branch = some n ↔
      ∃ properties, declared? branch = some properties ∧ (sharedNames value properties).card = n := by
  have counted : overlap? value branch =
      (declared? branch).map fun properties => (names properties).countP (Fields.has value) := by
    cases branch with
    | obj tag fields =>
      simp only [overlap?, declared?]
      cases get? fields "properties" with
      | none => rfl
      | some table => cases table <;> rfl
    | _ => rfl
  rw [counted, Option.map_eq_some_iff]
  refine exists_congr fun properties => and_congr_right fun declared => ?_
  rw [countP_has_eq_card (distinct_of_declared? proper declared)]

/-- The branch at an index declares properties and shares a number of names with the value. -/
def SharesAt (value : Fields) (branches : List Json) (i n : Nat) : Prop :=
  ∃ branch properties, branches[i]? = some branch ∧ declared? branch = some properties ∧
    (sharedNames value properties).card = n

/-- **The branch at an index is one of the closest**: it shares a name with the value, and no other one
shares more. -/
def ClosestAt (value : Fields) (branches : List Json) (i : Nat) : Prop :=
  ∃ n, 0 < n ∧ SharesAt value branches i n ∧ ∀ j m, SharesAt value branches j m → m ≤ n

/-! ## 2. The pass -/

/-- The count of the branch at an index, if it is counted. -/
def countAt (value : Fields) (branches : List Json) (i : Nat) : Option Nat :=
  branches[i]?.bind (overlap? value)

theorem countAt_iff (proper : ∀ branch ∈ branches, branch.Proper) :
    countAt value branches i = some n ↔ SharesAt value branches i n := by
  rw [countAt, Option.bind_eq_some_iff]
  constructor
  · rintro ⟨branch, hb, count⟩
    obtain ⟨properties, declared, card⟩ :=
      (overlap?_eq_some_iff (proper branch (List.mem_of_getElem? hb))).1 count
    exact ⟨branch, properties, hb, declared, card⟩
  · rintro ⟨branch, properties, hb, declared, card⟩
    exact ⟨branch, hb, (overlap?_eq_some_iff (proper branch (List.mem_of_getElem? hb))).2
      ⟨properties, declared, card⟩⟩

/-- No branch counts more than `most`. -/
def NoneAbove (value : Fields) (branches : List Json) (most : Nat) : Prop :=
  ∀ j m, countAt value branches j = some m → m ≤ most

/-- The first branch with the greatest count, which is more than `most`. -/
structure FirstAbove (value : Fields) (branches : List Json) (most k n : Nat) : Prop where
  counted : countAt value branches k = some n
  above : most < n
  greatest : NoneAbove value branches n
  first : ∀ j < k, ∀ m, countAt value branches j = some m → m < n

/-- A branch that does not count more than what is carried can be passed by. -/
theorem NoneAbove.cons (here : ∀ m, overlap? value branch = some m → m ≤ most)
    (h : NoneAbove value branches most) : NoneAbove value (branch :: branches) most
  | 0, m, count => here m count
  | j + 1, m, count => h j m count

/-- A branch that counts less than the first maximum behind it does not change which that is. -/
theorem FirstAbove.cons {most' k : Nat} (here : ∀ m, overlap? value branch = some m → m < n)
    (h : FirstAbove value branches most' k n) (above : most < n) :
    FirstAbove value (branch :: branches) most (k + 1) n where
  counted := h.counted
  above := above
  greatest := h.greatest.cons fun m count => (here m count).le
  first
    | 0, _, m, count => here m count
    | j + 1, hj, m, count => h.first j (Nat.lt_of_succ_lt_succ hj) m count

/-- **The pass ends where it started, or at the first maximum that is greater than what is carried.** -/
theorem closestFrom_cases (value : Fields) (i : Nat) (best : Option Nat) (most : Nat)
    (branches : List Json) :
    (closestFrom value i best most branches = best ∧ NoneAbove value branches most) ∨
      ∃ k n, closestFrom value i best most branches = some (i + k) ∧
        FirstAbove value branches most k n := by
  induction branches generalizing i best most with
  | nil => exact .inl ⟨rfl, fun j m count => by simp [countAt] at count⟩
  | cons branch rest ih =>
    -- Where the branch does not count more than `most`, the pass goes on as it is.
    have passed_by : (∀ m, overlap? value branch = some m → m ≤ most) →
        (closestFrom value (i + 1) best most rest = best ∧ NoneAbove value (branch :: rest) most) ∨
          ∃ k n, closestFrom value (i + 1) best most rest = some (i + k) ∧
            FirstAbove value (branch :: rest) most k n := by
      intro here
      rcases ih (i + 1) best most with ⟨stays, none⟩ | ⟨k, n, ends, first⟩
      · exact .inl ⟨stays, none.cons here⟩
      · refine .inr ⟨k + 1, n, by rw [ends, Nat.add_right_comm, Nat.add_assoc], ?_⟩
        exact first.cons (fun m count => (here m count).trans_lt first.above) first.above
    rw [closestFrom]
    cases count : overlap? value branch with
    | none => exact passed_by fun m h => by simp [count] at h
    | some c =>
      dsimp only
      by_cases more : most < c
      · rw [if_pos more]
        have only : ∀ m, overlap? value branch = some m → m = c := fun m h => by
          rw [count] at h
          exact (Option.some.inj h).symm
        right
        rcases ih (i + 1) (some i) c with ⟨stays, none⟩ | ⟨k, n, ends, first⟩
        · exact ⟨0, c, stays, count, more, none.cons fun m h => (only m h).le, nofun⟩
        · refine ⟨k + 1, n, by rw [ends, Nat.add_right_comm, Nat.add_assoc], ?_⟩
          exact first.cons (fun m h => only m h ▸ first.above) (more.trans first.above)
      · rw [if_neg more]
        refine passed_by fun m h => ?_
        rw [count] at h
        cases h
        exact Nat.le_of_not_lt more

/-! ## 3. The branch that is chosen -/

/-- The first maximum is the least of the closest. -/
theorem isLeast_of_firstAbove (proper : ∀ branch ∈ branches, branch.Proper)
    (h : FirstAbove value branches 0 i n) : IsLeast {k | ClosestAt value branches k} i := by
  constructor
  · exact ⟨n, h.above, (countAt_iff proper).1 h.counted, fun j m shares =>
      h.greatest j m ((countAt_iff proper).2 shares)⟩
  · rintro k ⟨m, -, shares, greatest⟩
    by_contra before
    have less := h.first k (Nat.lt_of_not_le before) m ((countAt_iff proper).2 shares)
    exact absurd (greatest i n ((countAt_iff proper).1 h.counted)) (Nat.not_le.2 less)

/-- Where nothing counts, no branch is among the closest. -/
theorem not_closestAt_of_noneAbove (proper : ∀ branch ∈ branches, branch.Proper)
    (h : NoneAbove value branches 0) (k : Nat) : ¬ClosestAt value branches k := by
  rintro ⟨n, positive, shares, -⟩
  exact absurd (h k n ((countAt_iff proper).2 shares)) (Nat.not_le.2 positive)

/-- **The branch that is chosen is the first of the closest.** -/
theorem closestBranch_iff (proper : ∀ branch ∈ branches, branch.Proper) (tag : Tag) :
    closestBranch branches (.obj tag value) = some i ↔ IsLeast {k | ClosestAt value branches k} i := by
  rw [closestBranch]
  rcases closestFrom_cases value 0 none 0 branches with ⟨stays, none⟩ | ⟨k, n, ends, first⟩
  · rw [stays]
    exact iff_of_false nofun fun least => not_closestAt_of_noneAbove proper none i least.1
  · rw [ends, Nat.zero_add, Option.some.injEq]
    have least := isLeast_of_firstAbove proper first
    exact ⟨fun same => same ▸ least, fun other => least.unique other⟩

/-- **None is chosen exactly if no branch shares a name with the value.** -/
theorem closestBranch_eq_none_iff (proper : ∀ branch ∈ branches, branch.Proper) (tag : Tag) :
    closestBranch branches (.obj tag value) = none ↔
      ∀ branch ∈ branches, ∀ properties, declared? branch = some properties →
        ∀ name ∈ names properties, name ∉ names value := by
  have unshared : (∀ branch ∈ branches, ∀ properties, declared? branch = some properties →
      ∀ name ∈ names properties, name ∉ names value) ↔ NoneAbove value branches 0 := by
    constructor
    · intro apart j m count
      obtain ⟨branch, properties, hb, declared, card⟩ := (countAt_iff proper).1 count
      have empty : sharedNames value properties = ∅ := by
        refine Finset.eq_empty_of_forall_notMem fun name hn => ?_
        simp only [sharedNames, Finset.mem_inter, List.mem_toFinset] at hn
        exact apart branch (List.mem_of_getElem? hb) properties declared name hn.1 hn.2
      rw [← card, empty, Finset.card_empty]
    · intro none branch hb properties declared name hp hv
      obtain ⟨j, hj⟩ := List.mem_iff_getElem?.1 hb
      have shares : SharesAt value branches j (sharedNames value properties).card :=
        ⟨branch, properties, hj, declared, rfl⟩
      have empty := Nat.le_zero.1 (none j _ ((countAt_iff proper).2 shares))
      have shared : name ∈ sharedNames value properties := by
        simp [sharedNames, hp, hv]
      rw [Finset.card_eq_zero.1 empty] at shared
      exact Finset.notMem_empty name shared
  rw [unshared, closestBranch]
  rcases closestFrom_cases value 0 none 0 branches with ⟨stays, none⟩ | ⟨k, n, ends, first⟩
  · exact iff_of_true stays none
  · rw [ends]
    exact iff_of_false nofun fun none =>
      absurd (none k n first.counted) (Nat.not_le.2 first.above)

/-! ## 4. What is reported -/

/-- The issues of a branch are those of its probe. -/
theorem getElem?_branchIssues {step : Step} {x : Json} {outcomes : List (List Issue)}
    (h : step.branchIssues x branches = .ok outcomes) (hb : branches[i]? = some branch) :
    ∃ issues, outcomes[i]? = some issues ∧ Probe.issues step.setting x branch step.path = .ok issues := by
  induction branches generalizing outcomes i with
  | nil => simp at hb
  | cons first rest ih =>
    simp only [branchIssues, bind_eq_ok] at h
    obtain ⟨issues, probed, others, ho, h⟩ := h
    cases h
    cases i with
    | zero =>
      cases hb
      exact ⟨issues, rfl, probed⟩
    | succ i =>
      obtain ⟨issues, found, probed⟩ := ih ho hb
      exact ⟨issues, found, probed⟩

/-- The index that is chosen is that of a branch. -/
theorem exists_of_closestBranch {x : Json} (h : closestBranch branches x = some i) :
    ∃ branch, branches[i]? = some branch := by
  cases x with
  | obj tag value =>
    rw [closestBranch] at h
    rcases closestFrom_cases value 0 none 0 branches with ⟨stays, -⟩ | ⟨k, n, ends, first⟩
    · rw [stays] at h
      cases h
    · rw [ends, Nat.zero_add] at h
      cases h
      obtain ⟨branch, hb, -⟩ := Option.bind_eq_some_iff.1 first.counted
      exact ⟨branch, hb⟩
  | _ => cases h

/-- **Where no branch passes, the issues of the one that is chosen are reported**, and there are some. -/
theorem oneOf_of_closestBranch {step : Step} {schemas x : Json} {outcomes : List (List Issue)}
    (present : step.value = some x) (he : Probe.entriesOf schemas = .ok branches)
    (ho : step.branchIssues x branches = .ok outcomes) (hp : passingBranches branches outcomes = [])
    (hd : step.default? = none) (chosen : closestBranch branches x = some i) :
    ∃ branch issues, branches[i]? = some branch ∧
      Probe.issues step.setting x branch step.path = .ok issues ∧ issues ≠ [] ∧
      step.oneOf schemas = fail issues := by
  obtain ⟨branch, hb⟩ := exists_of_closestBranch chosen
  obtain ⟨issues, found, probed⟩ := getElem?_branchIssues ho hb
  have failed : issues ≠ [] :=
    ne_nil_of_passingBranches (branchIssues_length ho) hp issues (List.mem_of_getElem? found)
  refine ⟨branch, issues, hb, probed, failed, ?_⟩
  have some_branch : branches.isEmpty = false := by
    cases branches with
    | nil => simp at hb
    | cons _ _ => rfl
  simp only [oneOf, present]
  rw [Run.lift_bind_of_ok he, Run.lift_bind_of_ok ho, hp, hd]
  simp only [some_branch, noneOfOne, chosen, Option.bind_some, found]
  rfl

/-- **The closest branch is a first maximum.**  Of any branches, whatever else they are, the one that is
chosen for an object is the first of those that declare properties and share most names with it, and none
is chosen exactly if no name is shared.  Where exactly one branch should pass and none does, what is
reported of the chosen one is never empty. -/
theorem closestBranch_first (branches : List Json) (proper : ∀ branch ∈ branches, branch.Proper)
    (tag : Tag) (value : Fields) :
    (∀ i, closestBranch branches (.obj tag value) = some i ↔
      IsLeast {k | ClosestAt value branches k} i) ∧
    (closestBranch branches (.obj tag value) = none ↔
      ∀ branch ∈ branches, ∀ properties, declared? branch = some properties →
        ∀ name ∈ names properties, name ∉ names value) ∧
    ∀ (step : Step) (schemas : Json) (outcomes : List (List Issue)) (i : Nat),
      step.value = some (.obj tag value) → Probe.entriesOf schemas = .ok branches →
      step.branchIssues (.obj tag value) branches = .ok outcomes →
      passingBranches branches outcomes = [] → step.default? = none →
      closestBranch branches (.obj tag value) = some i →
      ∃ branch issues, branches[i]? = some branch ∧
        Probe.issues step.setting (.obj tag value) branch step.path = .ok issues ∧ issues ≠ [] ∧
        step.oneOf schemas = fail issues :=
  ⟨fun _ => closestBranch_iff proper tag, closestBranch_eq_none_iff proper tag,
    fun _ _ _ _ => oneOf_of_closestBranch⟩

/-- Of four branches that refuse an object, the first declares nothing and the second shares one name with
it; the others share two.  The issues of the first of these are reported. -/
theorem closestBranch_first_of_tie :
    let refusing (names : List String) : Json := .obj none
      [("properties", .obj none (names.map fun name => (name, .bool true))), ("enum", .arr none [])]
    let branches : List Json :=
      [.bool false, refusing ["a", "b"], refusing ["b", "c"], refusing ["c", "b", "d"]]
    let value : Fields := [("b", .null), ("c", .null)]
    let step : Step := ⟨⟨.default, .null⟩, [], none, [("oneOf", .arr none branches)],
      some (.obj none value), .null, .null, false, fun _ request => done request.value⟩
    closestBranch branches (.obj none value) = some 2 ∧
      IsLeast {k | ClosestAt value branches k} 2 ∧
      ∃ branch issues, branches[2]? = some branch ∧
        Probe.issues step.setting (.obj none value) branch step.path = .ok issues ∧ issues ≠ [] ∧
        step.oneOf (.arr none branches) = fail issues := by
  intro refusing branches value step
  have proper : ∀ branch ∈ branches, branch.Proper := by decide +kernel
  have chosen : closestBranch branches (.obj none value) = some 2 := by decide +kernel
  have refused : ∃ outcomes, step.branchIssues (.obj none value) branches = .ok outcomes ∧
      passingBranches branches outcomes = [] :=
    ⟨[[⟨.forbidden, []⟩], [⟨.notEnumerated [], []⟩], [⟨.notEnumerated [], []⟩],
      [⟨.notEnumerated [], []⟩]], by decide +kernel, rfl⟩
  obtain ⟨outcomes, probed, none_passes⟩ := refused
  obtain ⟨first, -, reported⟩ := closestBranch_first branches proper none value
  exact ⟨chosen, (first 2).1 chosen,
    reported step (.arr none branches) outcomes 2 rfl rfl probed none_passes rfl chosen⟩

end Conform.Resolve.Step
