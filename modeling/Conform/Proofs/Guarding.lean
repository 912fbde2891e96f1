/-
# The stacks of the resolver are what its guard takes them for

The guard looks at one entry of the stack of levels, the hundredth from the top.  That is a count only
if the stack never decreases from bottom to top and no entry lies above the path; nothing in the
resolver checks this.

`Stacked` is what holds of the stacks wherever a resolution is entered.  Entering preserves it as long
as the guard does not stop (`Stacked.enter`), and with it the guard stops exactly where the path is too
long or too many levels have its length (`Stacked.tooDeep_iff`).  A level occurs at most a hundred times
and there are a hundred levels, so ten thousand resolutions can be under way and no more
(`Stacked.length_le`); a resolver with room for one call more never runs out of it.
-/
import Conform.Proofs.Performing
import Mathlib.Algebra.BigOperators.Group.Finset.Basic
import Mathlib.Algebra.Order.BigOperators.Group.Finset
import Mathlib.Order.Interval.Finset.Nat

namespace Conform.Resolver

open Resolve

/-! ## 1. The stacks at a place -/

/-- **The stacks wherever a resolution is entered**, given the length of the path at the start. -/
structure Stacked (start : Nat) (place : Place) : Prop where
  start_le : start ≤ place.path.length
  ascending : place.levels.Pairwise (· ≤ ·)
  le_path : ∀ level ∈ place.levels, level ≤ place.path.length
  within : ∀ level ∈ place.levels, start ≤ level ∧ level ≤ start + 99
  count_le : ∀ level, place.levels.count level ≤ 100

namespace Stacked

variable {start : Nat} {place : Place}

/-- Before anything is entered there is nothing in the stack of levels. -/
theorem empty {root : Json} {path : Path} : Stacked path.length ⟨root, path, []⟩ :=
  ⟨Nat.le_refl _, List.Pairwise.nil, by simp, by simp, by simp⟩

/-- The guard that describes the place. -/
def guard (h : Stacked start place) : Guard where
  start := start
  path := place.path
  frames := place.levels.reverse
  sorted := List.pairwise_reverse.2 h.ascending
  frames_le f hf := h.le_path f (List.mem_reverse.1 hf)

theorem guarded_guard (h : Stacked start place) : guarded place.root h.guard = place := by
  simp [guarded, guard]

/-- **The guard counts**, looking at a single entry. -/
theorem tooDeep_iff (h : Stacked start place) :
    place.tooDeep start = true ↔
      start + 100 ≤ place.path.length ∨ 100 ≤ place.levels.count place.path.length := by
  have hg : place.tooDeep start = h.guard.tooDeep := by
    have := tooDeep_guarded place.root h.guard
    rwa [h.guarded_guard] at this
  have hs := h.start_le
  rw [hg, Guard.tooDeep_iff]
  simp only [Guard.level, guard, List.count_reverse, depthLimit]
  omega

/-- **Entering preserves the order of the stacks**, where the guard does not stop. -/
theorem enter (h : Stacked start place) (shallow : place.tooDeep start = false) (extension : Path) :
    Stacked start (place.enter extension) := by
  have short : ¬(start + 100 ≤ place.path.length ∨ 100 ≤ place.levels.count place.path.length) := by
    rw [← h.tooDeep_iff, shallow]
    simp
  have hs := h.start_le
  constructor
  case start_le => simp only [Place.enter, List.length_append]; omega
  case ascending =>
    refine List.pairwise_append.2 ⟨h.ascending, List.pairwise_singleton _ _, ?_⟩
    intro level hl top ht
    rw [List.mem_singleton.1 ht]
    exact h.le_path level hl
  case le_path =>
    intro level hl
    simp only [Place.enter, List.length_append]
    rcases List.mem_append.1 hl with hl | hl
    · have := h.le_path level hl
      omega
    · rw [List.mem_singleton.1 hl]
      omega
  case within =>
    intro level hl
    rcases List.mem_append.1 hl with hl | hl
    · exact h.within level hl
    · rw [List.mem_singleton.1 hl]
      omega
  case count_le =>
    intro level
    have := h.count_le level
    simp only [Place.enter, List.count_append, List.count_singleton]
    split
    · rename_i same
      rw [← beq_iff_eq.1 same]
      omega
    · omega

theorem hereditary (start : Nat) : Hereditary start (Stacked start) :=
  fun _ extension h shallow => h.enter shallow extension

/-- **At most ten thousand resolutions are under way**: a hundred at each of a hundred levels. -/
theorem length_le (h : Stacked start place) : place.levels.length ≤ 10000 := by
  have levels : place.levels.toFinset ⊆ Finset.Ico start (start + 100) := by
    intro level hl
    have := h.within level (List.mem_toFinset.1 hl)
    exact Finset.mem_Ico.2 (by omega)
  have card : place.levels.toFinset.card ≤ 100 := by
    simpa using Finset.card_le_card levels
  calc place.levels.length
      = ∑ level ∈ place.levels.toFinset, place.levels.count level :=
        (List.sum_toFinset_count_eq_length _).symm
    _ ≤ place.levels.toFinset.card • 100 :=
        Finset.sum_le_card_nsmul _ _ _ fun level _ => h.count_le level
    _ = place.levels.toFinset.card * 100 := Nat.nsmul_eq_mul _ _
    _ ≤ 10000 := by omega

/-- Where the guard does not stop, there is one resolution less under way. -/
theorem length_lt (h : Stacked start place) (shallow : place.tooDeep start = false) :
    place.levels.length < 10000 := by
  have := (h.enter shallow []).length_le
  simp only [Place.enter, List.length_append, List.length_singleton] at this
  omega

end Stacked

/-! ## 2. Every run -/

variable (exhausted : Fault) {options : Options} {root : Json}

/-- From the start, a resolver with room for ten thousand and one calls inside each other does what the
resolution says. -/
theorem performs_resolveAt (room : Nat) (request : Request) :
    Performs (Stacked options.currentPath.length) ⟨root, options.currentPath, []⟩
      (resolve exhausted options (room + 10001) request) (resolveAt ⟨options, root⟩ request) :=
  performs_resolve exhausted (Stacked.hereditary options.currentPath.length)
    (fun _ h => h.length_le) root (Guard.atStart options.currentPath) rfl Stacked.empty
    (by omega) request

/-- **The guard bounds every run, and it tests what it is there for.**  Wherever a resolution is entered,
the levels never decrease and none lies above the path, none occurs more than a hundred times and all
are among the hundred from the start on; so there are at most ten thousand, and fewer where a further
resolution goes under way.  And the guard stops exactly where the path is a hundred longer than at the
start or a hundred levels have its length.  So a resolver with room for ten thousand and one calls inside
each other does what the resolution says, whatever it would do if it ran out of room. -/
theorem guard_bounds_resolve (exhausted : Fault) (options : Options) (root : Json) (notes : List Issue)
    (request : Request) (room : Nat) :
    (∀ place ∈ (resolve exhausted options room request
        { atStart options root with notes := notes }).2.entered,
      let start := options.currentPath.length
      place.levels.Pairwise (· ≤ ·) ∧
      (∀ level ∈ place.levels, level ≤ place.path.length) ∧
      (∀ level, place.levels.count level ≤ 100) ∧
      (∀ level ∈ place.levels, start ≤ level ∧ level ≤ start + 99) ∧
      place.levels.length ≤ 10000 ∧
      (place.tooDeep start = false → place.levels.length < 10000) ∧
      (place.tooDeep start = true ↔
        start + 100 ≤ place.path.length ∨ 100 ≤ place.levels.count place.path.length)) ∧
    ∃ entered, resolve exhausted options (room + 10001) request
        { atStart options root with notes := notes } =
      ((resolveAt ⟨options, root⟩ request).result,
        { atStart options root with
          notes := notes ++ (resolveAt ⟨options, root⟩ request).notes
          entered := entered }) := by
  have start : Stacked options.currentPath.length (atStart options root).toPlace := Stacked.empty
  constructor
  · obtain ⟨run, performs⟩ := exists_performs exhausted
      (Stacked.hereditary options.currentPath.length) room request start
    obtain ⟨entries, stacked, ends⟩ := performs { atStart options root with notes := notes } rfl
    intro place hp
    rw [ends] at hp
    have h : Stacked options.currentPath.length place :=
      stacked place (by simpa [atStart] using hp)
    exact ⟨h.ascending, h.le_path, h.count_le, h.within, h.length_le, h.length_lt, h.tooDeep_iff⟩
  · obtain ⟨entries, -, ends⟩ := performs_resolveAt exhausted room request
      { atStart options root with notes := notes } rfl
    exact ⟨entries, ends⟩

/-- The place below is entered under the resolution at the start, and its rest under both. -/
example :
    ((resolve .noIssues .default 5
      (wholeRequest (.obj none [("properties",
        .obj none [("a", .obj none [("not", .bool false)])])]) none)
      (atStart .default .null)).2.entered.map fun place => (place.path, place.levels)) =
    [([], []), (["a"], [0]), (["a"], [0, 1])] := by
  cbv

end Conform.Resolver
