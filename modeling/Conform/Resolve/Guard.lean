/-
# The depth guard

Resolving a schema can ask for the resolution of other schemas, at the same place or at one below
it, and a schema can lead back to itself.  The guard holds the path of the place and a frame for
every resolution that is under way: the length of the path at which it was entered.  Work stops when
the place lies too far below the start, or when too many frames have the length of the path.

Frames never decrease from bottom to top and none lies above the path, so looking at a single frame,
the hundredth from the top, tells whether a hundred of them have the length of the path
(`tooDeep_iff`).  And the further a guard has come, the fewer steps are left: `rank` decreases with
every step (`rank_enter_lt`), which is why resolution ends.
-/
import Conform.Issue

namespace Conform.Resolve

/-- How far below the start a place may lie, and how many frames may have one length. -/
def depthLimit : Nat := 100

/-- The place of a resolution and the resolutions under way, the topmost first. -/
structure Guard where
  start : Nat
  path : Path
  frames : List Nat
  sorted : frames.Pairwise (· ≥ ·)
  frames_le : ∀ f ∈ frames, f ≤ path.length

namespace Guard

/-- The guard at the start of a resolution. -/
def atStart (path : Path) : Guard := ⟨path.length, path, [], List.Pairwise.nil, by simp⟩

/-- The length of the path. -/
def level (guard : Guard) : Nat := guard.path.length

/-- **Is this the place to stop?**  One frame is looked at, not all of them (`_too_deep`). -/
def tooDeep (guard : Guard) : Bool :=
  decide (depthLimit ≤ guard.level - guard.start)
    || guard.frames[depthLimit - 1]? == some guard.level

/-- The guard of a resolution that is asked for at the place or at one below it. -/
def enter (guard : Guard) (extension : Path) : Guard where
  start := guard.start
  path := guard.path ++ extension
  frames := guard.level :: guard.frames
  sorted := List.Pairwise.cons (fun f hf => guard.frames_le f hf) guard.sorted
  frames_le f hf := by
    simp only [List.length_append]
    rcases List.mem_cons.1 hf with rfl | hf
    · exact Nat.le_add_right _ _
    · exact Nat.le_trans (guard.frames_le f hf) (Nat.le_add_right _ _)

/-! ## 1. What one frame tells -/

theorem getElem?_of_lt_count {bound : Nat} {frames : List Nat} (sorted : frames.Pairwise (· ≥ ·))
    (le : ∀ f ∈ frames, f ≤ bound) {i : Nat} (h : i < frames.count bound) :
    frames[i]? = some bound := by
  induction frames generalizing i with
  | nil => simp at h
  | cons f rest ih =>
    have hrest := List.pairwise_cons.1 sorted
    by_cases hf : f = bound
    · subst hf
      cases i with
      | zero => rfl
      | succ i =>
        simp only [List.count_cons_self] at h
        simpa using ih hrest.2 (fun g hg => le g (List.mem_cons_of_mem _ hg)) (by omega)
    · have hlt : f < bound := Nat.lt_of_le_of_ne (le f (List.mem_cons_self ..)) hf
      have : (f :: rest).count bound = 0 := by
        refine List.count_eq_zero.2 fun hm => ?_
        rcases List.mem_cons.1 hm with rfl | hm
        · exact hf rfl
        · exact absurd (hrest.1 bound hm) (by omega)
      omega

theorem lt_count_of_getElem? {bound : Nat} {frames : List Nat}
    (sorted : frames.Pairwise (· ≥ ·)) (le : ∀ f ∈ frames, f ≤ bound) {i : Nat}
    (h : frames[i]? = some bound) : i < frames.count bound := by
  induction frames generalizing i with
  | nil => simp at h
  | cons f rest ih =>
    have hrest := List.pairwise_cons.1 sorted
    cases i with
    | zero =>
      simp only [List.getElem?_cons_zero, Option.some.injEq] at h
      subst h
      simp
    | succ i =>
      simp only [List.getElem?_cons_succ] at h
      have hm : bound ∈ rest := List.mem_of_getElem? h
      have hf : f = bound :=
        Nat.le_antisymm (le f (List.mem_cons_self ..)) (hrest.1 bound hm)
      subst hf
      have := ih hrest.2 (fun g hg => le g (List.mem_cons_of_mem _ hg)) h
      simp only [List.count_cons_self]
      omega

/-- **The guard counts**: it stops exactly where the place lies too far below the start or as many
frames as allowed have the length of the path. -/
theorem tooDeep_iff (guard : Guard) :
    guard.tooDeep = true ↔
      depthLimit ≤ guard.level - guard.start ∨ depthLimit ≤ guard.frames.count guard.level := by
  simp only [tooDeep, Bool.or_eq_true, decide_eq_true_eq, beq_iff_eq]
  refine or_congr Iff.rfl ⟨fun h => ?_, fun h => ?_⟩
  · have := lt_count_of_getElem? guard.sorted guard.frames_le h
    simp only [depthLimit] at this ⊢
    exact this
  · exact getElem?_of_lt_count guard.sorted guard.frames_le (by
      simp only [depthLimit, level] at h ⊢
      omega)

/-! ## 2. Why resolution ends -/

/-- How many levels are left below the place and how many frames at it, a level counting for more than
all frames. -/
def rank (guard : Guard) : Nat :=
  (guard.start + depthLimit - guard.level) * (depthLimit + 1)
    + (depthLimit - guard.frames.count guard.level)

/-- **Every step leaves fewer levels, or as many levels and fewer frames.** -/
theorem rank_enter_lt {guard : Guard} (h : ¬guard.tooDeep = true) (extension : Path) :
    (guard.enter extension).rank < guard.rank := by
  rw [tooDeep_iff] at h
  have hlevel : guard.level < guard.start + depthLimit := by
    simp only [depthLimit] at h ⊢
    omega
  have hcount : guard.frames.count guard.level < depthLimit := by omega
  cases extension with
  | nil =>
    have he : (guard.enter []).level = guard.level := by simp [enter, level]
    have hc : (guard.enter []).frames.count guard.level = guard.frames.count guard.level + 1 := by
      simp [enter]
    have hs : (guard.enter []).start = guard.start := rfl
    simp only [rank, he, hc, hs]
    omega
  | cons segment rest =>
    have he : (guard.enter (segment :: rest)).level = guard.level + (rest.length + 1) := by
      simp [enter, level]
    have hs : (guard.enter (segment :: rest)).start = guard.start := rfl
    simp only [rank, he, hs, depthLimit] at hlevel ⊢
    omega

end Guard

end Conform.Resolve
