/-
# The first entry with each key

Repeated values are left out of a list by their texts, and repeated issues by their messages, each by a
walk of its own that remembers what it has seen.  The two walks are one: `firstsFrom` with the text or the
message as the key.

What the walk keeps can be told without it.  An entry is kept if its key is not among those seen and no
entry before it has the same key (`mem_firstsFrom_iff`); the rest follows: no key is kept twice, none is
lost, and a list whose keys are all different is kept as it is.  Of two lists in a row, the walk keeps what
it keeps of the first, and what it keeps of the second but the first does not have (`firsts_append`).

Which occurrences are kept shows in a walk over the entries with their positions
(`mem_firstsFrom_zipIdx_iff`).  For documents this says where in the list that which is kept stood, and the
question whether a list repeats itself is answered by a third walk, which agrees: it does exactly if
something of it is left out (`hasRepeats_iff_length_lt`).  All of this is about texts; where there is a limit
to the digits of numbers, it is so for the lists of values that have one (`unique_keeps_firsts`).
-/
import Conform.Proofs.Printing
import Mathlib.Data.List.Nodup

namespace Conform

variable {α κ : Type} [BEq κ] {key : α → κ} {seen : List κ} {k : κ} {xs : List α} {x : α}

/-! ## 1. The walk -/

/-- The entries whose key is not among those seen, the first with each key. -/
def firstsFrom (key : α → κ) (seen : List κ) : List α → List α
  | [] => []
  | x :: rest =>
    if seen.contains (key x) then firstsFrom key seen rest
    else x :: firstsFrom key (key x :: seen) rest

theorem firstsFrom_sublist : (firstsFrom key seen xs).Sublist xs := by
  induction xs generalizing seen with
  | nil => exact List.Sublist.slnil
  | cons y rest ih =>
    rw [firstsFrom]
    split
    · exact ih.cons y
    · exact ih.cons_cons y

/-- Where entries are changed, the keys of what they become are what counts. -/
theorem firstsFrom_map {β : Type} (f : β → α) (ys : List β) :
    firstsFrom key seen (ys.map f) = (firstsFrom (key ∘ f) seen ys).map f := by
  induction ys generalizing seen with
  | nil => rfl
  | cons y rest ih =>
    rw [List.map_cons, firstsFrom, firstsFrom, ih, ih, Function.comp_apply]
    split
    · rfl
    · rfl

variable [LawfulBEq κ]

/-- **What is kept is the first entry with its key**, if the key was not seen before. -/
theorem mem_firstsFrom_iff :
    x ∈ firstsFrom key seen xs ↔ key x ∉ seen ∧ xs.find? (fun y => key y == key x) = some x := by
  induction xs generalizing seen with
  | nil => simp [firstsFrom]
  | cons y rest ih =>
    rw [firstsFrom, List.find?_cons]
    by_cases same : key y = key x
    · -- The walk meets the key of `x` here, and never again.
      simp only [same, beq_self_eq_true, Option.some.injEq, List.contains_iff_mem]
      by_cases old : key x ∈ seen
      · simp [ih, old]
      · have later : x ∉ firstsFrom key (key x :: seen) rest := fun h =>
          (ih.1 h).1 List.mem_cons_self
        simp [old, later, eq_comm]
    · have other : x ≠ y := fun h => same (h ▸ rfl)
      have differ : (key y == key x) = false := beq_false_of_ne same
      simp only [differ]
      split
      · exact ih
      · simp [ih, other, Ne.symm same]

/-- **The keys that are kept** are those of the list that were not seen. -/
theorem mem_map_firstsFrom_iff :
    k ∈ (firstsFrom key seen xs).map key ↔ k ∈ xs.map key ∧ k ∉ seen := by
  constructor
  · intro h
    obtain ⟨x, hx, rfl⟩ := List.mem_map.1 h
    exact ⟨List.mem_map_of_mem (firstsFrom_sublist.subset hx), (mem_firstsFrom_iff.1 hx).1⟩
  · rintro ⟨h, new⟩
    obtain ⟨x, hx, rfl⟩ := List.mem_map.1 h
    cases first : xs.find? fun y => key y == key x with
    | none => exact absurd (List.find?_eq_none.1 first x hx) (by simp)
    | some y =>
      have same : key y = key x := by simpa using List.find?_some first
      rw [← same] at first new
      exact same ▸ List.mem_map_of_mem (mem_firstsFrom_iff.2 ⟨new, first⟩)

/-- **No key is kept twice.** -/
theorem nodup_map_firstsFrom : ((firstsFrom key seen xs).map key).Nodup := by
  induction xs generalizing seen with
  | nil => exact List.nodup_nil
  | cons y rest ih =>
    rw [firstsFrom]
    split
    · exact ih
    · rw [List.map_cons, List.nodup_cons]
      exact ⟨fun h => (mem_map_firstsFrom_iff.1 h).2 List.mem_cons_self, ih⟩

/-- **Where no key is repeated nothing is left out.** -/
theorem firstsFrom_of_nodup (nodup : (xs.map key).Nodup) (new : ∀ x ∈ xs, key x ∉ seen) :
    firstsFrom key seen xs = xs := by
  induction xs generalizing seen with
  | nil => rfl
  | cons y rest ih =>
    rw [List.map_cons, List.nodup_cons] at nodup
    have first : ¬seen.contains (key y) = true := by
      simpa using new y List.mem_cons_self
    rw [firstsFrom, if_neg first, ih nodup.2]
    intro x hx
    rw [List.mem_cons, not_or]
    exact ⟨fun same => nodup.1 (same ▸ List.mem_map_of_mem hx), new x (List.mem_cons_of_mem y hx)⟩

/-- Keys that were seen before are left out of what is kept anyway. -/
theorem firstsFrom_eq_filter :
    firstsFrom key seen xs = (firstsFrom key [] xs).filter fun x => !seen.contains (key x) := by
  induction xs generalizing seen with
  | nil => rfl
  | cons y rest ih =>
    have first : firstsFrom key [] (y :: rest) = y :: firstsFrom key [key y] rest := by
      simp [firstsFrom]
    rw [first, ih, firstsFrom]
    by_cases old : seen.contains (key y) = true
    · rw [if_pos old, ih, List.filter_cons_of_neg (by simpa using old), List.filter_filter]
      refine List.filter_congr fun x _ => ?_
      by_cases same : key x = key y
      · rw [same, old]
        rfl
      · simp [same]
    · rw [if_neg old, ih, List.filter_cons_of_pos (by simpa using old), List.filter_filter]
      refine congrArg _ (List.filter_congr fun x _ => ?_)
      by_cases same : key x = key y <;> simp [same]

/-- **Of two lists in a row**, what is kept of the first, and of the second what the first does not have. -/
theorem firsts_append (xs ys : List α) :
    firstsFrom key [] (xs ++ ys) = firstsFrom key [] xs ++
      (firstsFrom key [] ys).filter fun y => !((firstsFrom key [] xs).map key).contains (key y) := by
  have from_seen : ∀ seen, firstsFrom key seen (xs ++ ys) = firstsFrom key seen xs ++
      (firstsFrom key [] ys).filter
        fun y => !(seen ++ (firstsFrom key seen xs).map key).contains (key y) := by
    induction xs with
    | nil =>
      intro seen
      rw [List.nil_append, firstsFrom_eq_filter]
      simp [firstsFrom]
    | cons x xs ih =>
      intro seen
      rw [List.cons_append, firstsFrom, firstsFrom]
      split
      · exact ih seen
      · rw [ih, List.cons_append]
        refine congrArg _ (congrArg _ (List.filter_congr fun y _ => ?_))
        simp only [List.contains_eq_mem, List.map_cons, List.mem_cons, List.mem_append]
        grind
  simpa using from_seen []

/-! ### Where the entries stood -/

/-- **An entry is kept at a position if it stands there and its key does not stand before.** -/
theorem mem_firstsFrom_zipIdx_iff {i : Nat} :
    (x, i) ∈ firstsFrom (key ∘ Prod.fst) [] xs.zipIdx ↔
      xs[i]? = some x ∧ ∀ j < i, ∀ y, xs[j]? = some y → key y ≠ key x := by
  rw [mem_firstsFrom_iff, List.find?_eq_some_iff_getElem, and_iff_right List.not_mem_nil,
    and_iff_right (beq_self_eq_true _)]
  simp only [List.getElem_zipIdx, Nat.zero_add, Prod.mk.injEq, List.length_zipIdx, Function.comp_apply]
  constructor
  · rintro ⟨n, hn, ⟨found, rfl⟩, earlier⟩
    refine ⟨by rw [List.getElem?_eq_getElem hn, found], fun j hj y hy same => ?_⟩
    obtain ⟨_, rfl⟩ := List.getElem?_eq_some_iff.1 hy
    simpa [same] using earlier j hj
  · rintro ⟨found, earlier⟩
    obtain ⟨hi, rfl⟩ := List.getElem?_eq_some_iff.1 found
    refine ⟨i, hi, ⟨rfl, rfl⟩, fun j hj => ?_⟩
    simpa using earlier j hj _ (List.getElem?_eq_getElem (Nat.lt_trans hj hi))

/-! ## 2. Documents -/

namespace Json

/-- Documents are told apart by their canonical texts. -/
theorem distinctFrom_eq_firstsFrom (seen : List String) (items : List Json) :
    distinctFrom seen items = firstsFrom canonical seen items := by
  induction items generalizing seen with
  | nil => rfl
  | cons x rest ih => rw [distinctFrom, firstsFrom, ih, ih]

theorem distinct_eq_firstsFrom (items : List Json) : distinct items = firstsFrom canonical [] items :=
  distinctFrom_eq_firstsFrom [] items

theorem distinct_sublist (items : List Json) : (distinct items).Sublist items := by
  rw [distinct_eq_firstsFrom]
  exact firstsFrom_sublist

theorem nodup_texts_distinct (items : List Json) : ((distinct items).map canonical).Nodup := by
  rw [distinct_eq_firstsFrom]
  exact nodup_map_firstsFrom

theorem distinct_of_nodup {items : List Json} (nodup : (items.map canonical).Nodup) :
    distinct items = items := by
  rw [distinct_eq_firstsFrom]
  exact firstsFrom_of_nodup nodup fun _ _ => List.not_mem_nil

/-- What is listed without repetition stays. -/
theorem distinct_distinct (items : List Json) : distinct (distinct items) = distinct items :=
  distinct_of_nodup (nodup_texts_distinct items)

theorem distinct_append (xs ys : List Json) :
    distinct (xs ++ ys) = distinct xs ++
      (distinct ys).filter fun y => !((distinct xs).map canonical).contains y.canonical := by
  simp only [distinct_eq_firstsFrom]
  exact firsts_append xs ys

/-- What is joined is told by what the lists come to without repetition. -/
theorem distinct_append_congr {xs ys xs' ys' : List Json} (h : distinct xs = distinct xs')
    (h' : distinct ys = distinct ys') : distinct (xs ++ ys) = distinct (xs' ++ ys') := by
  rw [distinct_append, h, h', ← distinct_append]

/-- Repetitions within the first of two lists can be dropped beforehand. -/
theorem distinct_distinct_append {xs ys : List Json} :
    distinct (distinct xs ++ ys) = distinct (xs ++ ys) :=
  distinct_append_congr (distinct_distinct xs) rfl

/-- And so can those within the second. -/
theorem distinct_append_distinct {xs ys : List Json} :
    distinct (xs ++ distinct ys) = distinct (xs ++ ys) :=
  distinct_append_congr rfl (distinct_distinct ys)

/-- A document whose text is that of no other one listed is kept. -/
theorem mem_distinct_of_unique {items : List Json} {x : Json} (hx : x ∈ items)
    (unique : ∀ y ∈ items, y.canonical = x.canonical → y = x) : x ∈ distinct items := by
  rw [distinct_eq_firstsFrom]
  have kept : x.canonical ∈ (firstsFrom canonical [] items).map canonical :=
    mem_map_firstsFrom_iff.2 ⟨List.mem_map_of_mem hx, List.not_mem_nil⟩
  obtain ⟨y, hy, same⟩ := List.mem_map.1 kept
  obtain rfl := unique y (firstsFrom_sublist.subset hy) same
  exact hy

/-! ### Repetition -/

variable {items : List Json}

theorem same_iff_canonical {a b : Json} : a.same b = true ↔ a.canonical = b.canonical := beq_iff_eq

/-- Nothing is repeated where no text is that of another entry or was seen. -/
theorem repeatsFrom_eq_false_iff {seen : List String} :
    repeatsFrom seen items = false ↔
      (items.map canonical).Nodup ∧ ∀ x ∈ items, x.canonical ∉ seen := by
  induction items generalizing seen with
  | nil => simp [repeatsFrom]
  | cons x rest ih =>
    rw [repeatsFrom, Bool.or_eq_false_iff, ih, List.map_cons, List.nodup_cons, List.forall_mem_cons]
    simp only [List.contains_eq_mem, decide_eq_false_iff_not, List.mem_cons, not_or, List.mem_map]
    constructor
    · rintro ⟨new, nodup, later⟩
      refine ⟨⟨?_, nodup⟩, new, fun y hy => (later y hy).2⟩
      rintro ⟨y, hy, same⟩
      exact (later y hy).1 same
    · rintro ⟨⟨first, nodup⟩, new, later⟩
      exact ⟨new, nodup, fun y hy => ⟨fun same => first ⟨y, hy, same⟩, later y hy⟩⟩

/-- **A list repeats itself exactly if something of it is left out.** -/
theorem hasRepeats_iff_length_lt : hasRepeats items = true ↔ (distinct items).length < items.length := by
  rw [← not_iff_not, Bool.not_eq_true, Nat.not_lt, hasRepeats, repeatsFrom_eq_false_iff]
  constructor
  · rintro ⟨nodup, -⟩
    exact Nat.le_of_eq (congrArg List.length (distinct_of_nodup nodup)).symm
  · intro whole
    have kept : distinct items = items := (distinct_sublist items).eq_of_length_le whole
    exact ⟨kept ▸ nodup_texts_distinct items, fun _ _ => List.not_mem_nil⟩

/-- The positions of the entries that are kept. -/
def keptAt (items : List Json) : List Nat :=
  (firstsFrom (canonical ∘ Prod.fst) [] items.zipIdx).map Prod.snd

theorem same_eq_false_iff {a b : Json} : a.same b = false ↔ a.canonical ≠ b.canonical := by
  rw [← Bool.not_eq_true, same_iff_canonical]

theorem mem_keptAt_iff {i : Nat} : i ∈ keptAt items ↔
    ∃ x, items[i]? = some x ∧ ∀ j < i, ∀ y, items[j]? = some y → y.same x = false := by
  simp only [keptAt, same_eq_false_iff, ← mem_firstsFrom_zipIdx_iff, List.mem_map, Prod.exists,
    exists_eq_right]

/-- What is kept is kept in the order of the list. -/
theorem pairwise_keptAt : (keptAt items).Pairwise (· < ·) := by
  have ordered : (items.zipIdx.map Prod.snd).Pairwise (· < ·) := by
    rw [List.zipIdx_map_snd]
    exact List.pairwise_lt_range'
  exact ordered.sublist (firstsFrom_sublist.map Prod.snd)

/-- What is kept is what stands at those positions. -/
theorem map_distinct_eq : (distinct items).map some = (keptAt items).map (items[·]?) := by
  have walked : distinct items = (firstsFrom (canonical ∘ Prod.fst) [] items.zipIdx).map Prod.fst := by
    rw [← firstsFrom_map, List.zipIdx_map_fst, distinct_eq_firstsFrom]
  rw [walked, keptAt, List.map_map, List.map_map]
  refine List.map_congr_left fun entry kept => ?_
  exact (mem_firstsFrom_zipIdx_iff.1 kept).1.symm

/-- Two positions at which something is kept hold different documents. -/
theorem not_same_of_mem_keptAt {i j : Nat} {x y : Json} (hi : i ∈ keptAt items) (hj : j ∈ keptAt items)
    (differ : i ≠ j) (hx : items[i]? = some x) (hy : items[j]? = some y) : x.same y = false := by
  obtain ⟨_, found, firstX⟩ := mem_keptAt_iff.1 hi
  obtain ⟨_, found', firstY⟩ := mem_keptAt_iff.1 hj
  cases found.symm.trans hx
  cases found'.symm.trans hy
  rcases Nat.lt_or_gt_of_ne differ with before | after
  · exact firstY i before x hx
  · rw [same_eq_false_iff]
    exact (same_eq_false_iff.1 (firstX j after y hy)).symm

/-- **Every entry is the same as one that is kept**, and that does not stand after it. -/
theorem exists_mem_keptAt {i : Nat} {x : Json} (hx : items[i]? = some x) :
    ∃ j ∈ keptAt items, j ≤ i ∧ ∃ y, items[j]? = some y ∧ x.same y = true := by
  have listed : x.canonical ∈ (firstsFrom (canonical ∘ Prod.fst) [] items.zipIdx).map
      (canonical ∘ Prod.fst) :=
    mem_map_firstsFrom_iff.2 ⟨List.mem_map.2 ⟨(x, i), List.mem_zipIdx_iff_getElem?.2 hx, rfl⟩,
      List.not_mem_nil⟩
  obtain ⟨⟨y, j⟩, kept, same⟩ := List.mem_map.1 listed
  have same : y.canonical = x.canonical := same
  obtain ⟨hy, first⟩ := mem_firstsFrom_zipIdx_iff.1 kept
  refine ⟨j, List.mem_map.2 ⟨(y, j), kept, rfl⟩, ?_, y, hy, same_iff_canonical.2 same.symm⟩
  -- What is kept stands first, so `x` cannot stand before it.
  by_contra later
  exact first i (Nat.lt_of_not_le later) x hx same.symm

/-! ### Lists and their texts -/

/-- The position is that of an entry which compares as different with all before it. -/
def StandsFirst (items : List Json) (i : Nat) : Prop :=
  ∃ x, items[i]? = some x ∧ ∀ j < i, ∀ y, items[j]? = some y → deepEqual none y x = .ok false

theorem standsFirst_iff {i : Nat} : StandsFirst items i ↔ i ∈ keptAt items := by
  rw [mem_keptAt_iff, StandsFirst]
  simp only [deepEqual_none, Except.ok.injEq]

end Json

/-! ## 3. Issues -/

namespace Issue

variable {issues : List Issue} {issue : Issue}

/-- Issues are told apart by their messages. -/
theorem distinctFrom_eq_firstsFrom (seen : List String) (issues : List Issue) :
    distinctFrom seen issues = firstsFrom message seen issues := by
  induction issues generalizing seen with
  | nil => rfl
  | cons issue rest ih => rw [distinctFrom, firstsFrom, ih, ih]

theorem distinct_eq_firstsFrom (issues : List Issue) :
    distinct issues = firstsFrom message [] issues :=
  distinctFrom_eq_firstsFrom [] issues

theorem distinct_sublist : (distinct issues).Sublist issues := by
  rw [distinct_eq_firstsFrom]
  exact firstsFrom_sublist

/-- The first issue with each message is kept. -/
theorem mem_distinct_iff :
    issue ∈ distinct issues ↔ issues.find? (fun other => other.message == issue.message) = some issue := by
  rw [distinct_eq_firstsFrom, mem_firstsFrom_iff]
  exact and_iff_right List.not_mem_nil

/-- No message is lost. -/
theorem exists_mem_distinct (h : issue ∈ issues) :
    ∃ other ∈ distinct issues, other.message = issue.message := by
  rw [distinct_eq_firstsFrom]
  exact List.mem_map.1 (mem_map_firstsFrom_iff.2 ⟨List.mem_map_of_mem h, List.not_mem_nil⟩)

end Issue

end Conform
