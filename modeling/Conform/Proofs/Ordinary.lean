/-
# The faults that anything may end with

That something which is no schema stands where a schema is needed speaks of a place; an ordinary fault is
the same wherever it is met.  Comparing, following references and merging without a conjunction end with
ordinary faults only, whatever they are given, as reading, counting, searching and looking up do by what is
asked of them.  A conjunction ends with an ordinary fault or with a clash (`within_merge`).
-/
import Conform.Proofs.Members
import Conform.Proofs.Endings

namespace Conform

open Fields (get?)

/-! ## 1. Issues and faults below a place -/

/-- The issue, found below a place. -/
def Issue.below (place : Path) (issue : Issue) : Issue := { issue with path := place ++ issue.path }

/-- The fault, met below a place. -/
def Fault.below (place : Path) : Fault → Fault
  | .invalidNode shown path => .invalidNode shown (place ++ path)
  | fault => fault

/-- An ordinary fault is the same below any place. -/
theorem Fault.Ordinary.below_eq {fault : Fault} (h : fault.Ordinary) (place : Path) :
    fault.below place = fault := by
  cases fault with
  | invalidNode => exact h.elim
  | _ => rfl

/-- The check ends with a result or with an ordinary fault. -/
abbrev Ordinary {α : Type} (check : Except Fault α) : Prop := Within Fault.Ordinary check

theorem ordinary_error {α : Type} {fault : Fault} (h : fault.Ordinary) :
    Ordinary (.error fault : Except Fault α) :=
  within_error h

theorem ordinary_map {α β : Type} {check : Except Fault α} (h : Ordinary check) (f : α → β) :
    Ordinary (check.map f) := by
  cases check with
  | error fault => exact ordinary_error (h fault rfl)
  | ok a => exact within_ok

/-! ## 2. Merging -/

namespace Schema

variable {conjunction : Bool} {a b r : Fields} {x y : Json} {k : String}

theorem ordinary_entries : Ordinary (entries x) := by
  unfold entries
  split
  · exact within_ok
  · exact ordinary_error trivial

theorem ordinary_members : Ordinary (members x) := by
  unfold members
  split
  · exact within_ok
  · exact ordinary_error trivial

theorem ordinary_copiedMembers : Ordinary (copiedMembers x) := by
  unfold copiedMembers
  split
  · exact within_ok
  · split
    · exact ordinary_error trivial
    · exact within_ok
    · split <;> exact ordinary_error trivial

/-- Two declarations without a common type, as a conjunction may find them. -/
def IsClash (conjunction : Bool) (fault : Fault) : Prop :=
  conjunction = true ∧ ∃ left right, fault = .conflict left right

theorem not_isClash_false (fault : Fault) : ¬IsClash false fault := fun h => Bool.noConfusion h.1

/-- Types have nothing in common, or they are merged; nothing else comes of them. -/
theorem within_mergeTypes : Within (IsClash conjunction) (mergeTypes conjunction a b r) := by
  have clash : ∀ u v fault, intersectTypes u v = .error fault →
      ∃ left right, fault = .conflict left right := by
    intro u v fault h
    simp only [intersectTypes] at h
    split at h <;> cases h
    exact ⟨_, _, rfl⟩
  unfold mergeTypes
  split
  · split
    · next hc =>
      exact within_bind (fun fault hf => ⟨hc, clash _ _ fault hf⟩) fun _ _ => within_ok
    · exact within_ok
  · exact within_ok

theorem ordinary_mergePinned : Ordinary (mergePinned a b r) := by
  rcases mergePinned_cases a b r with ⟨x, y, -, -, hm⟩ | ⟨x, y, -, -, hm⟩ | hm
  · rw [hm]
    exact within_ok
  · rw [hm]
    exact within_bind ordinary_entries fun _ _ => within_bind ordinary_entries fun _ _ => within_ok
  · rw [hm]
    exact within_ok

theorem ordinary_mergeRequired : Ordinary (mergeRequired a b r) := by
  unfold mergeRequired
  split
  · exact within_bind ordinary_entries fun _ _ => within_bind ordinary_entries fun _ _ => within_ok
  · exact within_ok

theorem ordinary_mergeComposition : Ordinary (mergeComposition k a b r) := by
  unfold mergeComposition
  split
  · exact within_bind ordinary_entries fun _ _ => within_bind ordinary_entries fun _ _ => within_ok
  · exact within_ok

section Below

variable {E : Fault → Prop} {self : MergeBelow (Json.sizeFields a)}
  (hE : ∀ fault : Fault, fault.Ordinary → E fault) (hself : ∀ x y h, Within E (self x y h))

include hself

theorem mergeMembers_within {acc : Fields} : Within E (mergeMembers a self b acc) := by
  induction b generalizing acc with
  | nil => exact within_ok
  | cons m rest ih =>
    obtain ⟨k, y⟩ := m
    unfold mergeMembers
    split
    · exact within_bind (hself _ _ _) fun _ _ => ih
    · exact ih

theorem mergeObjects_within : Within E (mergeObjects k a b self r) := by
  unfold mergeObjects
  split
  · split
    · exact within_bind (hself _ _ _) fun _ _ => within_ok
    · exact within_ok
  · exact within_ok

theorem mergeNegated_within : Within E (mergeNegated a b self r) := by
  unfold mergeNegated
  split
  · exact within_bind (hself _ _ _) fun _ _ => within_ok
  · exact within_ok

include hE

theorem mergeProperties_within : Within E (mergeProperties a b self r) := by
  unfold mergeProperties
  split
  · split
    · next hl => exact within_error (hE _ (ordinary_copiedMembers _ hl))
    · refine within_bind (ordinary_members.mono hE) fun _ _ => ?_
      exact within_bind (mergeMembers_within fun _ _ _ => hself _ _ _) fun _ _ => within_ok
  · exact within_ok

theorem mergeFields_within (hc : ∀ fault, IsClash conjunction fault → E fault) :
    Within E (mergeFields conjunction a b self) := by
  have composition : ∀ {k r}, Within E (mergeComposition k a b r) :=
    ordinary_mergeComposition.mono hE
  unfold mergeFields
  refine within_bind (within_mergeTypes.mono hc) fun _ _ => ?_
  refine within_bind (ordinary_mergePinned.mono hE) fun _ _ => ?_
  refine within_bind (ordinary_mergeRequired.mono hE) fun _ _ => ?_
  refine within_bind (mergeProperties_within hE hself) fun _ _ => ?_
  refine within_bind (mergeObjects_within hself) fun _ _ => ?_
  refine within_bind (mergeObjects_within hself) fun _ _ => ?_
  refine within_bind (mergeNegated_within hself) fun _ _ => ?_
  refine within_bind composition fun _ _ => ?_
  refine within_bind composition fun _ _ => ?_
  exact composition

end Below

/-- **A merge ends with an ordinary fault, or a conjunction with a clash.** -/
theorem merge_within (conjunction : Bool) (a b : Json) :
    Within (fun fault => fault.Ordinary ∨ IsClash conjunction fault) (merge conjunction a b) := by
  induction a using Json.sizeInduction generalizing b with
  | step a ih =>
    rw [merge]
    split
    · exact within_ok
    · refine within_bind (mergeFields_within (fun _ => .inl) (fun x y hx => ?_) fun _ => .inr)
        fun _ _ => within_ok
      exact ih x (Nat.lt_of_lt_of_le hx (sizeFields_fieldsOf_le a)) y

/-- **Merging without a conjunction ends with ordinary faults only**, at any depth. -/
theorem ordinary_merge (a b : Json) : Ordinary (merge false a b) :=
  (merge_within false a b).mono fun fault h => h.resolve_right (not_isClash_false fault)

/-- What ends a merge and is no conflict is ordinary. -/
theorem ordinary_of_merge {conjunction : Bool} {a b : Json} {fault : Fault}
    (h : merge conjunction a b = .error fault) (hf : ∀ left right, fault ≠ .conflict left right) :
    fault.Ordinary := by
  rcases merge_within conjunction a b fault h with ordinary | ⟨-, left, right, rfl⟩
  · exact ordinary
  · exact absurd rfl (hf left right)

theorem ordinary_hasFormat : Ordinary (hasFormat x y) := by
  have octets : ∀ parts, Ordinary (octetsFit parts) := by
    intro parts
    induction parts with
    | nil => exact within_ok
    | cons octet rest ih =>
      unfold octetsFit
      split
      · exact ordinary_error trivial
      · split
        · exact within_ok
        · exact ih
  have named : ∀ s name pattern, Ordinary (hasNamedFormat s name pattern) := by
    intro s name pattern
    unfold hasNamedFormat
    split
    · exact ordinary_error trivial
    · split
      · exact within_ok
      · split
        · exact octets _
        · exact within_ok
  unfold hasFormat
  split
  · exact ordinary_error trivial
  · exact ordinary_error trivial
  · split
    · exact within_ok
    · exact named _ _ _
    · exact ordinary_error trivial
  · exact within_ok

end Schema

/-! ## 3. Reading and looking up -/

theorem ordinary_search {engine : Pattern.Engine} {x y : Json} : Ordinary (engine.search x y) :=
  fun _ h => engine.ordinary h

theorem ordinary_read {accessor : Accessor} {x y : Json} : Ordinary (accessor.read x y) :=
  fun _ h => accessor.ordinary h

theorem ordinary_length {segmenter : Segmenter} {s : String} : Ordinary (segmenter.length s) :=
  fun _ h => segmenter.ordinary h

theorem ordinary_expand {source : Reference.Source} {x y : Json} :
    Ordinary (Reference.expand source x y) := by
  have found : ∀ ref root, Ordinary (source.lookup ref root) := fun _ _ _ h => source.ordinary h
  unfold Reference.expand
  split
  · split
    · exact within_ok
    · refine within_bind (found _ _) fun target _ => ?_
      dsimp only
      split
      · exact within_ok
      · split
        · exact within_ok
        · exact within_bind (Schema.ordinary_merge _ _) fun _ _ => within_ok
      · split
        · exact within_ok
        · exact within_bind (Schema.ordinary_merge _ _) fun _ _ => within_ok
  · exact within_ok
  · exact within_ok

namespace Probe

variable {fields : Fields} {x y : Json} {n : Nat}

theorem ordinary_limitOf : Ordinary (limitOf x) := by
  unfold limitOf
  split
  · exact within_ok
  · exact ordinary_error trivial

theorem ordinary_isUnder : Ordinary (isUnder n x) :=
  within_bind ordinary_limitOf fun _ _ => within_ok

theorem ordinary_isOver : Ordinary (isOver n x) :=
  within_bind ordinary_limitOf fun _ _ => within_ok

theorem ordinary_entriesOf : Ordinary (entriesOf x) := by
  unfold entriesOf
  split
  · exact within_ok
  · exact ordinary_error trivial

theorem ordinary_membersOf : Ordinary (membersOf x) := by
  unfold membersOf
  split
  · exact within_ok
  · exact ordinary_error trivial

theorem ordinary_propertySchema : Ordinary (propertySchema x y) := by
  unfold propertySchema
  split
  · exact within_ok
  · split
    · exact ordinary_error trivial
    · exact within_ok
  · exact ordinary_error trivial

theorem ordinary_isAdditional {engine : Pattern.Engine} {name : String} :
    Ordinary (isAdditional engine name fields) := by
  have named : ∀ x, Ordinary (isNamedIn name x) := by
    intro x
    unfold isNamedIn
    split
    · exact within_ok
    · exact within_ok
    · exact within_ok
    · exact ordinary_error trivial
  refine within_bind (named _) fun declared _ => ?_
  split
  · exact within_ok
  · refine within_bind ordinary_entriesOf fun patterns _ => ?_
    exact within_bind (within_exists? fun _ _ => ordinary_search) fun _ _ => within_ok

theorem ordinary_deadReference : Ordinary (deadReference x) := by
  unfold deadReference
  split
  · exact within_ok
  · exact ordinary_error trivial

theorem ordinary_typeNames {types : List Json} : Ordinary (typeNames types) := by
  induction types with
  | nil => exact within_ok
  | cons type rest ih =>
    cases type with
    | str s => exact ordinary_map ih _
    | _ => exact ordinary_error trivial

theorem ordinary_branches {keyword : String} : Ordinary (branches fields keyword) := by
  unfold branches
  split
  · exact within_ok
  · split
    · exact ordinary_error trivial
    · exact within_ok

theorem ordinary_withinBounds : Ordinary (withinBounds x y) := by
  have bounded : ∀ limit allowed, Ordinary (withinBound x limit allowed) := by
    intro limit allowed
    unfold withinBound
    split
    · exact within_bind ordinary_limitOf fun _ _ => within_ok
    · exact within_ok
  unfold withinBounds
  split
  · dsimp only
    split
    case' h_1 => refine within_bind (bounded _ _) fun low _ => ?_
    case' h_2 => refine within_bind within_ok fun low _ => ?_
    all_goals
      split
      · exact within_ok
      · split
        · exact bounded _ _
        · exact within_ok
  · exact within_ok

end Probe

end Conform
