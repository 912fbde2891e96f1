/-
# Walking through lists

Collecting, counting and searching over the entries of a list, where each step may stop with a
fault and may use that its entry is in the list.
-/
import Conform.Fault

namespace Conform.Probe

/-- A check that may stop with a fault. -/
abbrev Check (α : Type) := Except Fault α

variable {α : Type}

/-- The issues of all entries, in order. -/
def gather : (xs : List α) → ((x : α) → x ∈ xs → Check (List Issue)) → Check (List Issue)
  | [], _ => .ok []
  | x :: xs, f => do
    let first ← f x (List.mem_cons_self ..)
    let others ← gather xs fun y h => f y (List.mem_cons_of_mem _ h)
    .ok (first ++ others)

/-- The issues of all entries with their indices, counted from `i`. -/
def gatherFrom (i : Nat) :
    (xs : List α) → (Nat → (x : α) → x ∈ xs → Check (List Issue)) → Check (List Issue)
  | [], _ => .ok []
  | x :: xs, f => do
    let first ← f i x (List.mem_cons_self ..)
    let others ← gatherFrom (i + 1) xs fun j y h => f j y (List.mem_cons_of_mem _ h)
    .ok (first ++ others)

/-- Does an entry satisfy the test?  Nothing after the first one that does is tested. -/
def exists? : (xs : List α) → ((x : α) → x ∈ xs → Check Bool) → Check Bool
  | [], _ => .ok false
  | x :: xs, f => do
    let found ← f x (List.mem_cons_self ..)
    if found then .ok true else exists? xs fun y h => f y (List.mem_cons_of_mem _ h)

/-- Do all entries satisfy the test?  Nothing after the first one that does not is tested. -/
def forall? : (xs : List α) → ((x : α) → x ∈ xs → Check Bool) → Check Bool
  | [], _ => .ok true
  | x :: xs, f => do
    let holds ← f x (List.mem_cons_self ..)
    if holds then forall? xs fun y h => f y (List.mem_cons_of_mem _ h) else .ok false

/-- How many entries satisfy the test. -/
def count : (xs : List α) → ((x : α) → x ∈ xs → Check Bool) → Check Nat
  | [], _ => .ok 0
  | x :: xs, f => do
    let first ← f x (List.mem_cons_self ..)
    let others ← count xs fun y h => f y (List.mem_cons_of_mem _ h)
    .ok ((if first then 1 else 0) + others)

/-- How many entries satisfy the test, which also sees their indices, counted from `i`. -/
def countFrom (i : Nat) : (xs : List α) → (Nat → (x : α) → x ∈ xs → Check Bool) → Check Nat
  | [], _ => .ok 0
  | x :: xs, f => do
    let first ← f i x (List.mem_cons_self ..)
    let others ← countFrom (i + 1) xs fun j y h => f j y (List.mem_cons_of_mem _ h)
    .ok ((if first then 1 else 0) + others)

/-- Is the list of issues empty? -/
def valid (issues : Check (List Issue)) : Check Bool := issues.map List.isEmpty

end Conform.Probe
