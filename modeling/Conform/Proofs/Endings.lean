/-
# How checks and runs end

A check ends with a result or a fault, and a run ends with a result or a fault and notes.  Here is
what it takes for either to end with a given result, one statement for each way of putting checks and
runs together.  Notes play no part in it.

The walks through lists are turned into statements about the entries: `gather` finds nothing exactly
if nothing is found at any entry, `exists?` and `forall?` that do not stop are searches.

Section 4 is about the faults that a check or a run may end with.  `Within E` says that there are no
others than those in `E`, and passes through everything that checks and runs are put together by.
-/
import Conform.Resolve.Run

namespace Conform

/-! ## 1. Checks -/

/-- A check after a check ends with a result if both do. -/
theorem bind_eq_ok {α β : Type} {check : Except Fault α} {next : α → Except Fault β} {b : β} :
    (check >>= next) = .ok b ↔ ∃ a, check = .ok a ∧ next a = .ok b := by
  cases check with
  | error fault => simp [Bind.bind, Except.bind]
  | ok a => simp [Bind.bind, Except.bind]

/-- What comes after a check matters for its result only. -/
theorem bind_congr_of_ok {α β : Type} {check : Except Fault α} {f g : α → Except Fault β}
    (h : ∀ a, check = .ok a → f a = g a) : (check >>= f) = (check >>= g) := by
  cases check with
  | error fault => rfl
  | ok a => exact h a rfl

theorem ok_bind {α β : Type} {a : α} {next : α → Except Fault β} :
    ((Except.ok a : Except Fault α) >>= next) = next a := rfl

theorem error_bind {α β : Type} {fault : Fault} {next : α → Except Fault β} :
    ((Except.error fault : Except Fault α) >>= next) = .error fault := rfl

namespace Probe

variable {α : Type}

theorem gather_eq_nil_iff {xs : List α} {f : (x : α) → x ∈ xs → Check (List Issue)} :
    gather xs f = .ok [] ↔ ∀ x h, f x h = .ok [] := by
  induction xs with
  | nil => simp [gather]
  | cons x xs ih =>
    simp only [gather, bind_eq_ok, Except.ok.injEq, List.append_eq_nil_iff]
    constructor
    · rintro ⟨_, hx, _, hxs, rfl, rfl⟩ y hy
      rcases List.mem_cons.1 hy with rfl | hm
      · exact hx
      · exact ih.1 hxs y hm
    · exact fun h => ⟨[], h x (List.mem_cons_self ..), [],
        ih.2 fun y hy => h y (List.mem_cons_of_mem _ hy), rfl, rfl⟩

theorem exists?_eq_false_iff {xs : List α} {f : (x : α) → x ∈ xs → Check Bool} :
    exists? xs f = .ok false ↔ ∀ x h, f x h = .ok false := by
  induction xs with
  | nil => simp [exists?]
  | cons x xs ih =>
    rw [exists?, bind_eq_ok]
    constructor
    · rintro ⟨found, hx, h⟩ y hy
      cases found with
      | true => cases h
      | false =>
        rcases List.mem_cons.1 hy with rfl | hm
        · exact hx
        · exact ih.1 h y hm
    · exact fun h => ⟨false, h x (List.mem_cons_self ..),
        ih.2 fun y hy => h y (List.mem_cons_of_mem _ hy)⟩

theorem forall?_eq_true_iff {xs : List α} {f : (x : α) → x ∈ xs → Check Bool} :
    forall? xs f = .ok true ↔ ∀ x h, f x h = .ok true := by
  induction xs with
  | nil => simp [forall?]
  | cons x xs ih =>
    rw [forall?, bind_eq_ok]
    constructor
    · rintro ⟨holds, hx, h⟩ y hy
      cases holds with
      | false => cases h
      | true =>
        rcases List.mem_cons.1 hy with rfl | hm
        · exact hx
        · exact ih.1 h y hm
    · exact fun h => ⟨true, h x (List.mem_cons_self ..),
        ih.2 fun y hy => h y (List.mem_cons_of_mem _ hy)⟩

/-- What is found decides. -/
theorem exists_of_valid {issues : Check (List Issue)} {admitted : Bool} (h : valid issues = .ok admitted) :
    ∃ found, issues = .ok found ∧ found.isEmpty = admitted := by
  cases issues with
  | error fault => cases h
  | ok found => exact ⟨found, rfl, Except.ok.inj h⟩

theorem valid_eq_true_iff {issues : Check (List Issue)} : valid issues = .ok true ↔ issues = .ok [] := by
  cases issues with
  | error fault => simp [valid, Except.map]
  | ok found => simp [valid, Except.map]

end Probe

/-! ## 2. Runs -/

namespace Resolve

variable {α β : Type}

namespace Run

/-- A run after a run ends with a result if both do. -/
theorem bind_result_eq_ok {run : Run α} {next : α → Run β} {b : β} :
    (run >>= next).result = .ok b ↔ ∃ a, run.result = .ok a ∧ (next a).result = .ok b := by
  rcases run with ⟨result | a, notes⟩ <;> simp [Bind.bind, bind]

/-- A run after a run that ends with a result ends as it does from that result. -/
theorem bind_result_of_ok {run : Run α} {next : α → Run β} {a : α} (h : run.result = .ok a) :
    (run >>= next).result = (next a).result := by
  obtain ⟨_, notes⟩ := run
  cases h
  rfl

/-- A check with a result before a run only hands it over. -/
theorem lift_bind_of_ok {check : Except Fault α} {a : α} {next : α → Run β} (h : check = .ok a) :
    ((liftM check : Run α) >>= next) = next a := by
  subst h
  exact pure_bind a next

@[simp] theorem pure_result {a : α} : (Pure.pure a : Run α).result = .ok a := rfl

@[simp] theorem lift_result {check : Except Fault α} : (liftM check : Run α).result = check := rfl

@[simp] theorem fault_result {fault : Fault} : (Run.fault fault : Run α).result = .error fault := rfl

@[simp] theorem note_result {issues : List Issue} : (Run.note issues).result = .ok () := rfl

end Run

@[simp] theorem done_result {value : Option Json} : (done value).result = .ok (.resolved value) := rfl

theorem fail_result {issues : List Issue} {outcome : Outcome} :
    (fail issues).result = .ok outcome ↔ issues ≠ [] ∧ outcome = .failed issues := by
  cases issues with
  | nil => simp [fail]
  | cons issue issues => simp [fail, eq_comm]

/-- A failure resolves nothing. -/
theorem fail_result_ne {issues : List Issue} {value : Option Json} :
    ¬(fail issues).result = .ok (.resolved value) := by
  simp [fail_result]

/-! ## 3. Failures -/

/-- The run does not fail without an issue. -/
def Honest (run : Run Outcome) : Prop := run.result ≠ .ok (.failed [])

theorem honest_done {value : Option Json} : Honest (done value) := by simp [Honest]

theorem honest_fail {issues : List Issue} : Honest (fail issues) := by
  simp [Honest, fail_result, eq_comm]

theorem honest_fault {fault : Fault} : Honest (Run.fault fault) := by simp [Honest]

theorem honest_bind {α : Type} {run : Run α} {next : α → Run Outcome}
    (h : ∀ a, run.result = .ok a → Honest (next a)) : Honest (run >>= next) := by
  intro hr
  obtain ⟨a, ha, hr⟩ := Run.bind_result_eq_ok.1 hr
  exact h a ha hr

end Resolve

/-! ## 4. Faults -/

/-- **If the check ends with a fault, it is one of these.** -/
def Within {α : Type} (E : Fault → Prop) (check : Except Fault α) : Prop :=
  ∀ fault, check = .error fault → E fault

section Within

variable {α β : Type} {E : Fault → Prop}

theorem within_ok {a : α} : Within E (.ok a : Except Fault α) := nofun

theorem within_error {fault : Fault} (h : E fault) : Within E (.error fault : Except Fault α) := by
  rintro _ ⟨⟩
  exact h

theorem within_bind {check : Except Fault α} {next : α → Except Fault β} (h : Within E check)
    (hn : ∀ a, check = .ok a → Within E (next a)) : Within E (check >>= next) := by
  cases check with
  | error fault => exact within_error (h fault rfl)
  | ok a => exact hn a rfl

theorem Within.mono {E' : Fault → Prop} {check : Except Fault α} (h : Within E check)
    (hE : ∀ fault, E fault → E' fault) : Within E' check :=
  fun fault hf => hE fault (h fault hf)

/-- A check that only ends with faults that do not occur ends with a result. -/
theorem Within.exists_ok {check : Except Fault α} (h : Within E check) (hE : ∀ fault, ¬E fault) :
    ∃ a, check = .ok a := by
  cases check with
  | error fault => exact absurd (h fault rfl) (hE fault)
  | ok a => exact ⟨a, rfl⟩

theorem within_run_bind {run : Resolve.Run α} {next : α → Resolve.Run β} (h : Within E run.result)
    (hn : ∀ a, run.result = .ok a → Within E (next a).result) : Within E (run >>= next).result := by
  rcases run with ⟨fault | a, notes⟩
  · exact within_error (h fault rfl)
  · exact hn a rfl

/-- A check whose result is known. -/
theorem within_lift_bind {check : Except Fault α} {a : α} {next : α → Resolve.Run β}
    (hc : check = .ok a) (h : Within E (next a).result) :
    Within E (liftM check >>= next : Resolve.Run β).result := by
  subst hc
  exact h

/-- A failure with an issue is no fault. -/
theorem within_fail {issues : List Issue} (h : issues ≠ []) :
    Within E (Resolve.fail issues).result := by
  cases issues with
  | nil => exact absurd rfl h
  | cons issue rest => exact within_ok

namespace Probe

variable {xs : List α}

theorem within_gather {f : (x : α) → x ∈ xs → Check (List Issue)} (h : ∀ x hx, Within E (f x hx)) :
    Within E (gather xs f) := by
  induction xs with
  | nil => exact within_ok
  | cons x xs ih =>
    exact within_bind (h _ _) fun _ _ => within_bind (ih fun y hy => h y _) fun _ _ => within_ok

/-- Where every entry has its issues without fail, so have all of them, and none if no entry has one. -/
theorem exists_gather {f : (x : α) → x ∈ xs → Check (List Issue)} (h : ∀ x hx, ∃ found, f x hx = .ok found) :
    ∃ found, gather xs f = .ok found ∧ (found = [] ↔ ∀ x hx, f x hx = .ok []) := by
  have faultless : Within (fun _ => False) (gather xs f) := within_gather fun x hx => by
    obtain ⟨found, hf⟩ := h x hx
    rw [hf]
    exact within_ok
  obtain ⟨found, hf⟩ := faultless.exists_ok fun _ => id
  refine ⟨found, hf, ?_⟩
  rw [← gather_eq_nil_iff, hf, Except.ok.injEq]

theorem within_gatherFrom {i : Nat} {f : Nat → (x : α) → x ∈ xs → Check (List Issue)}
    (h : ∀ i x hx, Within E (f i x hx)) : Within E (gatherFrom i xs f) := by
  induction xs generalizing i with
  | nil => exact within_ok
  | cons x xs ih =>
    exact within_bind (h _ _ _) fun _ _ => within_bind (ih fun i y hy => h i y _) fun _ _ => within_ok

theorem within_exists? {f : (x : α) → x ∈ xs → Check Bool} (h : ∀ x hx, Within E (f x hx)) :
    Within E (exists? xs f) := by
  induction xs with
  | nil => exact within_ok
  | cons x xs ih =>
    refine within_bind (h _ _) fun found _ => ?_
    split
    · exact within_ok
    · exact ih fun y hy => h y _

theorem within_forall? {f : (x : α) → x ∈ xs → Check Bool} (h : ∀ x hx, Within E (f x hx)) :
    Within E (forall? xs f) := by
  induction xs with
  | nil => exact within_ok
  | cons x xs ih =>
    refine within_bind (h _ _) fun holds _ => ?_
    split
    · exact ih fun y hy => h y _
    · exact within_ok

theorem within_count {f : (x : α) → x ∈ xs → Check Bool} (h : ∀ x hx, Within E (f x hx)) :
    Within E (count xs f) := by
  induction xs with
  | nil => exact within_ok
  | cons x xs ih =>
    exact within_bind (h _ _) fun _ _ => within_bind (ih fun y hy => h y _) fun _ _ => within_ok

theorem within_countFrom {i : Nat} {f : Nat → (x : α) → x ∈ xs → Check Bool}
    (h : ∀ i x hx, Within E (f i x hx)) : Within E (countFrom i xs f) := by
  induction xs generalizing i with
  | nil => exact within_ok
  | cons x xs ih =>
    exact within_bind (h _ _ _) fun _ _ => within_bind (ih fun i y hy => h i y _) fun _ _ => within_ok

theorem within_valid {issues : Check (List Issue)} (h : Within E issues) :
    Within E (valid issues) := by
  cases issues with
  | error fault => exact within_error (h fault rfl)
  | ok found => exact within_ok

end Probe

end Within

end Conform
