/-
# Runs

A run ends with a result or a fault, and on the way it may note issues: those of a negated schema,
which are kept apart from the issues of the value.  Notes survive a fault.  A run never takes a note
back, so a run after another one only adds to the notes.
-/
import Conform.Probe.Verdict

namespace Conform.Resolve

/-- A result or a fault, and the issues noted on the way. -/
structure Run (α : Type) where
  result : Except Fault α
  notes : List Issue

namespace Run

variable {α β : Type}

/-- A run that only gives a result. -/
def pure (a : α) : Run α := ⟨.ok a, []⟩

/-- One run after another; after a fault there is no other. -/
def bind (run : Run α) (next : α → Run β) : Run β :=
  match run.result with
  | .error fault => ⟨.error fault, run.notes⟩
  | .ok a => ⟨(next a).result, run.notes ++ (next a).notes⟩

instance : Monad Run where
  pure := Run.pure
  bind := Run.bind

/-- A check as a run without notes. -/
def ofCheck (check : Except Fault α) : Run α := ⟨check, []⟩

instance : MonadLift (Except Fault) Run := ⟨ofCheck⟩

/-- A run that ends with a fault. -/
def fault (f : Fault) : Run α := ⟨.error f, []⟩

/-- Note issues. -/
def note (issues : List Issue) : Run Unit := ⟨.ok (), issues⟩

theorem map_id (run : Run α) : run.bind (fun a => Run.pure (id a)) = run := by
  rcases run with ⟨result | a, notes⟩ <;> simp [bind, Run.pure]

theorem pure_bind (a : α) (next : α → Run β) : (Run.pure a).bind next = next a := by
  simp [bind, Run.pure]

theorem bind_assoc {γ : Type} (run : Run α) (f : α → Run β) (g : β → Run γ) :
    (run.bind f).bind g = run.bind fun a => (f a).bind g := by
  rcases run with ⟨result | a, notes⟩
  · simp [bind]
  · rcases h : (f a) with ⟨result | b, notes'⟩ <;> simp [bind, h]

instance : LawfulMonad Run := LawfulMonad.mk' Run map_id pure_bind bind_assoc

end Run

/-! ## Requests and outcomes -/

/-- What is asked of a resolution. -/
structure Request where
  schema : Reference.Node
  /-- The value, or none where it is missing. -/
  value : Option Json
  /-- The schema of the container, null at the top. -/
  parent : Json
  /-- The name or index in the container, null at the top. -/
  key : Json
  /-- Does the schema stand under a negation? -/
  negated : Bool

/-- How a resolution ends. -/
inductive Outcome where
  /-- With a value, or with the value still missing. -/
  | resolved (value : Option Json)
  /-- With issues. -/
  | failed (issues : List Issue)

/-- A resolution that ends with a value. -/
def done (value : Option Json) : Run Outcome := Pure.pure (.resolved value)

/-- A resolution that ends with issues, of which there has to be one. -/
def fail (issues : List Issue) : Run Outcome :=
  if issues.isEmpty then Run.fault .noIssues else Pure.pure (.failed issues)

/-- The issues of an outcome. -/
def Outcome.issues : Outcome → List Issue
  | .resolved _ => []
  | .failed issues => issues

/-- The resolution of a further request, at the place extended by a path. -/
abbrev Again := (extension : Path) → Request → Run Outcome

end Conform.Resolve
