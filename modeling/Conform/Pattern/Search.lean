/-
# Searching with patterns given as values

A pattern and a text come as JSON.  The pattern is read first, so a pattern that is none is noticed
even where there is no text to search.

Which texts are patterns and what they match is up to an engine.  The one here reads the patterns of
`Parser`; nothing that is shown of probes and resolutions depends on it.
-/
import Conform.Pattern.Matching
import Conform.Fault

namespace Conform.Pattern

/-- The pattern that a value denotes. -/
def ofJson : Json → Except Fault Program
  | .str s =>
    match Program.ofText s with
    | .ok program => .ok program
    | .error .conflictingFlags => .error .badFlags
    | .error _ => .error (.invalidPattern s)
  | _ => .error .notText

/-- **Does the pattern match anywhere in the text?** -/
def search (pattern text : Json) : Except Fault Bool := do
  let program ← ofJson pattern
  match text with
  | .str s => .ok (program.matchesWithin s)
  | _ => .error .notText

theorem ordinary_of_ofJson {pattern : Json} {fault : Fault} (h : ofJson pattern = .error fault) :
    fault.Ordinary := by
  unfold ofJson at h
  split at h
  · split at h
    · cases h
    · cases h
      trivial
    · cases h
      trivial
  · cases h
    trivial

theorem ordinary_of_search {pattern text : Json} {fault : Fault}
    (h : search pattern text = .error fault) :
    fault.Ordinary := by
  unfold search at h
  cases hp : ofJson pattern with
  | error raised =>
    simp only [hp, bind, Except.bind, Except.error.injEq] at h
    exact h ▸ ordinary_of_ofJson hp
  | ok program =>
    simp only [hp, bind, Except.bind] at h
    split at h
    · cases h
    · cases h
      trivial

/-- **What looks for patterns in texts** (`matches_pattern`).  A search fails with ordinary faults
only. -/
structure Engine where
  search : (pattern text : Json) → Except Fault Bool
  ordinary : ∀ {pattern text : Json} {fault : Fault}, search pattern text = .error fault → fault.Ordinary

/-- **An engine reads patterns**: it can look for each of them in every text. -/
def Engine.Reads (engine : Engine) (patterns : String → Bool) : Prop :=
  ∀ {pattern : String}, patterns pattern = true →
    ∀ text : String, ∃ found, engine.search (.str pattern) (.str text) = .ok found

/-- The engine of the patterns that `Parser` reads. -/
def Engine.standard : Engine := ⟨Pattern.search, ordinary_of_search⟩

/-- Is the text a pattern that `Parser` reads? -/
def isPattern (s : String) : Bool :=
  match Program.ofText s with
  | .ok _ => true
  | .error _ => false

theorem isPattern_iff {s : String} : isPattern s = true ↔ ∃ program, Program.ofText s = .ok program := by
  unfold isPattern
  cases Program.ofText s <;> simp

theorem Engine.reads_standard : Engine.standard.Reads isPattern := by
  intro pattern h text
  obtain ⟨program, hp⟩ := isPattern_iff.1 h
  exact ⟨program.matchesWithin text,
    by simp only [standard, Pattern.search, ofJson, hp, bind, Except.bind]⟩

end Conform.Pattern
