/-
# Small schemas are never too deep

The guard stops a resolution at which the path is a hundred names longer than at the start, or a hundred
resolutions of the same path length are under way.  Both take a hundred resolutions inside each other, and
each of them is at a schema of fewer values than the one before (`lighter_of_asks`).  So a schema of fewer
than a hundred values never comes to that, however deep the value is.

The invariant is in two inequalities: the path has grown by no more than one name for each resolution
under way, and the resolutions under way and the values of the schema at hand are fewer than a hundred
together.  It says the same of every call, of those too whose failure nobody gets to see.
-/
import Conform.Proofs.Counting
import Conform.Proofs.Guarding

namespace Conform.Resolver

open Resolve
open Schema (WellFormed)

variable {terms : Schema.Terms}

/-- Where fewer resolutions are under way than the guard allows, and the path has grown by no more than one
name for each, the guard does not stop. -/
theorem tooDeep_of_few {place : Place} {start : Nat} (near : place.path.length ≤ start + place.levels.length)
    (few : place.levels.length < depthLimit) : place.tooDeep start = false := by
  have low : ¬depthLimit ≤ place.path.length - start := by omega
  have short : ¬depthLimit ≤ place.levels.length := by omega
  simp [Place.tooDeep, low, short]

/-- **A resolver at a small schema** is never stopped by the guard, and it needs no more calls inside each
other than the schema has values. -/
theorem performs_of_small (exhausted : Fault) {options : Options} (root : Json) (room : Nat)
    (guard : Guard) (start : guard.start = options.currentPath.length) (request : Request) {s : Json}
    (hs : request.schema = .node s) (formed : WellFormed terms s)
    (near : guard.path.length ≤ guard.start + guard.frames.length)
    (few : guard.frames.length + s.nodes < depthLimit) :
    ∃ run, Performs (fun place => place.tooDeep options.currentPath.length = false) (guarded root guard)
        (resolve exhausted options room request) run ∧
      (s.nodes ≤ room → run = Resolve.resolve ⟨options, root⟩ guard request) := by
  induction room generalizing guard request s with
  | zero =>
    have := Json.nodes_pos s
    exact ⟨_, performs_ofRun _, fun h => by omega⟩
  | succ room ih =>
    have shallow : (guarded root guard).tooDeep options.currentPath.length = false := by
      refine tooDeep_of_few ?_ ?_
      · simp only [guarded, List.length_reverse]
        omega
      · simp only [guarded, List.length_reverse]
        omega
    -- what is asked for is lighter, and of anything else nothing has to be known
    have further : ∀ extension next, ∃ run,
        (Asked ⟨options, root⟩ request.schema extension next.schema →
          Performs (fun place => place.tooDeep options.currentPath.length = false)
            ((guarded root guard).enter extension) (resolve exhausted options room next) run) ∧
        (s.nodes ≤ room + 1 → run = Resolve.resolve ⟨options, root⟩ (guard.enter extension) next) := by
      intro extension next
      by_cases asked : Asked ⟨options, root⟩ request.schema extension next.schema
      · obtain ⟨tag, fields, hnode, asks⟩ := asked
        cases hs.symm.trans hnode
        obtain ⟨hlen, t, ht, formed', lt⟩ := lighter_of_asks formed asks
        have near' : (guard.enter extension).path.length ≤
            (guard.enter extension).start + (guard.enter extension).frames.length := by
          simp only [Guard.enter, List.length_append, List.length_cons]
          omega
        have few' : (guard.enter extension).frames.length + t.nodes < depthLimit := by
          simp only [Guard.enter, List.length_cons]
          omega
        obtain ⟨run, performs, same⟩ := ih (guard.enter extension) start next ht formed' near' few'
        rw [guarded_enter] at performs
        exact ⟨run, fun _ => performs, fun h => same (by omega)⟩
      · exact ⟨_, fun h => absurd h asked, fun _ => rfl⟩
    choose again performs same using further
    refine ⟨_, performs_resolve_succ exhausted shallow fun _ extension next => performs extension next,
      fun h => ?_⟩
    have told : again = fun extension next =>
        Resolve.resolve ⟨options, root⟩ (guard.enter extension) next := by
      funext extension next
      exact same extension next h
    have deep : guard.tooDeep = false := by rw [← tooDeep_guarded root guard, start, shallow]
    rw [shallow, if_neg Bool.false_ne_true, told, Resolve.resolve, dif_neg (by simp [deep])]
    rfl

/-- **A schema of fewer than a hundred values is never too deep.**  Whatever the value, the container and
the options are, no call that is made on the way is at a place where the guard stops, be it one whose
failure gets lost.  And a resolver with room for as many calls inside each other as the schema has values
does what the resolution says. -/
theorem small_never_tooDeep {schema : Json} (formed : WellFormed terms schema)
    (small : schema.nodes < 100) (exhausted : Fault) (options : Options) (root : Json)
    (notes : List Issue) (value : Option Json) (parent key : Json) (negated : Bool) (room : Nat) :
    (∀ place ∈ (resolve exhausted options room ⟨.node schema, value, parent, key, negated⟩
        { atStart options root with notes := notes }).2.entered,
      place.tooDeep options.currentPath.length = false) ∧
    (schema.nodes ≤ room → ∃ entered,
      resolve exhausted options room ⟨.node schema, value, parent, key, negated⟩
          { atStart options root with notes := notes } =
        ((resolveAt ⟨options, root⟩ ⟨.node schema, value, parent, key, negated⟩).result,
          { atStart options root with
            notes := notes ++
              (resolveAt ⟨options, root⟩ ⟨.node schema, value, parent, key, negated⟩).notes
            entered := entered })) := by
  have few : (Guard.atStart options.currentPath).frames.length + schema.nodes < depthLimit := by
    simp only [Guard.atStart, List.length_nil, depthLimit]
    omega
  obtain ⟨run, performs, same⟩ := performs_of_small exhausted root room
    (Guard.atStart options.currentPath) rfl ⟨.node schema, value, parent, key, negated⟩ rfl formed
    (Nat.le_add_right _ _) few
  obtain ⟨entries, shallow, ends⟩ := performs { atStart options root with notes := notes } rfl
  constructor
  · intro place hp
    rw [ends] at hp
    exact shallow place (by simpa [atStart] using hp)
  · intro h
    rw [ends, same h]
    exact ⟨entries, rfl⟩

/-- Compositions inside each other, of which the negated one admits the value and is resolved once more. -/
theorem small_never_tooDeep_composed :
    let schema : Json := .obj none [
      ("if", .obj none [("required", .arr none [.str "a"])]),
      ("then", .obj none [("allOf", .arr none []), ("not", .obj none [
        ("required", .arr none [.str "a"]), ("properties", .obj none [
          ("a", .obj none [("items", .obj none [("type", .str "integer")])])])])]),
      ("oneOf", .arr none [.bool true, .obj none [("maxProperties", .num (.int 0))]])]
    let value : Json := .obj none [("a", .arr none [.num (.int 1)])]
    schema.nodes = 17 ∧
      (∀ place ∈ (resolve .noIssues .default 17 (wholeRequest schema (some value))
        (atStart .default .null)).2.entered, place.tooDeep 0 = false) ∧
      ∃ entered, resolve .noIssues .default 17 (wholeRequest schema (some value))
          (atStart .default .null) =
        ((resolveAt ⟨.default, .null⟩ (wholeRequest schema (some value))).result,
          { atStart .default .null with
            notes := (resolveAt ⟨.default, .null⟩ (wholeRequest schema (some value))).notes
            entered := entered }) := by
  intro schema value
  have formed : WellFormed ⟨fun _ => true, fun _ => true⟩ schema := ⟨by decide +kernel, by decide +kernel⟩
  have count : schema.nodes = 17 := by decide +kernel
  obtain ⟨shallow, same⟩ := small_never_tooDeep formed (by omega) .noIssues .default .null []
    (some value) .null .null false 17
  exact ⟨count, shallow, same (by omega)⟩

end Conform.Resolver
