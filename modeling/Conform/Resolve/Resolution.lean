/-
# Resolution

`resolveStep` is one resolution, given the resolution of further requests at the place or below it.
`resolve` closes the recursion under the guard, which every further request enters.
-/
import Conform.Resolve.Guard
import Conform.Resolve.Compose
import Conform.Resolve.Typed

namespace Conform.Resolve

namespace Step

/-- The first of the composing keywords decides, in their order; without any, the type does.  Part
of `_resolve`. -/
def dispatch (step : Step) : Run Outcome :=
  match Fields.get? step.fields "if", Fields.get? step.fields "allOf",
      Fields.get? step.fields "anyOf", Fields.get? step.fields "oneOf",
      Fields.get? step.fields "not" with
  | some condition, _, _, _, _ => step.conditional condition
  | none, some members, _, _, _ => step.allOf members
  | none, none, some branches, _, _ => step.anyOf branches
  | none, none, none, some branches, _ => step.oneOf branches
  | none, none, none, none, some negated => step.not negated
  | none, none, none, none, none => step.typed

/-- A step from its start: fill in what is absent, compare, and go on.  Part of `_resolve`. -/
def run (step : Step) : Run Outcome := do
  let step := { step with value := step.filled }
  let issues ← step.pinIssues
  if issues.isEmpty then step.dispatch else fail issues

end Step

/-- **One resolution**, given the resolution of further requests (`_resolve`). -/
def resolveStep (setting : Probe.Setting) (path : Path) (request : Request) (again : Again) :
    Run Outcome :=
  match request.schema with
  | .node .null => done request.value
  | .node (.bool true) => done request.value
  | .node (.bool false) =>
    match request.value with
    | none => done none
    | some _ => fail [⟨.forbidden, path⟩]
  | .node (.obj tag fields) =>
    Step.run ⟨setting, path, tag, fields, request.value, request.parent, request.key,
      request.negated, again⟩
  | .node other => Run.fault (.invalidNode other.display path)
  | .endOfList items =>
    Run.fault (.invalidNode ("EndOfList(" ++ (Json.arr none items).display ++ ")") path)

/-- **The resolution of a request at a place.**  Too deep below the start, or too often at one
place, it fails (`resolve`). -/
def resolve (setting : Probe.Setting) (guard : Guard) (request : Request) : Run Outcome :=
  if _h : guard.tooDeep = true then fail [⟨.tooDeep, guard.path⟩]
  else
    resolveStep setting guard.path request fun extension next =>
      resolve setting (guard.enter extension) next
termination_by guard.rank
decreasing_by exact Guard.rank_enter_lt _h extension

/-- The resolution at the start of a path. -/
def resolveAt (setting : Probe.Setting) (request : Request) : Run Outcome :=
  resolve setting (Guard.atStart setting.options.currentPath) request

/-- The request for a whole value. -/
def wholeRequest (schema : Json) (value : Option Json) : Request :=
  ⟨.node schema, value, .null, .null, false⟩

/-- An outcome as it is reported: a missing value is null, and issues are sorted out together with
those noted.  Part of `SchemaResolver.resolve_values`. -/
def reportedOutcome (notes : List Issue) : Outcome → Except Fault Outcome
  | .resolved value => .ok (.resolved (some (value.getD .null)))
  | .failed issues =>
    match Issue.reported (notes ++ issues) with
    | [] => .error .noIssues
    | reported => .ok (.failed reported)

end Conform.Resolve
