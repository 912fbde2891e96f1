/-
# Reports

How issues, outcomes, options and faults are shown: as records for a program, as one line for a
reader, and in full.
-/
import Conform.Resolve.Resolution

namespace Conform

/-- An issue as a record (`create_error`). -/
def Issue.toJson (issue : Issue) : Json :=
  .obj none [("message", .str issue.message), ("path", .arr none (issue.path.map Json.str))]

/-- Issues as records. -/
def Issue.listToJson (issues : List Issue) : Json := .arr none (issues.map Issue.toJson)

/-- The place of an issue on one line. -/
def Issue.place (issue : Issue) : String :=
  let joined := String.intercalate "." issue.path
  if joined.isEmpty then "<root>" else joined

/-- A value that may be missing, shown. -/
def displayValue : Option Json → String
  | none => "MISSING"
  | some x => x.display

namespace Resolve.Outcome

/-- The outcome as a record (`to_dict`). -/
def toJson : Outcome → Json
  | .resolved value => .obj none [("ok", .bool true), ("value", value.getD .null)]
  | .failed issues => .obj none [("ok", .bool false), ("errors", Issue.listToJson issues)]

/-- The outcome on one line. -/
def summary : Outcome → String
  | .resolved value => "✓ Resolved: " ++ displayValue value
  | .failed issues =>
    "✗ Invalid: " ++ String.intercalate "; "
      (issues.map fun issue => issue.place ++ ": " ++ issue.message)

/-- The outcome in full. -/
def display : Outcome → String
  | .resolved value => "ResolveResult(ok=True, value=" ++ displayValue value ++ ")"
  | .failed issues =>
    "ResolveResult(ok=False, errors=" ++ (Issue.listToJson issues).display ++ ")"

/-- A failed outcome, which has to have an issue. -/
def ofIssues (issues : List Issue) : Except Fault Outcome :=
  if issues.isEmpty then .error .noIssues else .ok (.failed issues)

end Resolve.Outcome

/-- The options in full. -/
def Options.display (options : Options) : String :=
  "ResolveOptions(skip_validation=" ++ (Json.bool options.skipValidation).display
    ++ ", current_path=" ++ (Json.arr none (options.currentPath.map Json.str)).display ++ ")"

/-- A message with the place it is about and what caused it (`_format_message`). -/
def describeFault (message : String) (path : Path) (cause : Option String) : String :=
  let place := if path.isEmpty then "" else " (at: " ++ String.intercalate "." path ++ ")"
  let reason := match cause with
    | none => ""
    | some text => " - caused by: " ++ text
  message ++ place ++ reason

end Conform
