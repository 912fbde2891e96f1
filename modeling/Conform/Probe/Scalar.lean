/-
# Strings and numbers

What the keywords about strings and numbers say about a value.  Several limits can be missed at
once, and every one that is missed is an issue of its own.
-/
import Conform.Options
import Conform.Schema.Format
import Conform.Probe.Gather

namespace Conform.Probe

/-! ## 1. Limits -/

/-- A limit as a quantity. -/
def limitOf (limit : Json) : Check Number :=
  match limit.quantity? with
  | some n => .ok n
  | none => .error .incomparable

/-- Is a count below the limit? -/
def isUnder (n : Nat) (limit : Json) : Check Bool := do
  let bound ← limitOf limit
  .ok ((Number.int n).lt bound)

/-- Is a count above the limit? -/
def isOver (n : Nat) (limit : Json) : Check Bool := do
  let bound ← limitOf limit
  .ok (bound.lt (.int n))

/-- The issue of a keyword that gives a limit, where it is there and missed. -/
def limitIssue (fields : Fields) (keyword : String) (missed : Json → Check Bool)
    (reason : Json → Reason) (path : Path) : Check (List Issue) :=
  match Fields.get? fields keyword with
  | none => .ok []
  | some limit => do
    let miss ← missed limit
    .ok (if miss then [⟨reason limit, path⟩] else [])

/-! ## 2. Strings -/

/-- The issues of a string's length.  The characters are counted only if a keyword asks for it.
Part of `check_string`. -/
def lengthIssues (segmenter : Segmenter) (s : String) (fields : Fields) (path : Path) :
    Check (List Issue) :=
  if Fields.has fields "minLength" || Fields.has fields "maxLength" then do
    let n ← segmenter.length s
    let short ← limitIssue fields "minLength" (isUnder n) .tooShort path
    let long ← limitIssue fields "maxLength" (isOver n) .tooLong path
    .ok (short ++ long)
  else .ok []

/-- The issue of a format.  Part of `check_string`. -/
def formatIssues (s : String) (fields : Fields) (path : Path) : Check (List Issue) :=
  match Fields.get? fields "format" with
  | none => .ok []
  | some format => do
    let fits ← Schema.hasFormat (.str s) format
    .ok (if fits then [] else [⟨.formatMismatch (Schema.formatLabel format.plain), path⟩])

/-- **The issues of a value that should be a string**: its kind, length, pattern and format
(`check_string`). -/
def stringIssues (segmenter : Segmenter) (engine : Pattern.Engine) (value : Json) (fields : Fields)
    (path : Path) : Check (List Issue) :=
  match value with
  | .str s => do
    let length ← lengthIssues segmenter s fields path
    let pattern ← limitIssue fields "pattern"
      (fun pattern => (engine.search pattern (.str s)).map (!·)) .patternMismatch path
    let format ← formatIssues s fields path
    .ok (length ++ pattern ++ format)
  | _ => .ok [⟨.wrongKind .string, path⟩]

/-! ## 3. Numbers -/

/-- A bound and its exclusive counterpart.  Where the latter is just `true`, the bound itself is
exclusive. -/
def effectiveBounds (bound exclusive : Option Json) : Option Json × Option Json :=
  match exclusive, bound with
  | some (.bool true), some .null => (bound, exclusive)
  | some (.bool true), some x => (none, some x)
  | _, _ => (bound, exclusive)

/-- The issue of a bound that is a number and violated. -/
def boundIssue (bound : Option Json) (violated : Number → Bool) (reason : Json → Reason)
    (path : Path) : List Issue :=
  match bound with
  | some (.num limit) => if violated limit then [⟨reason (.num limit), path⟩] else []
  | _ => []

/-- **The issues of a value that should be a number**: its kind, bounds and divisibility
(`check_number`). -/
def numberIssues (kind : Kind) (value : Json) (fields : Fields) (path : Path) : List Issue :=
  match value with
  | .num n =>
    let (minimum, above) := effectiveBounds (Fields.get? fields "minimum")
      (Fields.get? fields "exclusiveMinimum")
    let (maximum, below) := effectiveBounds (Fields.get? fields "maximum")
      (Fields.get? fields "exclusiveMaximum")
    (if kind = .integer ∧ !n.isIntegral then [⟨.wrongKind .integer, path⟩] else [])
      ++ boundIssue minimum (fun limit => n.lt limit) .below path
      ++ boundIssue maximum (fun limit => limit.lt n) .above path
      ++ boundIssue above (fun limit => n.le limit) .notAbove path
      ++ boundIssue below (fun limit => limit.le n) .notBelow path
      ++ boundIssue (Fields.get? fields "multipleOf") (fun d => !n.isMultipleOf d) .notMultiple path
  | _ => [⟨.wrongKind .number, path⟩]

end Conform.Probe
