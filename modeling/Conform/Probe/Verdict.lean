/-
# The issues of a value

`issues` is the whole probe: which issues a value has against a schema, nothing filled in and nothing
changed.  A probe asks for further probes, of two sorts only: of something smaller than the value
against any schema at all, or of the value itself against a schema smaller than the one at hand.
So there are two recursions, one inside the other: `issuesBy` is on the schema and takes the probe of
whatever is smaller than the value as an argument, and `issues` is on the value.  They end even where
references lead back to where they came from: what a reference leads to is only ever used for a
member of the value.
-/
import Conform.Probe.Array
import Conform.Probe.Condition

namespace Conform.Probe

/-! ## 1. Types -/

/-- The names among types, all of which have to be text. -/
def typeNames : List Json → Check (List String)
  | [] => .ok []
  | .str s :: rest => (typeNames rest).map (s :: ·)
  | _ :: _ => .error .notText

/-- The issues of a value that should be of a kind.  Part of `_validate_type`. -/
def kindIssues (setting : Setting) (kind : Kind) (value : Json) (fields : Fields) (path : Path)
    (inner : SmallerProbe value) (again : NarrowerProbe fields) : Check (List Issue) :=
  match kind with
  | .null => .ok (if Kind.null.fits value then [] else [⟨.wrongKind .null, path⟩])
  | .boolean => .ok (if Kind.boolean.fits value then [] else [⟨.wrongKind .boolean, path⟩])
  | .number => .ok (numberIssues .number value fields path)
  | .integer => .ok (numberIssues .integer value fields path)
  | .string => stringIssues setting.options.segmenter setting.options.engine value fields path
  | .array =>
    match value, inner with
    | .arr tag items, inner =>
      arrayIssues items fields path fun x h schema place =>
        inner x (Json.size_lt_of_mem_items tag h) schema place
    | _, _ => .ok [⟨.wrongKind .array, path⟩]
  | .object =>
    match value, inner with
    | .obj tag members, inner => objectIssues setting tag members fields path inner again
    | _, _ => .ok [⟨.wrongKind .object, path⟩]

/-- The issues of a value by its type: the one that is declared, the first of several that fits, or
the one that the keywords are about (`_validate_type`). -/
def typeIssues (setting : Setting) (value : Json) (tag : Tag) (fields : Fields) (path : Path)
    (inner : SmallerProbe value) (again : NarrowerProbe fields) : Check (List Issue) :=
  match h : Schema.declaredTypes (.obj tag fields) with
  | [] =>
    match Schema.inferKind fields (some value) with
    | none => .ok []
    | some kind => kindIssues setting kind value fields path inner again
  | [type] =>
    match type with
    | .str s =>
      match Kind.ofName? s with
      | some kind => kindIssues setting kind value fields path inner again
      | none => .ok [⟨.unknownType s, path⟩]
    | type => .ok [⟨.unknownType type.plain, path⟩]
  | _ :: _ :: _ =>
    match Kind.firstFit (Schema.declaredTypes (.obj tag fields)) value with
    | none => do
      let names ← typeNames (Schema.declaredTypes (.obj tag fields))
      .ok [⟨.wrongTypes names, path⟩]
    | some kind =>
      kindIssues setting kind value (Schema.restrict fields (.str kind.name)) path inner
        fun schema hs place => again schema (by
          obtain ⟨old, ho⟩ := Schema.type_of_declaredTypes h
          exact Nat.lt_of_lt_of_le hs (Schema.sizeFields_restrict_le ho (Json.size_pos old)))
          place

/-! ## 2. Keywords about any value -/

/-- The issue of a constant or an enumeration; behind it nothing else is looked at.  Part of
`_validate`. -/
def pinIssues (value : Json) (fields : Fields) (path : Path) : Check (List Issue) :=
  let enumerated : Check (List Issue) :=
    match Fields.get? fields "enum" with
    | none => .ok []
    | some options => do
      let options ← entriesOf options
      .ok (if options.any (Json.same value) then [] else [⟨.notEnumerated options, path⟩])
  match Fields.get? fields "const" with
  | some expected =>
    if Json.same value expected then enumerated else .ok [⟨.notConstant expected, path⟩]
  | none => enumerated

/-- The branches of a composing keyword, each smaller than the schema. -/
def branches (fields : Fields) (keyword : String) :
    Check (Option { xs : List Json // ∀ x ∈ xs, x.size < Json.sizeFields fields }) :=
  match h : Fields.get? fields keyword with
  | none => .ok none
  | some x =>
    match hx : x.entries? with
    | none => .error .notIterable
    | some items => .ok (some ⟨items, fun _ hy =>
        Nat.lt_of_le_of_lt (Json.size_le_of_mem_entries hx hy) (Json.size_lt_sizeFields_of_get? h)⟩)

/-- The issues of the branch that a condition chooses.  Part of `_validate`. -/
def conditionalIssues (setting : Setting) (value : Json) (fields : Fields) (path : Path)
    (inner : SmallerProbe value) (again : NarrowerProbe fields) : Check (List Issue) :=
  match h : Fields.get? fields "if" with
  | none => .ok []
  | some condition => do
    let met ← conditionHolds setting.options.accessor value condition path inner
      fun s hs place => again s (Nat.lt_of_le_of_lt hs (Json.size_lt_sizeFields_of_get? h)) place
    match h' : Fields.get? fields (if met then "then" else "else") with
    | none => .ok []
    | some .null => .ok []
    | some branch => again branch (Json.size_lt_sizeFields_of_get? h') path

/-- The issues of every branch of `allOf`.  Part of `_validate`. -/
def allOfIssues (fields : Fields) (path : Path) (again : NarrowerProbe fields) :
    Check (List Issue) := do
  match ← branches fields "allOf" with
  | none => .ok []
  | some xs => gather xs.1 fun x h => again x (xs.2 x h) path

/-- The issue of `anyOf`, where no branch admits the value.  Part of `_validate`. -/
def anyOfIssues (fields : Fields) (path : Path) (again : NarrowerProbe fields) :
    Check (List Issue) := do
  match ← branches fields "anyOf" with
  | none => .ok []
  | some xs =>
    let found ← exists? xs.1 fun x h => valid (again x (xs.2 x h) path)
    .ok (if found then [] else [⟨.noneOfAny, path⟩])

/-- The issue of `oneOf`, where not exactly one branch admits the value.  Part of `_validate`. -/
def oneOfIssues (fields : Fields) (path : Path) (again : NarrowerProbe fields) :
    Check (List Issue) := do
  match ← branches fields "oneOf" with
  | none => .ok []
  | some xs =>
    let passing ← count xs.1 fun x h => valid (again x (xs.2 x h) path)
    .ok (if passing = 1 then [] else [⟨.notExactlyOne, path⟩])

/-- The issue of `not`, where the negated schema admits the value.  Part of `_validate`. -/
def notIssues (fields : Fields) (path : Path) (again : NarrowerProbe fields) :
    Check (List Issue) :=
  match h : Fields.get? fields "not" with
  | none => .ok []
  | some schema => do
    let admitted ← valid (again schema (Json.size_lt_sizeFields_of_get? h) path)
    .ok (if admitted then [⟨.excluded, path⟩] else [])

/-! ## 3. The whole probe -/

/-- The issues of a value against a schema with members.  Part of `_validate`. -/
def memberIssues (setting : Setting) (value : Json) (tag : Tag) (fields : Fields) (path : Path)
    (inner : SmallerProbe value) (again : NarrowerProbe fields) : Check (List Issue) := do
  let pinned ← pinIssues value fields path
  if !pinned.isEmpty then .ok pinned
  else
    let conditional ← conditionalIssues setting value fields path inner again
    let all ← allOfIssues fields path again
    let any ← anyOfIssues fields path again
    let one ← oneOfIssues fields path again
    let negated ← notIssues fields path again
    let typed ← typeIssues setting value tag fields path inner again
    .ok (conditional ++ all ++ any ++ one ++ negated ++ typed)

/-- The issues of a value against a schema, given the probes of whatever is smaller.  Part of
`_validate`. -/
def schemaIssues (setting : Setting) (value schema : Json) (path : Path)
    (inner : SmallerProbe value)
    (again : (s : Json) → s.size < schema.size → Path → Check (List Issue)) :
    Check (List Issue) :=
  match schema, again with
  | .null, _ => .ok []
  | .bool true, _ => .ok []
  | .bool false, _ => .ok [⟨.forbidden, path⟩]
  | .obj tag fields, again =>
    memberIssues setting value tag fields path inner fun s h place => again s (by
      simp only [Json.size]
      omega) place
  | other, _ => .error (.invalidNode other.display path)

/-- The issues of a value against a schema, given the probe of whatever is smaller than the value. -/
def issuesBy (setting : Setting) (value : Json) (inner : SmallerProbe value) (schema : Json)
    (path : Path) : Check (List Issue) :=
  schemaIssues setting value schema path inner fun s _ place =>
    issuesBy setting value inner s place
termination_by schema.size

/-- **The issues of a value against a schema.** (`_validate`) -/
def issues (setting : Setting) (value schema : Json) (path : Path) : Check (List Issue) :=
  issuesBy setting value (fun x _ s place => issues setting x s place) schema path
termination_by value.size

/-- **The probe, one step opened.** -/
theorem issues_eq (setting : Setting) (value schema : Json) (path : Path) :
    issues setting value schema path =
      schemaIssues setting value schema path (fun x _ s place => issues setting x s place)
        fun s _ place => issues setting value s place := by
  have again : ∀ s place, issuesBy setting value (fun x _ s place => issues setting x s place) s
      place = issues setting value s place := fun s place => by rw [issues]
  rw [issues, issuesBy]
  simp only [again]

/-- The issues of a value that may be missing: a missing value has none, but what is no schema is
still noticed. -/
def issues? (setting : Setting) (value : Option Json) (schema : Json) (path : Path) :
    Check (List Issue) :=
  match value with
  | some x => issues setting x schema path
  | none =>
    match schema with
    | .null => .ok []
    | .bool _ => .ok []
    | .obj _ _ => .ok []
    | other => .error (.invalidNode other.display path)

/-- Does a value that may be missing meet a condition?  A missing one meets none
(`evaluate_condition`). -/
def meets (setting : Setting) (value : Option Json) (condition : Json) (path : Path) :
    Check Bool :=
  match value with
  | none => .ok false
  | some x =>
    conditionHolds setting.options.accessor x condition path
      (fun y _ schema place => issues setting y schema place)
      (fun schema _ place => issues setting x schema place)

end Conform.Probe
