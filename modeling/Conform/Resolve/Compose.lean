/-
# Conditions and compositions

A schema that is composed of others is resolved by a schema without the composing keyword: a
condition adds the branch it chooses, the members of `allOf` and the one passing branch of `oneOf`
are merged in, `anyOf` and `not` are only probed.  Each of these schemas goes back to the resolution
as a whole, at the same place.
-/
import Conform.Resolve.Step

namespace Conform.Resolve

open Probe (Check)

namespace Step

/-- The schema without some of its keywords. -/
def without (step : Step) (keywords : List String) : Json :=
  .obj none (Fields.without step.fields keywords)

/-! ## 1. Conditions -/

/-- **A condition** adds the keywords of the branch that it chooses
(`_resolve_conditional`). -/
def conditional (step : Step) (condition : Json) : Run Outcome := do
  let met ← Probe.meets step.setting step.value condition step.path
  let base := step.without ["if", "then", "else"]
  match Fields.get? step.fields (if met then "then" else "else") with
  | none => step.redirect base
  | some .null => step.redirect base
  | some branch => do
    let effective ← Schema.merge false base branch
    step.redirect effective

/-! ## 2. All of several schemas -/

/-- What has been made of the members of `allOf` so far. -/
structure Flattened where
  /-- The value with what composite members have filled in. -/
  working : Option Json
  /-- The schema with the plain members merged in. -/
  merged : Json
  /-- The schemas to check the result against, the last first. -/
  plain : List Json
  issues : List Issue

/-- A value with another one laid over it, either of which may be missing (`deep_assign`). -/
def overlaid (working : Option Json) (source : Option Json) : Option Json :=
  match working, source with
  | target, none => target
  | none, source => source
  | some target, some source => some (Json.overlay target source)

/-- Is the schema itself composed of others? -/
def isComposite : Json → Bool
  | .obj _ fields => Schema.compositeKeywords.any (Fields.has fields)
  | _ => false

/-- A schema without its composing keywords. -/
def plainPart : Json → Json
  | .obj _ fields => .obj none (Fields.without fields Schema.compositeKeywords)
  | x => x

/-- A composite member is resolved on its own, and what it fills in is kept.  Part of
`_resolve_all_of`. -/
def resolveMember (step : Step) (flat : Flattened) (member : Json) : Run Flattened := do
  match ← step.again ["allOf"] ⟨.node member, flat.working, step.parent, step.key, step.negated⟩ with
  | .resolved value => pure { flat with working := overlaid flat.working value }
  | .failed issues => pure { flat with issues := flat.issues ++ issues }

/-- The members of `allOf`, one after the other: composite ones are resolved, then what is plain of
each is merged.  Types without anything in common end it.  Part of `_resolve_all_of`. -/
def flatten (step : Step) : List Json → Flattened → Run (Except (List Issue) Flattened)
  | [], flat => pure (.ok flat)
  | member :: rest, flat => do
    let composite := isComposite member
    let flat ← if composite then step.resolveMember flat member else pure flat
    let member := if composite then plainPart member else member
    match Schema.merge true flat.merged member with
    | .ok merged =>
      step.flatten rest { flat with merged := merged, plain := member :: flat.plain }
    | .error (.conflict _ _) =>
      pure (.error (flat.issues ++ [⟨.noCommonType, step.path ++ ["allOf"]⟩]))
    | .error fault => Run.fault fault

/-- The issues of a resolved value against schemas.  Part of `_resolve_all_of`. -/
def issuesAgainst (step : Step) (value : Option Json) (schemas : List Json) : Check (List Issue) :=
  Probe.gather schemas fun schema _ =>
    Probe.issues? step.setting value schema (step.path ++ ["allOf"])

/-- **All of several schemas**: the members are merged into one schema, and since merging lets later
keywords replace earlier ones, the resolved value is checked against each of them afterwards
(`_resolve_all_of`). -/
def allOf (step : Step) (members : Json) : Run Outcome := do
  let base := step.without ["allOf"]
  let members ← Probe.entriesOf members
  match ← step.flatten members ⟨step.value, base, [plainPart base], []⟩ with
  | .error issues => fail issues
  | .ok flat => do
    let outcome ← step.again [] ⟨.node flat.merged, flat.working, step.parent, step.key, step.negated⟩
    if !flat.issues.isEmpty then fail (flat.issues ++ outcome.issues)
    else match outcome with
      | .failed issues => pure (.failed issues)
      | .resolved value => do
        let issues ← step.issuesAgainst value flat.plain.reverse
        if issues.isEmpty then done value else fail issues

/-! ## 3. Any of several schemas -/

/-- The issues against the branches before the first that admits the value; none if there is
one.  Part of `_resolve_any_of`. -/
def probeBranches (step : Step) (value : Json) : List Json → List Issue → Check (Option (List Issue))
  | [], found => .ok (some found)
  | branch :: rest, found => do
    let issues ← Probe.issues step.setting value branch step.path
    if issues.isEmpty then .ok none else step.probeBranches value rest (found ++ issues)

/-- **Any of several schemas**: if one admits the value, the rest of the schema decides; otherwise
the default stands in for it (`_resolve_any_of`). -/
def anyOf (step : Step) (branches : Json) : Run Outcome := do
  let base := step.without ["anyOf"]
  match step.value with
  | none => step.redirect base
  | some value =>
    let branches ← Probe.entriesOf branches
    match ← step.probeBranches value branches [] with
    | none => step.redirect base
    | some issues =>
      match step.default? with
      | some x => done (some x)
      | none => fail (⟨.noneOfAny, step.path⟩ :: issues)

/-! ## 4. Exactly one of several schemas -/

/-- The issues of the value against each branch.  Part of `_resolve_one_of`. -/
def branchIssues (step : Step) (value : Json) : List Json → Check (List (List Issue))
  | [] => .ok []
  | branch :: rest => do
    let issues ← Probe.issues step.setting value branch step.path
    let others ← step.branchIssues value rest
    .ok (issues :: others)

/-- How many names of the branch's properties the value has; none where there are no properties. -/
def overlap? (value : Fields) : Json → Option Nat
  | .obj _ fields =>
    match Fields.get? fields "properties" with
    | some (.obj _ properties) => some ((Fields.names properties).countP (Fields.has value))
    | _ => none
  | _ => none

/-- The first index from `i` on whose branch shares more names with the value than `most`, and more
than all others do. -/
def closestFrom (value : Fields) : (i : Nat) → (best : Option Nat) → (most : Nat) → List Json → Option Nat
  | _, best, _, [] => best
  | i, best, most, branch :: rest =>
    match overlap? value branch with
    | some n =>
      if most < n then closestFrom value (i + 1) (some i) n rest
      else closestFrom value (i + 1) best most rest
    | none => closestFrom value (i + 1) best most rest

/-- **The branch that comes closest to the value**: the first of those that share most names of
properties with it, if any shares one (`_closest_branch`). -/
def closestBranch (branches : List Json) : Json → Option Nat
  | .obj _ value => closestFrom value 0 none 0 branches
  | _ => none

/-- The branches that admit the value. -/
def passingBranches (branches : List Json) (outcomes : List (List Issue)) : List Json :=
  (branches.zip outcomes).filterMap fun (branch, issues) =>
    if issues.isEmpty then some branch else none

/-- What to report where no branch admits the value: the issues of the closest branch, or else those
of the first.  Part of `_resolve_one_of`. -/
def noneOfOne (step : Step) (value : Json) (branches : List Json) (outcomes : List (List Issue)) :
    Run Outcome :=
  match (closestBranch branches value).bind fun i => outcomes[i]? with
  | some issues => fail issues
  | none =>
    fail ((outcomes.head?.getD []) ++ [⟨.notExactlyOne, step.path ++ ["oneOf"]⟩])

/-- **Exactly one of several schemas**: the one that admits the value is merged into the rest of the
schema; otherwise the default stands in for the value (`_resolve_one_of`). -/
def oneOf (step : Step) (branches : Json) : Run Outcome := do
  let base := step.without ["oneOf"]
  match step.value with
  | none => step.redirect base
  | some value =>
    let branches ← Probe.entriesOf branches
    let outcomes ← step.branchIssues value branches
    match passingBranches branches outcomes, step.default? with
    | [branch], _ =>
      match Schema.merge true base branch with
      | .ok effective => step.redirect effective
      | .error (.conflict _ _) => step.failBelow "oneOf" .noCommonType
      | .error fault => Run.fault fault
    | _, some x => done (some x)
    | [], none =>
      if branches.isEmpty then step.failBelow "oneOf" .notExactlyOne
      else step.noneOfOne value branches outcomes
    | _ :: _ :: _, none => step.failBelow "oneOf" .notExactlyOne

/-! ## 5. Negation -/

/-- Does the negated schema require names of an object? -/
def requiresNames (value negated : Json) : Bool :=
  match value, negated with
  | .obj _ _, .obj _ fields => Fields.has fields "required"
  | _, _ => false

/-- **A negated schema** must not admit the value.  Where it does, the negated schema is resolved
once more only to note which of its required names are missing further down
(`_resolve_not`). -/
def not (step : Step) (negated : Json) : Run Outcome := do
  let base := step.without ["not"]
  match step.value with
  | none => step.redirect base
  | some value =>
    let issues ← Probe.issues step.setting value negated (step.path ++ ["not"])
    if issues.isEmpty then do
      if requiresNames value negated then
        let _ ← step.again ["not"] ⟨.node negated, step.value, step.parent, step.key, true⟩
      step.failBelow "not" .excluded
    else step.redirect base

end Step

end Conform.Resolve
