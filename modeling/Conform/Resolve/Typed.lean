/-
# Resolving by type

A schema without conditions and compositions is resolved by its type.  A missing value becomes the
empty value of some types: false for a boolean, and zero, an empty list or the object of all
defaults at the top.  Elsewhere it stays missing, unless the container requires it.
-/
import Conform.Resolve.Object
import Conform.Probe.Array

namespace Conform.Resolve

open Probe (Check)

namespace Step

/-! ## 1. Scalars -/

/-- Null, also for a missing value (`_resolve_null`). -/
def null (step : Step) : Run Outcome :=
  match step.value with
  | none => done (some .null)
  | some .null => done (some .null)
  | some _ => step.failWith (.wrongKind .null)

/-- A boolean; a missing one is false (`_resolve_boolean`). -/
def boolean (step : Step) : Run Outcome :=
  match step.value with
  | none => done (some (.bool false))
  | some (.bool b) => done (some (.bool b))
  | some _ => step.failWith (.wrongKind .boolean)

/-- A value that is done unless there are issues. -/
def doneUnless (value : Json) (issues : List Issue) : Run Outcome :=
  if issues.isEmpty then done (some value) else fail issues

/-- A number; a missing one is zero at the top (`_resolve_number`). -/
def number (step : Step) (kind : Kind) : Run Outcome :=
  match step.value with
  | none => step.missing (some (.num (.int 0)))
  | some x => doneUnless x (Probe.numberIssues kind x step.fields step.path)

/-- A string (`_resolve_string`). -/
def string (step : Step) : Run Outcome :=
  match step.value with
  | none => step.missing none
  | some x => do
    let issues ← Probe.stringIssues step.setting.options.segmenter step.setting.options.engine x
      step.fields step.path
    doneUnless x issues

/-! ## 2. Arrays -/

/-- The items built so far, the last first, and the issues found. -/
structure BuiltItems where
  items : List Json
  issues : List Issue

/-- The index of an item as a key. -/
def indexKey (i : Nat) : Json := .num (.int i)

/-- One item at its position.  Where nothing is said about it, it stays; a null that its schema has
no room for is only checked; a missing result is null.  Part of `_resolve_array`. -/
def resolveItem (step : Step) (i : Nat) (item : Json) (built : BuiltItems) : Run BuiltItems :=
  let place := Probe.itemPath step.path i
  match Probe.itemSchema step.fields i with
  | none => pure { built with items := item :: built.items }
  | some (.bool true) => pure { built with items := item :: built.items }
  | some (.bool false) =>
    pure { built with issues := built.issues ++ [⟨.additionalItem, place⟩] }
  | some schema =>
    if Kind.null.fits item && !Schema.allowsNull schema then do
      let issues ← Probe.issues step.setting item schema place
      pure { built with issues := built.issues ++ issues }
    else do
      match ← step.descend (indexKey i) (.node schema) (some item) with
      | .failed issues => pure { built with issues := built.issues ++ issues }
      | .resolved value => pure { built with items := value.getD .null :: built.items }

/-- The items from the position `i` on.  Part of `_resolve_array`. -/
def resolveItems (step : Step) : (i : Nat) → List Json → BuiltItems → Run BuiltItems
  | _, [], built => pure built
  | i, item :: rest, built => do
    let built ← step.resolveItem i item built
    step.resolveItems (i + 1) rest built

/-- An array; a missing one is empty at the top.  The items are only looked at once the list as a
whole is found to be in order (`_resolve_array`). -/
def array (step : Step) : Run Outcome :=
  match step.value with
  | none => step.missing (some (.arr none []))
  | some (.arr _ items) => do
    let whole ← Probe.listIssues items step.fields step.path fun x _ schema place =>
      Probe.issues step.setting x schema place
    if !whole.isEmpty then fail whole
    else do
      let built ← step.resolveItems 0 items ⟨[], []⟩
      if built.issues.isEmpty then done (some (.arr none built.items.reverse))
      else fail built.issues
  | some _ => step.failWith (.wrongKind .array)

/-! ## 3. Objects -/

/-- Does the outcome hold something? -/
def Outcome.holdsMembers : Outcome → Bool
  | .resolved (some x) => x.truthy
  | _ => false

/-- An object.  A missing one is built from nothing; below the top it is kept only if that gives
it members without any issue (`_resolve_object`). -/
def object (step : Step) : Run Outcome :=
  match step.value with
  | none => do
    let required ← step.isRequired
    if required then step.failWith (.missing step.key.plain)
    else do
      let outcome ← step.resolveMembers []
      if step.isRoot || Outcome.holdsMembers outcome then pure outcome else done none
  | some (.obj _ members) => step.resolveMembers members
  | some _ => step.failWith (.wrongKind .object)

/-! ## 4. Types -/

/-- The resolution of a value of a kind.  Part of `_resolve_type`. -/
def ofKind (step : Step) : Kind → Run Outcome
  | .null => step.null
  | .boolean => step.boolean
  | .number => step.number .number
  | .integer => step.number .integer
  | .string => step.string
  | .array => step.array
  | .object => step.object

/-- The resolution by a single declared type.  Part of `_resolve_type`. -/
def ofType (step : Step) (type : Json) : Run Outcome :=
  match type with
  | .str s =>
    match Kind.ofName? s with
    | some kind => step.ofKind kind
    | none => step.failWith (.unknownType s)
  | type =>
    if Accessor.isContainer type then Run.fault .unusableName
    else step.failWith (.unknownType type.plain)

/-- The resolution by the first of several declared types that the value is of.  Part of
`_resolve_type`. -/
def ofTypes (step : Step) (types : List Json) : Run Outcome :=
  match step.value with
  | none => step.missing none
  | some x =>
    match Kind.firstFit types x with
    | none => do
      let names ← Probe.typeNames types
      step.failWith (.wrongTypes names)
    | some kind =>
      ofKind { step with tag := none, fields := Schema.restrict step.fields (.str kind.name) } kind

/-- **The resolution by type**: the declared one, the first of several that fits, or the one that
the keywords are about; a schema about nothing leaves the value as it is (`_resolve_type`). -/
def typed (step : Step) : Run Outcome :=
  match Schema.declaredTypes step.schema with
  | [] =>
    match Schema.inferKind step.fields step.value with
    | none => done step.value
    | some kind => step.ofKind kind
  | [type] => step.ofType type
  | types => step.ofTypes types

end Step

end Conform.Resolve
