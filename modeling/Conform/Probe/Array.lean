/-
# Arrays

What the keywords about arrays say about a list of items.  `itemSchema` finds the schema of one
position; the items themselves are probed by whatever the caller passes in, which also learns that
the item is one of the list.
-/
import Conform.Probe.Scalar

namespace Conform.Probe

/-! ## 1. Positions -/

/-- The schema of a position behind a list of schemas: the one at the position, or else the one for
further items.  Part of `item_schema`. -/
def tupleSchema (fields : Fields) (schemas : List Json) (i : Nat) : Option Json :=
  if i < schemas.length then schemas[i]? else Fields.get? fields "additionalItems"

/-- **The schema of the item at a position**, `none` where nothing is said about it.  The schemas of
a prefix come first, then those of a list, then the one for further items (`item_schema`). -/
def itemSchema (fields : Fields) (i : Nat) : Option Json :=
  let items := Fields.get? fields "items"
  match Fields.get? fields "prefixItems" with
  | some (.arr _ start) =>
    if i < start.length then start[i]?
    else match items with
      | some (.arr _ schemas) => tupleSchema fields schemas (i - start.length)
      | _ => items
  | _ =>
    match items with
    | some (.arr _ schemas) => tupleSchema fields schemas i
    | _ => items

/-! ## 2. The list as a whole -/

/-- A probe of the items of a list against a schema. -/
abbrev ItemProbe (items : List Json) :=
  (x : Json) → x ∈ items → (schema : Json) → Path → Check (List Issue)

/-- The path of an item. -/
def itemPath (path : Path) (i : Nat) : Path := path ++ [Nat.repr i]

/-- The issues of how many items satisfy the schema of `contains`: at least one unless another least
number is given, and no more than the greatest.  Part of `check_array`. -/
def containsIssues (items : List Json) (fields : Fields) (path : Path) (probe : ItemProbe items) :
    Check (List Issue) :=
  match Fields.get? fields "contains" with
  | none => .ok []
  | some schema => do
    let found ← countFrom 0 items fun i x h => valid (probe x h schema (itemPath path i))
    let least := (Fields.get? fields "minContains").getD (.num (.int 1))
    let place := path ++ ["contains"]
    let few ← isUnder found least
    let few := if few then
        [if found = 0 then ⟨.containsNone, place⟩ else ⟨.containsTooFew least, place⟩]
      else []
    let many ← limitIssue fields "maxContains" (isOver found) .containsTooMany place
    .ok (few ++ many)

/-- **The issues of a list as a whole**: its length, repetitions, and what it contains
(`check_array`). -/
def listIssues (items : List Json) (fields : Fields) (path : Path) (probe : ItemProbe items) :
    Check (List Issue) := do
  let few ← limitIssue fields "minItems" (isUnder items.length) .tooFewItems path
  let many ← limitIssue fields "maxItems" (isOver items.length) .tooManyItems path
  let unique := (Fields.get? fields "uniqueItems").any Json.truthy
  let repeated := if unique && Json.hasRepeats items then [⟨.repeatedItems, path⟩] else []
  let contained ← containsIssues items fields path probe
  .ok (few ++ many ++ repeated ++ contained)

/-! ## 3. Items -/

/-- The issues of one item at its position.  Part of `_validate_array`. -/
def itemIssues (fields : Fields) (path : Path) (i : Nat)
    (probe : (schema : Json) → Path → Check (List Issue)) : Check (List Issue) :=
  match itemSchema fields i with
  | none => .ok []
  | some (.bool true) => .ok []
  | some (.bool false) => .ok [⟨.additionalItem, itemPath path i⟩]
  | some schema => probe schema (itemPath path i)

/-- **The issues of an array**: those of the list and those of its items
(`_validate_array`). -/
def arrayIssues (items : List Json) (fields : Fields) (path : Path) (probe : ItemProbe items) :
    Check (List Issue) := do
  let whole ← listIssues items fields path probe
  let each ← gatherFrom 0 items fun i x h => itemIssues fields path i (probe x h)
  .ok (whole ++ each)

end Conform.Probe
