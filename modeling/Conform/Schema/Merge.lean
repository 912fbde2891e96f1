/-
# Merging schemas

Two schemas become one.  The second overrides the first keyword by keyword, except where a keyword
has a rule of its own: required names are joined, property schemas are merged name by name,
compositions are concatenated, and so on.  In a *conjunction* the types of the two are intersected
instead of overridden.

`mergeFields` applies the rules one after the other to the overridden members.  It takes the merge
of smaller schemas as an argument, together with the fact that the first of them is smaller than the
schema at hand; `merge` closes the recursion.
-/
import Conform.Schema.Keyword
import Conform.Json.Overlay
import Conform.Fault

namespace Conform.Schema

/-! ## 1. Types -/

/-- **The types that two declarations have in common**, in the order of the first.  Where there
are none but one side admits numbers and the other whole numbers, whole numbers are
(`intersect_types`). -/
def intersectTypes (a b : Json) : Except Fault Json :=
  let typesOf : Json → List Json
    | .arr _ types => types
    | type => [type]
  let left := typesOf a
  let right := typesOf b
  let common := left.filter fun type => Json.isAmong type right
  let listed := Json.listsName
  let common :=
    if common.isEmpty && ((listed left "number" && listed right "integer")
        || (listed left "integer" && listed right "number")) then [.str "integer"]
    else common
  match common with
  | [] => .error (.conflict left right)
  | [type] => .ok type
  | types => .ok (.arr none types)

/-! ## 2. Rules of keywords -/

/-- The entries of a value that is walked through. -/
def entries (x : Json) : Except Fault (List Json) :=
  match x.entries? with
  | some items => .ok items
  | none => .error .notIterable

/-- The members of a value that is asked for its members. -/
def members : Json → Except Fault Fields
  | .obj _ fields => .ok fields
  | _ => .error .notAnObject

/-- The members of a value that is copied as an object; of other values only the empty ones will
do. -/
def copiedMembers : Json → Except Fault Fields
  | .obj _ fields => .ok fields
  | x =>
    match x.entries? with
    | none => .error .notIterable
    | some [] => .ok []
    | some (first :: _) => if first.length?.isSome then .error .badPair else .error .notIterable

/-- The one value that a schema admits, if it pins one down (`_pinned_value`). -/
def pinned? (fields : Fields) : Option Json :=
  match Fields.get? fields "const", Fields.get? fields "enum" with
  | some x, _ => some x
  | none, some (.arr _ [x]) => some x
  | none, _ => none

/-- Types: intersected in a conjunction.  Part of `merge_schemas`. -/
def mergeTypes (conjunction : Bool) (a b result : Fields) : Except Fault Fields :=
  match Fields.get? a "type", Fields.get? b "type" with
  | some x, some y =>
    if conjunction then do
      let common ← intersectTypes x y
      .ok (Fields.put result "type" common)
    else .ok (Fields.put result "type" y)
  | _, _ => .ok result

/-- Constants and enumerations: two schemas that pin down the same value keep it as a constant,
otherwise enumerations are joined (`_merge_const_enum`). -/
def mergePinned (a b result : Fields) : Except Fault Fields :=
  let joined : Except Fault Fields :=
    match Fields.get? a "enum", Fields.get? b "enum" with
    | some x, some y => do
      let left ← entries x
      let right ← entries y
      .ok (Fields.put result "enum" (.arr none (Json.distinct (left ++ right))))
    | _, _ => .ok result
  match pinned? a, pinned? b with
  | some x, some y =>
    if Json.same x y then .ok (Fields.put (Fields.erase result "enum") "const" x) else joined
  | _, _ => joined

/-- The same value is kept as a constant, or enumerations of both are joined, or nothing is done. -/
theorem mergePinned_cases (a b result : Fields) :
    (∃ x y, pinned? a = some x ∧ pinned? b = some y ∧
      mergePinned a b result = .ok (Fields.put (Fields.erase result "enum") "const" x)) ∨
    (∃ x y, Fields.get? a "enum" = some x ∧ Fields.get? b "enum" = some y ∧
      mergePinned a b result = do
        let left ← entries x
        let right ← entries y
        .ok (Fields.put result "enum" (.arr none (Json.distinct (left ++ right))))) ∨
    mergePinned a b result = .ok result := by
  generalize hm : mergePinned a b result = merged
  simp only [mergePinned] at hm
  split at hm
  · next x y hx hy =>
    split at hm
    · exact .inl ⟨x, y, hx, hy, hm.symm⟩
    · split at hm
      · next u v hu hv => exact .inr (.inl ⟨u, v, hu, hv, hm.symm⟩)
      · exact .inr (.inr hm.symm)
  · split at hm
    · next u v hu hv => exact .inr (.inl ⟨u, v, hu, hv, hm.symm⟩)
    · exact .inr (.inr hm.symm)

/-- Required names: joined, without repetition.  Part of `merge_schemas`. -/
def mergeRequired (a b result : Fields) : Except Fault Fields :=
  if Fields.has a "required" || Fields.has b "required" then do
    let left ← entries ((Fields.get? a "required").getD (.arr none []))
    let right ← entries ((Fields.get? b "required").getD (.arr none []))
    .ok (Fields.put result "required" (.arr none (Json.distinct (left ++ right))))
  else .ok result

/-- The merge of schemas of which the first is smaller than a bound. -/
abbrev MergeBelow (bound : Nat) :=
  (x y : Json) → x.size < bound → Except Fault Json

/-- Members of `b` merged into those of `a`, collected in `acc`. -/
def mergeMembers (a : Fields) (self : MergeBelow (Json.sizeFields a)) :
    (b acc : Fields) → Except Fault Fields
  | [], acc => .ok acc
  | (k, y) :: rest, acc =>
    match h : Fields.get? a k with
    | some x => do
      let z ← self x y (Json.size_lt_sizeFields_of_get? h)
      mergeMembers a self rest (Fields.put acc k z)
    | none => mergeMembers a self rest (Fields.put acc k y)

theorem sizeFields_le_of_copiedMembers {x : Json} {fields : Fields}
    (h : copiedMembers x = .ok fields) : Json.sizeFields fields ≤ x.size := by
  unfold copiedMembers at h
  split at h
  · cases h
    simp only [Json.size]
    omega
  · split at h
    · cases h
    · cases h
      simp [Json.sizeFields]
    · split at h <;> cases h

/-- Properties: those of both are merged, the others are kept.  Part of `merge_schemas`. -/
def mergeProperties (a b : Fields) (self : MergeBelow (Json.sizeFields a)) (result : Fields) :
    Except Fault Fields :=
  match h : Fields.get? a "properties", Fields.get? b "properties" with
  | some x, some y =>
    match hx : copiedMembers x with
    | .error fault => .error fault
    | .ok left => do
      let right ← members y
      let below : MergeBelow (Json.sizeFields left) := fun u v hu =>
        self u v (Nat.lt_of_lt_of_le hu (Nat.le_trans (sizeFields_le_of_copiedMembers hx)
          (Nat.le_of_lt (Json.size_lt_sizeFields_of_get? h))))
      let merged ← mergeMembers left below right left
      .ok (Fields.put result "properties" (.obj none merged))
  | _, _ => .ok result

/-- A keyword whose value is combined as a document.  Part of `merge_schemas`. -/
def uniteKeyword (keyword : String) (a b result : Fields) : Fields :=
  match Fields.get? a keyword, Fields.get? b keyword with
  | some x, some y => Fields.put result keyword (Json.unite x y)
  | _, _ => result

/-- A keyword whose value is a schema, merged where both are objects.  Part of `merge_schemas`. -/
def mergeObjects (keyword : String) (a b : Fields) (self : MergeBelow (Json.sizeFields a))
    (result : Fields) : Except Fault Fields :=
  match h : Fields.get? a keyword, Fields.get? b keyword with
  | some x, some y =>
    if x.isObject && y.isObject then do
      let z ← self x y (Json.size_lt_sizeFields_of_get? h)
      .ok (Fields.put result keyword z)
    else .ok result
  | _, _ => .ok result

/-- Conditions: those of the second schema stand alone.  Part of `merge_schemas`. -/
def mergeConditions (b result : Fields) : Fields :=
  if Fields.has b "if" then
    ["if", "then", "else"].foldl
      (fun acc keyword => match Fields.get? b keyword with
        | some x => Fields.put acc keyword x
        | none => Fields.erase acc keyword)
      result
  else result

/-- Negated schemas are merged.  Part of `merge_schemas`. -/
def mergeNegated (a b : Fields) (self : MergeBelow (Json.sizeFields a)) (result : Fields) :
    Except Fault Fields :=
  match h : Fields.get? a "not", Fields.get? b "not" with
  | some x, some y => do
    let z ← self x y (Json.size_lt_sizeFields_of_get? h)
    .ok (Fields.put result "not" z)
  | _, _ => .ok result

/-- Schemas without a second mention of one occurrence. -/
def distinctOccurrences (schemas : List Json) : List Json :=
  schemas.foldl
    (fun acc x => if acc.any (Json.sameOccurrence x) then acc else acc ++ [x]) []

/-- Compositions: concatenated, each occurrence once.  Part of `merge_schemas`. -/
def mergeComposition (keyword : String) (a b result : Fields) : Except Fault Fields :=
  match Fields.get? a keyword, Fields.get? b keyword with
  | some x, some y => do
    let left ← entries x
    let right ← entries y
    .ok (Fields.put result keyword (.arr none (distinctOccurrences (left ++ right))))
  | _, _ => .ok result

/-! ## 3. Merging -/

/-- **The members of a merged schema**: those of the first overridden by those of the second, and
the rules of the keywords applied to them.  Part of `merge_schemas`. -/
def mergeFields (conjunction : Bool) (a b : Fields) (self : MergeBelow (Json.sizeFields a)) :
    Except Fault Fields := do
  let result := Fields.union a b
  let result ← mergeTypes conjunction a b result
  let result ← mergePinned a b result
  let result ← mergeRequired a b result
  let result ← mergeProperties a b self result
  let result := uniteKeyword "patternProperties" a b result
  let result := uniteKeyword "dependentSchemas" a b result
  let result ← mergeObjects "additionalProperties" a b self result
  let result ← mergeObjects "items" a b self result
  let result := mergeConditions b result
  let result ← mergeNegated a b self result
  let result ← mergeComposition "allOf" a b result
  let result ← mergeComposition "anyOf" a b result
  mergeComposition "oneOf" a b result

/-- The members of a schema; a schema that is no object constrains nothing. -/
def fieldsOf : Json → Fields
  | .obj _ fields => fields
  | _ => []

theorem sizeFields_fieldsOf_le (x : Json) : Json.sizeFields (fieldsOf x) ≤ x.size := by
  cases x <;> simp [fieldsOf, Json.size, Json.sizeFields]

/-- Is the value the schema that allows nothing? -/
def isFalse : Json → Bool
  | .bool false => true
  | _ => false

/-- **Two schemas merged.**  The schema that allows nothing absorbs any other
(`merge_schemas`). -/
def merge (conjunction : Bool) (a b : Json) : Except Fault Json :=
  if isFalse a || isFalse b then .ok (.bool false)
  else do
    let fields ← mergeFields conjunction (fieldsOf a) (fieldsOf b)
      (fun x y _ => merge conjunction x y)
    .ok (.obj none fields)
termination_by a.size
decreasing_by exact Nat.lt_of_lt_of_le ‹_› (sizeFields_fieldsOf_le a)

end Conform.Schema
