/-
# Conditions

A condition that describes properties is met by an object that has all of them, each within the
bounds given for it and valid for its schema, and that is valid for the rest of the condition.
Any other condition is met by the values that are valid for it.
-/
import Conform.Probe.Object

namespace Conform.Probe

/-- A probe against whatever schema is no larger than the one at hand. -/
abbrev NoWiderProbe (schema : Json) :=
  (s : Json) → s.size ≤ schema.size → Path → Check (List Issue)

/-- Is the value a number that a bound allows?  Nothing but numbers is compared with the bound.
Part of `evaluate_condition`. -/
def withinBound (x : Json) (bound : Json) (allowed : Number → Number → Bool) : Check Bool :=
  match x with
  | .num n => do
    let limit ← limitOf bound
    .ok (allowed n limit)
  | _ => .ok false

/-- Is the property within the bounds that its condition gives?  Part of `evaluate_condition`. -/
def withinBounds (x : Json) (condition : Json) : Check Bool :=
  match condition with
  | .obj _ fields => do
    let low ← match Fields.get? fields "minimum" with
      | some bound => withinBound x bound fun n limit => limit.le n
      | none => .ok true
    if !low then .ok false
    else match Fields.get? fields "maximum" with
      | some bound => withinBound x bound fun n limit => n.le limit
      | none => .ok true
  | _ => .ok true

/-- Does the object have the property, within its bounds and valid for its condition?  Part of
`evaluate_condition`. -/
def propertyHolds (accessor : Accessor) (tag : Tag) (value : Fields) (path : Path)
    (inner : SmallerProbe (.obj tag value)) (name : String) (condition : Json) : Check Bool :=
  match h : accessor.read (.obj tag value) (.str name) with
  | .error fault => .error fault
  | .ok none => .ok false
  | .ok (some x) => do
    let within ← withinBounds x condition
    if !within then .ok false
    else valid (inner x (Accessor.size_lt_of_read h) condition (path ++ [name]))

/-- **Does the value meet the condition?**  Part of `evaluate_condition`. -/
def conditionHolds (accessor : Accessor) (value condition : Json) (path : Path)
    (inner : SmallerProbe value) (again : NoWiderProbe condition) : Check Bool :=
  match condition, value, inner, again with
  | .obj ctag fields, value, inner, again =>
    match Fields.get? fields "properties" with
    | some (.obj _ properties) =>
      match value, inner with
      | .obj tag members, inner => do
        let held ← forall? properties fun (name, schema) _ =>
          propertyHolds accessor tag members path inner name schema
        if !held then .ok false
        else
          let rest := Fields.erase fields "properties"
          if rest.isEmpty then .ok true
          else valid (again (.obj none rest) (by
            have := Json.sizeFields_filter_le (fun f => f.1 != "properties") fields
            simp only [Json.size]
            exact Nat.add_le_add_left this 2) path)
      | _, _ => .ok false
    | _ => valid (again (.obj ctag fields) (Nat.le_refl _) path)
  | condition, _, _, again => valid (again condition (Nat.le_refl _) path)

end Conform.Probe
