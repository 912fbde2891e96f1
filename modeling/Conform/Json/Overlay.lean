/-
# Combining documents

`overlay` lays one value over another: members and items of the upper value go into the lower one
at their places, and anything else replaces it.  `unite` combines two documents the other way about
lists, which it joins without repetition.
-/
import Conform.Json.Canonical

namespace Conform.Json

/-! ## 1. Overlay -/

mutual

/-- The value `target` with `source` laid over it (`deep_assign`). -/
def overlay : (target source : Json) → Json
  | .obj tag fields, .obj _ upper => .obj tag (overlayFields fields upper)
  | .arr tag items, .arr _ upper => .arr tag (overlayItems items upper)
  | _, source => source

/-- Members laid over members, one after the other: a member that is there is overlaid in place,
a new one goes last. -/
def overlayFields : (fields upper : List (String × Json)) → List (String × Json)
  | fields, [] => fields
  | fields, (k, x) :: rest =>
    let member := match Fields.get? fields k with
      | some y => overlay y x
      | none => x
    overlayFields (Fields.put fields k member) rest

/-- Items laid over items, index by index. -/
def overlayItems : (items upper : List Json) → List Json
  | items, [] => items
  | [], upper => upper
  | y :: items, x :: upper => overlay y x :: overlayItems items upper

end

/-! ## 2. Union -/

mutual

/-- The document `target` with `source` merged into it: objects member by member, lists joined
without repetition, and otherwise the source alone (`deep_merge`). -/
def unite : (target source : Json) → Json
  | .obj _ fields, .obj _ upper => .obj none (uniteFields fields upper)
  | .arr _ items, .arr _ upper => .arr none (distinct (items ++ upper))
  | _, source => source

/-- Members merged into members, one after the other. -/
def uniteFields : (fields upper : List (String × Json)) → List (String × Json)
  | fields, [] => fields
  | fields, (k, x) :: rest =>
    let member := match Fields.get? fields k with
      | some y => unite y x
      | none => x
    uniteFields (Fields.put fields k member) rest

end

end Conform.Json
