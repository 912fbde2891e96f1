/-
# References

A reference into the document at hand is followed through its fragment, which is percent encoded and
holds a pointer; an empty fragment means the whole document.  Any other reference leads nowhere.

A schema with a reference stands for the schema that the reference leads to, with the keywords
beside the reference merged into it.
-/
import Conform.Reference.Location
import Conform.Reference.Follower
import Conform.Text.Percent
import Conform.Schema.Merge

namespace Conform.Reference

/-- **Where a reference leads within a document.**  Nothing but text is a reference
(`resolve_reference`). -/
def resolve (follower : Follower) (ref root : Json) : Except Fault Target :=
  match ref with
  | .str s => do
    let location ← Location.ofText s
    if !location.isLocal then .ok (.node .null)
    else if location.fragment.isEmpty then .ok (.node root)
    else
      .ok ((follower.follow (Text.percentDecode location.fragment) root).getD (.node .null))
  | _ => .ok (.node .null)

theorem ordinary_of_resolve {follower : Follower} {ref root : Json} {fault : Fault}
    (h : resolve follower ref root = .error fault) : fault.Ordinary := by
  unfold resolve at h
  split at h
  · next s =>
    cases hl : Location.ofText s with
    | error raised =>
      simp only [hl, bind, Except.bind, Except.error.injEq] at h
      exact h ▸ Location.ordinary_of_ofText hl
    | ok location =>
      simp only [hl, bind, Except.bind] at h
      split at h
      · cases h
      · split at h <;> cases h
  · cases h

/-- Where references are looked up: what a reference leads to, given the document at hand.  A lookup fails
with ordinary faults only. -/
structure Source where
  lookup : (ref root : Json) → Except Fault Target
  ordinary : ∀ {ref root : Json} {fault : Fault}, lookup ref root = .error fault → fault.Ordinary

namespace Source

/-- In the document at hand. -/
def document (follower : Follower) : Source := ⟨resolve follower, ordinary_of_resolve⟩

/-- What a table of schemas has for a reference; nothing but a name can be looked up in it. -/
def entry (entries : Fields) : Json → Except Fault Target
  | .str s => .ok (.node ((Fields.get? entries s).getD .null))
  | .arr _ _ => .error .unusableName
  | .obj _ _ => .error .unusableName
  | _ => .ok (.node .null)

/-- In a table of schemas by reference. -/
def table (entries : Fields) : Source where
  lookup ref _ := entry entries ref
  ordinary {ref _ fault} h := by
    cases ref with
    | arr | obj =>
      cases h
      trivial
    | _ => cases h

/-- Nowhere: what should look them up cannot. -/
def broken : Source where
  lookup _ _ := .error .notCallable
  ordinary h := by
    cases h
    trivial

end Source

/-- Something that stands where a schema is needed: JSON, or the place past the end of a list. -/
abbrev Node := Target

/-- **What a schema stands for**: itself, unless it has a reference; then the schema that the
reference leads to, with the other keywords merged into it.  A reference that leads nowhere, or to
null, gives nothing (`resolve_ref`). -/
def expand (source : Source) (root schema : Json) : Except Fault (Option Node) :=
  match schema with
  | .obj tag fields =>
    match Fields.get? fields "$ref" with
    | none => .ok (some (.node (.obj tag fields)))
    | some ref => do
      let target ← source.lookup ref root
      let siblings := Fields.erase fields "$ref"
      match target with
      | .node .null => .ok none
      | .node x =>
        if siblings.isEmpty then .ok (some (.node x))
        else do
          let merged ← Schema.merge false x (.obj none siblings)
          .ok (some (.node merged))
      | .endOfList items =>
        if siblings.isEmpty then .ok (some (.endOfList items))
        else do
          let merged ← Schema.merge false (.obj none []) (.obj none siblings)
          .ok (some (.node merged))
  | .null => .ok none
  | x => .ok (some (.node x))

end Conform.Reference
