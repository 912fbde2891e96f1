/-
# What a schema asks for

A resolution asks for further ones, and which schemas these are at depends on the schema alone: the
value, what has been built so far and what the answers are decide only which of them are asked for, how
often and for which values.  `Enters` names the schemas that are asked for by type, inside the value and
for the members that others depend on; `Asks` adds those that compositions lead to, at the same place or
at one below it.  So a measure of schemas that becomes smaller from a schema to what it asks for bounds
how deep resolutions nest, and no function of the resolver has to be looked at for it again.

What remains of a schema that is reduced to one of several types enters nothing else than the schema does
(`Enters.restrict`).  What `allOf` merges is told by its members alone, whatever the composite ones among
them come to (`mergedAll_of_chain`).
-/
import Conform.Proofs.Assertive
import Conform.Proofs.Conservation
import Conform.Proofs.Valid

namespace Conform.Resolve

open Fields (get?)
open Reference (Node)

/-- **The schemas that a schema leads to by type**, and the extension of the place. -/
inductive Enters (setting : Probe.Setting) (fields : Fields) : Path → Node → Prop where
  /-- A property, or what stands under a pattern. -/
  | tabled {k name segment : String} {tag : Tag} {table : Fields} {s : Json}
      (hk : k ∈ ["properties", "patternProperties"]) (hx : get? fields k = some (.obj tag table))
      (hs : (name, s) ∈ table) : Enters setting fields [segment] (.node s)
  /-- What depends on a member is about the whole object. -/
  | dependent {name : String} {tag : Tag} {table : Fields} {s : Json}
      (hx : get? fields "dependentSchemas" = some (.obj tag table)) (hs : (name, s) ∈ table) :
      Enters setting fields [] (.node s)
  | additional {segment : String} {x : Json} {node : Node}
      (hx : get? fields "additionalProperties" = some x)
      (hn : Reference.expand setting.options.source setting.root x = .ok (some node)) :
      Enters setting fields [segment] node
  | item {i : Nat} {segment : String} {s : Json} (hs : Probe.itemSchema fields i = some s) :
      Enters setting fields [segment] (.node s)

/-- The keywords that are taken off a schema, each with those that go with it. -/
def peeled : List (String × List String) :=
  [("if", ["if", "then", "else"]), ("anyOf", ["anyOf"]), ("oneOf", ["oneOf"]), ("not", ["not"])]

/-- The members of `allOf` merged into a schema. -/
def mergedAll (base : Json) (members : List Json) : Except Fault Json :=
  members.foldlM (fun merged member => Schema.merge true merged (Step.mergedPart member)) base

/-- **The schemas that a schema asks for**, and the extension of the place. -/
inductive Asks (setting : Probe.Setting) (fields : Fields) : Path → Node → Prop where
  | entered {extension : Path} {node : Node} (h : Enters setting fields extension node) :
      Asks setting fields extension node
  /-- What is left of a schema that is composed. -/
  | rest {k : String} {keys : List String} {x : Json} (hk : (k, keys) ∈ peeled)
      (hx : get? fields k = some x) : Asks setting fields [] (.node (.obj none (Fields.without fields keys)))
  /-- What is left, with the branch that a condition chooses. -/
  | chosen {k : String} {x branch effective : Json} (hx : get? fields "if" = some x)
      (hk : k ∈ ["then", "else"]) (hb : get? fields k = some branch)
      (hm : Schema.merge false (.obj none (Fields.without fields ["if", "then", "else"])) branch =
        .ok effective) : Asks setting fields [] (.node effective)
  | member {x member : Json} {members : List Json} (hx : get? fields "allOf" = some x)
      (he : Probe.entriesOf x = .ok members) (hm : member ∈ members) :
      Asks setting fields ["allOf"] (.node member)
  /-- What is left, with all members of `allOf`. -/
  | flattened {x merged : Json} {members : List Json} (hx : get? fields "allOf" = some x)
      (he : Probe.entriesOf x = .ok members)
      (hm : mergedAll (.obj none (Fields.without fields ["allOf"])) members = .ok merged) :
      Asks setting fields [] (.node merged)
  /-- What is left, with one branch of `oneOf`. -/
  | selected {x branch effective : Json} {branches : List Json} (hx : get? fields "oneOf" = some x)
      (he : Probe.entriesOf x = .ok branches) (hb : branch ∈ branches)
      (hm : Schema.merge true (.obj none (Fields.without fields ["oneOf"])) branch = .ok effective) :
      Asks setting fields [] (.node effective)
  | negated {x : Json} (hx : get? fields "not" = some x) : Asks setting fields ["not"] (.node x)

/-- What a node asks for, if it is a schema with members. -/
def Asked (setting : Probe.Setting) (node : Node) (extension : Path) (next : Node) : Prop :=
  ∃ tag fields, node = .node (.obj tag fields) ∧ Asks setting fields extension next

section Enters

variable {setting : Probe.Setting} {fields : Fields}

/-- Reduced to one of its types, a schema has the same schema for a position, or none. -/
theorem itemSchema_of_restrict {kind : Kind} {i : Nat} {s : Json}
    (hs : Probe.itemSchema (Schema.restrict fields (.str kind.name)) i = some s) :
    Probe.itemSchema fields i = some s := by
  -- the keywords about lists are all kept or all left out
  by_cases hkind : kind = .array
  · subst hkind
    have same : ∀ k ∈ Schema.keywordsOf .array,
        get? (Schema.restrict fields (.str Kind.array.name)) k = get? fields k :=
      fun k hk => Probe.get?_restrict_of_mem hk rfl
    rwa [Probe.itemSchema_congr same] at hs
  · have lacks : ∀ k ∈ ["items", "prefixItems"],
        get? (Schema.restrict fields (.str kind.name)) k = none := by
      intro k hk
      have hne : k ≠ "type" := by rintro rfl; simp at hk
      rw [Schema.restrict, Fields.get?_put, if_neg hne, Fields.get?_filter_name fun name =>
        (Schema.baseKeywords ++ Schema.keywordsOfType (.str kind.name)).contains name, if_neg]
      rcases List.mem_pair.1 hk with rfl | rfl <;> cases kind <;> revert hkind <;> decide
    simp [Probe.itemSchema, lacks "items" (by simp), lacks "prefixItems" (by simp)] at hs

/-- Reduced to one of its types, a schema leads to nothing new. -/
theorem Enters.restrict {kind : Kind} {extension : Path} {node : Node}
    (h : Enters setting (Schema.restrict fields (.str kind.name)) extension node) :
    Enters setting fields extension node := by
  cases h with
  | tabled hk hx hs =>
    exact .tabled hk (Schema.get?_of_restrict (by rintro rfl; simp at hk) hx) hs
  | dependent hx hs => exact .dependent (Schema.get?_of_restrict (by simp) hx) hs
  | additional hx hn => exact .additional (Schema.get?_of_restrict (by simp) hx) hn
  | item hs => exact .item (itemSchema_of_restrict hs)

end Enters

namespace Step

variable {step : Step}

/-- **What `allOf` merges** is told by its members alone. -/
theorem mergedAll_of_chain {members : List Json} {flat flat' : Flattened}
    (h : Chain step.TakesMember members flat flat') :
    mergedAll flat.merged members = .ok flat'.merged := by
  induction h with
  | nil => rfl
  | cons first _ ih =>
    obtain ⟨-, -, hm⟩ := first.spec
    rw [mergedAll, List.foldlM_cons, hm, ok_bind]
    exact ih

end Step

end Conform.Resolve
