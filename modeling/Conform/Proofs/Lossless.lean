/-
# Whole resolutions lose nothing

`keeps_resolve` says what becomes of a value under a guard, for schemas that are `Tame`.  This module
brings it to whole resolutions and to schemas as they are written down.

A resolution comes to the schema it is asked for, to the schemas below one that it comes to, and to
those that references lead to (`Reached`).  All of these are values inside the document, whatever the
references are, so that they are proper and what holds throughout the document holds of them.  From
`anyOf` or `oneOf` a default can stand in for a value that no branch admits; as long as no schema that
is reached has them, or none has a default, what comes out extends what went in
(`extends_of_resolveValues`).  All other keywords may occur, with merged schemas of any depth.
-/
import Conform.Proofs.Conservation
import Conform.Proofs.Deciding

namespace Conform

open Fields (get?)
open Json (Extends Proper Throughout)
open Reference (Follower)
open Schema (Everywhere OfMembers Mergeable partsOf subschemas listedTypes)

/-! ## 1. What references lead to -/

namespace Reference

/-- What a path leads to has throughout what the document has. -/
theorem throughout_of_leads {p : Json → Prop} {root s : Json} {path : Path} (hr : Throughout p root)
    (leads : root.Leads path s) : Throughout p s := by
  induction leads with
  | here => exact hr
  | member found _ ih => exact ih (hr.of_get? found)
  | item found _ ih => exact ih (hr.of_mem_items (List.mem_of_getElem? found))

/-- **What a reference leads to stands inside the document**, unless it is null. -/
theorem throughout_of_resolve {p : Json → Prop} {follower : Follower} {ref root s : Json}
    (hr : Throughout p root) (h : resolve follower ref root = .ok (.node s)) :
    s = .null ∨ Throughout p s := by
  unfold resolve at h
  split at h
  · rw [bind_eq_ok] at h
    obtain ⟨location, -, h⟩ := h
    split at h
    · cases h
      exact .inl rfl
    · split at h
      · cases h
        exact .inr hr
      · simp only [Except.ok.injEq] at h
        cases found : follower.follow (Text.percentDecode location.fragment) root with
        | none =>
          rw [found] at h
          cases h
          exact .inl rfl
        | some target =>
          rw [found] at h
          obtain rfl : target = .node s := h
          obtain ⟨path, leads⟩ := follower.inside found
          exact .inr (throughout_of_leads hr leads)
  · cases h
    exact .inl rfl

/-- Nothing but text leads anywhere. -/
theorem eq_null_of_resolve {follower : Follower} {ref root s : Json} (hs : ∀ text, ref ≠ .str text)
    (h : resolve follower ref root = .ok (.node s)) : s = .null := by
  cases ref with
  | str text => exact absurd rfl (hs text)
  | _ =>
    cases h
    rfl

end Reference

/-! ## 2. Schemas that a resolution comes to -/

namespace Resolve

/-- **The schemas that the resolution of a document comes to**: the document, what stands below a
schema in a place for further schemas, and what references lead to. -/
inductive Reached (follower : Follower) (root : Json) : Json → Prop
  | start : Reached follower root root
  | within {tag : Tag} {fields : Fields} {s : Json} (h : Reached follower root (.obj tag fields))
      (hs : s ∈ subschemas fields) : Reached follower root s
  | referred {tag : Tag} {fields : Fields} {ref s : Json} (h : Reached follower root (.obj tag fields))
      (hr : ("$ref", ref) ∈ fields) (hs : Reference.resolve follower ref root = .ok (.node s)) :
      Reached follower root s

/-- **What holds throughout the document holds throughout every schema that is reached**, as long as
it holds of null. -/
theorem Reached.throughout {p : Json → Prop} {follower : Follower} {root s : Json} (hn : p .null)
    (hr : Throughout p root) (h : Reached follower root s) : Throughout p s := by
  induction h with
  | start => exact hr
  | within _ hs ih =>
    obtain ⟨k, x, hx, hs⟩ := Schema.mem_subschemas.1 hs
    rcases Schema.mem_partsOf hs with rfl | hs
    · exact ih.of_mem_fields hx
    · exact (ih.of_mem_fields hx).inner hs
  | referred _ _ hs _ =>
    rcases Reference.throughout_of_resolve hr hs with rfl | h
    · exact .intro hn fun _ hy => nomatch hy
    · exact h

/-- The value is no object with a member of this name. -/
def Lacks (name : String) (s : Json) : Prop := get? (Schema.fieldsOf s) name = none

instance {name : String} : DecidablePred (Lacks name) := fun _ =>
  inferInstanceAs (Decidable (_ = _))

/-- What may stand in a schema that is reached: none of these names, and references that lead to
further schemas that are reached. -/
def Allowed (follower : Follower) (root : Json) (banned : List String) (k : String) (x : Json) : Prop :=
  k ∉ banned ∧ (k = "$ref" → ∀ s, Reference.resolve follower x root = .ok (.node s) →
    s = .null ∨ Reached follower root s)

/-- Every schema that is reached lacks the names. -/
def AllLack (follower : Follower) (root : Json) (banned : List String) : Prop :=
  ∀ s, Reached follower root s → ∀ name ∈ banned, Lacks name s

/-- It is enough that the names occur nowhere in the document. -/
theorem allLack_of_throughout {follower : Follower} {root : Json} {banned : List String}
    (h : Throughout (fun s => ∀ name ∈ banned, Lacks name s) root) : AllLack follower root banned :=
  fun _ hs => (hs.throughout (fun _ _ => rfl) h).here

variable {follower : Follower} {root s : Json} {banned : List String}

theorem Reached.everywhere (hl : AllLack follower root banned) (h : Reached follower root s) :
    Everywhere (OfMembers (Allowed follower root banned)) s := by
  induction s using Json.sizeInduction with
  | step s ih =>
    cases s with
    | obj tag fields =>
      refine .node (fun k x hm => ⟨fun hk => ?_, fun hk y hy => ?_⟩) fun y hy => ?_
      · have hnone := Fields.get?_eq_none_iff.1 (hl _ h k hk)
        exact hnone (Fields.mem_names_of_mem hm)
      · exact .inr (.referred h (hk ▸ hm) hy)
      · exact ih y (Schema.size_lt_of_mem_subschemas tag hy) (.within h hy)
    | _ => exact .plain rfl

/-- A schema that is reached is good. -/
theorem Reached.good (hp : root.Proper) (hl : AllLack follower root banned) (h : Reached follower root s) :
    Good (Allowed follower root banned) s :=
  ⟨h.everywhere hl, h.throughout trivial hp⟩

/-- What may stand in a schema may stand in a merged one: merging makes no names but
`const` and `required`, and no references. -/
theorem mergeable_allowed (hc : "const" ∉ banned) (hr : "required" ∉ banned) :
    Mergeable (Allowed follower root banned) (Allowed follower root banned) where
  weaken h _ := h
  blend := by
    intro conjunction a b k z ha hb _ hz
    have left : ∀ {k x}, get? a k = some x → k ∉ banned :=
      fun h => (ha _ _ (Json.mem_of_get? h)).1
    cases hz with
    | types h _ _ => exact ⟨left h, nofun⟩
    | enumeration h _ _ _ => exact ⟨left h, nofun⟩
    | constant => exact ⟨hc, nofun⟩
    | required => exact ⟨hr, nofun⟩
    | properties h _ _ _ _ _ => exact ⟨left h, nofun⟩
    | united hk h _ => exact ⟨left h, by rintro rfl; simp at hk⟩
    | merged hk h _ _ _ => exact ⟨left h, by rintro rfl; simp at hk⟩
    | composed hk h _ _ _ => exact ⟨left h, by rintro rfl; simp at hk⟩
  unite := by
    intro k x y hx hy
    refine ⟨hx.1, fun hk s hs => ?_⟩
    rcases Schema.unite_cases x y with ⟨_, _, _, _, -, -, h⟩ | ⟨_, _, _, _, -, -, h⟩ | h
    · exact .inl (Reference.eq_null_of_resolve (by simp [h]) hs)
    · exact .inl (Reference.eq_null_of_resolve (by simp [h]) hs)
    · exact hy.2 hk s (h ▸ hs)

/-- References within the document lead to good schemas. -/
theorem good_of_lookup {setting : Probe.Setting} (hd : setting.options.source = .document follower)
    (hp : setting.root.Proper) (hl : AllLack follower setting.root banned) {ref x : Json}
    (h : Allowed follower setting.root banned "$ref" ref)
    (hx : setting.options.source.lookup ref setting.root = .ok (.node x)) :
    Good (Allowed follower setting.root banned) x := by
  rw [hd] at hx
  rcases h.2 rfl x hx with rfl | h
  · exact ⟨.plain rfl, Json.proper_atom trivial rfl⟩
  · exact h.good hp hl

/-- **Within a document that lacks `anyOf` and `oneOf`, or that lacks defaults, all schemas are
tame.** -/
theorem tame_allowed {setting : Probe.Setting} (ha : setting.options.accessor = .direct)
    (hd : setting.options.source = .document follower) (hp : setting.root.Proper)
    (hb : banned = ["anyOf", "oneOf"] ∨ banned = ["default"])
    (hl : AllLack follower setting.root banned) :
    Tame True setting (Allowed follower setting.root banned) (Allowed follower setting.root banned) where
  accessor := ha
  mergeable := by
    rcases hb with rfl | rfl <;> exact mergeable_allowed (by simp) (by simp)
  steady := .inl trivial
  chosen := by
    rcases hb with rfl | rfl
    · exact .inr ⟨fun _ h => h.1 (by simp), fun _ h => h.1 (by simp)⟩
    · exact .inl fun _ h => h.1 (by simp)
  narrowed _ _ h _ := ⟨h.1, nofun⟩
  parts _ _ _ _ _ _ h := h
  referred := by
    refine .inr ⟨?_, fun ref x h hx => good_of_lookup hd hp hl h hx⟩
    rcases hb with rfl | rfl <;> exact mergeable_allowed (by simp) (by simp)

end Resolve

/-! ## 3. Whole resolutions -/

open Resolve (Reached AllLack)

/-- The document of a whole resolution is the schema itself. -/
theorem rooted_start (schema : Json) (options : Options) :
    (Session.start options schema).rooted schema = Session.start options schema := by
  cases schema <;> rfl

/-- A whole resolution is one at the start of the path, in a document that is the schema itself, and
its outcome is sorted out for the reader together with the notes. -/
theorem resolveValues_eq_reported (schema : Json) (value : Option Json) (options : Options) :
    resolveValues schema value options =
      (Resolve.resolveAt ⟨options, schema⟩ (Resolve.wholeRequest schema value)).result.bind
        (Resolve.reportedOutcome
          (Resolve.resolveAt ⟨options, schema⟩ (Resolve.wholeRequest schema value)).notes) := by
  simp only [resolveValues, Session.resolveValues, rooted_start]
  rfl

/-- The same, for whoever does not ask which notes there are. -/
theorem resolveValues_eq (schema : Json) (value : Option Json) (options : Options) :
    ∃ notes, resolveValues schema value options =
      (Resolve.resolveAt ⟨options, schema⟩ (Resolve.wholeRequest schema value)).result.bind
        (Resolve.reportedOutcome notes) :=
  ⟨_, resolveValues_eq_reported schema value options⟩

/-- A whole resolution that ends with an outcome has one to report. -/
theorem resolveValues_eq_ok {schema : Json} {value : Option Json} {outcome : Resolve.Outcome}
    {options : Options} (h : resolveValues schema value options = .ok outcome) :
    ∃ notes result, (Resolve.resolveAt ⟨options, schema⟩
        (Resolve.wholeRequest schema value)).result = .ok result ∧
      Resolve.reportedOutcome notes result = .ok outcome := by
  obtain ⟨notes, he⟩ := resolveValues_eq schema value options
  obtain ⟨result, ho, h⟩ := bind_eq_ok.1 (he.symm.trans h)
  exact ⟨notes, result, ho, h⟩

/-- A whole resolution that gives a value gives it in place of a missing one, too. -/
theorem resolveValues_resolved {schema : Json} {value w : Option Json} {options : Options}
    (h : resolveValues schema value options = .ok (.resolved w)) :
    ∃ y, (Resolve.resolveAt ⟨options, schema⟩ (Resolve.wholeRequest schema value)).result =
      .ok (.resolved y) ∧ w = some (y.getD .null) := by
  obtain ⟨notes, result, ho, h⟩ := resolveValues_eq_ok h
  cases result with
  | resolved y =>
    cases h
    exact ⟨y, ho, rfl⟩
  | failed issues =>
    simp only [Resolve.reportedOutcome] at h
    split at h <;> cases h

/-- A value that comes out at the start of the path is what the whole resolution gives. -/
theorem resolveValues_of_resolved {schema : Json} {value y : Option Json} {options : Options}
    (h : (Resolve.resolveAt ⟨options, schema⟩ (Resolve.wholeRequest schema value)).result =
      .ok (.resolved y)) :
    resolveValues schema value options = .ok (.resolved (some (y.getD .null))) := by
  obtain ⟨notes, he⟩ := resolveValues_eq schema value options
  rw [he, h]
  rfl

/-- **Resolution never loses or alters data**: as long as no schema that it comes to has `anyOf` or
`oneOf`, or none has a default, what comes out extends what went in. -/
theorem extends_of_resolveValues {schema value : Json} {w : Option Json} {options : Options}
    {follower : Follower} (hs : schema.Proper) (hv : value.Proper) (ha : options.accessor = .direct)
    (hd : options.source = .document follower)
    (hl : AllLack follower schema ["anyOf", "oneOf"] ∨ AllLack follower schema ["default"])
    (h : resolveValues schema (some value) options = .ok (.resolved w)) :
    ∃ y, w = some y ∧ Extends True value y := by
  obtain ⟨banned, hb, hl⟩ : ∃ banned, (banned = ["anyOf", "oneOf"] ∨ banned = ["default"]) ∧
      AllLack follower schema banned := by
    rcases hl with hl | hl
    · exact ⟨_, .inl rfl, hl⟩
    · exact ⟨_, .inr rfl, hl⟩
  obtain ⟨y, hy, rfl⟩ := resolveValues_resolved h
  have ht : Resolve.Tame True ⟨options, schema⟩ _ _ := Resolve.tame_allowed ha hd hs hb hl
  have hk : Resolve.Kept True (some value) y := by
    refine Resolve.keeps_resolve ht _ (Resolve.wholeRequest schema (some value)) y ⟨?_, ?_, ?_⟩ hy
    · rintro s ⟨⟩
      exact Reached.start.good hs hl
    · rintro x ⟨⟩
      exact ⟨hv, .inl trivial⟩
    · exact .inl trivial
  refine ⟨_, rfl, ?_⟩
  rcases hk.extends? with ⟨-, rfl⟩ | ⟨z, rfl, hz⟩
  · exact .inl trivial
  · exact hz

/-- A schema with defaults in its properties, in a member of `allOf`, in a conditional branch and
behind a reference, and with a constant in a schema that depends on a member. -/
def layered : Json := .obj none [
  ("properties", .obj none [
    ("size", .obj none [("type", .str "integer"), ("default", .num (.int 1))])]),
  ("allOf", .arr none [
    .obj none [("properties", .obj none [("kind", .obj none [("default", .str "plain")])])],
    .obj none [
      ("if", .obj none [("required", .arr none [.str "wide"])]),
      ("then", .obj none [
        ("properties", .obj none [("width", .obj none [("default", .num (.int 2))])])])]]),
  ("patternProperties", .obj none [
    ("^x", .obj none [("properties", .obj none [("on", .obj none [("type", .str "boolean")])])])]),
  ("dependentSchemas", .obj none [
    ("wide", .obj none [
      ("properties", .obj none [("since", .obj none [("const", .num (.int 3))])])])]),
  ("additionalProperties", .obj none [("$ref", .str "#/$defs/tail")]),
  ("$defs", .obj none [
    ("tail", .obj none [("properties", .obj none [
      ("end", .obj none [("type", .str "string"), ("default", .str "z")])])])])]

/-- A value with nulls where the schema has something to fill in. -/
def sparse : Json := .obj none [
  ("size", .null), ("wide", .bool true),
  ("xs", .obj none [("on", .null), ("n", .num (.int 0))]),
  ("rest", .obj none [("end", .null), ("m", .num (.int 5))])]

/-- The value filled in by the schema. -/
def filled : Json := .obj none [
  ("size", .num (.int 1)), ("kind", .str "plain"), ("wide", .bool true),
  ("xs", .obj none [("on", .bool false), ("n", .num (.int 0))]),
  ("rest", .obj none [("end", .str "z"), ("m", .num (.int 5))]),
  ("width", .num (.int 2)), ("since", .num (.int 3))]

theorem extends_of_resolveValues_layered :
    resolveValues layered (some sparse) Options.default = .ok (.resolved (some filled)) ∧
      ∃ y, some filled = some y ∧ Extends True sparse y := by
  have hr : resolveValues layered (some sparse) Options.default =
      .ok (.resolved (some filled)) := by decide +kernel
  exact ⟨hr, extends_of_resolveValues (by decide +kernel) (by decide +kernel) rfl rfl
    (.inl (Resolve.allLack_of_throughout (by decide +kernel))) hr⟩

end Conform
