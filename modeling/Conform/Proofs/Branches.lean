/-
# Branches that are enforced

A branch that a condition chooses is not looked at by itself: it is merged into the rest of the
schema, and the merged schema is what a value has to satisfy.  That asks for all that the branch asks
for as long as the two are `Compatible`: wherever a schema of the one comes together with a schema of
the other, their members do not get in each other's way.

What two compatible schemas become is plain and asks for no less than the second one
(`plain_and_entails`, by induction on the compatibility).  With the soundness of the resolution for the
merged schema this gives the main result, `issues_of_chosen_branch`.  Behind it stand pairs of schemas
that are not compatible, one for each way of getting in each other's way, and for each of them a value
that comes out although the chosen branch is against it.
-/
import Conform.Proofs.Additive
import Conform.Proofs.Soundness

namespace Conform

open Fields (get?)

namespace Schema

open Probe (Entails entriesUnder tableKeywords)

/-! ## 1. Schemas that come together -/

/-- **Two schemas that get along**: their members do not get in each other's way, nor do those of the
schemas below them that come together. -/
abbrev Compatible (engine : Pattern.Engine) : Fusion → Json → Json → Prop :=
  Met fun mode a b => Independent engine mode (fieldsOf a) (fieldsOf b)

/-! ## 2. What compatible schemas become -/

section Fuse

variable {mode : Fusion} {a b m s z : Json} {r : Fields} {k : String}

/-- **Two compatible plain schemas become a plain one that asks for no less than the second.** -/
theorem plain_and_entails {options : Options} {root root' : Json}
    (hc : Compatible options.engine mode a b) (ha : Wholly Plain a) (hb : Wholly Plain b) (he : Elementary b) (hd : options.accessor = .direct)
    (h : mode.fuse a b = .ok m) : Everywhere Plain m ∧ Entails options root root' m b := by
  induction hc generalizing m with
  | @intro mode a b independent _ ih =>
    have below : ∀ p ∈ mode.pairs (fieldsOf a) (fieldsOf b), ∀ m, p.1.fuse p.2.1 p.2.2 = .ok m →
        Everywhere Plain m ∧ Entails options root root' m p.2.2 := fun p hp m hm =>
      ih p hp (wholly_of_mem_subschemas ha (mem_subschemas_of_mem_pairs hp).1)
        (wholly_of_mem_subschemas hb (mem_subschemas_of_mem_pairs hp).2)
        (elementary_of_mem_subschemas he hb.proper (mem_subschemas_of_mem_pairs hp).2) hm
    have unpinned : mode ≠ .uniting → ∀ u ∈ pinned? (fieldsOf a), ∀ v ∈ pinned? (fieldsOf b),
        Json.same u v = false := by
      rintro - u - v hv
      rw [(Plain.fieldsOf hb.everywhere).unpinned] at hv
      cases hv
    rcases fuse_cases hb.proper he unpinned h with ⟨rfl, -⟩ | rfl | ⟨r, rfl, hfalse, hf⟩
    · exact ⟨.plain rfl, .of_false⟩
    · exact ⟨hb.everywhere, .refl he⟩
    · have plain_a := Plain.fieldsOf ha.everywhere
      have plain_b := Plain.fieldsOf hb.everywhere
      have plain : Everywhere Plain (.obj none r) := by
        have here : Plain r := plain_of_fused hf independent plain_a plain_b
        have spared : ∀ k ∈ ["prefixItems", "additionalProperties", "additionalItems", "items"],
            mode.Spared (fieldsOf a) (fieldsOf b) k := fun k hk =>
          independent.spared k (by revert k; decide) (by revert k; decide)
        have uncomposed : ∀ k ∈ ["allOf", "oneOf", "then", "else"], get? r k = none := fun k hk =>
          here.uncomposed k (by revert k; decide)
        refine .node here fun s hs => ?_
        rcases hf.subschema_cases spared plain_a.tables plain_b.tables uncomposed
          (proper_of_fuse ha.proper hb.proper h) hs with hs | hs | ⟨p, hp, hs⟩
        · exact (wholly_of_mem_subschemas ha hs).everywhere
        · exact (wholly_of_mem_subschemas hb hs).everywhere
        · exact (below p hp s hs).1
      refine ⟨plain, ?_⟩
      cases b with
      | bool value =>
        cases value with
        | true => exact .to_true
        | false => exact absurd rfl hfalse
      | obj tag fields =>
        have upheld : Probe.Upheld options root (Entails options root root') r fields := by
          refine upheld_of_fused hf independent plain_a plain_b hb.proper (fun s hs => .refl hs) he
            (fun k hk n u v w hu hv hw => ?_) (fun k hk x y z hx hy hxo hyo hz => ?_)
            fun z hz => expand_additional (plain.imp fun _ h _ => h.toSober) hz
          · exact (below _ (mem_pairs_of_table hk hu hv) w hw).2
          · exact (below _ (mem_pairs_of_inner hk hx hy hxo hyo) z hz).2
        exact Probe.entails_of_upheld upheld he (plain_b.lacks "const" (by simp)) hd
      | _ => cases he

end Fuse

/-! ## 3. Branches -/

/-- The rest of a schema with a condition. -/
def unconditional (fields : Fields) : Json := .obj none (Fields.without fields ["if", "then", "else"])

/-- **A branch that can be merged into the rest of a schema** without anything being lost of what it asks
for: plain, compatible with the rest, and without required names that the merged schema leaves
undeclared. -/
structure Graft (engine : Pattern.Engine) (base branch : Json) : Prop where
  plain : Wholly Plain branch
  elementary : Elementary branch
  compatible : Compatible engine (.merging false) base branch
  declared : ∀ effective ∈ (merge false base branch).toOption,
    Everywhere (fun fields => declaresRequired fields = true) effective

instance {engine : Pattern.Engine} {base branch : Json} : Decidable (Graft engine base branch) :=
  decidable_of_iff
    (Wholly Plain branch ∧ Elementary branch ∧ Compatible engine (.merging false) base branch ∧
      ∀ effective ∈ (merge false base branch).toOption,
        Everywhere (fun fields => declaresRequired fields = true) effective)
    ⟨fun ⟨h₁, h₂, h₃, h₄⟩ => ⟨h₁, h₂, h₃, h₄⟩, fun ⟨h₁, h₂, h₃, h₄⟩ => ⟨h₁, h₂, h₃, h₄⟩⟩

/-- A plain schema is assertive everywhere if it declares its required names everywhere. -/
theorem assertive_of_plain {s : Json} (h : Everywhere Plain s)
    (hd : Everywhere (fun fields => declaresRequired fields = true) s) : Everywhere Assertive s := by
  induction h with
  | plain h => exact .plain h
  | node here _ ih => exact .node (here.assertive hd.here) fun s hs => ih s hs (hd.inner hs)

/-- **What a branch becomes part of** only asserts, and asks for no less than the branch. -/
theorem Graft.merged {options : Options} {root root' base branch effective : Json}
    (h : Graft options.engine base branch) (hb : Wholly Plain base) (hd : options.accessor = .direct)
    (hm : merge false base branch = .ok effective) :
    Wholly Assertive effective ∧ Entails options root root' effective branch := by
  obtain ⟨plain, entails⟩ := plain_and_entails h.compatible hb h.plain h.elementary hd hm
  have declared := h.declared effective (by rw [hm]; rfl)
  exact ⟨⟨assertive_of_plain plain declared, proper_merge hb.proper h.plain.proper hm⟩, entails⟩

end Schema

open Schema (Wholly Plain Elementary Graft unconditional)

/-- What comes out of a schema with a condition comes out of the rest of the schema with the branch
merged in that the condition chooses. -/
theorem chosen_of_resolveValues {tag : Tag} {fields : Fields} {condition value : Json} {w : Option Json}
    {options : Options} (hc : get? fields "if" = some condition) (hn : value ≠ .null)
    (h : resolveValues (.obj tag fields) (some value) options = .ok (.resolved w)) :
    ∃ met, (Session.start options (.obj tag fields)).meets (some value) condition none = .ok met ∧
      ∀ branch ∈ get? fields (if met then "then" else "else"), branch ≠ .null →
        ∃ effective guard y, Schema.merge false (unconditional fields) branch = .ok effective ∧
          (Resolve.resolve ⟨options, .obj tag fields⟩ guard
            (Resolve.wholeRequest effective (some value))).result = .ok (.resolved y) := by
  obtain ⟨guard, y, hy⟩ := dispatch_of_resolveValues hn h
  simp only [Resolve.Step.dispatch, hc] at hy
  obtain ⟨met, hmet, hchosen⟩ := Resolve.Step.conditional_resolved hy
  refine ⟨met, hmet, fun branch hb hnull => ?_⟩
  rcases hchosen with ⟨hnone, -⟩ | ⟨branch', effective, hb', hm, hr⟩
  · exact absurd (hnone branch hb) hnull
  · obtain rfl : branch' = branch := Option.some.inj (hb'.symm.trans hb)
    exact ⟨effective, _, y, hm, hr⟩

/-- **A chosen branch is enforced**: a value without nulls that comes out of a schema with a condition
has no issues under the branch that the condition chooses, as long as each branch can be merged into
the rest of the schema. -/
theorem issues_of_chosen_branch {tag : Tag} {fields : Fields} {condition value : Json}
    {w : Option Json} {options : Options} (hc : get? fields "if" = some condition)
    (hb : Wholly Plain (unconditional fields))
    (hg : ∀ k ∈ ["then", "else"], ∀ branch ∈ get? fields k,
      Graft options.engine (unconditional fields) branch)
    (hv : value.Proper) (hn : value.NullFree) (ha : options.accessor = .direct)
    (hskip : options.skipValidation = false)
    (h : resolveValues (.obj tag fields) (some value) options = .ok (.resolved w)) :
    ∃ met, (Session.start options (.obj tag fields)).meets (some value) condition none = .ok met ∧
      ∀ branch ∈ get? fields (if met then "then" else "else"),
        validateValue (some value) branch options = .ok [] := by
  obtain ⟨met, hmet, chosen⟩ := chosen_of_resolveValues hc hn.here h
  refine ⟨met, hmet, fun branch hbr => ?_⟩
  have graft : Graft options.engine (unconditional fields) branch := hg _ (by cases met <;> simp) branch hbr
  have there : branch ≠ .null := by
    rintro rfl
    cases graft.elementary
  obtain ⟨effective, guard, y, hm, hy⟩ := chosen branch hbr there
  obtain ⟨assertive, entails⟩ : Wholly Schema.Assertive effective ∧
      Probe.Entails options (.obj tag fields) branch effective branch := graft.merged hb ha hm
  exact entails value _ hn (Resolve.valid_of_resolve ha hskip assertive hv hn hy _)

/-- The members of a schema whose branch adds to an enumeration, to the bounds of a property, to what a
list holds, to what is under a pattern and to all further members. -/
def graded : Fields := [
  ("type", .str "object"),
  ("required", .arr none [.str "kind"]),
  ("properties", .obj none [
    ("kind", .obj none [("enum", .arr none [.str "a", .str "b"])]),
    ("size", .obj none [("type", .str "integer"), ("minimum", .num (.int 0))]),
    ("tags", .obj none [("items", .obj none [("type", .str "string")])])]),
  ("patternProperties", .obj none [("^x", .obj none [
    ("type", .str "array"), ("items", .obj none [("maximum", .num (.int 9))])])]),
  ("additionalProperties", .obj none [("type", .str "string")]),
  ("if", .obj none [("properties", .obj none [("kind", .obj none [("const", .str "a")])])]),
  ("then", .obj none [
    ("required", .arr none [.str "size"]),
    ("properties", .obj none [
      ("kind", .obj none [("enum", .arr none [.str "a", .str "b", .str "c"])]),
      ("size", .obj none [("maximum", .num (.int 9))]),
      ("tags", .obj none [
        ("items", .obj none [("minLength", .num (.int 1))]),
        ("contains", .obj none [("pattern", .str "^t")])])]),
    ("patternProperties", .obj none [("^x", .obj none [
      ("items", .obj none [("minimum", .num (.int 1))])])]),
    ("additionalProperties", .obj none [("maxLength", .num (.int 3))])]),
  ("else", .obj none [("maxProperties", .num (.int 1))])]

/-- A value for which the first branch is chosen. -/
def ranked : Json := .obj none [
  ("kind", .str "a"), ("size", .num (.int 4)), ("tags", .arr none [.str "t", .str "u"]),
  ("xs", .arr none [.num (.int 1), .num (.int 9)]), ("rest", .str "r")]

theorem issues_of_chosen_branch_graded :
    resolveValues (.obj none graded) (some ranked) Options.default = .ok (.resolved (some ranked)) ∧
      ∃ met, (Session.start Options.default (.obj none graded)).meets (some ranked)
          (.obj none [("properties", .obj none [("kind", .obj none [("const", .str "a")])])]) none =
          .ok met ∧
        ∀ branch ∈ get? graded (if met then "then" else "else"),
          validateValue (some ranked) branch Options.default = .ok [] := by
  have hr : resolveValues (.obj none graded) (some ranked) Options.default =
      .ok (.resolved (some ranked)) := by decide +kernel
  exact ⟨hr, issues_of_chosen_branch rfl (by decide +kernel) (by decide +kernel) (by decide +kernel)
    (by decide +kernel) rfl rfl hr⟩

/-! ## 4. Branches that get in the way -/

/-- A schema, a branch that is always chosen, a value, and what the branch has against it. -/
structure Crossing where
  base : Fields
  branch : Json
  value : Json
  issues : List Issue

namespace Crossing

/-- The schema with the branch. -/
def schema (c : Crossing) : Json := .obj none (c.base ++ [("if", .bool true), ("then", c.branch)])

/-- **The branch is not enforced**: there is nothing unusual about the schemas, but the value comes out
although the chosen branch is against it. -/
structure Escapes (c : Crossing) : Prop where
  base : Wholly Plain (.obj none c.base)
  branch : Wholly Plain c.branch
  elementary : Elementary c.branch
  value : c.value.Proper
  nullFree : c.value.NullFree
  chosen : (Session.start Options.default c.schema).meets (some c.value) (.bool true) none = .ok true
  resolved : resolveValues c.schema (some c.value) Options.default = .ok (.resolved (some c.value))
  issues : validateValue (some c.value) c.branch Options.default = .ok c.issues
  against : c.issues ≠ []

/-- The values of two enumerations are joined. -/
def values : Crossing where
  base := [("enum", .arr none [.num (.int 1), .num (.int 2)])]
  branch := .obj none [("enum", .arr none [.num (.int 2), .num (.int 3)])]
  value := .num (.int 1)
  issues := [⟨.notEnumerated [.num (.int 2), .num (.int 3)], []⟩]

/-- The branch leaves it to the schema how many items are to be found. -/
def least : Crossing where
  base := [("minContains", .num (.int 0))]
  branch := .obj none [("contains", .obj none [("type", .str "string")])]
  value := .arr none [.num (.int 1)]
  issues := [⟨.containsNone, ["contains"]⟩]

/-- The first item is not one of those that the branch is about any more. -/
def positions : Crossing where
  base := [("prefixItems", .arr none [.obj none [("type", .str "integer")]])]
  branch := .obj none [("items", .obj none [("type", .str "string")])]
  value := .arr none [.num (.int 1)]
  issues := [⟨.wrongKind .string, ["0"]⟩]

/-- A pattern does not get to see a name that is declared. -/
def aside : Crossing where
  base := [("properties", .obj none [("xa", .obj none [("type", .str "integer")])])]
  branch := .obj none [("patternProperties", .obj none [("^x", .obj none [("type", .str "string")])])]
  value := .obj none [("xa", .num (.int 1))]
  issues := [⟨.wrongKind .string, ["xa"]⟩]

/-- A declared name is not a further name any more. -/
def additional : Crossing where
  base := [("properties", .obj none [("a", .obj none [("type", .str "integer")])])]
  branch := .obj none [("additionalProperties", .bool false)]
  value := .obj none [("a", .num (.int 1))]
  issues := [⟨.additionalMember "a", ["a"]⟩]

/-- Under a pattern the types are joined. -/
def spared : Crossing where
  base := [("patternProperties", .obj none [
    ("^x", .obj none [("type", .arr none [.str "integer", .str "string"])])])]
  branch := .obj none [("patternProperties", .obj none [
    ("^x", .obj none [("type", .arr none [.str "array", .str "string"])])])]
  value := .obj none [("xa", .num (.int 1))]
  issues := [⟨.wrongTypes ["array", "string"], ["xa"]⟩]

/-- Under a pattern fewer items count, of which there may not be too many. -/
def counted : Crossing where
  base := [("patternProperties", .obj none [
    ("^x", .obj none [("contains", .obj none [("maximum", .num (.int 5))])])])]
  branch := .obj none [("patternProperties", .obj none [
    ("^x", .obj none [("contains", .obj none [("minimum", .num (.int 5))]),
      ("maxContains", .num (.int 1))])])]
  value := .obj none [("xs", .arr none [.num (.int 5), .num (.int 6)])]
  issues := [⟨.containsTooMany (.num (.int 1)), ["xs", "contains"]⟩]

/-- **There are such branches** for each way in which schemas can get in each other's way. -/
theorem branches_escape : values.Escapes ∧ least.Escapes ∧ positions.Escapes ∧ aside.Escapes ∧
    additional.Escapes ∧ spared.Escapes ∧ counted.Escapes := by
  refine ⟨?_, ?_, ?_, ?_, ?_, ?_, ?_⟩ <;> constructor <;> decide +kernel

end Crossing

end Conform
