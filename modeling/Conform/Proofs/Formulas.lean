/-
# Schemas as formulas

A schema that only composes others, with `not`, `allOf`, `anyOf` or `oneOf` alone, reads as a formula over
the schemas that it composes in the end.  Whether a value satisfies such a schema is what the formula says of
the verdicts on these (`verdict_of_formula`), however the composing schemas are nested and however many
branches they have, none included.

The probe computes something else: lists of issues, a search that stops at the first branch that admits the
value, a number of branches.  What carries the induction is the verdict, `valid`: each composing keyword makes
it from the verdicts on its branches, and from nothing else (`valid_not`, `valid_join`).  So rewriting a
formula into one that is true in the same cases changes no verdict; `Rewrites` has the laws of double negation
and of De Morgan, to be applied anywhere inside.
-/
import Conform.Proofs.Deciding
import Conform.Proofs.Valid

namespace Conform.Probe

open Fields (get?)

/-! ## 1. Formulas -/

/-- How several schemas are joined to one. -/
inductive Connective where
  | all
  | any
  | one
  deriving DecidableEq

namespace Connective

/-- The keyword that joins schemas. -/
def keyword : Connective → String
  | .all => "allOf"
  | .any => "anyOf"
  | .one => "oneOf"

/-- What the joined schemas come to: all are true, at least one is, exactly one is. -/
def joins : Connective → List Bool → Bool
  | .all, truths => truths.all id
  | .any, truths => truths.any id
  | .one, truths => truths.count true == 1

end Connective

/-- A formula over schemas. -/
inductive Formula where
  | leaf (schema : Json)
  | not (part : Formula)
  | join (connective : Connective) (parts : List Formula)

namespace Formula

mutual

/-- **Is the formula true**, if the given schemas are? -/
def holds (admits : Json → Bool) : Formula → Bool
  | .leaf schema => admits schema
  | .not part => !holds admits part
  | .join connective parts => connective.joins (truths admits parts)

/-- Which of the formulas are true? -/
def truths (admits : Json → Bool) : List Formula → List Bool
  | [] => []
  | part :: rest => holds admits part :: truths admits rest

end

mutual

/-- The schemas that a formula is about. -/
def leaves : Formula → List Json
  | .leaf schema => [schema]
  | .not part => leaves part
  | .join _ parts => leavesOf parts

/-- The schemas that formulas are about. -/
def leavesOf : List Formula → List Json
  | [] => []
  | part :: rest => leaves part ++ leavesOf rest

end

mutual

/-- **The schema is written for the formula**: every node carries one composing keyword and no other. -/
inductive Spells : Formula → Json → Prop
  | leaf (schema : Json) : Spells (.leaf schema) schema
  | not {part : Formula} {schema : Json} (tag : Tag) (h : Spells part schema) :
      Spells (.not part) (.obj tag [("not", schema)])
  | join {parts : List Formula} {schemas : List Json} (connective : Connective) (tag list : Tag)
      (h : SpellsAll parts schemas) :
      Spells (.join connective parts) (.obj tag [(connective.keyword, .arr list schemas)])

/-- The schemas are written for the formulas, one for each. -/
inductive SpellsAll : List Formula → List Json → Prop
  | nil : SpellsAll [] []
  | cons {part : Formula} {schema : Json} {parts : List Formula} {schemas : List Json}
      (h : Spells part schema) (rest : SpellsAll parts schemas) :
      SpellsAll (part :: parts) (schema :: schemas)

end

/-- **One formula is rewritten into another** by the laws of double negation and of De Morgan, anywhere
inside and in either direction. -/
inductive Rewrites : Formula → Formula → Prop
  | refl (f : Formula) : Rewrites f f
  | symm {f g : Formula} (h : Rewrites f g) : Rewrites g f
  | trans {f g k : Formula} (h : Rewrites f g) (next : Rewrites g k) : Rewrites f k
  | not_not (f : Formula) : Rewrites (.not (.not f)) f
  | not_all (parts : List Formula) :
      Rewrites (.not (.join .all parts)) (.join .any (parts.map .not))
  | not_any (parts : List Formula) :
      Rewrites (.not (.join .any parts)) (.join .all (parts.map .not))
  | inNot {f g : Formula} (h : Rewrites f g) : Rewrites (.not f) (.not g)
  | inJoin {f g : Formula} (connective : Connective) (before after : List Formula) (h : Rewrites f g) :
      Rewrites (.join connective (before ++ f :: after)) (.join connective (before ++ g :: after))

variable {admits : Json → Bool} {f g : Formula} {parts : List Formula}

@[simp] theorem truths_eq_map (parts : List Formula) : truths admits parts = parts.map (holds admits) := by
  induction parts with
  | nil => rfl
  | cons part rest ih => rw [truths, ih, List.map_cons]

@[simp] theorem leavesOf_eq_flatMap (parts : List Formula) : leavesOf parts = parts.flatMap leaves := by
  induction parts with
  | nil => rfl
  | cons part rest ih => rw [leavesOf, ih, List.flatMap_cons]

/-- **Rewriting does not change what a formula says.** -/
theorem Rewrites.holds_eq (h : Rewrites f g) : holds admits f = holds admits g := by
  induction h with
  | refl f => rfl
  | symm h ih => exact ih.symm
  | trans h next ih ih' => exact ih.trans ih'
  | not_not f => simp [holds]
  | not_all parts => simp [holds, Connective.joins, List.not_all_eq_any_not, Function.comp_def]
  | not_any parts => simp [holds, Connective.joins, List.not_any_eq_all_not, Function.comp_def]
  | inNot h ih => rw [holds, holds, ih]
  | inJoin connective before after h ih => simp [holds, ih]

/-- **Rewriting does not change what a formula is about.** -/
theorem Rewrites.leaves_eq (h : Rewrites f g) : leaves f = leaves g := by
  induction h with
  | refl f => rfl
  | symm h ih => exact ih.symm
  | trans h next ih ih' => exact ih.trans ih'
  | not_not f => simp [leaves]
  | not_all parts => simp [leaves, List.flatMap_map]
  | not_any parts => simp [leaves, List.flatMap_map]
  | inNot h ih => rw [leaves, leaves, ih]
  | inJoin connective before after h ih => simp [leaves, ih]

end Formula

/-! ## 2. A node -/

variable {setting : Setting} {value x schema : Json} {tag list : Tag} {k : String} {path : Path}
  {schemas : List Json} {answers : List Bool}

/-- A composing keyword is about no kind of values. -/
theorem inferKind_of_lone (hk : k ∈ Schema.compositeKeywords) :
    Schema.inferKind [(k, x)] (some value) = none := by
  have other : ∀ kind, ∀ j ∈ Schema.keywordsOf kind, ∀ k ∈ Schema.compositeKeywords, ¬j = k := by
    intro kind
    cases kind <;> decide
  have silent : (Schema.keywordsOf (Kind.ofValue value)).any (Fields.has [(k, x)]) = false := by
    rw [List.any_eq_false]
    intro j hj
    rw [Bool.not_eq_true, Fields.has_eq_false_iff, Fields.get?_cons, if_neg (other _ j hj k hk),
      Fields.get?_nil]
  rw [Schema.inferKind, silent]
  rfl

/-- A node with one composing keyword says nothing about the value by itself. -/
theorem issues_of_lone (hk : k ∈ ["not", "allOf", "anyOf", "oneOf"]) :
    issues setting value (.obj tag [(k, x)]) path = (do
      let all ← allOfIssues [(k, x)] path (narrower setting value [(k, x)])
      let any ← anyOfIssues [(k, x)] path (narrower setting value [(k, x)])
      let one ← oneOfIssues [(k, x)] path (narrower setting value [(k, x)])
      let negated ← notIssues [(k, x)] path (narrower setting value [(k, x)])
      .ok (all ++ any ++ one ++ negated)) := by
  have absent : ∀ j ∈ ["const", "enum", "if", "type"], get? [(k, x)] j = none := by
    intro j hj
    have other : ∀ j ∈ ["const", "enum", "if", "type"], ∀ k ∈ ["not", "allOf", "anyOf", "oneOf"], ¬j = k := by
      decide
    rw [Fields.get?_cons, if_neg (other j hj k hk), Fields.get?_nil]
  have composing : k ∈ Schema.compositeKeywords := by
    have among : ∀ k ∈ ["not", "allOf", "anyOf", "oneOf"], k ∈ Schema.compositeKeywords := by decide
    exact among k hk
  have untyped : Schema.declaredTypes (.obj tag [(k, x)]) = [] := by
    simp only [Schema.declaredTypes, absent "type" (by decide)]
  have unpinned : pinIssues value [(k, x)] path = .ok [] := by
    simp only [pinIssues, absent "const" (by decide), absent "enum" (by decide)]
  rw [issues_obj, memberIssues, unpinned, conditionalIssues_of_none (absent "if" (by decide)),
    typeIssues_of_nil untyped, inferKind_of_lone composing]
  simp [ok_bind]

/-- **A negation turns the verdict round.** -/
theorem valid_not : valid (issues setting value (.obj tag [("not", schema)]) path) =
    (valid (issues setting value schema path)).map (!·) := by
  rw [issues_of_lone (by decide), allOfIssues_of_none rfl, anyOfIssues_of_none rfl, oneOfIssues_of_none rfl]
  have negated : notIssues [("not", schema)] path (narrower setting value [("not", schema)]) =
      (do
        let admitted ← valid (issues setting value schema path)
        .ok (if admitted then [⟨.excluded, path⟩] else [])) := rfl
  rw [negated]
  cases issues setting value schema path with
  | error fault => rfl
  | ok found => cases found <;> rfl

/-- These are the verdicts on the schemas. -/
abbrev Verdicts (setting : Setting) (value : Json) (path : Path) : List Json → List Bool → Prop :=
  List.Forall₂ fun schema answer => valid (issues setting value schema path) = .ok answer

theorem gather_verdicts (h : Verdicts setting value path schemas answers) :
    valid (gather schemas fun schema _ => issues setting value schema path) = .ok (answers.all id) := by
  induction h with
  | nil => rfl
  | @cons schema answer schemas answers first rest ih =>
    obtain ⟨found, hf, rfl⟩ := exists_of_valid first
    obtain ⟨others, ho, all⟩ := exists_of_valid ih
    rw [gather, hf, ok_bind, ho, ok_bind, List.all_cons, ← all]
    cases found <;> cases others <;> rfl

theorem exists?_verdicts (h : Verdicts setting value path schemas answers) :
    exists? schemas (fun schema _ => valid (issues setting value schema path)) = .ok (answers.any id) := by
  induction h with
  | nil => rfl
  | @cons schema answer schemas answers first rest ih =>
    rw [exists?, first, ok_bind, ih]
    cases answer <;> rfl

theorem count_verdicts (h : Verdicts setting value path schemas answers) :
    count schemas (fun schema _ => valid (issues setting value schema path)) = .ok (answers.count true) := by
  induction h with
  | nil => rfl
  | @cons schema answer schemas answers first rest ih =>
    rw [count, first, ok_bind, ih, ok_bind]
    cases answer <;> simp [Nat.add_comm]

/-- The branches of a node are the schemas that it joins. -/
theorem branches_of_lone (k : String) :
    ∃ smaller, branches [(k, .arr list schemas)] k = .ok (some ⟨schemas, smaller⟩) := by
  have found : get? [(k, .arr list schemas)] k = some (.arr list schemas) := by simp [Fields.get?_cons]
  rcases branches_cases [(k, .arr list schemas)] k with
    ⟨absent, -⟩ | ⟨x, hx, ⟨_, stops, -⟩ | ⟨xs, smaller, hxs, hb⟩⟩
  · rw [found] at absent
    cases absent
  · rw [found] at hx
    cases hx
    cases stops
  · rw [found] at hx
    cases hx
    cases hxs
    exact ⟨smaller, hb⟩

/-- **Joined schemas get the verdict that their verdicts are joined to.** -/
theorem valid_join (connective : Connective) (h : Verdicts setting value path schemas answers) :
    valid (issues setting value (.obj tag [(connective.keyword, .arr list schemas)]) path) =
      .ok (connective.joins answers) := by
  rw [issues_of_lone (by cases connective <;> decide)]
  cases connective with
  | all =>
    obtain ⟨smaller, hb⟩ := @branches_of_lone list schemas "allOf"
    obtain ⟨found, hf, all⟩ := exists_of_valid (gather_verdicts h)
    have issued : allOfIssues [("allOf", .arr list schemas)] path (narrower setting value _) = .ok found := by
      rw [allOfIssues, hb]
      exact hf
    simp only [Connective.keyword]
    rw [issued, anyOfIssues_of_none rfl, oneOfIssues_of_none rfl, notIssues_of_none rfl]
    simp only [ok_bind, List.append_nil]
    exact congrArg Except.ok all
  | any =>
    obtain ⟨smaller, hb⟩ := @branches_of_lone list schemas "anyOf"
    have issued : anyOfIssues [("anyOf", .arr list schemas)] path (narrower setting value _) =
        .ok (if answers.any id then [] else [⟨.noneOfAny, path⟩]) := by
      rw [anyOfIssues, hb, ok_bind]
      exact congrArg (· >>= _) (exists?_verdicts h)
    simp only [Connective.keyword]
    rw [issued, allOfIssues_of_none rfl, oneOfIssues_of_none rfl, notIssues_of_none rfl, Connective.joins]
    cases answers.any id <;> rfl
  | one =>
    obtain ⟨smaller, hb⟩ := @branches_of_lone list schemas "oneOf"
    have issued : oneOfIssues [("oneOf", .arr list schemas)] path (narrower setting value _) =
        .ok (if answers.count true = 1 then [] else [⟨.notExactlyOne, path⟩]) := by
      rw [oneOfIssues, hb, ok_bind]
      exact congrArg (· >>= _) (count_verdicts h)
    simp only [Connective.keyword]
    rw [issued, allOfIssues_of_none rfl, anyOfIssues_of_none rfl, notIssues_of_none rfl, Connective.joins]
    by_cases single : answers.count true = 1
    · rw [if_pos single, single]
      rfl
    · rw [if_neg single, beq_false_of_ne single]
      rfl

/-! ## 3. Whole formulas -/

namespace Formula

variable {f : Formula}

/-- Does the schema have nothing against the value? -/
def admits (setting : Setting) (value : Json) (path : Path) (schema : Json) : Bool :=
  match issues setting value schema path with
  | .ok [] => true
  | _ => false

theorem valid_eq_admits (asked : ∃ found, issues setting value schema path = .ok found) :
    valid (issues setting value schema path) = .ok (admits setting value path schema) := by
  obtain ⟨found, hf⟩ := asked
  rw [admits, hf]
  cases found <;> rfl

mutual

/-- **The verdict is what the formula says**, if all the schemas that it is about can be asked. -/
theorem Spells.valid_eq {f : Formula} {schema : Json} :
    Spells f schema → (∀ leaf ∈ leaves f, ∃ found, issues setting value leaf path = .ok found) →
      valid (issues setting value schema path) = .ok (holds (admits setting value path) f)
  | .leaf schema, asked => valid_eq_admits (asked schema List.mem_cons_self)
  | .not tag h, asked => by
    rw [valid_not, h.valid_eq asked]
    rfl
  | .join connective tag list h, asked => by
    rw [valid_join connective (h.verdicts asked), holds]

/-- The verdicts are what the formulas say. -/
theorem SpellsAll.verdicts {parts : List Formula} {schemas : List Json} :
    SpellsAll parts schemas → (∀ leaf ∈ leavesOf parts, ∃ found, issues setting value leaf path = .ok found) →
      Verdicts setting value path schemas (truths (admits setting value path) parts)
  | .nil, _ => .nil
  | .cons h rest, asked =>
    .cons (h.valid_eq fun leaf hl => asked leaf (List.mem_append_left _ hl))
      (rest.verdicts fun leaf hl => asked leaf (List.mem_append_right _ hl))

end

/-- **Compositions are evaluated exactly.**  If all the schemas that a formula is about can be asked, so can
one that is written for it, and the value has no issues if and only if the formula is true of the verdicts on
them.  And it has none if and only if it has none against what the formula is rewritten into by the laws of
double negation and of De Morgan. -/
theorem verdict_of_formula (spells : Spells f schema)
    (asked : ∀ leaf ∈ leaves f, ∃ found, issues setting value leaf path = .ok found) :
    (∃ found, issues setting value schema path = .ok found ∧
      (found = [] ↔ holds (admits setting value path) f = true)) ∧
    ∀ g rewritten, Rewrites f g → Spells g rewritten →
      ∃ found, issues setting value rewritten path = .ok found ∧
        (found = [] ↔ issues setting value schema path = .ok []) := by
  have verdict := spells.valid_eq asked
  constructor
  · obtain ⟨found, hf, answer⟩ := exists_of_valid verdict
    exact ⟨found, hf, by rw [← answer, List.isEmpty_iff]⟩
  · intro g rewritten rewrites spells'
    have again := spells'.valid_eq (rewrites.leaves_eq ▸ asked)
    rw [← rewrites.holds_eq, ← verdict] at again
    obtain ⟨found, hf, -⟩ := exists_of_valid (again.trans verdict)
    refine ⟨found, hf, ?_⟩
    rw [← valid_eq_true_iff, ← again, valid_eq_true_iff, hf, Except.ok.injEq]

/-- A text, and exactly one of a constant and of what no schema at all admits, denied. -/
def denied : Formula :=
  .not (.join .all [.leaf (.obj none [("type", .str "string")]),
    .join .one [.leaf (.obj none [("const", .str "no")]), .not (.join .any [])]])

/-- A text that is not the constant satisfies both, so that the denial does not admit it; nor does the denial
of one or the other. -/
theorem verdict_of_formula_denied :
    let text : Json := .obj none [("type", .str "string")]
    let one : Json := .obj none [("oneOf", .arr none [.obj none [("const", .str "no")],
      .obj none [("not", .obj none [("anyOf", .arr none [])])]])]
    (∃ found, issues ⟨.default, .null⟩ (.str "yes")
        (.obj none [("not", .obj none [("allOf", .arr none [text, one])])]) [] = .ok found ∧ found ≠ []) ∧
    ∃ found, issues ⟨.default, .null⟩ (.str "yes")
        (.obj none [("anyOf", .arr none [.obj none [("not", text)], .obj none [("not", one)]])]) [] =
          .ok found ∧
      found ≠ [] := by
  intro text one
  have spellsOne : Spells (.join .one [.leaf (.obj none [("const", .str "no")]), .not (.join .any [])]) one :=
    .join .one none none (.cons (.leaf _) (.cons (.not none (.join .any none none .nil)) .nil))
  have spells : Spells denied (.obj none [("not", .obj none [("allOf", .arr none [text, one])])]) :=
    .not none (.join .all none none (.cons (.leaf _) (.cons spellsOne .nil)))
  have asked : ∀ leaf ∈ leaves denied, ∃ found,
      issues ⟨.default, .null⟩ (.str "yes") leaf [] = .ok found := by
    intro leaf hl
    rcases List.mem_cons.1 hl with rfl | hl
    · exact ⟨[], by decide +kernel⟩
    · rcases List.mem_cons.1 hl with rfl | hl
      · exact ⟨[⟨.notConstant (.str "no"), []⟩], by decide +kernel⟩
      · cases hl
  have untrue : ¬holds (admits ⟨.default, .null⟩ (.str "yes") []) denied = true := by decide +kernel
  obtain ⟨⟨found, hf, verdict⟩, rewriting⟩ := verdict_of_formula spells asked
  have spells' : Spells (.join .any [.not (.leaf text), .not (.join .one
      [.leaf (.obj none [("const", .str "no")]), .not (.join .any [])])])
        (.obj none [("anyOf", .arr none [.obj none [("not", text)], .obj none [("not", one)]])]) :=
    .join .any none none (.cons (.not none (.leaf _)) (.cons (.not none spellsOne) .nil))
  obtain ⟨found', hf', same⟩ := rewriting _ _ (.not_all _) spells'
  refine ⟨⟨found, hf, fun none => untrue (verdict.1 none)⟩, found', hf', fun none => untrue (verdict.1 ?_)⟩
  exact Except.ok.inj (hf.symm.trans (same.1 none))

end Formula

end Conform.Probe
