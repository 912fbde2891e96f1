/-
# Schemas that fill in

A schema is `Filling` if it only speaks of types, of members and items and how many items there are,
and of strings and numbers, with defaults anywhere, and pins a value down only beside a single type
whose values a resolution leaves as they are.  Nothing in such a schema composes it of others, looks
others up, or goes by patterns or by what else is there.

So there is not much that a step can do (`dispatch_of_lone`), and what is checked on the way does
not depend on more than it has to: the number of members is free, and a list as a whole is judged by
its length.  With nothing to choose from and nothing to look up schemas are tame, however much they add
to a value (`tame_lone`).
-/
import Conform.Proofs.Counterparts
import Conform.Proofs.Deciding

namespace Conform

open Fields (get?)

namespace Schema

/-! ## 1. Keywords -/

/-- The keywords of filling schemas. -/
def fillingKeywords : List String :=
  ["type", "properties", "required", "additionalProperties", "propertyNames", "items",
    "prefixItems", "additionalItems", "minItems", "maxItems", "default", "const", "enum"]
    ++ stringKeywords ++ numberKeywords

/-- The keywords that compose a schema of others, or lead to another one. -/
def windingKeywords : List String := "$ref" :: compositeKeywords

/-- The kinds beside which a value may be pinned down. -/
def scalarKinds : List Kind := [.string, .number, .integer]

/-- Does the schema have a constant or an enumeration? -/
def isPinned (fields : Fields) : Bool := Fields.has fields "const" || Fields.has fields "enum"

/-- **A schema that fills in**: it has no other keywords, and a constant or an enumeration only beside a
single type that is a string, a number or an integer. -/
structure Filling (fields : Fields) : Prop where
  listed : ∀ k ∈ Fields.names fields, k ∈ fillingKeywords
  scalar : isPinned fields = true →
    ∃ kind ∈ scalarKinds, declaredTypes (.obj none fields) = [.str kind.name]

instance : DecidablePred Filling := fun fields =>
  decidable_of_iff
    ((∀ k ∈ Fields.names fields, k ∈ fillingKeywords) ∧
      (isPinned fields = true →
        ∃ kind ∈ scalarKinds, declaredTypes (.obj none fields) = [.str kind.name]))
    ⟨fun ⟨h₁, h₂⟩ => ⟨h₁, h₂⟩, fun ⟨h₁, h₂⟩ => ⟨h₁, h₂⟩⟩

/-- The keyword neither composes a schema of others nor leads to another one. -/
def Lone (k : String) (_ : Json) : Prop := k ∉ windingKeywords

namespace Filling

variable {fields : Fields} {k : String}

theorem lacks (h : Filling fields) (hk : k ∉ fillingKeywords) : get? fields k = none :=
  Fields.get?_eq_none_iff.2 fun hm => hk (h.listed k hm)

/-- A schema that is reduced to one of its types fills in. -/
theorem restrict (h : Filling fields) {kind : Kind}
    (hl : Json.listsName (declaredTypes (.obj none fields)) kind.name = true) :
    Filling (Schema.restrict fields (.str kind.name)) where
  listed k hk := by
    obtain ⟨x, hx⟩ := Fields.exists_get?_of_mem_names hk
    rcases mem_restrict (Json.mem_of_get? hx) with hm | ⟨rfl, -⟩
    · exact h.listed k (Fields.mem_names_of_mem hm)
    · simp [fillingKeywords]
  scalar hp := by
    have hpinned : isPinned fields = true := by
      have kept : ∀ j, j ≠ "type" → Fields.has (Schema.restrict fields (.str kind.name)) j = true →
          Fields.has fields j = true := by
        intro j hj hhas
        have hcases : get? (Schema.restrict fields (.str kind.name)) j = none ∨
            get? (Schema.restrict fields (.str kind.name)) j = get? fields j :=
          get?_restrict_cases hj
        rcases hcases with hn | he
        · simp [Fields.has, hn] at hhas
        · rwa [Fields.has, he] at hhas
      rcases Bool.or_eq_true_iff.1 hp with hc | he
      · exact Bool.or_eq_true_iff.2 (.inl (kept _ (by simp) hc))
      · exact Bool.or_eq_true_iff.2 (.inr (kept _ (by simp) he))
    obtain ⟨only, hm, hd⟩ := h.scalar hpinned
    rw [hd, Json.listsName_iff, List.mem_singleton] at hl
    refine ⟨only, hm, ?_⟩
    rw [hl]
    simp [Schema.restrict, declaredTypes]

end Filling

/-- None of the keywords of filling schemas does. -/
theorem Filling.lone {fields : Fields} (h : Filling fields) :
    ∀ k ∈ windingKeywords, get? fields k = none := by
  have apart : ∀ k ∈ windingKeywords, k ∉ fillingKeywords := by decide
  exact fun k hk => h.lacks (apart k hk)

theorem mergeable_lone : Mergeable Lone Lone where
  weaken h _ := h
  blend := by
    intro conjunction a b k z ha _ _ hz
    have left : ∀ {k x}, get? a k = some x → k ∉ windingKeywords :=
      fun h => ha _ _ (Json.mem_of_get? h)
    cases hz with
    | types h => exact left h
    | enumeration h => exact left h
    | constant => simp [Lone, windingKeywords, compositeKeywords]
    | required => simp [Lone, windingKeywords, compositeKeywords]
    | properties h => exact left h
    | united _ h => exact left h
    | merged _ h => exact left h
    | composed _ h => exact left h
  unite hx _ := hx

end Schema

open Schema (Wholly Filling Lone windingKeywords compositeKeywords isPinned)

/-! ## 2. Checks -/

namespace Probe

variable {fields : Fields} {path : Path}

/-- Any number of members will do. -/
theorem memberCountIssues_of_filling (h : Filling fields) (n : Nat) :
    memberCountIssues n fields path = .ok [] := by
  have few : get? fields "minProperties" = none := h.lacks (by decide)
  have many : get? fields "maxProperties" = none := h.lacks (by decide)
  simp [memberCountIssues, limitIssue, few, many, ok_bind]

/-- **A list as a whole is judged by its length**, if its items are neither compared nor looked through. -/
theorem listIssues_of_length_eq (hu : (get? fields "uniqueItems").any Json.truthy = false)
    (hc : get? fields "contains" = none) {xs ys : List Json} {probe : ItemProbe xs}
    {probe' : ItemProbe ys} (hl : xs.length = ys.length) :
    listIssues xs fields path probe = listIssues ys fields path probe' := by
  simp [listIssues, containsIssues, hu, hc, hl]

/-- Nothing is said about a value that is not pinned down. -/
theorem pinIssues_of_unpinned (h : isPinned fields = false) (x : Json) :
    pinIssues x fields path = .ok [] := by
  obtain ⟨hconst, henum⟩ := Bool.or_eq_false_iff.1 h
  rw [Fields.has_eq_false_iff] at hconst henum
  simp [pinIssues, hconst, henum]

/-- What is a number for the keywords about numbers is one. -/
theorem fits_of_numberIssues {kind : Kind} {x : Json} (hk : kind ∈ [Kind.number, Kind.integer])
    (h : numberIssues kind x fields path = []) : kind.fits x = true := by
  cases x with
  | num n =>
    simp only [numberIssues, List.append_eq_nil_iff] at h
    rcases List.mem_pair.1 hk with rfl | rfl
    · rfl
    · have whole : n.isIntegral = true := by simpa using h.1.1.1.1.1
      exact whole
  | _ => cases h

/-- What is a string for the keywords about strings is one. -/
theorem fits_of_stringIssues {segmenter : Segmenter} {engine : Pattern.Engine} {x : Json}
    (h : stringIssues segmenter engine x fields path = .ok []) : Kind.string.fits x = true := by
  cases x with
  | str s => rfl
  | _ => cases h

/-- What a kind has nothing against is of that kind. -/
theorem fits_of_kindIssues {setting : Setting} {kind : Kind} {value : Json}
    {inner : SmallerProbe value} {again : NarrowerProbe fields}
    (h : kindIssues setting kind value fields path inner again = .ok []) : kind.fits value = true := by
  cases kind with
  | null | boolean =>
    simp only [kindIssues, Except.ok.injEq, ite_eq_left_iff, List.cons_ne_self, imp_false,
      Decidable.not_not] at h
    exact h
  | number | integer => exact fits_of_numberIssues (by simp) (Except.ok.inj h)
  | string => exact fits_of_stringIssues h
  | array =>
    cases value with
    | arr => rfl
    | _ => cases h
  | object =>
    cases value with
    | obj => rfl
    | _ => cases h

end Probe

namespace Resolve

/-! ## 3. Steps -/

namespace Step

variable {step : Step}

/-- Where a table is not there it is empty. -/
theorem membersOf_of_lacks {keyword : String} (h : get? step.fields keyword = none) :
    Probe.membersOf (step.tableOrEmpty keyword) = .ok [] := by
  rw [tableOrEmpty, h]
  rfl

/-- No property is required by others. -/
theorem dependentIssues_of_filling (h : Filling step.fields) (members : Fields) :
    step.dependentIssues members = .ok [] := by
  have lacks : get? step.fields "dependentRequired" = none := h.lacks (by decide)
  unfold dependentIssues
  split
  · rfl
  · simp [Probe.dependentIssues, Probe.memberTable, lacks, Probe.membersOf, ok_bind, Probe.gather]

/-- Nothing is pinned down. -/
theorem pinIssues_of_unpinned (h : isPinned step.fields = false) : step.pinIssues = .ok [] := by
  unfold pinIssues
  split
  · rfl
  · split
    · rfl
    · exact Probe.pinIssues_of_unpinned h _

/-- **A schema that is not composed of others is resolved by its type.** -/
theorem dispatch_of_lone (h : ∀ k ∈ windingKeywords, get? step.fields k = none) :
    step.dispatch = step.typed := by
  simp only [windingKeywords, compositeKeywords, List.mem_cons, List.not_mem_nil, or_false,
    forall_eq_or_imp, forall_eq] at h
  obtain ⟨-, hif, -, -, hnot, hall, hany, hone⟩ := h
  simp only [dispatch, hif, hall, hany, hone, hnot]

/-- A schema that leads to no other one stands for itself. -/
theorem expand_of_lone {P : Fields → Prop}
    (hP : ∀ {fields}, P fields → ∀ k ∈ windingKeywords, get? fields k = none)
    {source : Reference.Source} {root s : Json} (hn : s ≠ .null) (h : Wholly P s) :
    Reference.expand source root s = .ok (some (.node s)) := by
  refine expand_eq hn ?_
  cases s with
  | obj tag fields => exact hP h.here "$ref" (by simp [windingKeywords])
  | _ => rfl

end Step

/-! ## 4. What such schemas do to a value -/

/-- **Schemas that are neither composed nor lead elsewhere are tame**: with nothing to choose from and
nothing to look up, they only ever add to a value. -/
theorem tame_lone {setting : Probe.Setting} (ha : setting.options.accessor = .direct) :
    Tame True setting Lone Lone where
  accessor := ha
  mergeable := Schema.mergeable_lone
  steady := .inl trivial
  chosen := by
    refine .inr ⟨fun _ h => ?_, fun _ h => ?_⟩
    · exact h (by decide : "anyOf" ∈ windingKeywords)
    · exact h (by decide : "oneOf" ∈ windingKeywords)
  narrowed _ _ h _ := h
  parts _ _ _ _ _ _ h := h
  referred := .inl fun _ h => h (by decide : "$ref" ∈ windingKeywords)

/-- Such schemas are good. -/
theorem good_of_lone {P : Fields → Prop}
    (hP : ∀ {fields}, P fields → ∀ k ∈ windingKeywords, get? fields k = none) {s : Json}
    (h : Wholly P s) : Good Lone s := by
  refine ⟨h.ofMembers fun tag fields h k x hk hm => ?_, h.proper⟩
  rw [hP h.here k hm] at hk
  cases hk

end Resolve

end Conform
