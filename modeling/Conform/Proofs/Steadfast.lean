/-
# Schemas that keep what they checked

A resolution checks some things before everything is filled in: how many members there are, which of
them others require, whether items repeat, what a list contains, constants and enumerations, and the
schemas that depend on members.  What is filled in later may undo what was checked.  The schemas here
are such that it does not (`Steadfast`): where a value is looked at as a whole, nothing is filled in below;
nothing is added to a counted object, and nothing that requires others; of several patterns none fills
anything in.

A schema that depends on a member comes late, when the declared properties have been filled in.  What it
checks is safe if it looks at names only (`Nominal`), or if from there on nothing is filled in (`Calm`).

All but two of the conditions are `Steady`: a schema reduced to one of its types is steady again.  The
other two are about what takes the place of a missing value: that it has no nulls inside, and that the
null or the false that stands in for it by the type is one of the enumeration.
-/
import Conform.Proofs.Barren
import Conform.Proofs.Solid

namespace Conform

open Fields (get?)

namespace Schema

/-! ## 1. Steady schemas -/

/-- The keywords that say something about what members hold. -/
def lookingKeywords : List String :=
  ["const", "enum", "properties", "patternProperties", "additionalProperties", "dependentSchemas"]

/-- **A schema that looks at the names of members only**, not at what they hold. -/
def Nominal (s : Json) : Prop := ∀ k ∈ lookingKeywords, get? (fieldsOf s) k = none

instance : DecidablePred Nominal := fun _ => inferInstanceAs (Decidable (∀ _ ∈ _, _))

/-- Is something compared, counted or asked about as a whole before what is inside is filled in? -/
def checksEarly (fields : Fields) : Bool :=
  ["const", "enum", "contains"].any (Fields.has fields) ||
    (get? fields "uniqueItems").any Json.truthy

/-- **A missing value stays missing by the schema**, whatever there is below. -/
def StaysMissing (s : Json) : Prop := Inert s ∧ Wholly Barren s

instance : DecidablePred StaysMissing := fun _ => inferInstanceAs (Decidable (_ ∧ _))

/-- **Nothing is filled in once the declared properties are**, and these fill in no null. -/
structure Calm (fields : Fields) : Prop where
  patterns : ∀ pattern ∈ tableOf fields "patternProperties", Wholly Barren pattern.2
  additional : ∀ s ∈ get? fields "additionalProperties", Wholly Barren s
  properties : ∀ property ∈ tableOf fields "properties", Wholly FillsNoNull property.2

instance : DecidablePred Calm := fun fields =>
  decidable_of_iff
    ((∀ pattern ∈ tableOf fields "patternProperties", Wholly Barren pattern.2) ∧
      (∀ s ∈ get? fields "additionalProperties", Wholly Barren s) ∧
      ∀ property ∈ tableOf fields "properties", Wholly FillsNoNull property.2)
    ⟨fun ⟨h₁, h₂, h₃⟩ => ⟨h₁, h₂, h₃⟩, fun ⟨h₁, h₂, h₃⟩ => ⟨h₁, h₂, h₃⟩⟩

/-- Is there something that depends on a member of this name? -/
def triggers (fields : Fields) (name : String) : Bool :=
  ["dependentRequired", "dependentSchemas"].any fun k => Fields.has (tableOf fields k) name

/-- **A schema that does not undo what it checked**: a straightforward one, all of whose required names
are declared, and with nothing filled in where that would matter. -/
structure Steady (fields : Fields) : Prop extends Straight fields where
  declared : declaresRequired fields = true
  early : checksEarly fields = true → Wholly Barren (.obj none fields)
  /-- To members that are counted none is added. -/
  counted : Fields.has fields "maxProperties" = true → ∀ property ∈ tableOf fields "properties",
    (requires fields property.1 = true ∧ get? (fieldsOf property.2) "default" = none) ∨
      StaysMissing property.2
  /-- No member is added that something depends on. -/
  depended : ∀ property ∈ tableOf fields "properties", triggers fields property.1 = true →
    requires fields property.1 = true ∨ StaysMissing property.2
  /-- What depends on a member looks at names only, or it fills nothing in, nor does what comes after it. -/
  dependent : ∀ d ∈ tableOf fields "dependentSchemas", Nominal d.2 ∨ (Wholly Barren d.2 ∧ Calm fields)
  /-- A pattern fills nothing in for another one to see. -/
  patterned : 1 < (tableOf fields "patternProperties").length →
    ∀ pattern ∈ tableOf fields "patternProperties", Wholly Barren pattern.2

instance : DecidablePred Steady := fun fields =>
  decidable_of_iff
    (Straight fields ∧ declaresRequired fields = true ∧
      (checksEarly fields = true → Wholly Barren (.obj none fields)) ∧
      (Fields.has fields "maxProperties" = true → ∀ property ∈ tableOf fields "properties",
        (requires fields property.1 = true ∧ get? (fieldsOf property.2) "default" = none) ∨
          StaysMissing property.2) ∧
      (∀ property ∈ tableOf fields "properties", triggers fields property.1 = true →
        requires fields property.1 = true ∨ StaysMissing property.2) ∧
      (∀ d ∈ tableOf fields "dependentSchemas", Nominal d.2 ∨ (Wholly Barren d.2 ∧ Calm fields)) ∧
      (1 < (tableOf fields "patternProperties").length →
        ∀ pattern ∈ tableOf fields "patternProperties", Wholly Barren pattern.2))
    ⟨fun ⟨h₁, h₂, h₃, h₄, h₅, h₆, h₇⟩ => ⟨h₁, h₂, h₃, h₄, h₅, h₆, h₇⟩,
      fun ⟨h₁, h₂, h₃, h₄, h₅, h₆, h₇⟩ => ⟨h₁, h₂, h₃, h₄, h₅, h₆, h₇⟩⟩

/-- Whether anything is filled in late is read off the keywords about objects. -/
theorem Calm.of_get? {fields fields' : Fields} (h : Calm fields)
    (hk : ∀ k ∈ objectKeywords, get? fields' k = get? fields k) : Calm fields' where
  patterns := by
    rw [tableOf_congr (hk "patternProperties" (by simp [objectKeywords]))]
    exact h.patterns
  additional := by
    rw [hk "additionalProperties" (by simp [objectKeywords])]
    exact h.additional
  properties := by
    rw [tableOf_congr (hk "properties" (by simp [objectKeywords]))]
    exact h.properties

/-- A schema reduced to a type checks no more early than before. -/
theorem checksEarly_of_restrict {fields : Fields} {type : Json}
    (h : checksEarly (restrict fields type) = true) : checksEarly fields = true := by
  have kept : ∀ {k : String}, k ≠ "type" → ∀ x, get? (restrict fields type) k = some x →
      get? fields k = some x := by
    intro k hk x hx
    rcases @get?_restrict_cases fields type k hk with hn | he
    · rw [hn] at hx
      cases hx
    · exact he ▸ hx
  rcases Bool.or_eq_true_iff.1 h with h | h
  · obtain ⟨k, hk, hhas⟩ := List.any_eq_true.1 h
    have hne : k ≠ "type" := by rintro rfl; simp at hk
    obtain ⟨x, hx⟩ := Option.isSome_iff_exists.1 hhas
    refine Bool.or_eq_true_iff.2 (.inl (List.any_eq_true.2 ⟨k, hk, ?_⟩))
    exact Option.isSome_iff_exists.2 ⟨x, kept hne x hx⟩
  · refine Bool.or_eq_true_iff.2 (.inr ?_)
    obtain ⟨x, hx, ht⟩ := (Option.any_eq_true _ _).1 h
    exact (Option.any_eq_true _ _).2 ⟨x, kept (by simp) x hx, ht⟩

/-- **A schema reduced to a type is steady again.** -/
theorem Steady.restrict {fields : Fields} (h : Steady fields) (kind : Kind) :
    Steady (Schema.restrict fields (.str kind.name)) := by
  have early : checksEarly (Schema.restrict fields (.str kind.name)) = true →
      Wholly Barren (.obj none (Schema.restrict fields (.str kind.name))) := fun hc =>
    have hb := h.early (checksEarly_of_restrict hc)
    hb.restrict (hb.here.restrict kind)
  have hdeclared := declaresRequired_of_get? h.declared
    fun k hk => @get?_restrict_cases fields (.str kind.name) k hk
  rcases objectKeywords_restrict fields kind with hk | ⟨-, hk⟩
  · -- the keywords about objects are all there
    have hprops := tableOf_congr (hk "properties" (by simp [objectKeywords]))
    have hpatterns := tableOf_congr (hk "patternProperties" (by simp [objectKeywords]))
    have hdependents := tableOf_congr (hk "dependentSchemas" (by simp [objectKeywords]))
    refine ⟨h.toStraight.restrict kind, hdeclared, early, ?_, ?_, ?_, ?_⟩
    · rw [Fields.has, hk "maxProperties" (by simp [objectKeywords]), hprops]
      simp only [requires_congr hk]
      exact h.counted
    · simp only [hprops, requires_congr hk, triggers, List.any_cons, hdependents,
        tableOf_congr (hk "dependentRequired" (by simp [objectKeywords]))]
      exact h.depended
    · rw [hdependents]
      exact fun d hm => (h.dependent d hm).imp_right (And.imp_right (·.of_get? hk))
    · rw [hpatterns]
      exact h.patterned
  · -- none of them is
    have hprops := tableOf_of_none (hk "properties" (by simp [objectKeywords]))
    have hpatterns := tableOf_of_none (hk "patternProperties" (by simp [objectKeywords]))
    have hdependents := tableOf_of_none (hk "dependentSchemas" (by simp [objectKeywords]))
    refine ⟨h.toStraight.restrict kind, hdeclared, early, fun _ => ?_, ?_, ?_, fun _ => ?_⟩
    · rw [hprops]
      exact fun _ hm => absurd hm List.not_mem_nil
    · rw [hprops]
      exact fun _ hm => absurd hm List.not_mem_nil
    · rw [hdependents]
      exact fun _ hm => absurd hm List.not_mem_nil
    · rw [hpatterns]
      exact fun _ hm => absurd hm List.not_mem_nil

/-! ## 2. Steadfast schemas -/

/-- **A steady schema that fills in what can stay**: a default or a constant is null or has no null
inside, and where there is an enumeration, but nothing to fill in, what the type has to stand in for a
missing value is enumerated. -/
structure Steadfast (fields : Fields) : Prop extends Steady fields where
  filled : ∀ k ∈ ["default", "const"], ∀ d ∈ get? fields k, d = .null ∨ d.NullFree
  enumerated : Fields.has fields "enum" = true →
    Fields.has fields "default" = true ∨ Fields.has fields "const" = true ∨
      ∀ entry ∈ standIns, declaredTypes (.obj none fields) = [.str entry.1.name] →
        Probe.pinIssues entry.2 fields [] = .ok []

instance : DecidablePred Steadfast := fun fields =>
  decidable_of_iff
    (Steady fields ∧
      (∀ k ∈ ["default", "const"], ∀ d ∈ get? fields k, d = .null ∨ d.NullFree) ∧
      (Fields.has fields "enum" = true →
        Fields.has fields "default" = true ∨ Fields.has fields "const" = true ∨
          ∀ entry ∈ standIns, declaredTypes (.obj none fields) = [.str entry.1.name] →
            Probe.pinIssues entry.2 fields [] = .ok []))
    ⟨fun ⟨h₁, h₂, h₃⟩ => ⟨h₁, h₂, h₃⟩, fun ⟨h₁, h₂, h₃⟩ => ⟨h₁, h₂, h₃⟩⟩

end Schema

end Conform
