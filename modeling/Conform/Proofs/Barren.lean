/-
# Schemas that bring nothing along

Where a schema is not composed of others, only a declared property can add a member to a value: nothing
else is ever asked about what is missing.  A property adds none if a missing value stays missing by its
schema (`Inert`), or if the name is required and has no default to fall back on.  A schema all of whose
properties are so is `Barren`, and a value that comes out of barren schemas comes out as it was, but for
the order of members (`sparing_resolve`).

This is about the value alone.  What a barren schema has to say about a missing value does not matter: it
may have a default or a constant of its own, as long as it is not the schema of a property.  That is why
the requests are told apart by whether there is a value (`Frugal`).
-/
import Conform.Proofs.Turns
import Conform.Proofs.Filling

namespace Conform

open Fields (get?)
open Schema (Wholly Decides)

namespace Schema

/-! ## 1. Straightforward schemas -/

/-- **A straightforward schema**: well-formed, and neither composed of others nor led on to another. -/
structure Straight (fields : Fields) : Prop where
  lacks : ∀ k ∈ windingKeywords, get? fields k = none
  tables : ∀ k ∈ ["properties", "patternProperties", "dependentSchemas"],
    (get? fields k).all Json.isObject = true
  additional : (get? fields "additionalProperties").all isProperSchema = true

instance : DecidablePred Straight := fun fields =>
  decidable_of_iff
    ((∀ k ∈ windingKeywords, get? fields k = none) ∧
      (∀ k ∈ ["properties", "patternProperties", "dependentSchemas"],
        (get? fields k).all Json.isObject = true) ∧
      (get? fields "additionalProperties").all isProperSchema = true)
    ⟨fun ⟨h₁, h₂, h₃⟩ => ⟨h₁, h₂, h₃⟩, fun ⟨h₁, h₂, h₃⟩ => ⟨h₁, h₂, h₃⟩⟩

/-- The members of a table of schemas, none if there is no table. -/
def tableOf (fields : Fields) (keyword : String) : Fields :=
  fieldsOf (Probe.memberTable fields keyword)

/-- A schema reduced to a type keeps all keywords about objects, or it declares no properties. -/
theorem objectKeywords_restrict (fields : Fields) (kind : Kind) :
    (∀ k ∈ objectKeywords, get? (restrict fields (.str kind.name)) k = get? fields k) ∨
      kind ≠ .object ∧ ∀ k ∈ objectKeywords, get? (restrict fields (.str kind.name)) k = none := by
  by_cases hk : kind = .object
  · subst hk
    exact .inl fun k hm => Probe.get?_restrict_of_mem (show k ∈ keywordsOf .object from hm) rfl
  · refine .inr ⟨hk, fun k hm => ?_⟩
    have hne : k ≠ "type" := by
      rintro rfl
      revert hm
      decide
    have left_out : (baseKeywords ++ keywordsOfType (.str kind.name)).contains k = false := by
      refine Bool.eq_false_iff.2 fun hc => ?_
      have disjoint : ∀ k ∈ objectKeywords, k ∉ baseKeywords ++ keywordsOfType (.str kind.name) := by
        cases kind <;> first | exact absurd rfl hk | decide
      exact disjoint k hm (List.contains_iff_mem.1 hc)
    rw [restrict, Fields.get?_put, if_neg hne,
      Fields.get?_filter_name fun name =>
        (baseKeywords ++ keywordsOfType (.str kind.name)).contains name, left_out]
    rfl

namespace Straight

variable {fields : Fields}

theorem restrict (h : Straight fields) (kind : Kind) :
    Straight (Schema.restrict fields (.str kind.name)) where
  lacks k hk := by
    have hne : k ≠ "type" := by rintro rfl; simp [windingKeywords, compositeKeywords] at hk
    rcases get?_restrict_cases hne with hn | he
    · exact hn
    · exact he.trans (h.lacks k hk)
  tables k hk := by
    have hne : k ≠ "type" := by rintro rfl; simp at hk
    rcases get?_restrict_cases hne with hn | he
    · rw [hn]; rfl
    · rw [he]; exact h.tables k hk
  additional := by
    rcases @get?_restrict_cases fields (.str kind.name) "additionalProperties" (by simp) with hn | he
    · rw [hn]; rfl
    · rw [he]; exact h.additional

end Straight

/-! ## 2. Barren schemas -/

/-- What stands in for a missing value, by the type. -/
def standIns : List (Kind × Json) := [(.null, .null), (.boolean, .bool false)]

/-- **A missing value stays missing by the schema**: there is no default and no constant to fill in, and
the type is not that of null or of booleans. -/
structure Inert (s : Json) : Prop where
  bare : ∀ k ∈ ["default", "const"], get? (fieldsOf s) k = none
  types : declaredTypes s ∉ [[.str "null"], [.str "boolean"]]

instance : DecidablePred Inert := fun s =>
  decidable_of_iff
    ((∀ k ∈ ["default", "const"], get? (fieldsOf s) k = none) ∧
      declaredTypes s ∉ [[.str "null"], [.str "boolean"]])
    ⟨fun ⟨h₁, h₂⟩ => ⟨h₁, h₂⟩, fun ⟨h₁, h₂⟩ => ⟨h₁, h₂⟩⟩

/-- Is the name required? -/
def requires (fields : Fields) (name : String) : Bool :=
  match Resolve.Step.requiredNames false fields with
  | .ok names => Json.listsName names name
  | .error _ => false

/-- **The property brings no member along**: it has to be there and there is no default in its place, or a
missing one stays missing. -/
def BringsNothing (fields : Fields) (property : String × Json) : Prop :=
  (requires fields property.1 = true ∧ get? (fieldsOf property.2) "default" = none) ∨
    Inert property.2

instance {fields : Fields} : DecidablePred (BringsNothing fields) := fun _ =>
  inferInstanceAs (Decidable (_ ∨ _))

/-- **A barren schema**: a straightforward one whose properties bring nothing along. -/
structure Barren (fields : Fields) : Prop extends Straight fields where
  nothing : ∀ property ∈ tableOf fields "properties", BringsNothing fields property

instance : DecidablePred Barren := fun fields =>
  decidable_of_iff
    (Straight fields ∧ ∀ property ∈ tableOf fields "properties", BringsNothing fields property)
    ⟨fun ⟨h₁, h₂⟩ => ⟨h₁, h₂⟩, fun ⟨h₁, h₂⟩ => ⟨h₁, h₂⟩⟩

theorem BringsNothing.bare {fields : Fields} {property : String × Json}
    (h : BringsNothing fields property) : get? (fieldsOf property.2) "default" = none := by
  rcases h with ⟨-, hd⟩ | hi
  · exact hd
  · exact hi.bare _ (by simp)

/-- What is required is read off the keywords about objects. -/
theorem requires_congr {fields fields' : Fields}
    (hk : ∀ k ∈ objectKeywords, get? fields' k = get? fields k) (name : String) :
    requires fields' name = requires fields name := by
  simp only [requires, Resolve.Step.requiredNames, hk "required" (by simp [objectKeywords]),
    hk "properties" (by simp [objectKeywords])]

/-- What a property brings along depends on the names that are required. -/
theorem BringsNothing.of_get? {fields fields' : Fields} {property : String × Json}
    (h : BringsNothing fields property)
    (hk : ∀ k ∈ objectKeywords, get? fields' k = get? fields k) : BringsNothing fields' property := by
  rw [BringsNothing, requires_congr hk]
  exact h

theorem tableOf_congr {fields fields' : Fields} {k : String} (h : get? fields' k = get? fields k) :
    tableOf fields' k = tableOf fields k := by
  rw [tableOf, tableOf, Probe.memberTable, Probe.memberTable, h]

theorem tableOf_of_none {fields : Fields} {k : String} (h : get? fields k = none) :
    tableOf fields k = [] := by
  rw [tableOf, Probe.memberTable, h]
  rfl

theorem Barren.restrict {fields : Fields} (h : Barren fields) (kind : Kind) :
    Barren (Schema.restrict fields (.str kind.name)) where
  toStraight := h.toStraight.restrict kind
  nothing property hm := by
    rcases objectKeywords_restrict fields kind with hk | ⟨-, hk⟩
    · rw [tableOf_congr (hk "properties" (by simp [objectKeywords]))] at hm
      exact (h.nothing property hm).of_get? hk
    · rw [tableOf_of_none (hk "properties" (by simp [objectKeywords]))] at hm
      cases hm

/-- A barren schema is barren at what remains of it for the kind that decides. -/
theorem Wholly.barren_of_decides {tag tag' : Tag} {fields remaining : Fields} {x : Json} {kind : Kind}
    (h : Wholly Barren (.obj tag fields)) (hd : Decides fields x kind remaining) :
    Wholly Barren (.obj tag' remaining) :=
  h.of_decides (fun kind _ => h.here.restrict kind) hd

end Schema

open Schema (Straight Barren Inert BringsNothing tableOf standIns declaredTypes)

namespace Resolve

/-! ## 3. Steps at straightforward schemas -/

namespace Step

variable {step : Step}

/-- The tables of a straightforward schema are what the resolution takes them for. -/
theorem table_eq (h : Straight step.fields) {k : String}
    (hk : k ∈ ["properties", "patternProperties", "dependentSchemas"]) {table : Fields}
    (ht : Probe.membersOf (step.tableOrEmpty k) = .ok table) : table = tableOf step.fields k := by
  obtain ⟨tag, tag', members, hr, hm⟩ := exists_table (h.tables k hk)
  rw [hr] at ht
  cases ht
  rw [tableOf, hm]
  rfl

/-- A name that is required is among those that the step requires. -/
theorem mem_of_requires {required : List Json} {name : String} (hv : step.skips = false)
    (hr : requiredNames step.skips step.fields = .ok required)
    (h : Schema.requires step.fields name = true) : .str name ∈ required := by
  rw [hv] at hr
  rw [Schema.requires, hr] at h
  exact Json.listsName_iff.1 h

end Step

/-! ## 4. What resolutions promise -/

/-- **A request for a barren schema**, with a value without nulls, or without a value that the schema would
put anything in the place of. -/
structure Frugal (request : Request) (s : Json) : Prop where
  schema : request.schema = .node s
  barren : Wholly Barren s
  value : ∀ x, request.value = some x → Sound False x
  inert : request.value = none → Inert s ∧ request.parent.isObject = true
  plain : request.negated = false

/-- **Resolutions that are sparing**: by barren schemas values come out as they were but for the order of
members. -/
def Sparing (again : Again) : Prop :=
  ∀ extension request s w, Frugal request s →
    (again extension request).result = .ok (.resolved w) → Kept False request.value w

/-- A member or an item that is there is kept by a barren schema. -/
theorem Sparing.descend {step : Step} {key s x : Json} {w : Option Json} (h : Sparing step.again)
    (hn : step.negated = false) (hs : Wholly Barren s) (hx : Sound False x)
    (hr : (step.descend key (.node s) (some x)).result = .ok (.resolved w)) :
    Kept False (some x) w := by
  refine h _ _ s w ⟨rfl, hs, fun y hy => ?_, fun he => (Option.some_ne_none _ he).elim, hn⟩ hr
  cases hy
  exact hx

/-- All that has been built is kept by a barren schema. -/
theorem Sparing.again_kept {step : Step} {s : Json} {members : Fields} {w : Option Json}
    (h : Sparing step.again) (hn : step.negated = false) (hs : Wholly Barren s)
    (hm : Sound False (.obj none members))
    (hr : (step.again [] ⟨.node s, some (.obj none members), step.parent, step.key,
      step.negated⟩).result = .ok (.resolved w)) : Kept False (some (.obj none members)) w := by
  refine h _ _ s w ⟨rfl, hs, fun y hy => ?_, fun he => (Option.some_ne_none _ he).elim, hn⟩ hr
  cases hy
  exact hm

/-- A step whose further resolutions are sparing. -/
structure Thrifty (step : Step) : Prop extends Regular step where
  sparing : Sparing step.again

/-- A step at a barren schema, whose further resolutions are sparing. -/
structure Spared (step : Step) : Prop extends Thrifty step where
  barren : Wholly Barren step.schema
  validates : step.skips = false

variable {step : Step} {w : Option Json} {s x : Json} {name : String}

/-! ## 5. Members that are kept -/

namespace Thrifty

open Ready (Holds)
open Step (Passage)

variable {start members : Fields} {b b' : Built}

/-- Members that have been built can be asked about as an object. -/
theorem sound_members {tag : Tag} (hs : Sound False (.obj tag start))
    (hb : Preserved False start members) : Sound False (.obj none members) := by
  refine hb.sound_obj hs.proper.distinct (.inr (.intro Json.noConfusion fun y hy => ?_))
  exact (hs.plain.resolve_left id).inner hy

/-- What preserves members has their names. -/
theorem mem_names (hb : Preserved False start members) (hn : name ∈ Fields.names members) :
    name ∈ Fields.names start := by
  obtain ⟨y, hy⟩ := Fields.exists_get?_of_mem_names hn
  refine Classical.byContradiction fun hm => ?_
  have hext := hb.extends? name
  rw [Fields.get?_eq_none_iff.2 hm, hy] at hext
  cases hext.resolve_left id

variable (h : Thrifty step)

include h

/-- **A schema that depends on a member keeps all members.** -/
theorem holds_dependent {working : Fields} {tag : Tag} (hs : Sound False (.obj tag start))
    {d : String × Json} (hd : Wholly Barren d.2) (ht : step.TakesDependent working d b b')
    (hb : Holds False start b) : Holds False start b' := by
  rcases ht with ⟨-, rfl⟩ | ⟨x, outcome, -, ho, rfl⟩
  · exact hb
  · refine hb.follow hs.proper.distinct ?_ ?_
    · exact .inr (.intro Json.noConfusion fun y hy => (hs.plain.resolve_left id).inner hy)
    · rintro w rfl hm
      exact h.sparing.again_kept h.plain hd (sound_members hs hm) ho

/-- A member that is there is kept. -/
theorem holds_take {outcome : Outcome} (hs : Wholly Barren s) (hn : name ∈ Fields.names start)
    (ho : (step.descend (.str name) (.node s) (get? b.members name)).result = .ok outcome)
    (hb : Holds False start b) : Holds False start (b.take name outcome) := by
  refine hb.take (h.honest _ _) ho ?_
  rintro w rfl hm
  obtain ⟨x, hx⟩ := Fields.exists_get?_of_mem_names hn
  have hext := hm.extends? name
  rw [hx] at hext
  obtain ⟨y, hy, -⟩ := hext.resolve_left fun hf => hf.1
  rw [hy] at ho ⊢
  exact h.sparing.descend h.plain hs (hm.sound name y hy) ho

theorem holds_pattern {pattern : String × Json} (hs : Wholly Barren pattern.2)
    (hn : name ∈ Fields.names start) (ht : step.TakesPattern name pattern b b')
    (hb : Holds False start b) : Holds False start b' := by
  rcases ht with ⟨-, rfl⟩ | ⟨-, outcome, ho, rfl⟩
  · exact hb
  · exact h.holds_take hs hn ho hb

theorem holds_additional {working : Fields} {additional : Json} (hs : Wholly Barren additional)
    (hnull : additional ≠ .null) (hn : name ∈ Fields.names start)
    (ht : step.TakesAdditional working additional name b b') (hb : Holds False start b) :
    Holds False start b' := by
  rcases ht with ⟨-, rfl⟩ | ⟨-, uncovered, -, hu⟩
  · exact hb
  · cases uncovered with
    | false => exact hu ▸ hb
    | true =>
      cases hu with
      | forbidden | dead => exact fun hi => absurd hi (by simp [Built.report])
      | resolved _ hx ho =>
        rw [Step.expand_of_lone (P := Barren) (·.lacks) hnull hs] at hx
        cases hx
        exact h.holds_take hs hn ho hb

variable (c : Passage step members)

/-- **Patterns keep the members**, if they bring nothing along. -/
theorem passes_matched
    (hs : ∀ {patterns : Fields} {pattern : String × Json},
      Probe.membersOf (step.tableOrEmpty "patternProperties") = .ok patterns → pattern ∈ patterns →
      Wholly Barren pattern.2)
    (hf : Preserved False start c.followed.members) : Preserved False start c.matched.members := by
  refine c.matches_.keeps (P := Holds False start) (fun name hn b b' ht hb => ?_) (fun _ => hf)
    c.matched_issues
  rcases ht with ⟨-, rfl⟩ | ⟨-, patterns, hp, hc⟩
  · exact hb
  · exact hc.keeps (fun pattern hm _ _ ht => h.holds_pattern (hs hp hm) (mem_names hf hn) ht) hb

/-- **The schema for additional members keeps them**, if it brings nothing along. -/
theorem passes_final
    (hs : ∀ additional, get? step.fields "additionalProperties" = some additional →
      Wholly Barren additional)
    (hm : Preserved False start c.matched.members) : Preserved False start c.final.members := by
  rcases c.adds with ⟨-, he⟩ | ⟨additional, ha, hnull, -, hc⟩
  · exact he ▸ hm
  · exact hc.keeps (P := Holds False start)
      (fun name hn _ _ ht => h.holds_additional (hs additional ha) hnull (mem_names hm hn) ht)
      (fun _ => hm) c.final_issues

end Thrifty

namespace Spared

/-! ## 6. Objects -/

section Objects

open Ready (Holds wholly_of_table)
open Step (Passage otherMembers)

variable {tag : Tag} {members : Fields}

variable (h : Spared step) (c : Passage step members)

include h

/-- No default is put in. -/
theorem working_eq : c.working = members := by
  refine Ready.withDefaults_eq_of_bare (fun name tag fields hs => ?_) c.working_eq
  obtain ⟨table, ht, hm⟩ := Ready.mem_of_propertySchema hs
  rw [Step.table_eq h.barren.here.toStraight (by simp) ht] at hm
  exact (h.barren.here.nothing _ hm).bare

variable (hv : Sound False (.obj tag members))

include hv

/-- **A declared property keeps its member**, and makes none where there is none. -/
theorem declared_kept (hm : (name, s) ∈ c.properties) :
    Kept False (get? members name) (get? c.declared.members name) := by
  obtain ⟨w, ho, rfl⟩ := (c.declared_spec h.toRegular).2 name s hm
  rw [h.working_eq c] at ho
  refine h.sparing _ _ s _ ⟨rfl, wholly_of_table h.barren (by simp) c.properties_eq hm,
    fun x hx => hv.of_get? hx, fun hnone => ⟨?_, rfl⟩, h.plain⟩ ho
  have hbrings := h.barren.here.nothing (name, s)
    (by rw [← Step.table_eq h.barren.here.toStraight (by simp) c.properties_eq]; exact hm)
  refine hbrings.resolve_left fun hr => ?_
  have hlisted := Step.mem_of_requires h.validates c.required_eq hr.1
  obtain ⟨x, hx⟩ := (c.required_there h.toRegular _ hlisted).exists_get? h.accessor
  rw [h.working_eq c] at hx
  cases hnone.symm.trans hx

theorem passes_gathered : Preserved False members c.gathered := by
  have hw := h.working_eq c
  have hg : ∀ k, Kept False (get? members k) (get? c.gathered k) := by
    intro k
    rw [c.get?_gathered h.toRegular (hw.symm ▸ hv.proper.distinct), hw]
    split
    · next hk =>
      obtain ⟨s, hs⟩ := Fields.exists_get?_of_mem_names hk
      exact h.declared_kept c hv (Json.mem_of_get? hs)
    · exact .refl fun x hx => hv.of_get? hx
  exact ⟨c.distinct_declared.union, fun k => (hg k).sound fun x hx => hv.of_get? hx,
    fun k => (hg k).extends?⟩

/-- **In the end there are the members of the value**, in another order. -/
theorem passes_final : Preserved False members c.final.members := by
  have hfollowed : Preserved False members c.followed.members :=
    c.follows.keeps (P := Holds False members) (fun d hd _ _ ht =>
      h.toThrifty.holds_dependent hv (wholly_of_table h.barren (by simp) c.dependents_eq hd) ht)
      (fun _ => h.passes_gathered c hv) c.followed_issues
  have hmatched := h.toThrifty.passes_matched c
    (fun ht hm => wholly_of_table h.barren (by simp) ht hm) hfollowed
  exact h.toThrifty.passes_final c
    (fun _ ha => h.barren.part ha (List.mem_singleton_self _)) hmatched

omit c

theorem members_kept (hr : (step.resolveMembers members).result = .ok (.resolved w)) :
    Kept False (some (.obj tag members)) w := by
  obtain ⟨c, rfl⟩ := Step.exists_passage hr
  exact (h.passes_final c hv).kept hv.proper.distinct

end Objects

/-! ## 7. Lists -/

theorem items_kept (h : Spared step) {tag : Tag} {items : List Json}
    (hx : Sound False (.arr tag items)) (hv : step.value = some (.arr tag items))
    (hr : step.array.result = .ok (.resolved w)) : Kept False (some (.arr tag items)) w := by
  refine Ready.items_kept hx h.honest (fun i s x w hs hx ho => ?_) hv hr
  exact h.sparing.descend h.plain (Ready.wholly_of_itemSchema h.barren hs) hx ho

/-! ## 8. Types -/

/-- A step spared at what remains of its schema. -/
theorem narrowed (h : Spared step) {kind : Kind} {remaining : Fields}
    (hd : Decides step.fields x kind remaining) : Spared (step.narrowed remaining) := by
  have hb : Wholly Barren (step.narrowed remaining).schema := h.barren.barren_of_decides hd
  exact ⟨⟨⟨h.accessor, hb.proper, h.plain, h.honest⟩, h.sparing⟩, hb, h.validates⟩

/-- **A value that is there is kept by its type.** -/
theorem typed_kept (h : Spared step) (hv : step.value = some x) (hx : Sound False x)
    (hr : step.typed.result = .ok (.resolved w)) : Kept False (some x) w := by
  rcases Step.decides_of_typed hv hr with hs | ⟨kind, remaining, hd⟩
  · rw [Step.typed_of_silent hv hs] at hr
    cases hr
    exact .refl fun y hy => by cases hy; exact hx
  · rw [Step.typed_of_decides hv hd] at hr
    have hn := h.narrowed hd
    have hv' : (step.narrowed remaining).value = some x := hv
    refine Ready.kept_of_kind hv' hx (fun tag items e hr => ?_) (fun tag members e hr => ?_) hr
    · subst e
      exact hn.items_kept hx hv hr
    · subst e
      exact hn.members_kept hx hr

/-- Nothing is built out of nothing, and an empty object is not kept. -/
theorem not_built (h : Spared step) (hp : step.parent.isObject = true)
    (hr : (step.resolveMembers []).result = .ok (.resolved w)) :
    (step.isRoot || Step.Outcome.holdsMembers (.resolved w)) = false := by
  have hempty : Sound False (.obj none []) := .empty
  obtain ⟨y, rfl, -, hy⟩ := Json.exists_of_extends? Json.noConfusion
    (h.members_kept hempty hr).extends?
  obtain ⟨tag, rfl⟩ := Json.eq_empty_of_extends id hy
  rw [Step.isRoot_eq_false hp]
  rfl

/-- **A missing value stays missing by its type**, or the type has something to stand in for it. -/
theorem typed_missing (h : Spared step) (hp : step.parent.isObject = true) (hv : step.value = none)
    (hr : step.typed.result = .ok (.resolved w)) :
    w = none ∨ ∃ entry ∈ standIns, declaredTypes step.schema = [.str entry.1.name] ∧ w = some entry.2 := by
  rcases Step.typed_of_missing hp hv hr with rfl | ⟨kind, hkind, -, hnamed, -⟩
  · exact .inl rfl
  cases Step.comesOut hkind with
  | null => exact .inr ⟨(.null, .null), by simp [standIns], hnamed (.inl rfl), rfl⟩
  | boolean => exact .inr ⟨(.boolean, .bool false), by simp [standIns], hnamed (.inr rfl), rfl⟩
  | missing _ _ hr => exact .inl (Step.eq_none_of_missing hp hr)
  | scalar _ hv' | list hv' | members hv' => cases hv.symm.trans hv'
  | built _ hr hk => exact absurd hk (Bool.eq_false_iff.1 (h.not_built hp hr))
  | unbuilt => exact .inl rfl

/-! ## 9. Steps -/

/-- **A step at a barren schema keeps its value.** -/
theorem run_kept (h : Spared step) (hx : ∀ x, step.value = some x → Sound False x)
    (hi : step.value = none → Inert step.schema ∧ step.parent.isObject = true)
    (hr : step.run.result = .ok (.resolved w)) : Kept False step.value w := by
  have hfilled : step.filled = step.value := by
    cases hv : step.value with
    | some x => exact Step.filled_eq hv ((hx x hv).plain.resolve_left id).here
    | none =>
      have hdefault : get? step.fields "default" = none := (hi hv).1.bare _ (by simp)
      have hconst : get? step.fields "const" = none := (hi hv).1.bare _ (by simp)
      simp only [Step.filled, hv, Schema.isAbsent, if_true, Step.default?, hdefault, hconst]
  obtain ⟨-, hr⟩ := Step.run_resolved_iff.1 hr
  rw [hfilled] at hr
  replace hr : step.typed.result = .ok (.resolved w) := by
    rw [← Step.dispatch_of_lone h.barren.here.lacks]
    exact hr
  cases hv : step.value with
  | some x => exact h.typed_kept hv (hx x hv) hr
  | none =>
    obtain ⟨hinert, hp⟩ := hi hv
    rcases h.typed_missing hp hv hr with rfl | ⟨entry, hm, htype, -⟩
    · exact .refl (by simp)
    · have hnone : ∀ entry ∈ standIns, declaredTypes step.schema ≠ [.str entry.1.name] := by
        simpa [standIns, Kind.name] using hinert.types
      exact absurd htype (hnone entry hm)

end Spared

/-- **Every resolution is sparing.** -/
theorem sparing_resolve {setting : Probe.Setting} (ha : setting.options.accessor = .direct)
    (hv : setting.options.skipValidation = false) (guard : Guard) :
    ∀ request s w, Frugal request s → (resolve setting guard request).result = .ok (.resolved w) →
      Kept False request.value w := by
  intro request s w hf h
  obtain ⟨deep, h⟩ := resolve_resolved_iff.1 h
  have hsound := hf.value
  cases h with
  | unasked => exact .refl hsound
  | missing _ hv =>
    rw [hv]
    exact .refl (by simp)
  | @step tag fields _ hs hr =>
    cases hs.symm.trans hf.schema
    have sparing : Sparing fun extension next => resolve setting (guard.enter extension) next :=
      fun extension next s w hf h => sparing_resolve ha hv (guard.enter extension) next s w hf h
    have spared : Spared (request.step setting guard tag fields) :=
      ⟨⟨⟨ha, hf.barren.proper, hf.plain, fun _ _ => honest_resolve _ _ _⟩, sparing⟩, hf.barren, hv⟩
    exact spared.run_kept hsound hf.inert hr
termination_by guard.rank
decreasing_by exact Guard.rank_enter_lt ‹_› extension

end Resolve

end Conform
