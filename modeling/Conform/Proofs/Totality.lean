/-
# Resolutions of well-formed schemas end

A resolution at a well-formed schema ends with a value or with issues, excused faults apart
(`within_resolve`).  Function by function: whatever further resolution a step asks for is at a
well-formed schema again, and for a container that is one (`Clear`), so the step stops with a fault
only if one of these does.  The guard's rank closes the induction.

A step fails with the issues that it has collected, and would stop if there were none.  Where that is
not plain from the place itself, it is because somebody has looked before: no branch of `oneOf` admits
the value when the issues of one of them are reported.
-/
import Conform.Json.Printing
import Conform.Proofs.Compositions
import Conform.Proofs.Counterparts
import Conform.Proofs.Faultless
import Conform.Proofs.Sifting

namespace Conform

open Fields (get?)
open Schema (Formed Shape WellFormed isText)

namespace Resolve

/-! ## 1. Requests and steps -/

/-- A request at a well-formed schema, for a container at one, if any. -/
structure Clear (terms : Schema.Terms) (request : Request) : Prop where
  schema : ∃ s, request.schema = .node s ∧ WellFormed terms s
  parent : request.parent = .null ∨ WellFormed terms request.parent

/-- **A step at a well-formed schema**, whose further resolutions stop only with excused faults. -/
structure Orderly (terms : Schema.Terms) (step : Step) : Prop where
  working : step.setting.Working terms
  schema : WellFormed terms (.obj step.tag step.fields)
  parent : step.parent = .null ∨ WellFormed terms step.parent
  again : ∀ extension request, Clear terms request →
    Within (Excused terms) (step.again extension request).result

namespace Orderly

variable {terms : Schema.Terms} {step : Step} {s : Json} {value : Option Json} {k : String}

theorem formed (h : Orderly terms step) : Formed terms (.obj step.tag step.fields) :=
  h.schema.formed

/-- Another resolution for the same container. -/
theorem request (h : Orderly terms step) (hs : WellFormed terms s) (extension : Path) :
    Within (Excused terms) (step.again extension
      ⟨.node s, value, step.parent, step.key, step.negated⟩).result :=
  h.again _ _ ⟨⟨s, rfl, hs⟩, h.parent⟩

theorem redirect (h : Orderly terms step) (hs : WellFormed terms s) :
    Within (Excused terms) (step.redirect s).result := h.request hs []

/-- The resolution of something inside the value. -/
theorem descend (h : Orderly terms step) (hs : WellFormed terms s) (key : Json) :
    Within (Excused terms) (step.descend key (.node s) value).result :=
  h.again _ _ ⟨⟨s, rfl, hs⟩, .inr h.schema⟩

theorem without (h : Orderly terms step) (keys : List String) :
    WellFormed terms (step.without keys) := h.schema.without

/-- A table of schemas, which may be missing or empty. -/
theorem exists_table (h : Orderly terms step) (k : String) (hk : Shape.ofKeyword k = .table) :
    ∃ tag table, step.tableOrEmpty k = .obj tag table ∧
      ∀ j s, (j, s) ∈ table → WellFormed terms s := by
  unfold Step.tableOrEmpty
  split
  · next x hx =>
    obtain ⟨tag, table, rfl, formed⟩ := (h.formed.get? hx).table hk
    have proper : (Json.obj tag table).Proper := h.schema.proper.of_get? hx
    split
    · exact ⟨tag, table, rfl, fun j s hs => ⟨formed j s hs, proper.of_mem_fields hs⟩⟩
    · exact ⟨none, [], rfl, fun _ _ hs => nomatch hs⟩
  · exact ⟨none, [], rfl, fun _ _ hs => nomatch hs⟩

/-- The table of schemas by pattern, which may be missing or empty. -/
theorem exists_patterns (h : Orderly terms step) :
    ∃ tag table, step.tableOrEmpty "patternProperties" = .obj tag table ∧
      ∀ j s, (j, s) ∈ table → terms.patterns j = true ∧ WellFormed terms s := by
  unfold Step.tableOrEmpty
  split
  · next x hx =>
    obtain ⟨tag, table, rfl, formed⟩ := (h.formed.get? hx).patternTable
    have proper : (Json.obj tag table).Proper := h.schema.proper.of_get? hx
    split
    · exact ⟨tag, table, rfl,
        fun j s hs => ⟨(formed j s hs).1, (formed j s hs).2, proper.of_mem_fields hs⟩⟩
    · exact ⟨none, [], rfl, fun _ _ hs => nomatch hs⟩
  · exact ⟨none, [], rfl, fun _ _ hs => nomatch hs⟩

end Orderly

namespace Step

variable {terms : Schema.Terms} {E : Fault → Prop} {step : Step} {value : Option Json}
  {members working : Fields} {names : List Json} {built : Built}

theorem within_failWith {reason : Reason} : Within E (step.failWith reason).result :=
  within_fail (List.cons_ne_nil _ _)

theorem within_failBelow {segment : String} {reason : Reason} :
    Within E (step.failBelow segment reason).result :=
  within_fail (List.cons_ne_nil _ _)

/-- A step that collects issues and fails with them if there are any. -/
theorem within_doneOrFail {issues : List Issue} {value : Option Json} :
    Within E (if issues.isEmpty then done value else fail issues).result := by
  split
  · exact within_ok
  · next hi => exact within_fail (by simpa using hi)

/-! ## 2. Required names -/

/-- **The names that a well-formed schema requires are texts**, and there is no other answer. -/
theorem requiredNames_spec {tag : Tag} {fields : Fields} (h : Formed terms (.obj tag fields))
    (skips : Bool) : ∃ names, requiredNames skips fields = .ok names ∧
      ∀ name ∈ names, isText name = true := by
  obtain ⟨names, hn, htexts⟩ := Probe.exists_requiredNames h
  have texts : ∀ name ∈ Json.distinct names, isText name = true :=
    fun name hm => htexts name (Schema.mem_of_mem_distinct hm)
  have kept : ∀ (properties : Fields) (names : List Json), (∀ name ∈ names, isText name = true) →
      ∃ kept, memberNames properties names = .ok kept := by
    intro properties names
    induction names with
    | nil => exact fun _ => ⟨[], rfl⟩
    | cons name rest ih =>
      intro htexts
      obtain ⟨others, ho⟩ := ih fun n hm => htexts n (List.mem_cons_of_mem _ hm)
      obtain ⟨s, rfl⟩ := Schema.isText_iff.1 (htexts name (List.mem_cons_self ..))
      exact ⟨_, by rw [memberNames, ho]; rfl⟩
  unfold requiredNames
  split
  · exact ⟨[], rfl, by simp⟩
  · rw [hn, ok_bind]
    split
    · obtain ⟨found, hf⟩ := kept _ _ texts
      exact ⟨found, hf, fun name hm => texts name (mem_of_mem_memberNames hf hm)⟩
    · exact ⟨_, rfl, texts⟩

theorem within_isRequired (h : Orderly terms step) : Within E step.isRequired := by
  unfold isRequired
  split
  · exact within_ok
  · next tag fields hp _ =>
    have hw : WellFormed terms (.obj tag fields) := by
      rcases h.parent with hn | hw
      · rw [hn] at hp
        cases hp
      · exact hp ▸ hw
    obtain ⟨names, hn, -⟩ := requiredNames_spec hw.formed step.skips
    rw [hn]
    exact within_ok
  · exact within_ok

theorem within_missing (h : Orderly terms step) : Within E (step.missing value).result := by
  refine within_run_bind (within_isRequired h) fun required _ => ?_
  split
  · exact within_failWith
  · exact within_ok

/-! ## 3. Objects -/

theorem within_readMember (h : Orderly terms step) {name : Json} (hn : isText name = true) :
    Within E (step.readMember members name) :=
  Probe.within_read h.working.accessor hn

theorem within_propertySchema (h : Orderly terms step) {name : Json} (hn : isText name = true) :
    Within E (Probe.propertySchema (step.tableOrEmpty "properties") name) := by
  obtain ⟨_, properties, ht, -⟩ := h.exists_table "properties" rfl
  rw [ht]
  exact Probe.within_propertySchema hn

theorem within_withDefaults (h : Orderly terms step) (hn : ∀ name ∈ names, isText name = true) :
    Within E (step.withDefaults names members) := by
  induction names generalizing members with
  | nil => exact within_ok
  | cons name rest ih =>
    have text := hn name (List.mem_cons_self ..)
    have others := fun members => @ih members fun n hm => hn n (List.mem_cons_of_mem _ hm)
    refine within_bind (within_propertySchema h text) fun schema _ => ?_
    split
    · split
      · exact within_bind (within_readMember h text) fun found _ => others _
      · exact others _
    · exact others _

theorem within_absentNames (h : Orderly terms step) (hn : ∀ name ∈ names, isText name = true) :
    Within E (step.absentNames members names) := by
  induction names with
  | nil => exact within_ok
  | cons name rest ih =>
    have text := hn name (List.mem_cons_self ..)
    refine within_bind (within_readMember h text) fun found _ => ?_
    refine within_bind (within_propertySchema h text) fun schema _ => ?_
    exact within_bind (ih fun n hm => hn n (List.mem_cons_of_mem _ hm)) fun _ _ => within_ok

theorem within_resolveProperties (h : Orderly terms step) {missing : List Json}
    {properties : Fields} (hp : ∀ j s, (j, s) ∈ properties → WellFormed terms s) :
    Within (Excused terms)
      (step.resolveProperties working missing properties built).result := by
  induction properties generalizing built with
  | nil => exact within_ok
  | cons m rest ih =>
    obtain ⟨name, schema⟩ := m
    have others := fun built => @ih built fun j s hs => hp j s (List.mem_cons_of_mem _ hs)
    unfold resolveProperties
    split
    · exact others _
    · refine within_run_bind (within_readMember h rfl) fun found _ => ?_
      refine within_run_bind (h.descend (hp name schema (List.mem_cons_self ..)) _) fun outcome _ => ?_
      exact others _

theorem within_resolveDependents (h : Orderly terms step) {table : Fields}
    (hp : ∀ j s, (j, s) ∈ table → WellFormed terms s) :
    Within (Excused terms) (step.resolveDependents working table built).result := by
  induction table generalizing built with
  | nil => exact within_ok
  | cons m rest ih =>
    obtain ⟨trigger, schema⟩ := m
    have others := fun built => @ih built fun j s hs => hp j s (List.mem_cons_of_mem _ hs)
    unfold resolveDependents
    refine within_run_bind (within_readMember h rfl) fun found _ => ?_
    split
    · exact others _
    · refine within_run_bind (h.request (hp trigger schema (List.mem_cons_self ..)) _)
        fun outcome _ => ?_
      split <;> exact others _

theorem within_resolveMatching (h : Orderly terms step) {name : String} {patterns : Fields}
    (hp : ∀ j s, (j, s) ∈ patterns → terms.patterns j = true ∧ WellFormed terms s) :
    Within (Excused terms) (step.resolveMatching name patterns built).result := by
  induction patterns generalizing built with
  | nil => exact within_ok
  | cons m rest ih =>
    obtain ⟨pattern, schema⟩ := m
    have others := fun built => @ih built fun j s hs => hp j s (List.mem_cons_of_mem _ hs)
    obtain ⟨readable, formed⟩ := hp pattern schema (List.mem_cons_self ..)
    unfold resolveMatching
    refine within_run_bind (Probe.within_search h.working.engine readable) fun fits _ => ?_
    split
    · exact within_run_bind (h.descend formed _) fun outcome _ => others _
    · exact others _

theorem within_resolvePatterns (h : Orderly terms step) {properties : Fields}
    {names : List String} :
    Within (Excused terms) (step.resolvePatterns properties names built).result := by
  obtain ⟨_, patterns, ht, hp⟩ := h.exists_patterns
  induction names generalizing built with
  | nil => exact within_ok
  | cons name rest ih =>
    unfold resolvePatterns
    split
    · exact ih
    · refine within_lift_bind (by rw [ht]; rfl) ?_
      exact within_run_bind (within_resolveMatching h hp) fun _ _ => ih

theorem within_resolveUncovered (h : Orderly terms step) {additional : Json} {name : String}
    (ha : WellFormed terms additional) :
    Within (Excused terms) (step.resolveUncovered additional name built).result := by
  unfold resolveUncovered
  dsimp only
  split
  · exact within_ok
  · rw [Probe.expand_of_formed ha.formed]
    exact within_run_bind within_ok fun node hn => by
      cases hn
      exact within_run_bind (h.descend ha _) fun _ _ => within_ok

theorem within_resolveAllAdditional (h : Orderly terms step) :
    Within (Excused terms) (step.resolveAllAdditional working built).result := by
  have walk : ∀ additional, WellFormed terms additional → ∀ names built,
      Within (Excused terms) (step.resolveAdditional working additional names built).result := by
    intro additional ha names
    induction names with
    | nil => exact fun _ => within_ok
    | cons name rest ih =>
      intro built
      unfold resolveAdditional
      split
      · exact ih _
      · refine within_run_bind (Probe.within_isAdditional h.working.engine h.formed) fun uncovered _ => ?_
        cases uncovered with
        | true => exact within_run_bind (within_resolveUncovered h ha) fun _ _ => ih _
        | false => exact within_run_bind within_ok fun _ _ => ih _
  unfold resolveAllAdditional
  split
  · exact within_ok
  · exact within_ok
  · exact within_ok
  · next additional _ _ hk => exact walk additional (h.schema.schema rfl hk) _ _

theorem within_dependentIssues (h : Orderly terms step) :
    Within E (step.dependentIssues working) := by
  unfold dependentIssues
  split
  · exact within_ok
  · exact Probe.within_dependentIssues h.working.accessor h.formed

theorem within_builtNameIssues (h : Orderly terms step) :
    Within (Excused terms) (step.builtNameIssues members) :=
  Probe.within_nameIssues h.formed fun _ _ _ _ hs => Probe.within_issues h.working hs

/-- **The members of an object are resolved without faults.** -/
theorem within_resolveMembers (h : Orderly terms step) {value : Fields} :
    Within (Excused terms) (step.resolveMembers value).result := by
  obtain ⟨required, hreq, htexts⟩ := requiredNames_spec h.formed step.skips
  obtain ⟨_, properties, htp, hp⟩ := h.exists_table "properties" rfl
  obtain ⟨_, dependents, htd, hd⟩ := h.exists_table "dependentSchemas" rfl
  have size : Within (Excused terms) (Probe.memberCountIssues value.length step.fields step.path) :=
    Probe.within_memberCountIssues h.formed
  unfold resolveMembers
  refine within_run_bind size fun size _ => ?_
  refine within_lift_bind hreq ?_
  refine within_run_bind (within_withDefaults h htexts) fun working _ => ?_
  refine within_run_bind (within_absentNames h htexts) fun missing _ => ?_
  rw [noted_result]
  refine within_lift_bind (by rw [htp]; rfl) ?_
  refine within_run_bind (within_resolveProperties h hp) fun declared _ => ?_
  refine within_run_bind (within_dependentIssues h) fun dependent _ => ?_
  refine within_lift_bind (by rw [htd]; rfl) ?_
  refine within_run_bind (within_resolveDependents h hd) fun followed _ => ?_
  refine within_run_bind (within_resolvePatterns h) fun matched _ => ?_
  refine within_run_bind (within_resolveAllAdditional h) fun final _ => ?_
  refine within_run_bind (within_builtNameIssues h) fun names _ => ?_
  exact within_doneOrFail

/-! ## 4. Types -/

theorem within_string (h : Orderly terms step) : Within (Excused terms) step.string.result := by
  unfold string
  split
  · exact within_missing h
  · exact within_run_bind (Probe.within_stringIssues h.working.segmenter h.working.engine h.formed)
      fun issues _ => within_doneOrFail

theorem within_resolveItems (h : Orderly terms step) {i : Nat} {items : List Json}
    {built : BuiltItems} : Within (Excused terms) (step.resolveItems i items built).result := by
  induction items generalizing i built with
  | nil => exact within_ok
  | cons item rest ih =>
    refine within_run_bind ?_ fun _ _ => ih
    unfold resolveItem
    dsimp only
    split
    · exact within_ok
    · exact within_ok
    · exact within_ok
    · next s _ _ hs =>
      have hw : WellFormed terms s := h.schema.item hs
      split
      · exact within_run_bind (Probe.within_issues h.working hw.formed) fun _ _ => within_ok
      · refine within_run_bind (h.descend hw _) fun outcome _ => ?_
        split <;> exact within_ok

theorem within_array (h : Orderly terms step) : Within (Excused terms) step.array.result := by
  unfold array
  split
  · exact within_missing h
  · refine within_run_bind (Probe.within_listIssues h.formed fun x _ s path hs =>
      Probe.within_issues h.working hs) fun whole _ => ?_
    split
    · next hw => exact within_fail (by simpa using hw)
    · exact within_run_bind (within_resolveItems h) fun built _ => within_doneOrFail
  · exact within_failWith

theorem within_object (h : Orderly terms step) : Within (Excused terms) step.object.result := by
  unfold object
  split
  · refine within_run_bind (within_isRequired h) fun required _ => ?_
    split
    · exact within_failWith
    · refine within_run_bind (within_resolveMembers h) fun outcome _ => ?_
      split <;> exact within_ok
  · exact within_resolveMembers h
  · exact within_failWith

theorem within_ofKind (h : Orderly terms step) {kind : Kind} :
    Within (Excused terms) (step.ofKind kind).result := by
  cases kind with
  | null | boolean =>
    simp only [ofKind, null, boolean]
    split
    · exact within_ok
    · exact within_ok
    · exact within_failWith
  | number | integer =>
    simp only [ofKind, number]
    split
    · exact within_missing h
    · exact within_doneOrFail
  | string => exact within_string h
  | array => exact within_array h
  | object => exact within_object h

/-- **The type of a well-formed schema causes no faults.** -/
theorem within_typed (h : Orderly terms step) : Within (Excused terms) step.typed.result := by
  have text : ∀ type ∈ Schema.declaredTypes step.schema, isText type = true :=
    fun type => Probe.isText_of_mem_declaredTypes h.formed
  unfold typed
  split
  · split
    · exact within_ok
    · exact within_ofKind h
  · next type ht =>
    obtain ⟨s, rfl⟩ := Schema.isText_iff.1 (text type (ht ▸ List.mem_singleton_self type))
    unfold ofType
    dsimp only
    split
    · exact within_ofKind h
    · exact within_failWith
  · unfold ofTypes
    split
    · exact within_missing h
    · split
      · exact within_run_bind (Probe.within_typeNames text) fun _ _ => within_failWith
      · next kind _ =>
        have restricted : Orderly terms { step with
            tag := none, fields := Schema.restrict step.fields (.str kind.name) } :=
          ⟨h.working, h.schema.restrict, h.parent, h.again⟩
        exact within_ofKind restricted

/-! ## 5. Compositions -/

theorem within_conditional (h : Orderly terms step) {condition : Json}
    (hc : get? step.fields "if" = some condition) :
    Within (Excused terms) (step.conditional condition).result := by
  have base : WellFormed terms (step.without ["if", "then", "else"]) := h.without _
  have asked : Formed terms condition := (h.formed.get? hc).schema rfl
  refine within_run_bind (Probe.within_meets h.working asked) fun met _ => ?_
  dsimp only
  split
  · exact h.redirect base
  · exact h.redirect base
  · next branch _ hb =>
    have hw : WellFormed terms branch := by
      cases met <;> exact h.schema.schema rfl hb
    obtain ⟨effective, hm⟩ := Schema.merge_false_eq_ok base.formed hw.formed
    exact within_lift_bind hm (h.redirect (base.merge hw hm))

theorem wellFormed_plainPart {s : Json} (h : WellFormed terms s) :
    WellFormed terms (plainPart s) := by
  cases s with
  | obj tag fields => exact h.without
  | _ => exact h

theorem wellFormed_mergedPart {s : Json} (h : WellFormed terms s) :
    WellFormed terms (mergedPart s) := by
  unfold mergedPart
  split
  · exact wellFormed_plainPart h
  · exact h

/-- What has been made of members of `allOf` is well formed. -/
structure Flattened.Orderly (terms : Schema.Terms) (flat : Flattened) : Prop where
  merged : WellFormed terms flat.merged
  plain : ∀ s ∈ flat.plain, WellFormed terms s

theorem orderly_of_takesMember {member : Json} {flat flat' : Flattened}
    (hm : WellFormed terms member) (hf : flat.Orderly terms)
    (h : step.TakesMember member flat flat') : flat'.Orderly terms := by
  obtain ⟨hp, -, hmerge⟩ := h.spec
  have part := wellFormed_mergedPart hm
  refine ⟨hf.merged.merge part hmerge, fun s hs => ?_⟩
  rw [hp] at hs
  rcases List.mem_cons.1 hs with rfl | hs
  · exact part
  · exact hf.plain s hs

theorem orderly_of_chain {members : List Json} {flat flat' : Flattened}
    (hm : ∀ s ∈ members, WellFormed terms s) (hf : flat.Orderly terms)
    (h : Chain step.TakesMember members flat flat') : flat'.Orderly terms := by
  induction h with
  | nil => exact hf
  | cons first _ ih =>
    exact ih (fun s hs => hm s (List.mem_cons_of_mem _ hs))
      (orderly_of_takesMember (hm _ (List.mem_cons_self ..)) hf first)

theorem within_resolveMember (h : Orderly terms step) {member : Json}
    (hm : WellFormed terms member) {flat : Flattened} :
    Within (Excused terms) (step.resolveMember flat member).result := by
  refine within_run_bind (h.request hm _) fun outcome _ => ?_
  cases outcome <;> exact within_ok

/-- Resolving a member leaves what has been merged as it is. -/
theorem orderly_of_resolveMember {member : Json} {flat resolved : Flattened}
    (hf : flat.Orderly terms) (h : (step.resolveMember flat member).result = .ok resolved) :
    resolved.Orderly terms := by
  obtain ⟨outcome, -, h⟩ := Run.bind_result_eq_ok.1 h
  cases outcome <;> cases h <;> exact ⟨hf.merged, hf.plain⟩

/-- Merging a member is no fault, if flattening the members behind it is none. -/
theorem within_mergeMember {member : Json} (hm : WellFormed terms member) {rest : List Json}
    (others : ∀ flat : Flattened, flat.Orderly terms →
      Within (Excused terms) (step.flatten rest flat).result ∧
        ∀ issues, (step.flatten rest flat).result = .ok (.error issues) → issues ≠ [])
    (flat : Flattened) (hf : flat.Orderly terms) :
    Within (Excused terms) (step.mergeMember member rest flat).result ∧
      ∀ issues, (step.mergeMember member rest flat).result = .ok (.error issues) → issues ≠ [] := by
  unfold mergeMember
  cases hmerge : Schema.merge true flat.merged member with
  | ok merged =>
    refine others _ ⟨hf.merged.merge hm hmerge, fun s hs => ?_⟩
    rcases List.mem_cons.1 hs with rfl | hs
    · exact hm
    · exact hf.plain s hs
  | error fault =>
    obtain ⟨-, left, right, rfl⟩ := Schema.within_merge hf.merged.formed hm.formed fault hmerge
    refine ⟨within_ok, ?_⟩
    rintro _ ⟨⟩
    simp

/-- **The members of `allOf` are flattened without faults**: types that clash are an issue. -/
theorem within_flatten (h : Orderly terms step) {members : List Json}
    (hm : ∀ s ∈ members, WellFormed terms s) {flat : Flattened} (hf : flat.Orderly terms) :
    Within (Excused terms) (step.flatten members flat).result ∧
      ∀ issues, (step.flatten members flat).result = .ok (.error issues) → issues ≠ [] := by
  induction members generalizing flat with
  | nil => exact ⟨within_ok, nofun⟩
  | cons member rest ih =>
    have hmember := hm member (List.mem_cons_self ..)
    have merges := @within_mergeMember terms step _ (wellFormed_mergedPart hmember) rest
      fun flat hf => ih (fun s hs => hm s (List.mem_cons_of_mem _ hs)) hf
    rw [flatten_cons]
    split
    · refine ⟨within_run_bind (within_resolveMember h hmember) fun resolved hr =>
        (merges resolved (orderly_of_resolveMember hf hr)).1, fun issues hi => ?_⟩
      obtain ⟨resolved, hr, hi⟩ := Run.bind_result_eq_ok.1 hi
      exact (merges resolved (orderly_of_resolveMember hf hr)).2 issues hi
    · rw [pure_bind]
      exact merges flat hf

/-- **All of several schemas are resolved without faults.** -/
theorem within_allOf (h : Orderly terms step) {members : Json}
    (hk : get? step.fields "allOf" = some members) :
    Within (Excused terms) (step.allOf members).result := by
  have base : WellFormed terms (step.without ["allOf"]) := h.without _
  obtain ⟨_, entries, rfl, hentries⟩ := h.schema.schemas rfl hk
  have start : Flattened.Orderly terms
      ⟨step.value, step.without ["allOf"], [plainPart (step.without ["allOf"])], []⟩ :=
    ⟨base, fun s hs => List.mem_singleton.1 hs ▸ wellFormed_plainPart base⟩
  obtain ⟨hflatten, reported⟩ := within_flatten h hentries start
  unfold allOf
  refine within_lift_bind rfl ?_
  refine within_run_bind hflatten fun flattened hf => ?_
  cases flattened with
  | error issues => exact within_fail (reported issues hf)
  | ok flat =>
    have orderly : flat.Orderly terms := orderly_of_chain hentries start (flatten_result.1 hf)
    refine within_run_bind (h.request orderly.merged _) fun outcome _ => ?_
    split
    · next hi => exact within_fail fun hn => by simp [(List.append_eq_nil_iff.1 hn).1] at hi
    · split
      · exact within_ok
      · refine within_run_bind (Probe.within_gather fun s hs => ?_) fun issues _ =>
          within_doneOrFail
        exact Probe.within_issues? h.working (orderly.plain s (List.mem_reverse.1 hs)).formed

theorem within_anyOf (h : Orderly terms step) {branches : Json}
    (hk : get? step.fields "anyOf" = some branches) :
    Within (Excused terms) (step.anyOf branches).result := by
  have base : WellFormed terms (step.without ["anyOf"]) := h.without _
  obtain ⟨_, entries, rfl, hentries⟩ := h.schema.schemas rfl hk
  have probed : ∀ (x : Json) (branches : List Json) (found : List Issue),
      (∀ s ∈ branches, WellFormed terms s) →
      Within (Excused terms) (step.probeBranches x branches found) := by
    intro x branches
    induction branches with
    | nil => exact fun _ _ => within_ok
    | cons branch rest ih =>
      intro found hb
      have formed := (hb branch (List.mem_cons_self ..)).formed
      refine within_bind (Probe.within_issues h.working formed) fun issues _ => ?_
      split
      · exact within_ok
      · exact ih _ fun s hs => hb s (List.mem_cons_of_mem _ hs)
  simp only [anyOf]
  split
  · exact h.redirect base
  · refine within_lift_bind rfl (within_run_bind (probed _ _ _ hentries) fun found _ => ?_)
    split
    · exact h.redirect base
    · split
      · exact within_ok
      · exact within_fail (List.cons_ne_nil _ _)

/-- The issues of the branches, one list for each. -/
theorem branchIssues_length {x : Json} {branches : List Json} {outcomes : List (List Issue)}
    (h : step.branchIssues x branches = .ok outcomes) : outcomes.length = branches.length := by
  induction branches generalizing outcomes with
  | nil =>
    cases h
    rfl
  | cons branch rest ih =>
    simp only [branchIssues, bind_eq_ok] at h
    obtain ⟨issues, -, others, ho, h⟩ := h
    cases h
    rw [List.length_cons, List.length_cons, ih ho]

/-- Where no branch passes there are issues of each. -/
theorem ne_nil_of_passingBranches {branches : List Json} {outcomes : List (List Issue)}
    (hl : outcomes.length = branches.length) (hp : passingBranches branches outcomes = []) :
    ∀ issues ∈ outcomes, issues ≠ [] := by
  induction branches generalizing outcomes with
  | nil =>
    cases outcomes with
    | nil => exact fun _ hm => nomatch hm
    | cons issues rest => cases hl
  | cons branch rest ih =>
    cases outcomes with
    | nil => cases hl
    | cons issues others =>
      simp only [passingBranches, List.zip_cons_cons, List.filterMap_cons] at hp
      split at hp
      · next hi =>
        intro found hm
        rcases List.mem_cons.1 hm with rfl | hm
        · rintro rfl
          simp at hi
        · exact ih (by simpa using hl) hp found hm
      · cases hp

theorem within_oneOf (h : Orderly terms step) {branches : Json}
    (hk : get? step.fields "oneOf" = some branches) :
    Within (Excused terms) (step.oneOf branches).result := by
  have base : WellFormed terms (step.without ["oneOf"]) := h.without _
  obtain ⟨_, entries, rfl, hentries⟩ := h.schema.schemas rfl hk
  have probed : ∀ (x : Json) (branches : List Json), (∀ s ∈ branches, WellFormed terms s) →
      Within (Excused terms) (step.branchIssues x branches) := by
    intro x branches
    induction branches with
    | nil => exact fun _ => within_ok
    | cons branch rest ih =>
      intro hb
      have formed := (hb branch (List.mem_cons_self ..)).formed
      refine within_bind (Probe.within_issues h.working formed) fun issues _ => ?_
      exact within_bind (ih fun s hs => hb s (List.mem_cons_of_mem _ hs)) fun _ _ => within_ok
  simp only [oneOf]
  split
  · exact h.redirect base
  · refine within_lift_bind rfl (within_run_bind (probed _ _ hentries) fun outcomes ho => ?_)
    split
    · next branch hb =>
      have hw := hentries branch (mem_of_mem_passingBranches (hb ▸ List.mem_singleton_self branch))
      split
      · next effective hm => exact h.redirect (base.merge hw hm)
      · exact within_failBelow
      · next fault hn hm =>
        obtain ⟨-, left, right, rfl⟩ := Schema.within_merge base.formed hw.formed fault hm
        exact absurd rfl (hn left right)
    · exact within_ok
    · next hp _ =>
      split
      · exact within_failBelow
      · unfold noneOfOne
        split
        · next issues hi =>
          obtain ⟨i, -, hi⟩ := Option.bind_eq_some_iff.1 hi
          exact within_fail (ne_nil_of_passingBranches (branchIssues_length ho) hp issues
            (List.mem_of_getElem? hi))
        · exact within_fail (by simp)
    · exact within_failBelow

theorem within_not (h : Orderly terms step) {negated : Json}
    (hk : get? step.fields "not" = some negated) :
    Within (Excused terms) (step.not negated).result := by
  have base : WellFormed terms (step.without ["not"]) := h.without _
  have hw : WellFormed terms negated := h.schema.schema rfl hk
  simp only [not]
  split
  · exact h.redirect base
  · refine within_run_bind (Probe.within_issues h.working hw.formed) fun issues _ => ?_
    split
    · split
      · refine within_run_bind (h.again _ _ ⟨⟨negated, rfl, hw⟩, h.parent⟩) fun _ _ => ?_
        exact within_failBelow
      · exact within_failBelow
    · exact h.redirect base

/-! ## 6. Steps -/

/-- **A step at a well-formed schema stops only with excused faults**, if what it asks for does. -/
theorem within_run (h : Orderly terms step) : Within (Excused terms) step.run.result := by
  have filled : Orderly terms { step with value := step.filled } :=
    ⟨h.working, h.schema, h.parent, h.again⟩
  have pinned : Within (Excused terms) ({ step with value := step.filled } : Step).pinIssues := by
    unfold pinIssues
    split
    · exact within_ok
    · split
      · exact within_ok
      · exact Probe.within_pinIssues h.formed
  unfold run
  dsimp only
  refine within_run_bind pinned fun issues _ => ?_
  split
  · unfold dispatch
    split
    · next hk => exact within_conditional filled hk
    · next hk => exact within_allOf filled hk
    · next hk => exact within_anyOf filled hk
    · next hk => exact within_oneOf filled hk
    · next hk => exact within_not filled hk
    · exact within_typed filled
  · next hi => exact within_fail (by simpa using hi)

end Step

/-- **A resolution at a well-formed schema stops only with excused faults.** -/
theorem within_resolve {terms : Schema.Terms} {setting : Probe.Setting} (hw : setting.Working terms)
    (guard : Guard) (request : Request) (hc : Clear terms request) :
    Within (Excused terms) (resolve setting guard request).result := by
  obtain ⟨s, hs, formed⟩ := hc.schema
  rw [resolve]
  split
  · exact within_fail (List.cons_ne_nil _ _)
  · next deep =>
    have again : ∀ extension next, Clear terms next →
        Within (Excused terms) (resolve setting (guard.enter extension) next).result :=
      fun extension next hn => within_resolve hw (guard.enter extension) next hn
    unfold resolveStep
    rw [hs]
    cases s with
    | bool b =>
      cases b with
      | true => exact within_ok
      | false =>
        dsimp only
        split
        · exact within_ok
        · exact within_fail (List.cons_ne_nil _ _)
    | obj tag fields => exact Step.within_run ⟨hw, formed, hc.parent, again⟩
    | _ => cases formed.formed
termination_by guard.rank
decreasing_by exact Guard.rank_enter_lt ‹_› extension

end Resolve

/-! ## 7. Whole values -/

/-- An outcome with issues, if it has not come out with a value, is reported as one. -/
theorem Resolve.reportedOutcome_eq_ok {outcome : Outcome} (h : outcome ≠ .failed [])
    (notes : List Issue) : ∃ reported, reportedOutcome notes outcome = .ok reported ∧
      ∀ issues, reported = .failed issues → issues ≠ [] := by
  cases outcome with
  | resolved y => exact ⟨_, rfl, nofun⟩
  | failed issues =>
    have found : notes ++ issues ≠ [] := by
      rintro hn
      exact h (congrArg Outcome.failed (List.append_eq_nil_iff.1 hn).2)
    have reported := Issue.reported_ne_nil found
    simp only [reportedOutcome]
    cases hr : Issue.reported (notes ++ issues) with
    | nil => exact absurd hr reported
    | cons issue rest =>
      refine ⟨_, rfl, ?_⟩
      rintro _ ⟨⟩
      exact List.cons_ne_nil issue rest

/-- A well-formed schema and a value, both without numbers of too many digits to be printed: such a number is
a fault wherever its text is asked for, as in a comparison with a constant. -/
structure Workable (terms : Schema.Terms) (schema : Json) (value : Option Json) : Prop where
  wellFormed : WellFormed terms schema
  schema_printable : schema.isPrintable Number.digitLimit = true
  value_printable : ∀ x, value = some x → x.isPrintable Number.digitLimit = true

/-- **Work on a well-formed schema ends**, if the engine reads its patterns: a value is resolved, or refused
for at least one reason, and it has its issues.  The exception is an address with a digit whose value is
not known, if the schema asks for addresses. -/
theorem ends_of_wellFormed {terms : Schema.Terms} {schema : Json} {value : Option Json}
    {options : Options} (workable : Workable terms schema value) (ha : options.accessor = .direct)
    (hg : options.segmenter.Counts) (reads : options.engine.Reads terms.patterns) :
    ((∃ outcome, resolveValues schema value options = .ok outcome ∧
        ∀ issues, outcome = .failed issues → issues ≠ []) ∨
      terms.formats "ipv4" = true ∧ resolveValues schema value options = .error .badDigit) ∧
    ((∃ issues, validateValue value schema options = .ok issues) ∨
      terms.formats "ipv4" = true ∧ validateValue value schema options = .error .badDigit) := by
  have hs := workable.wellFormed
  have working : Probe.Setting.Working terms ⟨options, schema⟩ := ⟨ha, hg, reads⟩
  have clear : Resolve.Clear terms (Resolve.wholeRequest schema value) :=
    ⟨⟨schema, rfl, hs⟩, .inl rfl⟩
  constructor
  · obtain ⟨notes, he⟩ := resolveValues_eq schema value options
    rw [he]
    cases hr : (Resolve.resolveAt ⟨options, schema⟩ (Resolve.wholeRequest schema value)).result with
    | error fault =>
      obtain ⟨rfl, hf⟩ := Resolve.within_resolve working _ _ clear fault hr
      exact .inr ⟨hf, rfl⟩
    | ok outcome =>
      have honest : outcome ≠ .failed [] := fun ho =>
        Resolve.honest_resolve _ _ _ (ho ▸ hr)
      exact .inl (Resolve.reportedOutcome_eq_ok honest notes)
  · cases hv : validateValue value schema options with
    | error fault =>
      obtain ⟨rfl, hf⟩ := Probe.within_issues? working hs.formed fault hv
      exact .inr ⟨hf, rfl⟩
    | ok issues => exact .inl ⟨issues, rfl⟩

/-- A schema with a condition on a member, compositions that contradict each other, patterns, a tuple,
schemas that depend on members and a format, none of which any value need satisfy. -/
def thorough : Json := .obj none [
  ("type", .arr none [.str "object", .str "array", .str "string"]),
  ("if", .obj none [("properties", .obj none [("size", .obj none [("minimum", .num (.int 3)),
    ("exclusiveMaximum", .bool true)])])]),
  ("then", .obj none [("allOf", .arr none [
    .obj none [("type", .str "integer")], .obj none [("type", .str "null")]])]),
  ("else", .obj none [("oneOf", .arr none [
    .bool true, .obj none [("required", .arr none [.str "name", .str "none"])]])]),
  ("properties", .obj none [
    ("name", .obj none [("format", .str "email"), ("pattern", .str "^\\w+@")]),
    ("size", .obj none [("type", .str "number"), ("multipleOf", .num (.int 2))])]),
  ("patternProperties", .obj none [("^x", .obj none [("contains", .bool true),
    ("minContains", .num (.int 2))])]),
  ("dependentRequired", .obj none [("size", .arr none [.str "name"])]),
  ("dependentSchemas", .obj none [("name", .obj none [("minProperties", .num (.int 2))])]),
  ("not", .obj none [("required", .arr none [.str "other"])]),
  ("items", .arr none [.bool false, .obj none [("enum", .arr none [.null])]]),
  ("additionalItems", .bool false),
  ("propertyNames", .obj none [("maxLength", .num (.int 8))]),
  ("additionalProperties", .obj none [("anyOf", .arr none [])])]

/-- A value with something for each of its keywords. -/
def various : Json := .obj none [
  ("size", .num (.int 4)), ("xs", .arr none [.num (.int 1), .null]), ("name", .str "a@b.c"),
  ("rest", .bool true)]

theorem ends_of_wellFormed_thorough :
    Workable ⟨(· != "ipv4"), Pattern.isPattern⟩ thorough (some various) ∧
      (∃ outcome, resolveValues thorough (some various) Options.default = .ok outcome ∧
        ∀ issues, outcome = .failed issues → issues ≠ []) ∧
      ∃ issues, validateValue (some various) thorough Options.default = .ok issues := by
  have workable : Workable ⟨(· != "ipv4"), Pattern.isPattern⟩ thorough (some various) := by
    refine ⟨⟨by decide +kernel, by decide +kernel⟩, by decide +kernel, ?_⟩
    rintro _ ⟨⟩
    decide +kernel
  have unasked : ¬("ipv4" != "ipv4") = true := by decide
  obtain ⟨resolved, validated⟩ :=
    @ends_of_wellFormed _ thorough (some various) Options.default workable rfl
      Segmenter.counts_clusters Pattern.Engine.reads_standard
  exact ⟨workable, resolved.resolve_right fun h => unasked h.1,
    validated.resolve_right fun h => unasked h.1⟩

end Conform
