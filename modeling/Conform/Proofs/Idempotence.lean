/-
# Filling in comes to rest

What a filling schema makes of a value it makes of the result again, member by member and in the same
order (`resolveValues_again`).  Whatever can be put in the place of something absent has to be found
again as it is: a default or a constant, the false of a missing boolean, a null, or an object that was
built from nothing.

That needs two things of every resolution on the way (`Settling`).  Asked again with what came out, it
gives just this; and what came out does not count as missing, unless nothing went in and nothing came
out (`Present`).  The second is what keeps the next run from filling in anything else.  A step passes
both on: by its type (`Rests`), after its value has been filled in and compared.  For an object the
stages of the next run are read off the stages of the first (`Passage`): each property and each
additional member had its turn with a member of its own, so it may be asked again with what it left.
The rank of the guard closes the induction.
-/
import Conform.Proofs.Filling
import Conform.Proofs.Lossless
import Conform.Proofs.Turns

namespace Conform

open Fields (get?)
open Schema (Wholly Filling Lone Decides isPinned scalarKinds)

namespace Resolve

/-! ## 1. What resolutions promise -/

/-- **A request for a filling schema** and a proper value, which is only missing inside a container. -/
structure Fillable (request : Request) : Prop where
  filling : ∀ s, request.schema = .node s → Wholly Filling s
  proper : ∀ x, request.value = some x → x.Proper
  inner : request.parent.isObject = true ∨ ∃ x, request.value = some x ∧ x ≠ .null
  plain : request.negated = false

/-- **Resolutions that settle**: asked again with what came out, they give just this. -/
def Settling (again : Again) : Prop :=
  ∀ extension request w, Fillable request →
    (again extension request).result = .ok (.resolved w) →
    (again extension { request with value := w }).result = .ok (.resolved w) ∧
      ∀ s, request.schema = .node s → Present s request.value w

/-- The step with another value. -/
abbrev Step.given (step : Step) (value : Option Json) : Step := { step with value := value }

/-- A step at a filling schema, whose further resolutions settle. -/
structure Filler (step : Step) : Prop where
  ready : Ready True Lone Lone step
  filling : Wholly Filling step.schema
  inner : step.parent.isObject = true ∨ ∃ x, step.value = some x ∧ x ≠ .null
  plain : step.negated = false
  settling : Settling step.again

namespace Filler

variable {step : Step} {value w : Option Json} {s x y : Json} {key : Json}

theorem regular (h : Filler step) : Regular step :=
  ⟨h.ready.tame.accessor, h.filling.proper, h.plain, h.ready.honest⟩

theorem sound (h : Filler step) (hv : step.value = some x) : Sound True x := h.ready.value x hv

/-- **Something inside the value settles.** -/
theorem descend (h : Filler step) (hs : Wholly Filling s) (hv : ∀ x, value = some x → x.Proper)
    (hr : (step.descend key (.node s) value).result = .ok (.resolved w)) :
    (step.descend key (.node s) w).result = .ok (.resolved w) ∧ Present s value w := by
  have fillable : Fillable ⟨.node s, value, step.schema, key, step.negated⟩ :=
    ⟨fun _ e => by cases e; exact hs, hv, .inl rfl, h.plain⟩
  obtain ⟨hagain, hpresent⟩ := h.settling _ _ w fillable hr
  exact ⟨hagain, hpresent s rfl⟩

/-! ## 2. Objects -/

section Objects

open Step (Passage otherMembers)

variable {tag : Tag} {members : Fields} {name : String}

variable (h : Filler step) (hv : Sound True (.obj tag members)) (c : Passage step members)

include h

/-- No other schema looks at what has been gathered. -/
theorem matched_eq : c.matched = ⟨c.gathered, []⟩ := by
  have hdependents : c.dependents = [] :=
    Except.ok.inj (c.dependents_eq.symm.trans
      (Step.membersOf_of_lacks (h.filling.here.lacks (by decide))))
  have hfollowed : c.followed = ⟨c.gathered, []⟩ := by
    have hf := c.follows
    rw [hdependents, Chain.nil_iff] at hf
    exact hf
  have unmatched : ∀ name b b', step.TakesName c.properties name b b' → b' = b := by
    rintro name b b' (⟨-, rfl⟩ | ⟨-, patterns, hp, hc⟩)
    · rfl
    · rw [Step.membersOf_of_lacks (h.filling.here.lacks (by decide))] at hp
      cases hp
      exact Chain.nil_iff.1 hc
  have hkept : c.matched = c.followed :=
    c.matches_.keeps (P := fun b => b = c.followed)
      (fun name _ b b' ht hb => (unmatched name b b' ht).trans hb) rfl
  rw [hkept, hfollowed]

theorem missing_eq : c.missing = [] := c.reported h.plain

/-- The additional members stay where they are. -/
theorem names_final : Fields.names c.final.members = Fields.names c.gathered := by
  rcases c.adds with ⟨-, he⟩ | ⟨additional, -, -, -, hc⟩
  · rw [he, h.matched_eq c]
  · rw [h.matched_eq c] at hc
    have kept : ∀ name ∈ Fields.names c.gathered, ∀ b b',
        step.TakesAdditional c.working additional name b b' →
        Fields.names b.members = Fields.names c.gathered →
        Fields.names b'.members = Fields.names c.gathered := by
      intro name hn b b' ht hb
      rw [← hb] at hn
      exact (ht.names_eq hn).trans hb
    exact hc.keeps (P := fun b => Fields.names b.members = Fields.names c.gathered) kept rfl

include hv

theorem working_sound : Preserved True members c.working := h.ready.keeps_working hv c.working_eq

theorem get?_gathered (k : String) : get? c.gathered k =
    if k ∈ Fields.names c.properties then get? c.declared.members k else get? c.working k :=
  c.get?_gathered h.regular (h.working_sound hv c).distinct k

theorem gathered_sound : Preserved True members c.gathered := by
  have hg := h.ready.passes_matched hv c
  rw [h.matched_eq c] at hg
  exact hg

/-- Each name had its turn with its own member, where something is said about additional ones. -/
theorem final_turn {additional : Json}
    (ha : get? step.fields "additionalProperties" = some additional) (hnull : additional ≠ .null)
    (htrue : additional ≠ .bool true) (hk : name ∈ Fields.names c.gathered) :
    ∃ u v, step.TakesAdditional c.working additional name u v ∧ v.issues = [] ∧
      get? u.members name = get? c.gathered name ∧
      get? v.members name = get? c.final.members name := by
  have hm := h.matched_eq c
  have hd : Fields.Distinct c.matched.members := by
    rw [hm]
    exact (h.gathered_sound hv c).distinct
  rcases c.final_turn hd with ⟨hnone, -⟩ | ⟨other, ho, -, -, -, hin⟩
  · simp [ha, hnull, htrue] at hnone
  · obtain rfl : other = additional := Option.some.inj (ho.symm.trans ha)
    rw [hm] at hin
    exact hin name hk

/-- Under a declared name there is in the end what the property made of it. -/
theorem get?_final (hk : name ∈ Fields.names c.properties) :
    get? c.final.members name = get? c.declared.members name := by
  have hm := h.matched_eq c
  have hd : Fields.Distinct c.matched.members := by
    rw [hm]
    exact (h.gathered_sound hv c).distinct
  rw [c.get?_final_of_covered hd (Step.isAdditional_of_declared c.properties_eq hk), hm,
    h.get?_gathered hv c, if_pos hk]

/-- **A declared property settles**, on what there is in the end. -/
theorem property_settles (hm : (name, s) ∈ c.properties) :
    (step.descend (.str name) (.node s) (get? c.working name)).result =
        .ok (.resolved (get? c.final.members name)) ∧
      (step.descend (.str name) (.node s) (get? c.final.members name)).result =
        .ok (.resolved (get? c.final.members name)) ∧
      Present s (get? c.working name) (get? c.final.members name) := by
  obtain ⟨w, ho, hw⟩ := (c.declared_spec h.regular).2 name s hm
  rw [h.get?_final hv c (Fields.mem_names_of_mem hm), hw]
  have hs := Ready.wholly_of_table h.filling (by simp) c.properties_eq hm
  have hproper : ∀ x, get? c.working name = some x → x.Proper := fun x hx =>
    ((h.working_sound hv c).sound name x hx).proper
  exact ⟨ho, h.descend hs hproper ho⟩

/-- **Every required name is there in the end.** -/
theorem required_there : ∀ k ∈ c.required, step.HasRequired c.final.members k := by
  refine c.required_stays h.regular (fun name s hm ha => ?_) fun name hp hn => ?_
  · obtain ⟨-, -, hpresent⟩ := h.property_settles hv c hm
    obtain ⟨y, hy, hthere⟩ := hpresent.of_there ha
    rw [hy]
    exact hthere
  · rw [h.names_final c]
    refine Classical.byContradiction fun hn' => ?_
    have hnone := Fields.get?_eq_none_iff.2 hn'
    rw [h.get?_gathered hv c, if_neg hp] at hnone
    exact Fields.get?_eq_none_iff.1 hnone hn

/-- The declared properties with the others behind them are all there is. -/
theorem gathered_again :
    Fields.union c.declared.members (otherMembers c.properties c.final.members) =
      c.final.members := by
  have hdeclared := (c.declared_spec h.regular).1
  have hd : Fields.Distinct c.final.members := (h.ready.passes_final hv c).distinct
  refine (Fields.eq_of_get? ?_ hd fun k => ?_).symm
  · have front : ∀ k ∈ Fields.names c.declared.members, Fields.has c.properties k = true := by
      intro k hk
      refine Fields.has_iff.2 (Classical.byContradiction fun hp => ?_)
      exact Fields.get?_eq_none_iff.1 (hdeclared k hp) hk
    have nothing : (Fields.names c.declared.members).filter
        (fun k => !Fields.has c.properties k) = [] :=
      List.filter_eq_nil_iff.2 fun k hk => by simp [front k hk]
    rw [Step.names_union_otherMembers hd hdeclared, h.names_final c,
      Step.names_union_otherMembers (h.working_sound hv c).distinct hdeclared, List.filter_append,
      nothing, List.nil_append, List.filter_filter]
    simp only [Bool.and_self]
  · rw [Step.get?_union_otherMembers hd hdeclared]
    split
    · next hk => exact h.get?_final hv c hk
    · rfl

/-- **An additional member settles**: asked for again, it stays. -/
theorem additional_again {additional : Json}
    (ha : get? step.fields "additionalProperties" = some additional) (hnull : additional ≠ .null)
    (htrue : additional ≠ .bool true) (hk : name ∈ Fields.names c.final.members) :
    (step.given value).TakesAdditional c.final.members additional name ⟨c.final.members, []⟩
      ⟨c.final.members, []⟩ := by
  have hhas := Fields.has_iff.2 hk
  rw [h.names_final c] at hk
  by_cases hp : name ∈ Fields.names c.properties
  · exact .inr ⟨hhas, false, Step.isAdditional_of_declared c.properties_eq hp, rfl⟩
  obtain ⟨u, v, ht, hi, hu, hv'⟩ := h.final_turn hv c ha hnull htrue hk
  rcases ht with ⟨hn, -⟩ | ⟨-, uncovered, hadditional, ht⟩
  · -- what is no property comes from the value
    have hnone := Fields.has_eq_false_iff.1 hn
    have hg := h.get?_gathered hv c name
    rw [if_neg hp, hnone] at hg
    exact absurd hk (Fields.get?_eq_none_iff.1 hg)
  refine .inr ⟨hhas, uncovered, hadditional, ?_⟩
  cases uncovered with
  | false => rfl
  | true =>
    have hs : Wholly Filling additional := h.filling.part ha (List.mem_singleton_self _)
    have hself : Reference.expand step.setting.options.source step.setting.root additional =
        .ok (some (.node additional)) := Step.expand_of_lone (·.lone) hnull hs
    obtain ⟨hf, w, rfl, ho⟩ := h.ready.resolved_of_uncovered hself ht hi
    rw [hu] at ho
    have hproper : ∀ x, get? c.gathered name = some x → x.Proper := fun x hx =>
      ((h.gathered_sound hv c).sound name x hx).proper
    obtain ⟨hagain, -⟩ := h.descend hs hproper ho
    rw [Built.get?_take, hu] at hv'
    have hstays : (step.descend (.str name) (.node additional)
        (get? c.final.members name)).result = .ok (.resolved w) ∧
        (w = none ∨ get? c.final.members name = w) := by
      cases w with
      | none =>
        rw [← hv']
        exact ⟨ho, .inl rfl⟩
      | some y =>
        rw [← hv']
        exact ⟨hagain, .inr rfl⟩
    have hsame : Built.take ⟨c.final.members, []⟩ name (.resolved w) = ⟨c.final.members, []⟩ :=
      Built.take_of_get? hstays.2
    have taken : (step.given value).TakesUncovered additional name ⟨c.final.members, []⟩ _ :=
      .resolved hf hself hstays.1
    rw [hsame] at taken
    exact taken

/-- **The stages of an object, run on what they gave.** -/
theorem exists_passage_again : ∃ again : Passage (step.given value) c.final.members,
    again.final.members = c.final.members := by
  have declares : Chain ((step.given value).TakesProperty c.final.members []) c.properties ⟨[], []⟩
      c.declared := by
    refine c.declares.imp ?_
    rintro ⟨name, s⟩ hm b b' (⟨hl, -⟩ | ⟨-, found, outcome, hf, ho, rfl⟩)
    · rw [h.missing_eq c] at hl
      cases hl
    · rw [h.ready.readMember_str] at hf
      cases hf
      obtain ⟨hfirst, hagain, -⟩ := h.property_settles hv c hm
      obtain rfl := Except.ok.inj (ho.symm.trans hfirst)
      exact .inr ⟨rfl, _, _, h.ready.readMember_str, hagain, rfl⟩
  have adds : (step.given value).TakesAllAdditional c.final.members ⟨c.final.members, []⟩
      ⟨c.final.members, []⟩ := by
    rcases c.adds with ⟨hnone, -⟩ | ⟨additional, ha, hnull, htrue, -⟩
    · exact .inl ⟨hnone, rfl⟩
    · exact .inr ⟨additional, ha, hnull, htrue, .still fun name hk =>
        h.additional_again hv c ha hnull htrue hk⟩
  have unmatched : Chain ((step.given value).TakesName c.properties) (Fields.names c.final.members)
      ⟨c.final.members, []⟩ ⟨c.final.members, []⟩ := by
    refine .still fun name _ => ?_
    by_cases hp : Fields.has c.properties name = true
    · exact .inl ⟨hp, rfl⟩
    · exact .inr ⟨Bool.eq_false_iff.2 hp, [],
        Step.membersOf_of_lacks (h.filling.here.lacks (by decide)), .nil⟩
  have hrequired : ∀ k ∈ c.required, (step.given value).HasRequired c.final.members k :=
    h.required_there hv c
  refine ⟨{
    required := c.required
    missing := []
    working := c.final.members
    properties := c.properties
    dependents := []
    declared := c.declared
    followed := ⟨c.final.members, []⟩
    matched := ⟨c.final.members, []⟩
    final := ⟨c.final.members, []⟩
    size_eq := Probe.memberCountIssues_of_filling h.filling.here _
    required_eq := c.required_eq
    working_eq := Step.withDefaults_of_there hrequired
    missing_eq := Step.absentNames_eq_nil_iff.2 hrequired
    reported := fun _ => rfl
    properties_eq := c.properties_eq
    declares := declares
    declared_issues := c.declared_issues
    dependent_eq := Step.dependentIssues_of_filling h.filling.here _
    dependents_eq := Step.membersOf_of_lacks (h.filling.here.lacks (by decide))
    follows := by rw [h.gathered_again hv c]; exact .nil
    followed_issues := rfl
    matches_ := unmatched
    matched_issues := rfl
    adds := adds
    final_issues := rfl
    names_eq := c.names_eq }, rfl⟩

omit c

/-- **What comes out of an object comes out of it again.** -/
theorem members_again (hr : (step.resolveMembers members).result = .ok (.resolved w)) :
    ∃ m, w = some (.obj none m) ∧ ((step.given w).resolveMembers m).result = .ok (.resolved w) := by
  obtain ⟨c, rfl⟩ := Step.exists_passage hr
  have hagain : ∃ again : Passage (step.given (some (.obj none c.final.members))) c.final.members,
      again.final.members = c.final.members := h.exists_passage_again hv c
  obtain ⟨again, he⟩ := hagain
  have hresult := again.result
  rw [he] at hresult
  exact ⟨c.final.members, rfl, hresult⟩

end Objects

/-! ## 3. Lists -/

/-- What becomes of an item becomes of itself. -/
theorem becomesItem_again (h : Filler step) {i : Nat} (hx : x.Proper)
    (hb : step.BecomesItem i x y) : (step.given value).BecomesItem i y y := by
  cases hb with
  | kept hs => exact .kept hs
  | @resolved schema out hs hbool hnull ho =>
    have hschema : Wholly Filling schema := Ready.wholly_of_itemSchema h.filling hs
    obtain ⟨hagain, hpresent⟩ := h.descend hschema (fun _ e => by cases e; exact hx) ho
    rw [Step.isStrayNull_eq] at hnull
    obtain ⟨z, rfl, hz⟩ := hpresent.of_there hnull
    rw [← Step.isStrayNull_eq] at hz
    have taken : (step.given value).BecomesItem i z ((some z).getD .null) :=
      .resolved hs hbool hz hagain
    exact taken

/-- What becomes of a list, item by item, becomes of itself. -/
theorem becomesItems_again (h : Filler step) {xs ys : List Json} {i : Nat}
    (hx : ∀ x ∈ xs, x.Proper)
    (hb : List.Forall₂ (fun entry => step.BecomesItem entry.2 entry.1) (xs.zipIdx i) ys) :
    List.Forall₂ (fun entry => (step.given value).BecomesItem entry.2 entry.1) (ys.zipIdx i) ys := by
  induction xs generalizing i ys with
  | nil =>
    cases hb
    exact .nil
  | cons x xs ih =>
    rw [List.zipIdx_cons] at hb
    cases hb with
    | @cons _ y _ ys first rest =>
      rw [List.zipIdx_cons]
      exact .cons (h.becomesItem_again (hx x (List.mem_cons_self ..)) first)
        (ih (fun z hz => hx z (List.mem_cons_of_mem _ hz)) rest)

/-- **What comes out of a list comes out of it again.** -/
theorem array_again (h : Filler step) {tag : Tag} {items : List Json}
    (hv : step.value = some (.arr tag items))
    (hr : step.array.result = .ok (.resolved w)) :
    ∃ ys, w = some (.arr none ys) ∧ (step.given w).array.result = .ok (.resolved w) := by
  obtain ⟨hwhole, ys, hys, rfl⟩ := (Step.array_resolved_iff h.ready.honest hv).1 hr
  have hlength : items.length = ys.length := by
    have hl := hys.length_eq
    rwa [List.length_zipIdx] at hl
  have hproper : ∀ x ∈ items, x.Proper := fun x hx => ((h.sound hv).of_mem_items hx).proper
  have honest : ∀ extension request,
      Honest ((step.given (some (.arr none ys))).again extension request) := h.ready.honest
  refine ⟨ys, rfl, (Step.array_resolved_iff honest rfl).2
    ⟨?_, ys, h.becomesItems_again hproper hys, rfl⟩⟩
  rw [← hwhole]
  have hunique : get? step.fields "uniqueItems" = none := h.filling.here.lacks (by decide)
  refine (Probe.listIssues_of_length_eq ?_ (h.filling.here.lacks (by decide)) hlength).symm
  rw [hunique]
  rfl

/-! ## 4. Kinds -/

/-- **What comes out of a kind**: it is of this kind and has the shape of the value that went in, it is
this value where the kind is that of a scalar, and it comes out again. -/
structure Comes (step : Step) (kind : Kind) (y : Json) : Prop where
  again : ((step.given (some y)).ofKind kind).result = .ok (.resolved (some y))
  fits : kind.fits y = true
  shape : ∀ x, step.value = some x → Json.SameShape x y
  scalar : kind ∈ scalarKinds → step.value = some y

/-- A step that is given its own value is the same step. -/
theorem given_eq (hv : step.value = value) : step.given value = step := by
  subst hv
  rfl

/-- A scalar that comes out as it went in comes out again. -/
theorem comes_of_done {kind : Kind} (hv : step.value = some x) (hf : kind.fits x = true)
    (hr : (step.ofKind kind).result = .ok (.resolved (some x))) : Comes step kind x where
  again := by
    rw [given_eq hv]
    exact hr
  fits := hf
  shape z hz := by
    cases hv.symm.trans hz
    exact .same
  scalar _ := hv

/-- A missing value is one of a container. -/
theorem parent_isObject (h : Filler step) (hv : step.value = none) : step.parent.isObject = true := by
  refine h.inner.resolve_right ?_
  rintro ⟨x, hx, -⟩
  cases hv.symm.trans hx

theorem eq_none_of_missing (h : Filler step) (hv : step.value = none) {atRoot : Option Json}
    (hr : (step.missing atRoot).result = .ok (.resolved w)) : w = none :=
  Step.eq_none_of_missing (h.parent_isObject hv) hr

/-- An object comes out again, also where it is built from nothing. -/
theorem members_come (h : Filler step) {tag : Tag} {members : Fields}
    (hs : Sound True (.obj tag members)) (hx : ∀ x, step.value = some x → x = .obj tag members)
    (hr : (step.resolveMembers members).result = .ok (.resolved w)) :
    ∃ y, w = some y ∧ Comes step .object y := by
  obtain ⟨m, rfl, hagain⟩ := h.members_again hs hr
  refine ⟨_, rfl, hagain, rfl, fun x hv => ?_, fun hk => ?_⟩
  · rw [hx x hv]
    exact .objects
  · simp [scalarKinds] at hk

/-- **What comes out of a kind comes out of it again**, or the value is missing and stays so. -/
theorem ofKind_again (h : Filler step) {kind : Kind}
    (hr : (step.ofKind kind).result = .ok (.resolved w)) :
    (step.value = none ∧ w = none) ∨ ∃ y, w = some y ∧ Comes step kind y := by
  have hkind := hr
  cases Step.comesOut hr with
  | null hv | boolean hv =>
    refine .inr ⟨_, rfl, rfl, rfl, fun x hx => ?_, fun hk => ?_⟩
    · cases hv.symm.trans hx
    · simp [scalarKinds] at hk
  | missing hv _ hr => exact .inl ⟨hv, h.eq_none_of_missing hv hr⟩
  | scalar _ hv hi => exact .inr ⟨_, rfl, comes_of_done hv (Probe.fits_of_kindIssues hi) hkind⟩
  | list hv hr =>
    obtain ⟨ys, rfl, hagain⟩ := h.array_again hv hr
    refine .inr ⟨_, rfl, hagain, rfl, fun x hx => ?_, fun hk => ?_⟩
    · cases hv.symm.trans hx
      exact .lists
    · simp [scalarKinds] at hk
  | members hv hr =>
    exact .inr (h.members_come (h.sound hv) (fun x hx => Option.some.inj (hx.symm.trans hv)) hr)
  | built hv hr =>
    exact .inr (h.members_come .empty (fun x hx => by cases hv.symm.trans hx) hr)
  | unbuilt hv => exact .inl ⟨hv, rfl⟩

/-! ## 5. Types -/

/-- **What comes out by type rests**: it comes out by type again, it is missing only if the value is,
it is null only if the schema has room for that, and it is the value where that is pinned down. -/
structure Rests (step : Step) (w : Option Json) : Prop where
  again : (step.given w).typed.result = .ok (.resolved w)
  missing : w = none → step.value = none
  room : w = some .null → Schema.allowsNull step.schema = true
  pinned : isPinned step.fields = true → w = step.value

/-- Only a single kind of scalars decides beside a pinned value. -/
theorem scalar_of_decides (h : Filler step) {kind : Kind} {remaining : Fields}
    (hd : Decides step.fields x kind remaining) (hp : isPinned step.fields = true) :
    kind ∈ scalarKinds := by
  obtain ⟨only, hm, ht⟩ := h.filling.here.scalar hp
  cases hd with
  | inferred h | several h => simp [ht] at h
  | single h hk =>
    rw [ht] at h
    cases h
    have hname : Kind.ofName? only.name = some only := by cases only <;> rfl
    exact Option.some.inj (hname.symm.trans hk) ▸ hm

/-- A filler at what remains of its schema. -/
theorem narrowed (h : Filler step) {kind : Kind} {remaining : Fields}
    (hd : Decides step.fields x kind remaining) : Filler (step.narrowed remaining) :=
  ⟨h.ready.narrowed hd, h.filling.of_decides (fun _ hl => h.filling.here.restrict hl) hd, h.inner,
    h.plain, h.settling⟩

/-- What comes out of the kind that decides about it rests. -/
theorem rests_of_comes (h : Filler step) {kind : Kind} {remaining : Fields}
    (hd : Decides step.fields y kind remaining) (hc : Comes (step.narrowed remaining) kind y) :
    Rests step (some y) where
  again := by
    have htyped : (step.given (some y)).typed =
        ((step.given (some y)).narrowed remaining).ofKind kind := Step.typed_of_decides rfl hd
    rw [htyped]
    exact hc.again
  missing := nofun
  room e := by
    cases e
    have hkind : kind = .null := by
      have hf := hc.fits
      cases kind <;> first | rfl | cases hf
    subst hkind
    exact Step.allowsNull_of_decides hd
  pinned hp := (hc.scalar (h.scalar_of_decides hd hp)).symm

/-- A missing value that stays missing rests. -/
theorem rests_of_missing (hv : step.value = none)
    (hr : step.typed.result = .ok (.resolved none)) : Rests step none where
  again := by
    rw [given_eq hv]
    exact hr
  missing _ := hv
  room := nofun
  pinned _ := hv.symm

/-- **What a missing value becomes by type rests.** -/
theorem rests_of_value_none (h : Filler step) (hv : step.value = none)
    (hr : step.typed.result = .ok (.resolved w)) : Rests step w := by
  rcases Step.typed_of_missing (h.parent_isObject hv) hv hr with rfl | ⟨kind, hkind, htag, -, hd⟩
  · exact rests_of_missing hv hr
  · rcases h.ofKind_again hkind with ⟨-, rfl⟩ | ⟨y, rfl, hc⟩
    · exact rests_of_missing hv hr
    · have hsame : step.narrowed step.fields = step := by rw [Step.narrowed, htag]
      exact h.rests_of_comes (hd y hc.fits) (hsame.symm ▸ hc)

/-- **What comes out by type rests.** -/
theorem typed_rests (h : Filler step) (hr : step.typed.result = .ok (.resolved w)) :
    Rests step w := by
  cases hv : step.value with
  | none => exact h.rests_of_value_none hv hr
  | some x =>
    rcases Step.decides_of_typed hv hr with hs | ⟨kind, remaining, hd⟩
    · have htyped := hr
      rw [Step.typed_of_silent hv hs] at htyped
      cases htyped
      refine ⟨?_, nofun, fun _ => ?_, fun _ => hv.symm⟩
      · rw [given_eq hv]
        exact hr
      · have hd : Schema.declaredTypes step.schema = [] := hs.1
        simp [Schema.allowsNull, hd]
    · rw [Step.typed_of_decides hv hd] at hr
      rcases (h.narrowed hd).ofKind_again hr with ⟨hn, -⟩ | ⟨y, rfl, hc⟩
      · cases hv.symm.trans hn
      · exact h.rests_of_comes (hd.of_sameShape (hc.shape x hv)) hc

/-! ## 6. Steps -/

/-- What rests by the type of a filled-in value counts as being there, unless nothing was and nothing came
out. -/
theorem Rests.present (h : Rests (step.given step.filled) w) :
    Present step.schema step.value w := by
  cases w with
  | none =>
    refine .inl ⟨?_, rfl⟩
    have hnone : step.filled = none := h.missing rfl
    unfold Step.filled at hnone
    split at hnone
    · next ha => exact ha
    · rw [hnone]
      rfl
  | some y =>
    refine .inr ?_
    cases y with
    | null =>
      have room : Schema.allowsNull step.schema = true := h.room rfl
      simp [Schema.isAbsent, room]
    | _ => rfl

/-- **Nothing is filled in again**: what came out is there, and where nothing came out nothing could be
filled in. -/
theorem Rests.filled_again (h : Rests (step.given step.filled) w) : (step.given w).filled = w := by
  rcases h.present with ⟨ha, rfl⟩ | ht
  · have hnone : step.filled = none := h.missing rfl
    rw [Step.filled, if_pos ha] at hnone
    have hn : Schema.isAbsent (step.given none).value (step.given none).schema = true := rfl
    rw [Step.filled, if_pos hn]
    exact hnone
  · have hthere : Schema.isAbsent (step.given w).value (step.given w).schema ≠ true :=
      Bool.eq_false_iff.1 ht
    rw [Step.filled, if_neg hthere]

/-- **A step settles**: what comes out of it comes out of it again, and counts as being there. -/
theorem run_again (h : Filler step) (hr : step.run.result = .ok (.resolved w)) :
    (step.given w).run.result = .ok (.resolved w) ∧ Present step.schema step.value w := by
  obtain ⟨hpin, hr⟩ := Step.run_resolved_iff.1 hr
  have hkept := h.ready.filled
  have filler : Filler (step.given step.filled) := by
    refine ⟨⟨h.ready.tame, h.ready.good, hkept.sound h.ready.value, h.ready.inner_of_kept hkept,
      h.ready.keeps, h.ready.honest⟩, h.filling, h.inner.imp_right ?_, h.plain, h.settling⟩
    rintro ⟨x, hx, hnull⟩
    exact ⟨x, Step.filled_eq hx hnull, hnull⟩
  replace hr : (step.given step.filled).typed.result = .ok (.resolved w) := by
    rw [← Step.dispatch_of_lone filler.filling.here.lone]
    exact hr
  have rests := filler.typed_rests hr
  refine ⟨Step.run_resolved_iff.2 ?_, rests.present⟩
  rw [rests.filled_again]
  have hpins : (step.given w).pinIssues = .ok [] := by
    cases hp : isPinned step.fields with
    | true =>
      obtain rfl : w = step.filled := rests.pinned hp
      exact hpin
    | false => exact Step.pinIssues_of_unpinned hp
  have hdispatch : (step.given w).dispatch = (step.given w).typed :=
    Step.dispatch_of_lone h.filling.here.lone
  exact ⟨hpins, hdispatch ▸ rests.again⟩

end Filler

/-- **Every resolution settles.** -/
theorem settling_resolve {setting : Probe.Setting} (ha : setting.options.accessor = .direct)
    (guard : Guard) : ∀ request w, Fillable request →
      (resolve setting guard request).result = .ok (.resolved w) →
      (resolve setting guard { request with value := w }).result = .ok (.resolved w) ∧
        ∀ s, request.schema = .node s → Present s request.value w := by
  intro request w hf h
  have ht : Tame True setting Lone Lone := tame_lone ha
  obtain ⟨deep, h⟩ := resolve_resolved_iff.1 h
  rw [resolve_resolved_iff]
  cases h with
  | unasked hs htrivial =>
    refine ⟨⟨deep, .unasked hs htrivial⟩, fun s e => ?_⟩
    cases hs.symm.trans e
    cases hv : request.value with
    | none => exact .inl ⟨rfl, rfl⟩
    | some y =>
      refine .inr ?_
      rcases List.mem_pair.1 htrivial with rfl | rfl <;> cases y <;> rfl
  | missing hs hv =>
    refine ⟨⟨deep, .missing hs rfl⟩, fun s e => ?_⟩
    cases hs.symm.trans e
    exact .inl ⟨by rw [hv]; rfl, rfl⟩
  | @step tag fields _ hs h =>
    have settling : Settling fun extension next => resolve setting (guard.enter extension) next :=
      fun extension next w hf h => settling_resolve ha (guard.enter extension) next w hf h
    have filling := hf.filling _ hs
    have ready : Ready True Lone Lone (request.step setting guard tag fields) := by
      refine ⟨ht, good_of_lone (·.lone) filling, fun x hx => ⟨hf.proper x hx, .inl trivial⟩,
        .inl trivial, ?_, fun _ _ => honest_resolve _ _ _⟩
      exact fun extension next w hn h => keeps_resolve ht (guard.enter extension) next w hn h
    have filler : Filler (request.step setting guard tag fields) :=
      ⟨ready, filling, hf.inner, hf.plain, settling⟩
    obtain ⟨hagain, hpresent⟩ := filler.run_again h
    refine ⟨⟨deep, .step hs hagain⟩, fun s e => ?_⟩
    cases hs.symm.trans e
    exact hpresent
termination_by guard.rank
decreasing_by exact Guard.rank_enter_lt ‹_› extension

end Resolve

/-! ## 7. Whole resolutions -/

/-- **Filling in comes to rest**: where a schema fills in, a value that is not null comes out as
something that comes out again as it is, members in the same order. -/
theorem resolveValues_again {schema value : Json} {w : Option Json} {options : Options}
    (hs : Wholly Filling schema) (hv : value.Proper) (hnull : value ≠ .null)
    (ha : options.accessor = .direct)
    (h : resolveValues schema (some value) options = .ok (.resolved w)) :
    resolveValues schema w options = .ok (.resolved w) := by
  obtain ⟨y, hy, rfl⟩ := resolveValues_resolved h
  have fillable : Resolve.Fillable (Resolve.wholeRequest schema (some value)) := by
    refine ⟨?_, ?_, .inr ⟨value, rfl, hnull⟩, rfl⟩
    · rintro s ⟨⟩
      exact hs
    · rintro x ⟨⟩
      exact hv
  obtain ⟨hagain, hpresent⟩ := Resolve.settling_resolve ha _ _ y fillable hy
  have there : Schema.isAbsent (some value) schema = false := by
    cases value with
    | null => exact absurd rfl hnull
    | _ => rfl
  obtain ⟨z, rfl, -⟩ := (hpresent schema rfl).of_there there
  exact resolveValues_of_resolved hagain

/-- A schema that fills in from defaults, from a constant, with what stands for a missing boolean, and
with an object that is only kept where something is in it, with a tuple and a schema for the members
that it does not declare. -/
def furnished : Json := .obj none [
  ("type", .str "object"),
  ("required", .arr none [.str "name"]),
  ("properties", .obj none [
    ("name", .obj none [("type", .str "string"), ("minLength", .num (.int 1))]),
    ("kind", .obj none [("type", .str "string"), ("enum", .arr none [.str "a", .str "b"]),
      ("default", .str "a")]),
    ("mark", .obj none [("type", .str "integer"), ("const", .num (.int 7))]),
    ("open", .obj none [("type", .str "boolean")]),
    ("origin", .obj none [("type", .str "object"),
      ("properties", .obj none [
        ("x", .obj none [("type", .str "number"), ("default", .num (.int 0))]),
        ("y", .obj none [("type", .str "number")])])]),
    ("empty", .obj none [("type", .str "object"),
      ("properties", .obj none [("z", .obj none [("type", .str "number")])])]),
    ("rows", .obj none [("type", .arr none [.str "array", .str "null"]),
      ("prefixItems", .arr none [.obj none [("type", .str "string")]]),
      ("items", .obj none [("properties", .obj none [
        ("n", .obj none [("type", .str "number"), ("default", .num (.int 1))])])]),
      ("maxItems", .num (.int 3))])]),
  ("additionalProperties", .obj none [("type", .str "integer"), ("minimum", .num (.int 1))])]

/-- A value that leaves much open. -/
def bare : Json := .obj none [
  ("extra", .num (.int 3)),
  ("rows", .arr none [.str "t", .obj none [], .obj none [("n", .null)]]),
  ("kind", .null),
  ("name", .str "n")]

/-- The value with everything filled in. -/
def full : Json := .obj none [
  ("name", .str "n"),
  ("kind", .str "a"),
  ("mark", .num (.int 7)),
  ("open", .bool false),
  ("origin", .obj none [("x", .num (.int 0))]),
  ("rows", .arr none
    [.str "t", .obj none [("n", .num (.int 1))], .obj none [("n", .num (.int 1))]]),
  ("extra", .num (.int 3))]

theorem resolveValues_again_furnished :
    resolveValues furnished (some bare) Options.default = .ok (.resolved (some full)) ∧
      resolveValues furnished (some full) Options.default = .ok (.resolved (some full)) := by
  have hr : resolveValues furnished (some bare) Options.default =
      .ok (.resolved (some full)) := by decide +kernel
  have there : bare ≠ .null := Json.noConfusion
  exact ⟨hr, resolveValues_again (by decide +kernel) (by decide +kernel) there rfl hr⟩

end Conform
