/-
# What is filled in is valid

A resolution checks and fills in by turns, and what it fills in is not checked again by what was checked
before.  Where a schema is `Steadfast` that does no harm: what comes out of the resolution has no issues
(`valid_of_resolveValues`).  Without the conditions it can have some (`overtaken`).

Two kinds of requests have to be told apart on the way.  Where a schema looks at a value as a whole, it
fills in nothing, and the value comes out in another order at most (`Sparing`).  So what was checked still
holds, as the probe does not see the order.  Everywhere else only what came out of the resolution of a part
counts, and that is valid by induction: a resolution vouches for what comes out of it (`Vouching`).

For an object this takes one fact for each member there is in the end.  A declared property is valid
since it came out of its resolution and nothing has touched it since; another member either fits
patterns or is additional, and was resolved by the one or by the other.
-/
import Conform.Proofs.Nominal

namespace Conform

open Fields (get?)
open Json (Reordered SameShape)
open Schema (Wholly Barren Steady Steadfast Nominal Calm Lone StaysMissing Decides checksEarly subschemas
  tableOf requires triggers isPinned standIns declaredTypes)

/-! ## 1. What resolutions promise -/

namespace Resolve

/-- **A request for a steadfast schema**, with a value that is null or has no nulls inside, and which is
only missing inside a container. -/
structure Fit (request : Request) (s : Json) : Prop where
  schema : request.schema = .node s
  steadfast : Wholly Steadfast s
  proper : ∀ x, request.value = some x → x.Proper
  solid : ∀ x, request.value = some x → x = .null ∨ x.NullFree
  inner : request.parent.isObject = true ∨ ∃ x, request.value = some x ∧ x ≠ .null
  plain : request.negated = false

/-- **A value that comes out is valid**, and only where one counted as missing none comes out. -/
structure Vouched (setting : Probe.Setting) (s : Json) (value w : Option Json) : Prop where
  there : w = none → Schema.isAbsent value s = true
  valid : ∀ y, w = some y → ∀ path, Probe.issues setting y s path = .ok []

/-- **Resolutions that vouch for what comes out.** -/
def Vouching (setting : Probe.Setting) (again : Again) : Prop :=
  ∀ extension request s w, Fit request s →
    (again extension request).result = .ok (.resolved w) → Vouched setting s request.value w

namespace Vouched

variable {setting : Probe.Setting} {s x : Json} {value w w' : Option Json}

/-- What is valid does not count as missing. -/
theorem present (h : Vouched setting s value w) : Present s value w := by
  cases w with
  | none => exact .inl ⟨h.there rfl, rfl⟩
  | some y =>
    refine .inr (Bool.eq_false_iff.2 fun ha => ?_)
    cases y with
    | null =>
      have room : Schema.allowsNull s = false := by simpa [Schema.isAbsent] using ha
      exact Probe.issues_of_null room (h.valid _ rfl [])
    | _ => cases ha

/-- The order of members is of no account. -/
theorem reorder (h : Vouched setting s value w) (ha : setting.options.accessor = .direct)
    (hw : Option.Rel Reordered w w') : Vouched setting s value w' := by
  cases hw with
  | none => exact h
  | some hr => exact ⟨nofun, fun y hy path => by
      cases hy
      exact (Probe.issues_iff_of_reordered ha hr).1 (h.valid _ rfl path)⟩

/-- Something comes out for a value that is there. -/
theorem exists_valid (h : Vouched setting s (some x) w) (hx : x ≠ .null) :
    ∃ y, w = some y ∧ ∀ path, Probe.issues setting y s path = .ok [] := by
  cases w with
  | some y => exact ⟨y, rfl, h.valid y rfl⟩
  | none =>
    have ha := h.there rfl
    cases x with
    | null => exact absurd rfl hx
    | _ => cases ha

end Vouched

/-- **A step at a steady schema**, with nothing but steadfast schemas below, whose further resolutions are
sparing with barren schemas and vouch for what comes out. -/
structure Voucher (step : Step) : Prop where
  ready : Ready True Lone Lone step
  steady : Steady step.fields
  below : ∀ s ∈ subschemas step.fields, Wholly Steadfast s
  solid : ∀ x, step.value = some x → x = .null ∨ x.NullFree
  inner : step.parent.isObject = true ∨ ∃ x, step.value = some x ∧ x ≠ .null
  plain : step.negated = false
  validates : step.skips = false
  sparing : Sparing step.again
  solidly : Solidly step.again
  nominally : Nominally step.setting step.again
  vouching : Vouching step.setting step.again

namespace Voucher

variable {step : Step} {w : Option Json} {s x y : Json} {name : String}

theorem regular (h : Voucher step) : Regular step :=
  ⟨h.ready.tame.accessor, h.ready.good.proper, h.plain, h.ready.honest⟩

theorem thrifty (h : Voucher step) : Thrifty step := ⟨h.regular, h.sparing⟩

theorem accessor (h : Voucher step) : step.setting.options.accessor = .direct := h.ready.tame.accessor

/-- A missing value is one of a container. -/
theorem parent_isObject (h : Voucher step) (hv : step.value = none) : step.parent.isObject = true := by
  refine h.inner.resolve_right ?_
  rintro ⟨x, hx, -⟩
  cases hv.symm.trans hx

/-- Where something is checked early the step is a sparing one. -/
theorem spared (h : Voucher step) (he : checksEarly step.fields = true) : Spared step :=
  ⟨h.thrifty, (h.steady.early he).retag, h.validates⟩

/-- What comes out of the resolution of something inside is vouched for. -/
theorem descend (h : Voucher step) {key : Json} {value : Option Json} (hs : Wholly Steadfast s)
    (hp : ∀ x, value = some x → x.Proper) (hv : ∀ x, value = some x → x = .null ∨ x.NullFree)
    (hr : (step.descend key (.node s) value).result = .ok (.resolved w)) :
    Vouched step.setting s value w :=
  h.vouching _ _ s w ⟨rfl, hs, hp, hv, .inl rfl, h.plain⟩ hr

/-- A member or an item that is there comes out valid. -/
theorem descend_some (h : Voucher step) {key : Json} (hs : Wholly Steadfast s) (hx : Sound False x)
    (hr : (step.descend key (.node s) (some x)).result = .ok (.resolved w)) :
    ∃ y, w = some y ∧ ∀ path, Probe.issues step.setting y s path = .ok [] := by
  have hfree := hx.plain.resolve_left id
  refine (h.descend hs (fun y hy => ?_) (fun y hy => ?_) hr).exists_valid hfree.here
  · cases hy
    exact hx.proper
  · cases hy
    exact .inr hfree

/-! ## 2. Members on their way -/

section Objects

open Ready (Holds resolved_of_take mem_subschemas_of_table)
open Step (Passage)

variable {tag : Tag} {members : Fields}

variable (h : Voucher step) (hv : Sound False (.obj tag members)) (c : Passage step members)

/-- A sound value is one that may grow. -/
theorem may_grow (hx : Sound False x) : Sound True x := ⟨hx.proper, .inl trivial⟩

include h

/-- The schemas in the tables are steadfast. -/
theorem of_table {k : String} {table : Fields}
    (hk : k ∈ ["properties", "patternProperties", "dependentSchemas"])
    (ht : Probe.membersOf (step.tableOrEmpty k) = .ok table) (hm : (name, s) ∈ table) :
    Wholly Steadfast s := h.below s (mem_subschemas_of_table hk ht hm)

/-- The tables are those that the conditions on the schema are about. -/
theorem mem_tableOf {k : String} {table : Fields} {entry : String × Json}
    (hk : k ∈ ["properties", "patternProperties", "dependentSchemas"])
    (ht : Probe.membersOf (step.tableOrEmpty k) = .ok table) (hm : entry ∈ table) :
    entry ∈ tableOf step.fields k := Step.table_eq h.steady.toStraight hk ht ▸ hm

/-- A declared property that stays missing leaves no member. -/
theorem get?_declared_of_staysMissing (hm : (name, s) ∈ c.properties) (hs : StaysMissing s)
    (hn : get? c.working name = none) : get? c.declared.members name = none := by
  obtain ⟨w, ho, rfl⟩ := (c.declared_spec h.regular).2 name s hm
  rw [hn] at ho
  have hk : Kept False none (get? c.declared.members name) :=
    h.sparing _ _ s _ ⟨rfl, hs.2, fun _ e => (Option.some_ne_none _ e.symm).elim,
      fun _ => ⟨hs.1, rfl⟩, h.plain⟩ ho
  exact hk.extends?.resolve_left id

include hv

theorem working_sound : Preserved True members c.working :=
  h.ready.keeps_working (may_grow hv) c.working_eq

theorem gathered_sound : Preserved True members c.gathered :=
  h.ready.passes_declared (may_grow hv) c

theorem final_sound : Preserved True members c.final.members :=
  h.ready.passes_final (may_grow hv) c

theorem distinct_followed : Fields.Distinct c.followed.members :=
  (h.ready.passes_followed (may_grow hv) c).distinct

theorem distinct_matched : Fields.Distinct c.matched.members :=
  (h.ready.passes_matched (may_grow hv) c).distinct

theorem get?_gathered (k : String) : get? c.gathered k =
    if k ∈ Fields.names c.properties then get? c.declared.members k else get? c.working k :=
  c.get?_gathered h.regular (h.working_sound hv c).distinct k

/-- A default that is put in for a required property has no nulls inside. -/
theorem working_solid (hx : get? c.working name = some x) : x = .null ∨ x.NullFree := by
  rcases c.working_cases name with he | ⟨-, tag, fields, d, hm, hd, hk⟩
  · exact .inr ((hv.plain.resolve_left id).of_get? (he ▸ hx))
  · cases hk.symm.trans hx
    exact (h.of_table (by simp) c.properties_eq hm).here.filled "default" (by simp) x hd

/-- **What a declared property makes of its member is vouched for.** -/
theorem property_vouched (hm : (name, s) ∈ c.properties) :
    Vouched step.setting s (get? c.working name) (get? c.gathered name) := by
  obtain ⟨w, ho, rfl⟩ := (c.declared_spec h.regular).2 name s hm
  rw [h.get?_gathered hv c, if_pos (Fields.mem_names_of_mem hm)]
  exact h.descend (h.of_table (by simp) c.properties_eq hm)
    (fun x hx => ((h.working_sound hv c).sound name x hx).proper) (fun _ => h.working_solid hv c) ho

/-- A member that no property declares is that of the value. -/
theorem get?_gathered_of_undeclared (hp : name ∉ Fields.names c.properties) :
    get? c.gathered name = get? members name := by
  rw [h.get?_gathered hv c, if_neg hp]
  exact (c.working_cases name).resolve_right fun ⟨_, _, _, _, hm, _⟩ =>
    hp (Fields.mem_names_of_mem hm)

theorem proper_gathered : (Json.obj none c.gathered).Proper :=
  Json.proper_obj (h.gathered_sound hv c).distinct fun k x hm =>
    ((h.gathered_sound hv c).sound k x (Fields.get?_of_mem (h.gathered_sound hv c).distinct hm)).proper

/-- Where it is calm there are no nulls in what has been gathered. -/
theorem sound_gathered (hc : Calm step.fields) : Sound False (.obj none c.gathered) := by
  have clean : Clean c.gathered := clean_gathered c h.accessor h.solidly (.of_obj hv) fun property hm =>
    hc.properties property (h.mem_tableOf (by simp) c.properties_eq hm)
  exact clean.obj

/-- **A schema that depends on a member does not change what has been gathered**, but for the order. -/
theorem reordered_dependent {d : String × Json} {b b' : Built} (hd : d ∈ c.dependents)
    (ht : step.TakesDependent c.working d b b')
    (hb : b.issues = [] → Reordered (.obj none c.gathered) (.obj none b.members)) :
    b'.issues = [] → Reordered (.obj none c.gathered) (.obj none b'.members) := by
  rcases ht with ⟨-, rfl⟩ | ⟨x, outcome, -, ho, rfl⟩
  · exact hb
  intro hi
  have hr := hb ((b.grows_follow outcome).issues_eq_nil hi)
  cases outcome with
  | failed issues =>
    obtain ⟨-, rfl⟩ := List.append_eq_nil_iff.1 hi
    exact absurd ho (h.ready.honest _ _)
  | resolved w =>
    refine hr.trans ?_
    rcases h.steady.dependent d (h.mem_tableOf (by simp) c.dependents_eq hd) with hn | ⟨hs, hc⟩
    · have names : NamesOnly step.setting d.2 b.members w := h.nominally _ _ _ _ _
        ⟨rfl, hn, h.of_table (by simp) c.dependents_eq hd, ⟨none, rfl⟩, hr.proper'.distinct, h.plain⟩ ho
      obtain ⟨tag, upper, rfl, hu, hsame⟩ := names.out
      have same : ∀ k, get? (Fields.union b.members upper) k = get? b.members k := fun k => by
        rw [Fields.get?_union hu, hsame, Option.or_self]
      exact .of_get? hr.proper' hr.proper'.distinct.union same
    · have hsound := (h.sound_gathered hv c hc).reordered hr
      have kept := h.sparing.again_kept h.plain hs hsound ho
      obtain ⟨y, rfl, hy⟩ := kept.reordered hsound.proper
      obtain ⟨tag, upper, rfl⟩ : ∃ tag upper, y = .obj tag upper := by
        cases hy.matched with
        | objects => exact ⟨_, _, rfl⟩
        | scalar hk => cases hk
      exact ((Preserved.refl hsound).union kept hsound).reordered hsound.proper

/-- **Schemas that depend on members do not change what has been gathered**, but for the order. -/
theorem reordered_followed : Reordered (.obj none c.gathered) (.obj none c.followed.members) :=
  c.follows.keeps
    (P := fun b => b.issues = [] → Reordered (.obj none c.gathered) (.obj none b.members))
    (fun _ hd _ _ ht hb => h.reordered_dependent hv c hd ht hb)
    (fun _ => .refl (h.proper_gathered hv c)) c.followed_issues

/-- In the end a declared name has what has been gathered under it. -/
theorem rel_final (hp : name ∈ Fields.names c.properties) :
    Option.Rel Reordered (get? c.gathered name) (get? c.final.members name) := by
  rw [c.get?_final_of_covered (h.distinct_matched hv c) (Step.isAdditional_of_declared c.properties_eq hp),
    c.get?_matched_of_declared (h.distinct_followed hv c) hp]
  exact (h.reordered_followed hv c).get? name

/-- **What a declared property leaves in the end is vouched for.** -/
theorem property_final (hm : (name, s) ∈ c.properties) :
    Vouched step.setting s (get? c.working name) (get? c.final.members name) :=
  (h.property_vouched hv c hm).reorder h.accessor (h.rel_final hv c (Fields.mem_names_of_mem hm))

/-! ### Names -/

/-- The names in the end have all been gathered. -/
theorem mem_gathered_of_mem_final (hn : name ∈ Fields.names c.final.members) :
    name ∈ Fields.names c.gathered :=
  (h.reordered_followed hv c).members.mem_names_iff.2
    (c.mem_followed_of_mem_final (h.distinct_followed hv c) (h.distinct_matched hv c) hn)

/-- No name of the value is lost. -/
theorem mem_final_of_mem (hn : name ∈ Fields.names members) :
    name ∈ Fields.names c.final.members := by
  obtain ⟨x, hx⟩ := Fields.exists_get?_of_mem_names hn
  have hext := (h.final_sound hv c).extends? name
  rw [hx] at hext
  have hnull : x ≠ .null := ((hv.plain.resolve_left id).of_get? hx).here
  obtain ⟨y, hy, -⟩ := hext.resolve_left fun hg => hnull hg.2
  exact Fields.mem_names_of_get? hy

/-- **Every required name is there in the end.** -/
theorem required_final : ∀ k ∈ c.required, step.HasRequired c.final.members k := by
  refine c.required_stays h.regular (fun k s hm ha => ?_) fun k hp hn => ?_
  · obtain ⟨y, hy, hthere⟩ := (h.property_final hv c hm).present.of_there ha
    rw [hy]
    exact hthere
  · refine h.mem_final_of_mem hv c ?_
    obtain ⟨x, hx⟩ := Fields.exists_get?_of_mem_names hn
    rcases c.working_cases k with he | ⟨-, _, _, _, hm, -⟩
    · exact Fields.mem_names_of_get? (he ▸ hx)
    · exact absurd (Fields.mem_names_of_mem hm) hp

/-- **A name is not added** by a property that has to be there, or that stays missing. -/
theorem mem_working_of_mem_gathered
    (hs : ∀ s, (name, s) ∈ c.properties → requires step.fields name = true ∨ StaysMissing s)
    (hn : name ∈ Fields.names c.gathered) : name ∈ Fields.names c.working := by
  obtain ⟨x, hx⟩ := Fields.exists_get?_of_mem_names hn
  rw [h.get?_gathered hv c] at hx
  split at hx
  · next hp =>
    obtain ⟨s, hk⟩ := Fields.exists_get?_of_mem_names hp
    have hm := Json.mem_of_get? hk
    rcases hs s hm with hr | hs
    · obtain ⟨y, hy⟩ := (c.required_there h.regular _
        (Step.mem_of_requires h.validates c.required_eq hr)).exists_get? h.accessor
      exact Fields.mem_names_of_get? hy
    · refine Classical.byContradiction fun hw => ?_
      rw [h.get?_declared_of_staysMissing c hm hs (Fields.get?_eq_none_iff.2 hw)] at hx
      cases hx
  · exact Fields.mem_names_of_get? hx

/-- **To members that are counted none is added.** -/
theorem length_final (hc : Fields.has step.fields "maxProperties" = true) :
    c.final.members.length ≤ members.length := by
  have counted : ∀ {k s}, (k, s) ∈ c.properties →
      (requires step.fields k = true ∧ get? (Schema.fieldsOf s) "default" = none) ∨
        StaysMissing s :=
    fun hm => h.steady.counted hc _ (h.mem_tableOf (by simp) c.properties_eq hm)
  refine Fields.length_le_of_names (h.final_sound hv c).distinct fun k hk => ?_
  have hw := h.mem_working_of_mem_gathered hv c (fun s hm => (counted hm).imp_left And.left)
    (h.mem_gathered_of_mem_final hv c hk)
  obtain ⟨x, hx⟩ := Fields.exists_get?_of_mem_names hw
  rcases c.working_cases k with he | ⟨-, dtag, fields, d, hm, hd, -⟩
  · exact Fields.mem_names_of_get? (he ▸ hx)
  · -- no default is put in
    have bare : get? fields "default" = none := by
      rcases counted hm with ⟨-, hnone⟩ | hs
      · exact hnone
      · exact hs.1.bare "default" (by simp)
    cases hd.symm.trans bare

/-- **The members that others require are there in the end.** -/
theorem dependent_valid : Probe.dependentIssues step.setting.options.accessor
    (.obj none c.final.members) step.fields step.path = .ok [] := by
  have hd := c.dependent_eq
  rw [Step.dependentIssues_obj h.accessor none h.validates] at hd
  rw [h.accessor] at hd ⊢
  refine Probe.dependentIssues_of_names (fun k hk => ?_) (fun k ht hk => ?_) hd
  · obtain ⟨x, hx⟩ := Fields.exists_get?_of_mem_names hk
    rcases c.working_cases k with he | ⟨hr, -⟩
    · exact h.mem_final_of_mem hv c (Fields.mem_names_of_get? (he ▸ hx))
    · obtain ⟨y, hy⟩ := (h.required_final hv c _ hr).exists_get? h.accessor
      exact Fields.mem_names_of_get? hy
  · exact h.mem_working_of_mem_gathered hv c
      (fun s hm => h.steady.depended _ (h.mem_tableOf (by simp) c.properties_eq hm)
        (by simp [triggers, Fields.has_iff.2 ht]))
      (h.mem_gathered_of_mem_final hv c hk)

end Objects

/-! ## 3. Members that no property declares -/

section Undeclared

open Ready (resolved_of_take)
open Step (Passage)

/-- **The patterns have nothing against a member**: its name can be held against all of them, and those
that it fits admit what there is. -/
def Patterned (step : Step) (patterns : Fields) (name : String) (w : Option Json) : Prop :=
  ∀ pattern ∈ patterns, ∃ fits,
    step.setting.options.engine.search (.str pattern.1) (.str name) = .ok fits ∧
    (fits = true → ∀ y, w = some y → ∀ path, Probe.issues step.setting y pattern.2 path = .ok [])

variable {u v : Built} {tag : Tag} {members patterns : Fields}

/-- A single pattern admits what it makes of a member. -/
theorem patterned_of_single (h : Voucher step) {pattern : String × Json}
    (hs : Wholly Steadfast pattern.2) (hx : get? u.members name = some x) (hsound : Sound False x)
    (ht : step.TakesPattern name pattern u v) (hi : v.issues = []) :
    Patterned step [pattern] name (get? v.members name) := by
  intro p hp
  obtain rfl := List.mem_singleton.1 hp
  rcases ht with ⟨hf, -⟩ | ⟨hf, outcome, ho, rfl⟩
  · exact ⟨false, hf, nofun⟩
  · obtain ⟨w, rfl⟩ := resolved_of_take (h.ready.honest _ _) ho hi
    rw [hx] at ho
    obtain ⟨y, rfl, hy⟩ := h.descend_some hs hsound ho
    refine ⟨true, hf, fun _ z hz => ?_⟩
    rw [Built.get?_take] at hz
    cases hz
    exact hy

/-- **Patterns that fill nothing in admit what they leave**, each of them what the others leave, too. -/
theorem patterned_of_barren (h : Voucher step)
    (hs : ∀ pattern ∈ patterns, Wholly Steadfast pattern.2 ∧ Wholly Barren pattern.2)
    (hx : get? u.members name = some x) (hsound : Sound False x)
    (hc : Chain (step.TakesPattern name) patterns u v) (hi : v.issues = []) :
    Patterned step patterns name (get? v.members name) := by
  -- there is always the member in some order
  have keeps : ∀ pattern ∈ patterns, ∀ b b', step.TakesPattern name pattern b b' →
      (b.issues = [] → ∃ z, get? b.members name = some z ∧ Reordered x z) →
      b'.issues = [] → ∃ z, get? b'.members name = some z ∧ Reordered x z := by
    rintro pattern hm b b' (⟨-, rfl⟩ | ⟨-, outcome, ho, rfl⟩) hb hi
    · exact hb hi
    · obtain ⟨w, rfl⟩ := resolved_of_take (h.ready.honest _ _) ho hi
      obtain ⟨z, hz, hxz⟩ := hb ((b.grows_take name _).issues_eq_nil hi)
      rw [hz] at ho
      obtain ⟨z', rfl, hzz⟩ := (h.sparing.descend h.plain (hs pattern hm).2
        (hsound.reordered hxz) ho).reordered hxz.proper'
      exact ⟨z', b.get?_take _, hxz.trans hzz⟩
  have start : u.issues = [] → ∃ z, get? u.members name = some z ∧ Reordered x z :=
    fun _ => ⟨x, hx, .refl hsound.proper⟩
  obtain ⟨z, hz, hxz⟩ := hc.keeps keeps start hi
  intro pattern hm
  obtain ⟨a, b, rest, ha, ht, hrest⟩ := hc.exists_of_mem keeps start hm
  have hb : b.issues = [] := (Built.grows_of_chain hrest fun _ _ _ =>
    Step.TakesPattern.grows).issues_eq_nil hi
  rcases ht with ⟨hf, -⟩ | ⟨hf, outcome, ho, rfl⟩
  · exact ⟨false, hf, nofun⟩
  · obtain ⟨w, rfl⟩ := resolved_of_take (h.ready.honest _ _) ho hb
    obtain ⟨t, ht, hxt⟩ := ha ((a.grows_take name _).issues_eq_nil hb)
    rw [ht] at ho
    have hst := hsound.reordered hxt
    obtain ⟨y, rfl, hy⟩ := h.descend_some (hs pattern hm).1 hst ho
    obtain ⟨_, he, hty⟩ := (h.sparing.descend h.plain (hs pattern hm).2 hst ho).reordered hxt.proper'
    cases he
    refine ⟨true, hf, fun _ z' hz' path => ?_⟩
    cases hz.symm.trans hz'
    -- back from what came out to the member, and on to what there is in the end
    have ht : Probe.issues step.setting t pattern.2 [] = .ok [] :=
      (Probe.issues_iff_of_reordered h.accessor hty).2 (hy [])
    have hx : Probe.issues step.setting x pattern.2 [] = .ok [] :=
      (Probe.issues_iff_of_reordered h.accessor hxt).2 ht
    exact (Probe.issues_iff_of_reordered h.accessor hxz).1 hx

variable (h : Voucher step) (hv : Sound False (.obj tag members)) (c : Passage step members)

include h hv

/-- Such a member comes to the patterns as it was, but for the order. -/
theorem followed_sound (hp : name ∉ Fields.names c.properties)
    (hx : get? c.followed.members name = some x) : Sound False x := by
  have hr := (h.reordered_followed hv c).get? name
  rw [h.get?_gathered_of_undeclared hv c hp, hx] at hr
  cases hk : get? members name with
  | none =>
    rw [hk] at hr
    cases hr
  | some z =>
    rw [hk] at hr
    cases hr with
    | some hzx => exact (hv.of_get? hk).reordered hzx

/-- **The patterns have nothing against what they leave of it.** -/
theorem matched_patterned (hp : name ∉ Fields.names c.properties)
    (hn : name ∈ Fields.names c.followed.members) :
    Patterned step (tableOf step.fields "patternProperties") name (get? c.matched.members name) := by
  obtain ⟨u, v, ht, hi, hu, hw⟩ := (c.matched_turn (h.distinct_followed hv c)).2 name hn
  obtain ⟨x, hx⟩ := Fields.exists_get?_of_mem_names hn
  have hsound := h.followed_sound hv c hp hx
  rw [hx] at hu
  rw [← hw]
  rcases ht with ⟨hd, -⟩ | ⟨-, patterns, ht, hc⟩
  · exact absurd (Fields.has_iff.1 hd) hp
  have hsteadfast : ∀ pattern ∈ patterns, Wholly Steadfast pattern.2 := fun pattern hm =>
    h.of_table (by simp) ht hm
  have htable := Step.table_eq h.steady.toStraight (by simp) ht
  rw [← htable]
  by_cases several : 1 < patterns.length
  · have barren := h.steady.patterned (htable ▸ several)
    rw [← htable] at barren
    exact h.patterned_of_barren (fun pattern hm => ⟨hsteadfast pattern hm, barren pattern hm⟩) hu
      hsound hc hi
  · cases patterns with
    | nil => exact fun _ hm => nomatch hm
    | cons pattern rest =>
      cases rest with
      | nil =>
        obtain ⟨t, ht, hrest⟩ := Chain.cons_iff.1 hc
        obtain rfl := Chain.nil_iff.1 hrest
        exact h.patterned_of_single (hsteadfast pattern (List.mem_cons_self ..)) hu hsound ht hi
      | cons other rest => exact absurd (by simp) several

/-- Whether a member is additional can be told. -/
theorem isAdditional_answered (hn : name ∈ Fields.names c.followed.members) :
    ∃ uncovered, Probe.isAdditional step.setting.options.engine name step.fields = .ok uncovered := by
  by_cases hp : name ∈ Fields.names c.properties
  · exact ⟨false, Step.isAdditional_of_declared c.properties_eq hp⟩
  · refine Step.isAdditional_eq_ok (h.steady.tables _ (by simp)) (h.steady.tables _ (by simp))
      fun _ pattern hm => ?_
    obtain ⟨fits, hf, -⟩ := h.matched_patterned hv c hp hn pattern hm
    exact ⟨fits, hf⟩

/-- **The patterns have nothing against what there is in the end.** -/
theorem final_patterned (hp : name ∉ Fields.names c.properties)
    (hn : name ∈ Fields.names c.final.members) :
    Patterned step (tableOf step.fields "patternProperties") name (get? c.final.members name) := by
  have hf := c.mem_followed_of_mem_final (h.distinct_followed hv c) (h.distinct_matched hv c) hn
  intro pattern hm
  obtain ⟨fits, hs, hadmits⟩ := h.matched_patterned hv c hp hf pattern hm
  refine ⟨fits, hs, fun hfits => ?_⟩
  -- what fits a pattern is not additional
  have covered : Probe.isAdditional step.setting.options.engine name step.fields = .ok false := by
    obtain ⟨uncovered, hu⟩ := h.isAdditional_answered hv c hf
    cases uncovered with
    | false => exact hu
    | true =>
      rw [Step.search_of_isAdditional (h.steady.tables _ (by simp)) hu hm] at hs
      cases hs
      cases hfits
  rw [c.get?_final_of_covered (h.distinct_matched hv c) covered]
  exact hadmits hfits

/-- The patterns leave an additional member alone. -/
theorem get?_matched_of_uncovered (hp : name ∉ Fields.names c.properties)
    (hn : name ∈ Fields.names c.followed.members)
    (hu : Probe.isAdditional step.setting.options.engine name step.fields = .ok true) :
    get? c.matched.members name = get? c.followed.members name := by
  obtain ⟨u, v, ht, -, hu', hw⟩ := (c.matched_turn (h.distinct_followed hv c)).2 name hn
  rw [← hw, ← hu']
  rcases ht with ⟨hd, -⟩ | ⟨-, patterns, ht, hc⟩
  · exact absurd (Fields.has_iff.1 hd) hp
  · refine hc.keeps (P := fun b => get? b.members name = get? u.members name)
      (fun pattern hm b b' ht hb => ?_) rfl
    rcases ht with ⟨-, rfl⟩ | ⟨hf, -⟩
    · exact hb
    · have hm' := h.mem_tableOf (by simp) ht hm
      rw [Step.search_of_isAdditional (h.steady.tables _ (by simp)) hu hm'] at hf
      cases hf

/-- **The schema for additional members has nothing against one in the end.** -/
theorem additional_valid {additional : Json} (hm : (name, y) ∈ c.final.members)
    (ha : get? step.fields "additionalProperties" = some additional) :
    Probe.additionalIssues step.setting none c.final.members step.fields step.path
      (Probe.inside step.setting (.obj none c.final.members)) additional (name, y) hm = .ok [] := by
  have hfinal := Fields.get?_of_mem (h.final_sound hv c).distinct hm
  have hn := Fields.mem_names_of_mem hm
  have hf := c.mem_followed_of_mem_final (h.distinct_followed hv c) (h.distinct_matched hv c) hn
  obtain ⟨uncovered, hu⟩ := h.isAdditional_answered hv c hf
  have hproper : Schema.isProperSchema additional = true := by simpa [ha] using h.steady.additional
  have hs : Wholly Steadfast additional :=
    h.below _ (Schema.mem_subschemas_of_get? ha (List.mem_singleton_self _))
  have hnull : additional ≠ .null := by
    rintro rfl
    cases hproper
  have hself : Reference.expand step.setting.options.source step.setting.root additional =
      .ok (some (.node additional)) := Step.expand_of_lone (·.lacks) hnull hs
  have admitted : uncovered = true → Schema.isFalse additional = false ∧
      ∀ path, Probe.issues step.setting y additional path = .ok [] := by
    rintro rfl
    have hp : name ∉ Fields.names c.properties := by
      intro hp
      rw [Step.isAdditional_of_declared c.properties_eq hp] at hu
      cases hu
    rcases c.final_turn (h.distinct_matched hv c) with ⟨hsilent, -⟩ | ⟨_, ha', -, -, hout, hin⟩
    · rw [ha] at hsilent
      obtain rfl : additional = .bool true := by simpa [hnull] using hsilent
      exact ⟨rfl, fun path => Probe.issues_true⟩
    · obtain rfl := Option.some.inj (ha.symm.trans ha')
      have hmatched : name ∈ Fields.names c.matched.members := by
        refine Classical.byContradiction fun hk => ?_
        cases hfinal.symm.trans (hout name hk)
      obtain ⟨u, v, ht, hi, hu', hv'⟩ := hin name hmatched
      rw [h.get?_matched_of_uncovered hv c hp hf hu] at hu'
      obtain ⟨x, hx⟩ := Fields.exists_get?_of_mem_names hf
      rcases ht with ⟨hw, -⟩ | ⟨-, _, hu'', ht⟩
      · -- what no property declares is in the value
        have hg := h.mem_gathered_of_mem_final hv c hn
        obtain ⟨z, hz⟩ := Fields.exists_get?_of_mem_names hg
        rw [h.get?_gathered hv c, if_neg hp, Fields.has_eq_false_iff.1 hw] at hz
        cases hz
      · obtain rfl := Except.ok.inj (hu.symm.trans hu'')
        obtain ⟨hfalse, w, rfl, ho⟩ := h.ready.resolved_of_uncovered hself ht hi
        rw [hu', hx] at ho
        obtain ⟨z, rfl, hz⟩ := h.descend_some hs (h.followed_sound hv c hp hx) ho
        rw [Built.get?_take] at hv'
        cases hv'.trans hfinal
        exact ⟨hfalse, hz⟩
  exact Probe.additionalIssues_of_admitted hm hu hself fun hk =>
    (admitted hk).imp_right fun hi => hi _

end Undeclared

/-! ## 4. Objects -/

section Objects

open Ready (Holds)
open Step (Passage)

variable {tag : Tag} {members : Fields}

variable (h : Voucher step) (hv : Sound False (.obj tag members)) (c : Passage step members)

include h hv

/-- What has been gathered is there in the end. -/
theorem mem_final_iff {name : String} :
    name ∈ Fields.names c.final.members ↔ name ∈ Fields.names c.gathered := by
  refine ⟨h.mem_gathered_of_mem_final hv c, fun hn => ?_⟩
  obtain ⟨x, hx⟩ := Fields.exists_get?_of_mem_names hn
  by_cases hp : name ∈ Fields.names c.properties
  · have hr := h.rel_final hv c hp
    rw [hx] at hr
    cases hf : get? c.final.members name with
    | none =>
      rw [hf] at hr
      cases hr
    | some y => exact Fields.mem_names_of_get? hf
  · rw [h.get?_gathered_of_undeclared hv c hp] at hx
    exact h.mem_final_of_mem hv c (Fields.mem_names_of_get? hx)

/-- **Where it is calm, all that has been gathered comes out as it is**, but for the order. -/
theorem reordered_final (hc : Calm step.fields) :
    Reordered (.obj none c.gathered) (.obj none c.final.members) := by
  have hg := h.sound_gathered hv c hc
  have hfollowed := Preserved.of_reordered hg (h.reordered_followed hv c)
  have hmatched := h.thrifty.passes_matched c
    (fun ht hm => hc.patterns _ (h.mem_tableOf (by simp) ht hm)) hfollowed
  exact (h.thrifty.passes_final c hc.additional hmatched).reordered hg.proper

/-- **The schemas that depend on members have nothing against what there is in the end.**  They had nothing
against what had been gathered, and what they look at is still the same. -/
theorem dependents_valid : Probe.dependentSchemaIssues step.setting none c.final.members step.fields
    step.path (Probe.narrower step.setting (.obj none c.final.members) step.fields) = .ok [] := by
  cases hx : get? step.fields "dependentSchemas" with
  | none => exact Probe.dependentSchemaIssues_of_none hx
  | some x =>
    have htable : Probe.membersOf x = .ok c.dependents :=
      c.membersOf_dependents (h.steady.tables "dependentSchemas" (by simp)) hx
    rw [Probe.dependentSchemaIssues_of_some hx htable, Probe.gather_eq_nil_iff]
    rintro ⟨trigger, s⟩ hm
    simp only [Step.read_str h.accessor, ok_bind]
    split
    · rfl
    · next hthere =>
      have hentry := h.mem_tableOf (by simp) c.dependents_eq hm
      have htriggers : triggers step.fields trigger = true := by
        simp [triggers, Fields.has_iff.2 (Fields.mem_names_of_mem hentry)]
      have hw : trigger ∈ Fields.names c.working := h.mem_working_of_mem_gathered hv c
        (fun s hm => h.steady.depended _ (h.mem_tableOf (by simp) c.properties_eq hm) htriggers)
        (h.mem_gathered_of_mem_final hv c (Fields.mem_names_of_get? hthere))
      obtain ⟨z, hz⟩ := Fields.exists_get?_of_mem_names hw
      have hread : step.readMember c.working (.str trigger) = .ok (some z) := by
        rw [← hz]
        exact Step.read_str h.accessor none trigger
      obtain ⟨a, b, rest, ha, ht, hrest⟩ := c.follows.exists_of_mem
        (P := fun b => b.issues = [] → Reordered (.obj none c.gathered) (.obj none b.members))
        (fun _ hd _ _ ht hb => h.reordered_dependent hv c hd ht hb)
        (fun _ => .refl (h.proper_gathered hv c)) hm
      have hb : b.issues = [] := (Built.grows_of_chain hrest fun _ _ _ =>
        Step.TakesDependent.grows).issues_eq_nil c.followed_issues
      rcases ht with ⟨hn, -⟩ | ⟨_, outcome, -, ho, rfl⟩
      · cases hread.symm.trans hn
      · have hr := ha ((a.grows_follow outcome).issues_eq_nil hb)
        cases outcome with
        | failed issues =>
          obtain ⟨-, rfl⟩ := List.append_eq_nil_iff.1 hb
          exact absurd ho (h.ready.honest _ _)
        | resolved w =>
          have hs := h.of_table (by simp) c.dependents_eq hm
          rcases h.steady.dependent _ hentry with hnominal | ⟨hbarren, hc⟩
          · -- the names are those that were looked at
            have names : NamesOnly step.setting s a.members w := h.nominally _ _ _ _ _
              ⟨rfl, hnominal, hs, ⟨none, rfl⟩, hr.proper'.distinct, h.plain⟩ ho
            have hproper : (Json.obj none c.final.members).Proper :=
              ((h.final_sound hv c).sound_obj hv.proper.distinct (.inl trivial)).proper
            exact names.valid none _ hproper
              (fun k => (h.mem_final_iff hv c).trans hr.members.mem_names_iff) _
          · -- back from what came out to what had been gathered, and on to what there is in the end
            have hsound := (h.sound_gathered hv c hc).reordered hr
            obtain ⟨y, rfl, hy⟩ := (h.vouching [] _ s w ⟨rfl, hs, fun _ e => by cases e; exact hsound.proper,
              fun _ e => by cases e; exact .inr (hsound.plain.resolve_left id),
              .inr ⟨_, rfl, Json.noConfusion⟩, h.plain⟩ ho).exists_valid Json.noConfusion
            obtain ⟨_, he, hay⟩ := (h.sparing.again_kept h.plain hbarren hsound ho).reordered hsound.proper
            cases he
            have hgathered : Probe.issues step.setting (.obj none c.gathered) s [] = .ok [] :=
              (Probe.issues_iff_of_reordered h.accessor (hr.trans hay)).2 (hy [])
            exact (Probe.issues_iff_of_reordered h.accessor (h.reordered_final hv c hc)).1 hgathered

/-- **An object that comes out of its stages has no issues.** -/
theorem members_valid : Probe.objectIssues step.setting none c.final.members step.fields step.path
    (Probe.inside step.setting (.obj none c.final.members))
    (Probe.narrower step.setting (.obj none c.final.members) step.fields) = .ok [] := by
  have hp := h.steady.tables "properties" (by simp)
  have hd := (h.final_sound hv c).distinct
  refine Probe.objectIssues_iff.2 ⟨c.properties, ?_⟩
  constructor
  case size =>
    refine Probe.memberCountIssues_of_le ?_ (h.length_final hv c) c.size_eq
    exact Fields.length_le_of_names hv.proper.distinct fun _ => h.mem_final_of_mem hv c
  case required =>
    refine (Step.requiredIssues_iff h.accessor hp).2 ?_
    have hr := c.required_eq
    rw [h.validates] at hr
    obtain ⟨names, hn, hnames⟩ := Step.requiredNames_eq_distinct h.steady.declared hr
    exact ⟨names, hn, hnames ▸ h.required_final hv c⟩
  case dependent => exact h.dependent_valid hv c
  case table => rw [Step.membersOf_memberTable hp, c.properties_eq]
  case declared =>
    intro name s hm
    have hread : step.setting.options.accessor.read (.obj none c.final.members) (.str name) =
        .ok (get? c.final.members name) := Step.read_str h.accessor none name
    cases hk : get? c.final.members name with
    | none => exact Probe.propertyIssues_of_none (hread.trans (congrArg Except.ok hk))
    | some y =>
      rw [Probe.propertyIssues_of_some (hread.trans (congrArg Except.ok hk))]
      split
      · rfl
      · exact (h.property_final hv c hm).valid y hk _
  case patterned =>
    rintro ⟨name, y⟩ hm
    unfold Probe.patternIssues
    split
    · rfl
    · next hdeclared =>
      obtain ⟨_, ptag, patterns, -, ht⟩ :=
        Step.exists_table (h.steady.tables "patternProperties" (by simp))
      have hadmits := h.final_patterned hv c (fun hp => hdeclared (Fields.has_iff.2 hp))
        (Fields.mem_names_of_mem hm)
      rw [tableOf, ht, Fields.get?_of_mem hd hm] at hadmits
      rw [ht, Probe.membersOf, ok_bind, Probe.gather_eq_nil_iff]
      intro pattern hpattern
      obtain ⟨fits, hf, hi⟩ := hadmits pattern hpattern
      simp only [hf, ok_bind]
      split
      · next hfits => exact hi hfits y rfl _
      · rfl
  case additional =>
    unfold Probe.allAdditionalIssues
    split
    · rfl
    · next additional ha =>
      rw [Probe.gather_eq_nil_iff]
      rintro ⟨name, y⟩ hm
      exact h.additional_valid hv c hm ha
  case names => exact c.names_eq
  case schemas => exact h.dependents_valid hv c

end Objects

/-! ## 5. Lists -/

/-- What becomes of the items of a list has come of one at the same position. -/
theorem exists_item {items ys : List Json} {i : Nat} {entry : Json × Nat}
    (h : List.Forall₂ (fun entry => step.BecomesItem entry.2 entry.1) (items.zipIdx i) ys)
    (hm : entry ∈ ys.zipIdx i) : ∃ x ∈ items, step.BecomesItem entry.2 x entry.1 := by
  induction items generalizing i ys with
  | nil =>
    cases h
    cases hm
  | cons x items ih =>
    rw [List.zipIdx_cons] at h
    cases h with
    | @cons _ y _ ys first rest =>
      rw [List.zipIdx_cons] at hm
      rcases List.mem_cons.1 hm with rfl | hm
      · exact ⟨x, List.mem_cons_self .., first⟩
      · obtain ⟨z, hz, hb⟩ := ih rest hm
        exact ⟨z, List.mem_cons_of_mem _ hz, hb⟩

/-- What becomes of an item is valid at its position. -/
theorem item_valid (h : Voucher step) {i : Nat} (hx : Sound False x) (hb : step.BecomesItem i x y) :
    Probe.itemIssues step.fields step.path i
      (fun schema place => Probe.issues step.setting y schema place) = .ok [] := by
  unfold Probe.itemIssues
  cases hb with
  | kept hk =>
    simp only [List.mem_cons, List.not_mem_nil, or_false] at hk
    rcases hk with hk | hk <;> simp only [hk]
  | @resolved s w hk hbool _ ho =>
    obtain ⟨k, z, hz, hs⟩ := Schema.exists_of_itemSchema hk
    obtain ⟨y, rfl, hy⟩ := h.descend_some (h.below s (Schema.mem_subschemas_of_get? hz hs)) hx ho
    simp only [hk]
    split
    · rfl
    · rfl
    · next e => exact absurd (Option.some.inj e) hbool.2
    · next e =>
      cases e
      exact hy _

/-- **A list that comes out has no issues.**  Where its items are compared or looked through, they come out
as they were, and else only their number counts. -/
theorem items_valid (h : Voucher step) {tag : Tag} {items : List Json}
    (hv : step.value = some (.arr tag items)) (hx : Sound False (.arr tag items))
    (hr : step.array.result = .ok (.resolved w)) : ∃ ys, w = some (.arr none ys) ∧
      Probe.arrayIssues ys step.fields step.path
        (fun x _ schema place => Probe.issues step.setting x schema place) = .ok [] := by
  obtain ⟨hwhole, ys, hys, rfl⟩ := (Step.array_resolved_iff h.ready.honest hv).1 hr
  refine ⟨ys, rfl, Probe.arrayIssues_iff.2 ⟨?_, ?_⟩⟩
  · by_cases early : checksEarly step.fields = true
    · obtain ⟨_, he, hr⟩ := ((h.spared early).items_kept hx hv hr).reordered hx.proper
      cases he
      exact (Probe.agree_listIssues Reordered.likeness hr.items (.refl _)
        fun _ _ _ _ s p q hxy => Probe.agree_issues h.accessor hxy s p q).nil_iff.1 hwhole
    · obtain ⟨hlooked, hunique⟩ := Bool.or_eq_false_iff.1 (Bool.eq_false_iff.2 early)
      have hcontains : get? step.fields "contains" = none :=
        Fields.has_eq_false_iff.1 (Bool.eq_false_iff.2 (List.any_eq_false.1 hlooked "contains" (by simp)))
      have hlength : items.length = ys.length := by
        have hl := hys.length_eq
        rwa [List.length_zipIdx] at hl
      rw [← hwhole]
      exact (Probe.listIssues_of_length_eq hunique hcontains hlength).symm
  · rintro ⟨y, i⟩ hm _
    obtain ⟨x, hitem, hb⟩ := exists_item hys hm
    exact h.item_valid (hx.of_mem_items hitem) hb

/-! ## 6. Kinds -/

/-- **What comes out as one of a kind**: it has the shape of the value that went in, and no issues as one of
this kind. -/
structure Passes (step : Step) (kind : Kind) (y : Json) : Prop where
  fits : kind.fits y = true
  shape : ∀ x, step.value = some x → SameShape x y
  valid : Probe.kindIssues step.setting kind y step.fields step.path (Probe.inside step.setting y)
    (Probe.narrower step.setting y step.fields) = .ok []

/-- Nothing comes out only where there is nothing, and what comes out passes as one of the kind. -/
def Yields (step : Step) (kind : Kind) (w : Option Json) : Prop :=
  (w = none → step.value = none) ∧ ∀ y, w = some y → Passes step kind y

/-- A value that comes out as it went in. -/
theorem yields_same {kind : Kind} (hv : step.value = some x)
    (hi : Probe.kindIssues step.setting kind x step.fields step.path (Probe.inside step.setting x)
      (Probe.narrower step.setting x step.fields) = .ok []) : Yields step kind (some x) := by
  refine ⟨nofun, fun y hy => ?_⟩
  cases hy
  refine ⟨Probe.fits_of_kindIssues hi, fun z hz => ?_, hi⟩
  cases hv.symm.trans hz
  exact .same

/-- A missing value that stays missing. -/
theorem yields_none {kind : Kind} (h : Voucher step) (hv : step.value = none) {atRoot : Option Json}
    (hr : (step.missing atRoot).result = .ok (.resolved w)) : Yields step kind w := by
  obtain rfl := Step.eq_none_of_missing (h.parent_isObject hv) hr
  exact ⟨fun _ => hv, nofun⟩

theorem solid_of_container (h : Voucher step) (hv : step.value = some x)
    (hx : Accessor.isContainer x = true) : Sound False x := by
  refine ⟨(h.ready.value x hv).proper, .inr ((h.solid x hv).resolve_left ?_)⟩
  rintro rfl
  cases hx

/-- An object passes, also where it is built from nothing. -/
theorem members_yield (h : Voucher step) {tag : Tag} {members : Fields}
    (hs : Sound False (.obj tag members)) (hx : ∀ x, step.value = some x → x = .obj tag members)
    (hr : (step.resolveMembers members).result = .ok (.resolved w)) : Yields step .object w := by
  obtain ⟨c, rfl⟩ := Step.exists_passage hr
  refine ⟨nofun, fun y hy => ?_⟩
  cases hy
  refine ⟨rfl, fun x hv => ?_, h.members_valid hs c⟩
  rw [hx x hv]
  exact .objects

/-- **What comes out of a kind passes as one of it.** -/
theorem ofKind_yields (h : Voucher step) {kind : Kind}
    (hr : (step.ofKind kind).result = .ok (.resolved w)) : Yields step kind w := by
  cases Step.comesOut hr with
  | null hv | boolean hv =>
    refine ⟨nofun, fun y hy => ?_⟩
    cases hy
    exact ⟨rfl, fun x hx => (Option.some_ne_none x (hx.symm.trans hv)).elim, rfl⟩
  | missing hv _ hr => exact h.yields_none hv hr
  | scalar _ hv hi => exact yields_same hv hi
  | list hv hr =>
    obtain ⟨ys, rfl, hi⟩ := h.items_valid hv (h.solid_of_container hv rfl) hr
    refine ⟨nofun, fun y hy => ?_⟩
    cases hy
    refine ⟨rfl, fun x hx => ?_, hi⟩
    cases hv.symm.trans hx
    exact .lists
  | members hv hr =>
    exact h.members_yield (h.solid_of_container hv rfl)
      (fun x hx => Option.some.inj (hx.symm.trans hv)) hr
  | built hv hr => exact h.members_yield .empty (fun x hx => by cases hv.symm.trans hx) hr
  | unbuilt hv => exact ⟨fun _ => hv, nofun⟩

/-! ## 7. Types -/

/-- A voucher at what remains of its schema. -/
theorem narrowed (h : Voucher step) {kind : Kind} {remaining : Fields}
    (hd : Decides step.fields x kind remaining) : Voucher (step.narrowed remaining) where
  ready := h.ready.narrowed hd
  steady := by
    cases hd with
    | inferred | single => exact h.steady
    | several => exact h.steady.restrict _
  below s hs := h.below s (hd.mem_subschemas hs)
  solid := h.solid
  inner := h.inner
  plain := h.plain
  validates := h.validates
  sparing := h.sparing
  solidly := h.solidly
  nominally := h.nominally
  vouching := h.vouching

/-- **What comes out by type has no issues by type.** -/
theorem typed_valid (h : Voucher step) (hr : step.typed.result = .ok (.resolved w)) :
    (w = none → step.value = none) ∧ ∀ y, w = some y →
      Probe.typeIssues step.setting y step.tag step.fields step.path (Probe.inside step.setting y)
        (Probe.narrower step.setting y step.fields) = .ok [] := by
  cases hv : step.value with
  | some x =>
    rcases Step.decides_of_typed hv hr with hs | ⟨kind, remaining, hd⟩
    · rw [Step.typed_of_silent hv hs] at hr
      cases hr
      refine ⟨id, fun y hy => Probe.typeIssues_iff.2 (.inl ?_)⟩
      cases hy
      exact hs
    · rw [Step.typed_of_decides hv hd] at hr
      obtain ⟨hnone, hpasses⟩ := (h.narrowed hd).ofKind_yields hr
      refine ⟨fun hn => hv ▸ hnone hn, fun y hy => ?_⟩
      have passes := hpasses y hy
      exact Probe.typeIssues_iff.2 (.inr ⟨kind, remaining, hd.of_sameShape (passes.shape x hv), passes.valid⟩)
  | none =>
    refine ⟨fun _ => rfl, fun y hy => ?_⟩
    rcases Step.typed_of_missing (h.parent_isObject hv) hv hr with rfl | ⟨kind, hkind, -, -, hd⟩
    · cases hy
    · have passes := (h.ofKind_yields hkind).2 y hy
      exact Probe.typeIssues_iff.2 (.inr ⟨kind, step.fields, hd y passes.fits, passes.valid⟩)

/-! ## 8. Steps -/

/-- **What comes out by type is still the constant, or in the enumeration**: where there is one, nothing
has been filled in, but what stands in for a missing value. -/
theorem pins_valid (h : Voucher step)
    (hi : step.value = none → Fields.has step.fields "enum" = true → ∀ entry ∈ standIns,
      declaredTypes step.schema = [.str entry.1.name] → Probe.pinIssues entry.2 step.fields [] = .ok [])
    (hpin : step.pinIssues = .ok [])
    (hconst : Fields.has step.fields "const" = true → ∃ x, step.value = some x)
    (hr : step.typed.result = .ok (.resolved (some y))) :
    Probe.pinIssues y step.fields step.path = .ok [] := by
  cases hp : isPinned step.fields with
  | false => exact Probe.pinIssues_of_unpinned hp y
  | true =>
    have early : checksEarly step.fields = true := by
      rcases Bool.or_eq_true_iff.1 hp with hk | hk <;> simp [checksEarly, hk]
    cases hv : step.value with
    | some x =>
      rw [Step.pinIssues_eq hv h.validates] at hpin
      rcases h.solid x hv with rfl | hfree
      · cases (Step.typed_of_null hv hr).1
        exact hpin
      · have hx : Sound False x := ⟨(h.ready.value x hv).proper, .inr hfree⟩
        obtain ⟨_, he, hxy⟩ := ((h.spared early).typed_kept hv hx hr).reordered hx.proper
        cases he
        exact (Probe.agree_pinIssues Reordered.likeness hxy).nil_iff.1 hpin
    | none =>
      -- a constant is filled in, so it is an enumeration
      have henum : Fields.has step.fields "enum" = true := by
        rcases Bool.or_eq_true_iff.1 hp with hk | hk
        · obtain ⟨x, hx⟩ := hconst hk
          cases hv.symm.trans hx
        · exact hk
      rcases (h.spared early).typed_missing (h.parent_isObject hv) hv hr with hn | ⟨entry, hm, ht, he⟩
      · cases hn
      · cases he
        have hproper : ∀ entry ∈ standIns, entry.2.Proper := by decide
        have hsame : Reordered entry.2 entry.2 := .refl (hproper entry hm)
        exact (Probe.agree_pinIssues Reordered.likeness hsame).nil_iff.1 (hi hv henum entry hm ht)

/-- Where nothing is filled in there was nothing to fill in. -/
theorem filled_eq_none (hf : step.filled = none) : Schema.isAbsent step.value step.schema = true ∧
    ∀ k ∈ ["default", "const"], get? step.fields k = none := by
  rw [Step.filled] at hf
  split at hf
  · next ha =>
    refine ⟨ha, fun k hk => ?_⟩
    split at hf
    · cases hf
    · cases hf
    · next hdefault hconst =>
      rcases List.mem_pair.1 hk with rfl | rfl
      · exact hdefault
      · exact hconst
  · next ha =>
    rw [hf] at ha
    exact absurd rfl ha

/-- What is filled in is null, or it has no nulls inside. -/
theorem filled_solid (h : Voucher step) (hs : Steadfast step.fields) (hx : step.filled = some x) :
    x = .null ∨ x.NullFree := by
  rw [Step.filled] at hx
  split at hx
  · split at hx
    · next d _ hd =>
      cases hx
      exact hs.filled "default" (by simp) _ hd
    · next d _ hd =>
      cases hx
      exact hs.filled "const" (by simp) _ hd
    · cases hx
  · exact h.solid x hx

/-- The step with its value filled in. -/
theorem filled_voucher (h : Voucher step) (hs : Steadfast step.fields) :
    Voucher { step with value := step.filled } where
  ready := ⟨h.ready.tame, h.ready.good, h.ready.filled.sound h.ready.value, .inl trivial,
    h.ready.keeps, h.ready.honest⟩
  steady := h.steady
  below := h.below
  solid _ := h.filled_solid hs
  inner := h.inner.imp_right fun ⟨x, hx, hnull⟩ => ⟨x, Step.filled_eq hx hnull, hnull⟩
  plain := h.plain
  validates := h.validates
  sparing := h.sparing
  solidly := h.solidly
  nominally := h.nominally
  vouching := h.vouching

/-- **A step vouches for what comes out of it.** -/
theorem run_vouched (h : Voucher step) (hs : Steadfast step.fields)
    (hr : step.run.result = .ok (.resolved w)) :
    Vouched step.setting step.schema step.value w := by
  obtain ⟨hpin, hr⟩ := Step.run_resolved_iff.1 hr
  have filled := h.filled_voucher hs
  have hdispatch : Step.dispatch { step with value := step.filled } =
      Step.typed { step with value := step.filled } := Step.dispatch_of_lone h.steady.lacks
  rw [hdispatch] at hr
  obtain ⟨hnone, htype⟩ := filled.typed_valid hr
  refine ⟨fun hw => (filled_eq_none (hnone hw)).1, ?_⟩
  rintro y rfl path
  have henum : step.filled = none → Fields.has step.fields "enum" = true → ∀ entry ∈ standIns,
      declaredTypes step.schema = [.str entry.1.name] →
        Probe.pinIssues entry.2 step.fields [] = .ok [] := by
    intro hf henum
    have bare := (filled_eq_none hf).2
    rcases hs.enumerated henum with hd | hc | ht
    · simp [Fields.has, bare "default" (by simp)] at hd
    · simp [Fields.has, bare "const" (by simp)] at hc
    · exact ht
  have hconst : Fields.has step.fields "const" = true → ∃ x, step.filled = some x := by
    intro hc
    cases hf : step.filled with
    | some x => exact ⟨x, rfl⟩
    | none => simp [Fields.has, (filled_eq_none hf).2 "const" (by simp)] at hc
  have hpins : Probe.pinIssues y step.fields step.path = .ok [] :=
    filled.pins_valid henum hpin hconst hr
  have uncomposed : ∀ k ∈ Schema.compositeKeywords, get? step.fields k = none := fun k hk =>
    h.steady.lacks k (List.mem_cons_of_mem _ hk)
  have hhere : Probe.issues step.setting y (.obj step.tag step.fields) step.path = .ok [] := by
    rw [Probe.issues_of_uncomposed uncomposed, hpins, ok_bind]
    exact htype y rfl
  have hproper : y.Proper := (filled.ready.typed hr).proper y rfl
  exact (Probe.issues_iff_of_reordered h.accessor (.refl hproper)).1 hhere

end Voucher

/-- **Every resolution vouches for what comes out of it.** -/
theorem vouching_resolve {setting : Probe.Setting} (ha : setting.options.accessor = .direct)
    (hv : setting.options.skipValidation = false) (guard : Guard) :
    ∀ request s w, Fit request s → (resolve setting guard request).result = .ok (.resolved w) →
      Vouched setting s request.value w := by
  intro request s w hf h
  have ht : Tame True setting Lone Lone := tame_lone ha
  obtain ⟨deep, h⟩ := resolve_resolved_iff.1 h
  cases h with
  | unasked hs' htrivial =>
    cases hf.schema.symm.trans hs'
    refine ⟨fun hn => by rw [hn]; rfl, fun y _ path => ?_⟩
    rcases List.mem_pair.1 htrivial with rfl | rfl
    · exact Probe.issues_null
    · exact Probe.issues_true
  | missing _ hn =>
    rw [hn]
    exact ⟨fun _ => rfl, by simp⟩
  | @step tag fields _ hs' h =>
    cases hf.schema.symm.trans hs'
    have hs := hf.steadfast
    have vouching : Vouching setting fun extension next => resolve setting (guard.enter extension) next :=
      fun extension next s w hf h => vouching_resolve ha hv (guard.enter extension) next s w hf h
    have voucher : Voucher (request.step setting guard tag fields) :=
      { ready := ⟨ht, good_of_lone (·.lacks) hs, fun x hx => ⟨hf.proper x hx, .inl trivial⟩,
          .inl trivial, fun extension next w hn h => keeps_resolve ht (guard.enter extension) next w hn h,
          fun _ _ => honest_resolve _ _ _⟩
        steady := hs.here.toSteady
        below := fun s hm => hs.below hm
        solid := hf.solid
        inner := hf.inner
        plain := hf.plain
        validates := hv
        sparing := fun extension next s w hf h =>
          sparing_resolve ha hv (guard.enter extension) next s w hf h
        solidly := fun extension next s w hf h =>
          solid_resolve ha (guard.enter extension) next s w hf h
        nominally := fun extension next s members w hf h =>
          nominal_resolve ha hv (guard.enter extension) next s members w hf h
        vouching := vouching }
    exact voucher.run_vouched hs.here h
termination_by guard.rank
decreasing_by exact Guard.rank_enter_lt ‹_› extension

end Resolve

/-! ## 9. Whole resolutions -/

/-- A schema that fills in beside most of what there is to check: members that are counted, required by
others or named by a pattern, schemas that depend on members, a list without repetitions, and a default that
has something filled in itself. -/
def provided : Json := .obj none [
  ("type", .str "object"),
  ("required", .arr none [.str "name"]),
  ("minProperties", .num (.int 2)),
  ("dependentRequired", .obj none [("name", .arr none [.str "tags"])]),
  ("properties", .obj none [
    ("name", .obj none [("type", .str "string"), ("minLength", .num (.int 1))]),
    ("kind", .obj none [("type", .str "string"), ("enum", .arr none [.str "a", .str "b"]),
      ("default", .str "a")]),
    ("open", .obj none [("type", .str "boolean")]),
    ("origin", .obj none [("type", .str "object"), ("default", .obj none [("x", .num (.int 5))]),
      ("properties", .obj none [
        ("x", .obj none [("type", .str "number"), ("default", .num (.int 0))]),
        ("y", .obj none [("type", .str "number"), ("default", .num (.int 1))])])]),
    ("tags", .obj none [("type", .str "array"), ("uniqueItems", .bool true),
      ("items", .obj none [("type", .str "string")]),
      ("contains", .obj none [("maxLength", .num (.int 1))])]),
    ("pair", .obj none [("type", .str "object"), ("maxProperties", .num (.int 2)),
      ("properties", .obj none [
        ("a", .obj none [("type", .str "number")]),
        ("b", .obj none [("type", .str "number")])])]),
    ("limits", .obj none [("type", .str "object"),
      ("properties", .obj none [
        ("low", .obj none [("type", .str "number")]),
        ("high", .obj none [("type", .str "number")]),
        ("unit", .obj none [("default", .str "m")])]),
      ("dependentSchemas", .obj none [("low", .obj none [("required", .arr none [.str "high"]),
        ("properties", .obj none [("high", .obj none [("minimum", .num (.int 2))])])])])])]),
  ("dependentSchemas", .obj none [("tags", .obj none [("required", .arr none [.str "limits"]),
    ("minProperties", .num (.int 5))])]),
  ("patternProperties", .obj none [
    ("^x", .obj none [("properties", .obj none [
      ("n", .obj none [("type", .str "number"), ("const", .num (.int 7))])])])]),
  ("additionalProperties", .obj none [("type", .str "integer"), ("minimum", .num (.int 1))]),
  ("propertyNames", .obj none [("minLength", .num (.int 2))])]

/-- A value with all that the schema asks for. -/
def offered : Json := .obj none [
  ("xs", .obj none []),
  ("extra", .num (.int 3)),
  ("limits", .obj none [("high", .num (.int 5)), ("low", .num (.int 1))]),
  ("tags", .arr none [.str "t"]),
  ("name", .str "n")]

/-- The value with everything filled in. -/
def ample : Json := .obj none [
  ("name", .str "n"),
  ("kind", .str "a"),
  ("open", .bool false),
  ("origin", .obj none [("x", .num (.int 5)), ("y", .num (.int 1))]),
  ("tags", .arr none [.str "t"]),
  ("limits", .obj none [("low", .num (.int 1)), ("high", .num (.int 5)), ("unit", .str "m")]),
  ("xs", .obj none [("n", .num (.int 7))]),
  ("extra", .num (.int 3))]

/-- A property that is filled in. -/
def filledIn : Json := .obj none [("default", .num (.int 1))]

/-- A schema by which a member is filled in. -/
def fillsIn : Json := .obj none [("properties", .obj none [("x", filledIn)])]

/-- A schema by which a member must be empty. -/
def emptyInside : Json := .obj none [("properties", .obj none [
  ("a", .obj none [("maxProperties", .num (.int 0))])])]

/-- **Schemas that undo what they checked**, each with a value and with what comes out of it. -/
def overtaken : List (Json × Json × Json) := [
  -- two members where at most one is admitted
  (.obj none [("type", .str "object"), ("maxProperties", .num (.int 1)),
      ("properties", .obj none [("a", filledIn), ("b", .obj none [("default", .num (.int 2))])])],
    .obj none [], .obj none [("a", .num (.int 1)), ("b", .num (.int 2))]),
  -- a member that requires another
  (.obj none [("dependentRequired", .obj none [("x", .arr none [.str "y"])]),
      ("properties", .obj none [("x", filledIn)])],
    .obj none [], .obj none [("x", .num (.int 1))]),
  -- a member that another schema depends on
  (.obj none [("dependentSchemas", .obj none [("x", .bool false)]),
      ("properties", .obj none [("x", filledIn)])],
    .obj none [], .obj none [("x", .num (.int 1))]),
  -- a member that is filled in by a schema which depends on it
  (.obj none [("properties", .obj none [("a", .obj none [("maxProperties", .num (.int 0))])]),
      ("dependentSchemas", .obj none [("a", .obj none [("properties", .obj none [("a", fillsIn)])])])],
    .obj none [("a", .obj none [])], .obj none [("a", .obj none [("x", .num (.int 1))])]),
  -- a member that is filled in by a pattern, or as an additional one, after a schema which depends on it
  (.obj none [("dependentSchemas", .obj none [("a", emptyInside)]),
      ("patternProperties", .obj none [("a", fillsIn)])],
    .obj none [("a", .obj none [])], .obj none [("a", .obj none [("x", .num (.int 1))])]),
  (.obj none [("dependentSchemas", .obj none [("a", emptyInside)]), ("additionalProperties", fillsIn)],
    .obj none [("a", .obj none [])], .obj none [("a", .obj none [("x", .num (.int 1))])]),
  -- a null that a schema which depends on a member takes for nothing
  (.obj none [("properties", .obj none [("n", .obj none [("type", .str "null")])]),
      ("dependentSchemas", .obj none [("a", .obj none [
        ("additionalProperties", .obj none [("type", .str "string")])])])],
    .obj none [("a", .str "s")], .obj none [("n", .null), ("a", .str "s")]),
  -- two items that become the same
  (.obj none [("uniqueItems", .bool true), ("items", fillsIn)],
    .arr none [.obj none [], .obj none [("x", .num (.int 1))]],
    .arr none [.obj none [("x", .num (.int 1))], .obj none [("x", .num (.int 1))]]),
  -- the only item that was asked for
  (.obj none [("contains", .obj none [("maxProperties", .num (.int 0))]), ("items", fillsIn)],
    .arr none [.obj none []], .arr none [.obj none [("x", .num (.int 1))]]),
  -- a value that was the constant, or one of the enumeration
  (.obj none [("const", .obj none []), ("properties", .obj none [("x", filledIn)])],
    .obj none [], .obj none [("x", .num (.int 1))]),
  (.obj none [("enum", .arr none [.obj none []]), ("properties", .obj none [("x", filledIn)])],
    .obj none [], .obj none [("x", .num (.int 1))]),
  -- a member of two patterns, the second of which fills in
  (.obj none [("patternProperties", .obj none [
      ("a", .obj none [("maxProperties", .num (.int 0))]), ("b", fillsIn)])],
    .obj none [("ab", .obj none [])], .obj none [("ab", .obj none [("x", .num (.int 1))])]),
  -- a default with a null inside
  (.obj none [("properties", .obj none [("x", .obj none [("default", .obj none [("y", .null)]),
      ("additionalProperties", .obj none [("type", .str "string")])])])],
    .obj none [], .obj none [("x", .obj none [("y", .null)])]),
  -- the false of a boolean that must be true
  (.obj none [("properties", .obj none [("x", .obj none [("type", .str "boolean"),
      ("enum", .arr none [.bool true])])])],
    .obj none [], .obj none [("x", .bool false)])]

end Conform
