/-
# Every name has its turn

The stages of an object work off lists of names, and what is done for a name is done to the member of that
name alone.  So the member that there is in the end is known from its turns: what a declared property made
of it (`declared_spec`), and for a name that no property declares what the patterns made of it
(`matched_turn`) and after them the schema for additional members (`final_turn`).  No stage makes a name
that was not there when its list was drawn up.

A missing value has no kind that decides about it.  Where it is resolved by a kind nevertheless, that kind
decides about whatever of it takes the value's place (`typed_of_missing`).
-/
import Conform.Proofs.Counterparts

namespace Conform

open Fields (get?)

/-- The kind that decides about a value decides about another one of its shape. -/
theorem Schema.Decides.of_sameShape {fields remaining : Fields} {kind : Kind} {x y : Json}
    (hd : Decides fields x kind remaining) (hs : Json.SameShape x y) :
    Decides fields y kind remaining := by
  cases hd with
  | inferred h hk =>
    refine .inferred h ?_
    simpa only [inferKind, hs.ofValue_eq] using hk
  | single h hk => exact .single h hk
  | several h hk => exact .several h (hs.firstFit_eq _ ▸ hk)

namespace Resolve

/-- **What came out counts as being there**, or there was nothing and nothing came out. -/
def Present (schema : Json) (value w : Option Json) : Prop :=
  (Schema.isAbsent value schema = true ∧ w = none) ∨ Schema.isAbsent w schema = false

/-- What is there is not lost. -/
theorem Present.of_there {schema : Json} {value w : Option Json} (h : Present schema value w)
    (hv : Schema.isAbsent value schema = false) :
    ∃ y, w = some y ∧ Schema.isAbsent (some y) schema = false := by
  rcases h with ⟨ha, -⟩ | hw
  · rw [hv] at ha
    cases ha
  · cases w with
    | none => cases hw
    | some y => exact ⟨y, rfl, hw⟩

/-- **A step that looks members up directly**, at a proper schema that is not negated, and whose further
resolutions fail for some reason if they fail. -/
structure Regular (step : Step) : Prop where
  accessor : step.setting.options.accessor = .direct
  proper : step.schema.Proper
  plain : step.negated = false
  honest : ∀ extension request, Honest (step.again extension request)

namespace Step

variable {step : Step} {b b' : Built} {name : String} {w : Option Json}

/-! ## 1. What a turn leaves alone -/

/-- A name that is there is found. -/
theorem HasRequired.exists_get? {members : Fields} (h : step.HasRequired members (.str name))
    (ha : step.setting.options.accessor = .direct) : ∃ x, get? members name = some x := by
  obtain ⟨found, schema, hf, -, hthere⟩ := h
  obtain rfl : get? members name = found := Except.ok.inj ((read_str ha none name).symm.trans hf)
  cases hk : get? members name with
  | some x => exact ⟨x, rfl⟩
  | none =>
    rw [hk] at hthere
    cases hthere

theorem TakesPattern.frame {pattern : String × Json} (h : step.TakesPattern name pattern b b') :
    ∀ k ≠ name, get? b'.members k = get? b.members k := by
  intro k hk
  rcases h with ⟨-, rfl⟩ | ⟨-, outcome, -, rfl⟩
  · rfl
  · exact b.get?_take_of_ne outcome hk

theorem TakesName.frame {properties : Fields} (h : step.TakesName properties name b b') :
    ∀ k ≠ name, get? b'.members k = get? b.members k := by
  intro k hk
  rcases h with ⟨-, rfl⟩ | ⟨-, patterns, -, hc⟩
  · rfl
  · exact hc.keeps (P := fun c => get? c.members k = get? b.members k)
      (fun _ _ _ _ ht hs => (ht.frame k hk).trans hs) rfl

/-- A member that is there with defaults in place was there before, or it is the default of its name. -/
theorem get?_withDefaults {names : List Json} {members working : Fields}
    (hw : step.withDefaults names members = .ok working) (k : String) :
    get? working k = get? members k ∨ .str k ∈ names ∧ ∃ tag fields d,
      Probe.propertySchema (step.tableOrEmpty "properties") (.str k) = .ok (.obj tag fields) ∧
        get? fields "default" = some d ∧ get? working k = some d := by
  induction names generalizing members with
  | nil =>
    cases hw
    exact .inl rfl
  | cons n rest ih =>
    have later : ∀ {members}, step.withDefaults rest members = .ok working →
        get? working k = get? members k ∨ .str k ∈ n :: rest ∧ ∃ tag fields d,
          Probe.propertySchema (step.tableOrEmpty "properties") (.str k) = .ok (.obj tag fields) ∧
            get? fields "default" = some d ∧ get? working k = some d := by
      intro members hw
      exact (ih hw).imp_right fun ⟨hm, hrest⟩ => ⟨List.mem_cons_of_mem _ hm, hrest⟩
    rw [withDefaults, bind_eq_ok] at hw
    obtain ⟨schema, hs, hw⟩ := hw
    split at hw
    · next tag fields s =>
      split at hw
      · next d hd =>
        obtain ⟨found, -, hw⟩ := bind_eq_ok.1 hw
        split at hw
        · rcases later hw with he | hfound
          · rw [Fields.get?_put] at he
            split at he
            · next e =>
              subst e
              exact .inr ⟨List.mem_cons_self .., tag, fields, d, hs, hd, he⟩
            · exact .inl he
          · exact .inr hfound
        · exact later hw
      · exact later hw
    · exact later hw

/-! ## 2. The turns of a name -/

namespace Passage

variable {value : Fields} (c : Passage step value)

/-- The declared properties with the other members behind them. -/
abbrev gathered : Fields := Fields.union c.declared.members (otherMembers c.properties c.working)

/-- **Each property had its turn**: it made of its member what is now built, and nothing else is. -/
theorem declared_spec (h : Regular step) :
    (∀ k ∉ Fields.names c.properties, get? c.declared.members k = none) ∧
      ∀ k s, (k, s) ∈ c.properties → ∃ w,
        (step.descend (.str k) (.node s) (get? c.working k)).result = .ok (.resolved w) ∧
        get? c.declared.members k = w := by
  have hd : (c.properties.map (·.1)).Nodup := Ready.distinct_of_table h.proper c.properties_eq
  obtain ⟨hout, hin⟩ := Built.exists_turn c.declares hd (fun _ _ _ => TakesProperty.grows)
    (fun _ _ _ => TakesProperty.frame) c.declared_issues
  refine ⟨fun k hk => hout k hk, fun k s hm => ?_⟩
  obtain ⟨u, v, ht, hi, hu, hb⟩ := hin _ hm
  rcases ht with ⟨hl, -⟩ | ⟨-, found, outcome, hf, ho, rfl⟩
  · rw [c.reported h.plain] at hl
    cases hl
  · replace hf : get? c.working k = found := Except.ok.inj ((read_str h.accessor none k).symm.trans hf)
    subst hf
    obtain ⟨w, rfl⟩ := Ready.resolved_of_take (h.honest _ _) ho hi
    refine ⟨w, ho, ?_⟩
    rw [← hb, Built.get?_take, hu]
    exact Option.or_none

theorem get?_gathered (h : Regular step) (hw : Fields.Distinct c.working) (k : String) :
    get? c.gathered k = if k ∈ Fields.names c.properties then get? c.declared.members k
      else get? c.working k :=
  get?_union_otherMembers hw (c.declared_spec h).1

theorem distinct_declared : Fields.Distinct c.declared.members := by
  refine c.declares.keeps (P := fun b => Fields.Distinct b.members) (fun property _ b b' ht hb => ?_)
    Fields.distinct_nil
  rcases ht with ⟨-, rfl⟩ | ⟨-, found, outcome, -, -, rfl⟩
  · exact hb
  · cases outcome with
    | failed issues => exact hb
    | resolved w =>
      cases w with
      | none => exact hb
      | some x => exact hb.put

/-- Every required name is there once defaults are in place. -/
theorem required_there (h : Regular step) : ∀ k ∈ c.required, step.HasRequired c.working k := by
  have hmissing := c.missing_eq
  rw [c.reported h.plain] at hmissing
  exact absentNames_eq_nil_iff.1 hmissing

/-- A member that is there with defaults in place was there before, or it is the default of a required
property. -/
theorem working_cases (k : String) :
    get? c.working k = get? value k ∨ .str k ∈ c.required ∧ ∃ tag fields d,
      (k, .obj tag fields) ∈ c.properties ∧ get? fields "default" = some d ∧
        get? c.working k = some d := by
  rcases get?_withDefaults c.working_eq k with he | ⟨hl, tag, fields, d, hs, hd, hk⟩
  · exact .inl he
  · obtain ⟨table, ht, hm⟩ := Ready.mem_of_propertySchema hs
    cases c.properties_eq.symm.trans ht
    exact .inr ⟨hl, tag, fields, d, hm, hd, hk⟩

/-- **Required names stay there**, if declared properties that are there stay so and the others keep their
names. -/
theorem required_stays (h : Regular step) {members : Fields}
    (hdeclared : ∀ k s, (k, s) ∈ c.properties → Schema.isAbsent (get? c.working k) s = false →
      Schema.isAbsent (get? members k) s = false)
    (hothers : ∀ k ∉ Fields.names c.properties, k ∈ Fields.names c.working →
      k ∈ Fields.names members) : ∀ k ∈ c.required, step.HasRequired members k := by
  intro k hk
  obtain ⟨found, schema, hf, hs, ha⟩ := c.required_there h k hk
  cases k with
  | str name =>
    obtain rfl : get? c.working name = found := Except.ok.inj ((read_str h.accessor none name).symm.trans hf)
    refine ⟨_, schema, read_str h.accessor none name, hs, ?_⟩
    obtain ⟨tag, ht⟩ := exists_of_membersOf c.properties_eq
    rw [ht] at hs
    obtain rfl := Except.ok.inj hs
    cases hp : get? c.properties name with
    | some s =>
      rw [hp] at ha
      exact hdeclared name s (Json.mem_of_get? hp) ha
    | none =>
      rw [hp] at ha
      have hn : name ∈ Fields.names c.working := by
        refine Classical.byContradiction fun hn => ?_
        rw [Fields.get?_eq_none_iff.2 hn] at ha
        cases ha
      obtain ⟨y, hy⟩ :=
        Fields.exists_get?_of_mem_names (hothers name (Fields.get?_eq_none_iff.1 hp) hn)
      rw [hy]
      cases y <;> rfl
  | arr | obj =>
    rw [readMember, h.accessor] at hf
    cases hf
  | _ =>
    rw [readMember, h.accessor] at hf
    cases hf
    cases ha

/-- **Each name had its turn among the patterns**, with its own member. -/
theorem matched_turn (hd : Fields.Distinct c.followed.members) :
    (∀ k ∉ Fields.names c.followed.members, get? c.matched.members k = none) ∧
      ∀ k ∈ Fields.names c.followed.members, ∃ u v, step.TakesName c.properties k u v ∧ v.issues = [] ∧
        get? u.members k = get? c.followed.members k ∧
        get? v.members k = get? c.matched.members k := by
  have hnames : ((Fields.names c.followed.members).map id).Nodup := by
    rw [List.map_id]
    exact hd
  obtain ⟨hout, hin⟩ := Built.exists_turn c.matches_ hnames (fun _ _ _ => TakesName.grows)
    (fun _ _ _ => TakesName.frame) c.matched_issues
  refine ⟨fun k hk => ?_, fun k hk => hin k hk⟩
  rw [hout k (by rwa [List.map_id])]
  exact Fields.get?_eq_none_iff.2 hk

/-- Patterns leave declared properties alone. -/
theorem get?_matched_of_declared (hd : Fields.Distinct c.followed.members)
    (hk : name ∈ Fields.names c.properties) :
    get? c.matched.members name = get? c.followed.members name := by
  obtain ⟨hout, hin⟩ := c.matched_turn hd
  by_cases hn : name ∈ Fields.names c.followed.members
  · obtain ⟨u, v, ht, -, hu, hv⟩ := hin name hn
    rcases ht with ⟨-, rfl⟩ | ⟨hnot, -⟩
    · rw [← hv, hu]
    · rw [Fields.has_iff.2 hk] at hnot
      cases hnot
  · rw [hout name hn, Fields.get?_eq_none_iff.2 hn]

/-- **Each name had its turn among the additional members**, if anything is said about them. -/
theorem final_turn (hd : Fields.Distinct c.matched.members) :
    (get? step.fields "additionalProperties" ∈ [none, some .null, some (.bool true)] ∧
      c.final = c.matched) ∨
    ∃ additional, get? step.fields "additionalProperties" = some additional ∧ additional ≠ .null ∧
      additional ≠ .bool true ∧
      (∀ k ∉ Fields.names c.matched.members, get? c.final.members k = none) ∧
      ∀ k ∈ Fields.names c.matched.members, ∃ u v,
        step.TakesAdditional c.working additional k u v ∧ v.issues = [] ∧
        get? u.members k = get? c.matched.members k ∧
        get? v.members k = get? c.final.members k := by
  rcases c.adds with hnone | ⟨additional, ha, hnull, htrue, hc⟩
  · exact .inl hnone
  · have hnames : ((Fields.names c.matched.members).map id).Nodup := by
      rw [List.map_id]
      exact hd
    obtain ⟨hout, hin⟩ := Built.exists_turn hc hnames (fun _ _ _ => TakesAdditional.grows)
      (fun _ _ _ => TakesAdditional.frame) c.final_issues
    refine .inr ⟨additional, ha, hnull, htrue, fun k hk => ?_, fun k hk => hin k hk⟩
    rw [hout k (by rwa [List.map_id])]
    exact Fields.get?_eq_none_iff.2 hk

/-- The schema for additional members leaves the others alone. -/
theorem get?_final_of_covered (hd : Fields.Distinct c.matched.members)
    (hk : Probe.isAdditional step.setting.options.engine name step.fields = .ok false) :
    get? c.final.members name = get? c.matched.members name := by
  rcases c.final_turn hd with ⟨-, he⟩ | ⟨additional, -, -, -, hout, hin⟩
  · rw [he]
  · by_cases hn : name ∈ Fields.names c.matched.members
    · obtain ⟨u, v, ht, -, hu, hv⟩ := hin name hn
      rw [← hv, ← hu]
      rcases ht with ⟨-, rfl⟩ | ⟨-, uncovered, hi, ht⟩
      · rfl
      · rw [hk] at hi
        cases hi
        rw [show v = u from ht]
    · rw [hout name hn, Fields.get?_eq_none_iff.2 hn]

/-- **No name is made after the declared properties**, except by schemas that depend on others. -/
theorem mem_followed_of_mem_final (hf : Fields.Distinct c.followed.members)
    (hm : Fields.Distinct c.matched.members) (hn : name ∈ Fields.names c.final.members) :
    name ∈ Fields.names c.followed.members := by
  have hmatched : name ∈ Fields.names c.matched.members := by
    rcases c.final_turn hm with ⟨-, he⟩ | ⟨-, -, -, -, hout, -⟩
    · exact he ▸ hn
    · exact Classical.byContradiction fun hk => Fields.get?_eq_none_iff.1 (hout name hk) hn
  exact Classical.byContradiction fun hk =>
    Fields.get?_eq_none_iff.1 ((c.matched_turn hf).1 name hk) hmatched

end Passage

/-! ## 3. Missing values -/

/-- Below the top a missing value is not at the top. -/
theorem isRoot_eq_false (h : step.parent.isObject = true) : step.isRoot = false := by
  unfold isRoot
  split
  · next hn _ =>
    rw [hn] at h
    cases h
  · rfl

/-- Below the top nothing takes the place of what is missing. -/
theorem eq_none_of_missing (h : step.parent.isObject = true) {atRoot : Option Json}
    (hr : (step.missing atRoot).result = .ok (.resolved w)) : w = none := by
  simp only [missing, Run.bind_result_eq_ok, Run.lift_result, isRoot_eq_false h] at hr
  obtain ⟨required, -, hr⟩ := hr
  split at hr
  · exact absurd hr fail_result_ne
  · cases hr
    rfl

/-- **A missing value is resolved by its type**: it stays missing, or a kind takes care of it that decides
about every value of this kind. -/
theorem typed_of_missing (hp : step.parent.isObject = true) (hv : step.value = none)
    (hr : step.typed.result = .ok (.resolved w)) :
    w = none ∨ ∃ kind, (step.ofKind kind).result = .ok (.resolved w) ∧
      step.remainingTag = step.tag ∧
      (kind = .null ∨ kind = .boolean → Schema.declaredTypes step.schema = [.str kind.name]) ∧
      ∀ y, kind.fits y = true → Schema.Decides step.fields y kind step.fields := by
  cases hd : Schema.declaredTypes step.schema with
  | nil =>
    have htag : step.remainingTag = step.tag := by rw [remainingTag, hd]
    cases hk : Schema.inferKind step.fields step.value with
    | none =>
      rw [show step.typed = done step.value by simp only [typed, hd, hk], hv] at hr
      cases hr
      exact .inl rfl
    | some kind =>
      rw [show step.typed = step.ofKind kind by simp only [typed, hd, hk]] at hr
      have inferred : ∀ {shape : Kind} {y : Json}, shape.fits y = true →
          (shape = .object ∨ shape = .array) →
          (Schema.keywordsOf shape).any (Fields.has step.fields) = true →
          Schema.inferKind step.fields (some y) = some shape := by
        rintro shape y hshape (rfl | rfl) hany <;> cases y <;>
          simp_all [Kind.fits, Schema.inferKind, Kind.ofValue]
      rw [hv] at hk
      simp only [Schema.inferKind] at hk
      refine .inr ⟨kind, hr, htag, ?_⟩
      split at hk
      · next hp =>
        cases hk
        refine ⟨by simp, fun y hy => .inferred hd (inferred hy (.inl rfl) (List.any_eq_true.2 ?_))⟩
        exact ⟨_, by simp [Schema.keywordsOf, Schema.objectKeywords], hp⟩
      · split at hk
        · next hi =>
          cases hk
          refine ⟨by simp, fun y hy => .inferred hd (inferred hy (.inr rfl) (List.any_eq_true.2 ?_))⟩
          rcases Bool.or_eq_true_iff.1 hi with hi | hi <;>
            exact ⟨_, by simp [Schema.keywordsOf, Schema.arrayKeywords], hi⟩
        · cases hk
  | cons type rest =>
    cases rest with
    | nil =>
      have htag : step.remainingTag = step.tag := by rw [remainingTag, hd]
      rw [show step.typed = step.ofType type by simp only [typed, hd]] at hr
      cases type with
      | str s =>
        cases hk : Kind.ofName? s with
        | some kind =>
          simp only [ofType, hk] at hr
          have hname : kind.name = s := by simpa using List.find?_some hk
          exact .inr ⟨kind, hr, htag, fun _ => by rw [hname], fun _ _ => .single hd hk⟩
        | none =>
          simp only [ofType, hk] at hr
          exact absurd hr fail_result_ne
      | arr | obj => cases hr
      | null | bool | num =>
        simp only [ofType, Accessor.isContainer, Bool.false_eq_true, if_false] at hr
        exact absurd hr fail_result_ne
    | cons other rest =>
      rw [show step.typed = step.missing none by simp only [typed, hd, ofTypes, hv]] at hr
      exact .inl (eq_none_of_missing hp hr)

/-! ## 4. Nulls -/

/-- A null counts as missing where it is a stray one. -/
theorem isStrayNull_eq (item schema : Json) :
    isStrayNull item schema = Schema.isAbsent (some item) schema := by
  cases item <;> rfl

/-- Where the kind that decides is that of null, there is room for null. -/
theorem allowsNull_of_decides {remaining : Fields} {x : Json}
    (hd : Schema.Decides step.fields x .null remaining) : Schema.allowsNull step.schema = true := by
  have room : ∀ {types : List Json}, Schema.declaredTypes step.schema = types →
      types = [] ∨ Json.listsName types "null" = true → Schema.allowsNull step.schema = true := by
    rintro types ht (rfl | hl)
    · simp [Schema.allowsNull, ht]
    · simp [Schema.allowsNull, ht, hl]
  cases hd with
  | inferred h => exact room h (.inl rfl)
  | @single name h hk =>
    have hname : Kind.null.name = name := by simpa using List.find?_some hk
    exact room h (.inr (by rw [← hname]; rfl))
  | several h hk =>
    have hf := List.find?_some hk
    simp only [Bool.and_eq_true] at hf
    exact room rfl (.inr hf.1)

/-- **A null that comes out by its type is still null**, and the schema has room for it. -/
theorem typed_of_null (hv : step.value = some .null) (hr : step.typed.result = .ok (.resolved w)) :
    w = some .null ∧ Schema.allowsNull step.schema = true := by
  rcases decides_of_typed hv hr with hs | ⟨kind, remaining, hd⟩
  · rw [typed_of_silent hv hs] at hr
    cases hr
    have hd : Schema.declaredTypes step.schema = [] := hs.1
    exact ⟨rfl, by simp [Schema.allowsNull, hd]⟩
  · rw [typed_of_decides hv hd] at hr
    have hv' : (step.narrowed remaining).value = some .null := hv
    obtain ⟨rfl, rfl⟩ : kind = .null ∧ w = some .null := by
      cases kind with
      | null =>
        simp only [ofKind, null, hv'] at hr
        cases hr
        exact ⟨rfl, rfl⟩
      | boolean =>
        simp only [ofKind, boolean, hv'] at hr
        exact absurd hr fail_result_ne
      | number | integer =>
        simp only [ofKind, number, hv', Probe.numberIssues] at hr
        cases (Step.of_doneUnless hr).1
      | string =>
        simp only [ofKind, string, hv', Probe.stringIssues, Run.bind_result_eq_ok, Run.lift_result] at hr
        obtain ⟨issues, he, hr⟩ := hr
        cases he
        cases (Step.of_doneUnless hr).1
      | array =>
        simp only [ofKind, array, hv'] at hr
        exact absurd hr fail_result_ne
      | object =>
        simp only [ofKind, object, hv'] at hr
        exact absurd hr fail_result_ne
    exact ⟨rfl, allowsNull_of_decides hd⟩

end Step

end Resolve

end Conform
