/-
# The resolution of containers, stage by stage

The members of an object go through six stages and the items of a list through one.  Each stage works
off a list and carries along what has been built so far, in a run that may stop at any point.  Here
every stage is turned into a relation: what one entry does to what has been built (`TakesProperty` and
its siblings), and a `Chain` of that for the whole list.  `resolveMembers_result` and `array_result`
then say what it takes for an object or a list to come out as it does, `comesOut` in which ways a value
of a kind comes out, and `run_resolved_iff` when a step does; nothing later opens the loops again.

Issues are never taken back (`Built.Grows`).  So if there are none at the end there were none at any
stage, and every resolution on the way ended with a value.
-/
import Conform.Proofs.Valid
import Conform.Resolve.Resolution

namespace Conform.Resolve

open Fields (get?)

/-! ## 1. Chains -/

/-- A list worked off one entry after the other, each changing what there is. -/
inductive Chain {α σ : Type} (Takes : α → σ → σ → Prop) : List α → σ → σ → Prop
  | nil {s : σ} : Chain Takes [] s s
  | cons {x : α} {xs : List α} {s t u : σ} (first : Takes x s t) (rest : Chain Takes xs t u) :
      Chain Takes (x :: xs) s u

namespace Chain

variable {α σ : Type} {Takes Takes' : α → σ → σ → Prop} {xs : List α} {x : α} {s t : σ}

@[simp] theorem nil_iff : Chain Takes [] s t ↔ t = s :=
  ⟨fun h => by cases h; rfl, fun h => h ▸ .nil⟩

theorem cons_iff {u : σ} : Chain Takes (x :: xs) s u ↔ ∃ t, Takes x s t ∧ Chain Takes xs t u :=
  ⟨fun h => by cases h with | cons first rest => exact ⟨_, first, rest⟩,
    fun ⟨_, first, rest⟩ => .cons first rest⟩

/-- **What every entry keeps is kept by the chain.** -/
theorem keeps {P : σ → Prop} (h : Chain Takes xs s t)
    (step : ∀ x ∈ xs, ∀ s t, Takes x s t → P s → P t) : P s → P t := by
  induction h with
  | nil => exact id
  | cons first rest ih =>
    intro hs
    exact ih (fun x hx => step x (List.mem_cons_of_mem _ hx))
      (step _ (List.mem_cons_self ..) _ _ first hs)

/-- Every entry has its turn, at something that still has what every entry keeps. -/
theorem exists_of_mem {P : σ → Prop} (h : Chain Takes xs s t)
    (step : ∀ x ∈ xs, ∀ s t, Takes x s t → P s → P t) (hs : P s) (hx : x ∈ xs) :
    ∃ u v rest, P u ∧ Takes x u v ∧ Chain Takes rest v t := by
  induction h with
  | nil => cases hx
  | @cons y ys s u t first rest ih =>
    rcases List.mem_cons.1 hx with rfl | hx
    · exact ⟨s, u, ys, hs, first, rest⟩
    · exact ih (fun x hx => step x (List.mem_cons_of_mem _ hx))
        (step _ (List.mem_cons_self ..) _ _ first hs) hx

/-- A chain of other steps, each of which does the same. -/
theorem imp (h : Chain Takes xs s t) (step : ∀ x ∈ xs, ∀ s t, Takes x s t → Takes' x s t) :
    Chain Takes' xs s t := by
  induction h with
  | nil => exact .nil
  | cons first rest ih =>
    exact .cons (step _ (List.mem_cons_self ..) _ _ first)
      (ih fun x hx => step x (List.mem_cons_of_mem _ hx))

/-- A chain of steps that change nothing. -/
theorem still (h : ∀ x ∈ xs, Takes x s s) : Chain Takes xs s s := by
  induction xs with
  | nil => exact .nil
  | cons x xs ih =>
    exact .cons (h x (List.mem_cons_self ..)) (ih fun y hy => h y (List.mem_cons_of_mem _ hy))

end Chain

/-! ## 2. What has been built -/

namespace Built

/-- Issues are only ever added. -/
def Grows (before after : Built) : Prop := ∃ more, after.issues = before.issues ++ more

variable {a b c : Built} {name k : String}

theorem Grows.refl (b : Built) : b.Grows b := ⟨[], by simp⟩

theorem Grows.trans (hab : a.Grows b) (hbc : b.Grows c) : a.Grows c := by
  obtain ⟨more, hm⟩ := hab
  obtain ⟨rest, hr⟩ := hbc
  exact ⟨more ++ rest, by rw [hr, hm, List.append_assoc]⟩

/-- Where there are no issues afterwards there were none before. -/
theorem Grows.issues_eq_nil (h : a.Grows b) (hb : b.issues = []) : a.issues = [] := by
  obtain ⟨more, hm⟩ := h
  exact (List.append_eq_nil_iff.1 (hm ▸ hb)).1

theorem grows_take (b : Built) (name : String) (outcome : Outcome) :
    b.Grows (b.take name outcome) := by
  cases outcome with
  | failed issues => exact ⟨issues, rfl⟩
  | resolved value => cases value <;> exact ⟨[], by simp [take]⟩

theorem grows_report (b : Built) (issues : List Issue) : b.Grows (b.report issues) :=
  ⟨issues, rfl⟩

/-- What the resolution of all that has been built adds: members override those built before. -/
def follow (b : Built) : Outcome → Built
  | .failed issues => b.report issues
  | .resolved (some (.obj _ members)) => { b with members := Fields.union b.members members }
  | .resolved _ => b

theorem grows_follow (b : Built) (outcome : Outcome) : b.Grows (b.follow outcome) := by
  unfold follow
  split
  · exact b.grows_report _
  · exact ⟨[], by simp⟩
  · exact .refl _

/-- A chain of steps that only add issues only adds issues. -/
theorem grows_of_chain {α : Type} {Takes : α → Built → Built → Prop} {xs : List α}
    (h : Chain Takes xs a b) (step : ∀ x a b, Takes x a b → a.Grows b) : a.Grows b :=
  h.keeps (P := a.Grows) (fun x _ s t hst has => has.trans (step x s t hst)) (.refl a)

theorem get?_take_of_ne (b : Built) (outcome : Outcome) (h : k ≠ name) :
    get? (b.take name outcome).members k = get? b.members k := by
  cases outcome with
  | failed issues => rfl
  | resolved value =>
    cases value with
    | none => rfl
    | some x => simp [take, h]

theorem get?_take (b : Built) (value : Option Json) :
    get? (b.take name (.resolved value)).members name = value.or (get? b.members name) := by
  cases value with
  | none => rfl
  | some x => simp [take]

/-- Taking up what is there already changes nothing. -/
theorem take_of_get? {value : Option Json} (h : value = none ∨ get? b.members name = value) :
    b.take name (.resolved value) = b := by
  cases value with
  | none => rfl
  | some x =>
    have hx : get? b.members name = some x := h.resolve_left nofun
    simp only [take, Fields.put_of_get? hx]

/-- The members stay where they are if the one that is set is there. -/
theorem names_take (h : name ∈ Fields.names b.members) (outcome : Outcome) :
    Fields.names (b.take name outcome).members = Fields.names b.members := by
  cases outcome with
  | failed issues => rfl
  | resolved value =>
    cases value with
    | none => rfl
    | some x => rw [take, Fields.names_put, if_pos h]

/-- **Every entry has its turn**: where each sets a member of its own, it finds that member as it was at
the start and leaves it as it is at the end. -/
theorem exists_turn {α : Type} {Takes : α → Built → Built → Prop} {name : α → String} {xs : List α}
    (hc : Chain Takes xs a b) (hd : (xs.map name).Nodup)
    (grows : ∀ x a b, Takes x a b → a.Grows b)
    (frame : ∀ x a b, Takes x a b → ∀ k ≠ name x, get? b.members k = get? a.members k)
    (hi : b.issues = []) :
    (∀ k ∉ xs.map name, get? b.members k = get? a.members k) ∧
      ∀ x ∈ xs, ∃ u v, Takes x u v ∧ v.issues = [] ∧
        get? u.members (name x) = get? a.members (name x) ∧
        get? v.members (name x) = get? b.members (name x) := by
  induction hc with
  | nil => exact ⟨fun _ _ => rfl, fun _ hx => nomatch hx⟩
  | @cons x xs a t b first rest ih =>
    obtain ⟨hx, hd⟩ := List.nodup_cons.1 hd
    obtain ⟨hout, hin⟩ := ih hd hi
    refine ⟨fun k hk => ?_, fun y hy => ?_⟩
    · rw [List.map_cons, List.mem_cons, not_or] at hk
      rw [hout k hk.2, frame x a t first k hk.1]
    · rcases List.mem_cons.1 hy with rfl | hy
      · exact ⟨a, t, first, (grows_of_chain rest grows).issues_eq_nil hi, rfl, (hout _ hx).symm⟩
      · obtain ⟨u, v, hyt, hv, hu, hb⟩ := hin y hy
        refine ⟨u, v, hyt, hv, hu.trans (frame x a t first _ fun he => hx ?_), hb⟩
        rw [← he]
        exact List.mem_map_of_mem hy

end Built

namespace Step

variable {step : Step} {working properties : Fields} {missing : List Json} {b b' : Built}

/-! ## 3. The stages of an object -/

/-- **A declared property**: resolved from the member of its name, unless it was reported missing. -/
def TakesProperty (step : Step) (working : Fields) (missing : List Json) (property : String × Json)
    (b b' : Built) : Prop :=
  (Json.listsName missing property.1 = true ∧ b' = b) ∨
  (Json.listsName missing property.1 = false ∧ ∃ found outcome,
    step.readMember working (.str property.1) = .ok found ∧
    (step.descend (.str property.1) (.node property.2) found).result = .ok outcome ∧
    b' = b.take property.1 outcome)

theorem resolveProperties_result {props : Fields} :
    (step.resolveProperties working missing props b).result = .ok b' ↔
      Chain (step.TakesProperty working missing) props b b' := by
  induction props generalizing b with
  | nil => simp [resolveProperties, eq_comm]
  | cons property rest ih =>
    obtain ⟨name, schema⟩ := property
    rw [Chain.cons_iff, resolveProperties]
    cases hm : Json.listsName missing name with
    | true => simp [TakesProperty, hm, ih]
    | false =>
      simp only [hm, Bool.false_eq_true, if_false, Run.bind_result_eq_ok, Run.lift_result, ih,
        TakesProperty, false_and, false_or, true_and]
      constructor
      · rintro ⟨found, hf, outcome, ho, h⟩
        exact ⟨_, ⟨found, outcome, hf, ho, rfl⟩, h⟩
      · rintro ⟨_, ⟨found, outcome, hf, ho, rfl⟩, h⟩
        exact ⟨found, hf, outcome, ho, h⟩

theorem TakesProperty.grows {property : String × Json}
    (h : step.TakesProperty working missing property b b') : b.Grows b' := by
  rcases h with ⟨_, rfl⟩ | ⟨_, found, outcome, _, _, rfl⟩
  · exact .refl _
  · exact b.grows_take _ outcome

theorem TakesProperty.frame {property : String × Json}
    (h : step.TakesProperty working missing property b b') :
    ∀ k ≠ property.1, get? b'.members k = get? b.members k := by
  intro k hk
  rcases h with ⟨-, rfl⟩ | ⟨-, found, outcome, -, -, rfl⟩
  · rfl
  · exact b.get?_take_of_ne outcome hk

/-- **A schema that depends on a member**: where its trigger is there, all that has been built is
resolved by it. -/
def TakesDependent (step : Step) (working : Fields) (dependent : String × Json) (b b' : Built) :
    Prop :=
  (step.readMember working (.str dependent.1) = .ok none ∧ b' = b) ∨
  ∃ x outcome, step.readMember working (.str dependent.1) = .ok (some x) ∧
    (step.again [] ⟨.node dependent.2, some (.obj none b.members), step.parent, step.key,
      step.negated⟩).result = .ok outcome ∧ b' = b.follow outcome

theorem resolveDependents_result {dependents : Fields} :
    (step.resolveDependents working dependents b).result = .ok b' ↔
      Chain (step.TakesDependent working) dependents b b' := by
  induction dependents generalizing b with
  | nil => simp [resolveDependents, eq_comm]
  | cons dependent rest ih =>
    obtain ⟨trigger, schema⟩ := dependent
    rw [Chain.cons_iff, resolveDependents]
    have follows : ∀ outcome, (match outcome with
        | .failed issues => step.resolveDependents working rest (b.report issues)
        | .resolved (some (.obj _ members)) => step.resolveDependents working rest
            { b with members := Fields.union b.members members }
        | .resolved _ => step.resolveDependents working rest b).result = .ok b' ↔
        Chain (step.TakesDependent working) rest (b.follow outcome) b' := by
      intro outcome
      rw [← ih]
      unfold Built.follow
      split <;> rfl
    simp only [Run.bind_result_eq_ok, Run.lift_result]
    constructor
    · rintro ⟨found, hf, h⟩
      cases found with
      | none => exact ⟨b, .inl ⟨hf, rfl⟩, ih.1 h⟩
      | some x =>
        simp only [Run.bind_result_eq_ok] at h
        obtain ⟨outcome, ho, h⟩ := h
        exact ⟨_, .inr ⟨x, outcome, hf, ho, rfl⟩, (follows outcome).1 h⟩
    · rintro ⟨t, ⟨hf, rfl⟩ | ⟨x, outcome, hf, ho, rfl⟩, h⟩
      · exact ⟨none, hf, ih.2 h⟩
      · refine ⟨some x, hf, ?_⟩
        simp only [Run.bind_result_eq_ok]
        exact ⟨outcome, ho, (follows outcome).2 h⟩

theorem TakesDependent.grows {dependent : String × Json}
    (h : step.TakesDependent working dependent b b') : b.Grows b' := by
  rcases h with ⟨_, rfl⟩ | ⟨x, outcome, _, _, rfl⟩
  · exact .refl _
  · exact b.grows_follow outcome

/-- **A pattern**: where the name matches it, the member of that name is resolved. -/
def TakesPattern (step : Step) (name : String) (pattern : String × Json) (b b' : Built) : Prop :=
  (step.setting.options.engine.search (.str pattern.1) (.str name) = .ok false ∧ b' = b) ∨
  (step.setting.options.engine.search (.str pattern.1) (.str name) = .ok true ∧ ∃ outcome,
    (step.descend (.str name) (.node pattern.2) (get? b.members name)).result = .ok outcome ∧
    b' = b.take name outcome)

theorem resolveMatching_result {name : String} {patterns : Fields} :
    (step.resolveMatching name patterns b).result = .ok b' ↔
      Chain (step.TakesPattern name) patterns b b' := by
  induction patterns generalizing b with
  | nil => simp [resolveMatching, eq_comm]
  | cons pattern rest ih =>
    obtain ⟨pattern, schema⟩ := pattern
    rw [Chain.cons_iff, resolveMatching]
    simp only [Run.bind_result_eq_ok, Run.lift_result]
    constructor
    · rintro ⟨fits, hf, h⟩
      cases fits with
      | false => exact ⟨b, .inl ⟨hf, rfl⟩, ih.1 h⟩
      | true =>
        simp only [if_true, Run.bind_result_eq_ok, ih] at h
        obtain ⟨outcome, ho, h⟩ := h
        exact ⟨_, .inr ⟨hf, outcome, ho, rfl⟩, h⟩
    · rintro ⟨t, ⟨hf, rfl⟩ | ⟨hf, outcome, ho, rfl⟩, h⟩
      · exact ⟨false, hf, ih.2 h⟩
      · refine ⟨true, hf, ?_⟩
        simp only [if_true, Run.bind_result_eq_ok, ih]
        exact ⟨outcome, ho, h⟩

theorem TakesPattern.grows {name : String} {pattern : String × Json}
    (h : step.TakesPattern name pattern b b') : b.Grows b' := by
  rcases h with ⟨_, rfl⟩ | ⟨_, outcome, _, rfl⟩
  · exact .refl _
  · exact b.grows_take _ outcome

/-- **A name among patterns**: unless a property is declared under it, every pattern that it matches
resolves its member. -/
def TakesName (step : Step) (properties : Fields) (name : String) (b b' : Built) : Prop :=
  (Fields.has properties name = true ∧ b' = b) ∨
  (Fields.has properties name = false ∧ ∃ patterns,
    Probe.membersOf (step.tableOrEmpty "patternProperties") = .ok patterns ∧
    Chain (step.TakesPattern name) patterns b b')

theorem resolvePatterns_result {names : List String} :
    (step.resolvePatterns properties names b).result = .ok b' ↔
      Chain (step.TakesName properties) names b b' := by
  induction names generalizing b with
  | nil => simp [resolvePatterns, eq_comm]
  | cons name rest ih =>
    rw [Chain.cons_iff, resolvePatterns]
    cases hd : Fields.has properties name with
    | true => simp [TakesName, hd, ih]
    | false =>
      simp only [hd, Bool.false_eq_true, if_false, Run.bind_result_eq_ok, Run.lift_result, ih,
        resolveMatching_result, TakesName, false_and, false_or, true_and]
      constructor
      · rintro ⟨patterns, hp, t, ht, h⟩
        exact ⟨t, ⟨patterns, hp, ht⟩, h⟩
      · rintro ⟨t, ⟨patterns, hp, ht⟩, h⟩
        exact ⟨patterns, hp, t, ht, h⟩

theorem TakesName.grows {name : String} (h : step.TakesName properties name b b') :
    b.Grows b' := by
  rcases h with ⟨_, rfl⟩ | ⟨_, patterns, _, h⟩
  · exact .refl _
  · exact Built.grows_of_chain h fun _ _ _ => TakesPattern.grows

/-- **A member that nothing covers**: an issue where none is allowed, and otherwise resolved by what
the schema for such members stands for. -/
inductive TakesUncovered (step : Step) (additional : Json) (name : String) (b : Built) :
    Built → Prop
  | forbidden (h : Schema.isFalse additional = true) : TakesUncovered step additional name b
      (b.report [⟨.additionalMember name, step.path ++ [name]⟩])
  | dead {reason : Reason} (h : Schema.isFalse additional = false)
      (hx : Reference.expand step.setting.options.source step.setting.root additional = .ok none)
      (hr : Probe.deadReference additional = .ok reason) : TakesUncovered step additional name b
      (b.report [⟨reason, step.path ++ [name]⟩])
  | resolved {node : Reference.Node} {outcome : Outcome} (h : Schema.isFalse additional = false)
      (hx : Reference.expand step.setting.options.source step.setting.root additional =
        .ok (some node))
      (ho : (step.descend (.str name) node (get? b.members name)).result = .ok outcome) :
      TakesUncovered step additional name b (b.take name outcome)

theorem resolveUncovered_result {additional : Json} {name : String} :
    (step.resolveUncovered additional name b).result = .ok b' ↔
      step.TakesUncovered additional name b b' := by
  unfold resolveUncovered
  cases hf : Schema.isFalse additional with
  | true =>
    simp only [if_true, Run.pure_result, Except.ok.injEq]
    constructor
    · rintro rfl
      exact .forbidden hf
    · intro h
      cases h with
      | forbidden => rfl
      | dead h | resolved h => simp [hf] at h
  | false =>
    simp only [Bool.false_eq_true, if_false, Run.bind_result_eq_ok, Run.lift_result]
    constructor
    · rintro ⟨target, hx, h⟩
      cases target with
      | none =>
        simp only [Run.bind_result_eq_ok, Run.lift_result, Run.pure_result, Except.ok.injEq] at h
        obtain ⟨reason, hr, rfl⟩ := h
        exact .dead hf hx hr
      | some node =>
        simp only [Run.bind_result_eq_ok, Run.pure_result, Except.ok.injEq] at h
        obtain ⟨outcome, ho, rfl⟩ := h
        exact .resolved hf hx ho
    · intro h
      cases h with
      | forbidden h => simp [hf] at h
      | dead _ hx hr =>
        refine ⟨none, hx, ?_⟩
        simp only [Run.bind_result_eq_ok, Run.lift_result, Run.pure_result]
        exact ⟨_, hr, rfl⟩
      | resolved _ hx ho =>
        refine ⟨some _, hx, ?_⟩
        simp only [Run.bind_result_eq_ok, Run.pure_result]
        exact ⟨_, ho, rfl⟩

theorem TakesUncovered.grows {additional : Json} {name : String}
    (h : step.TakesUncovered additional name b b') : b.Grows b' := by
  cases h with
  | forbidden | dead => exact b.grows_report _
  | resolved => exact b.grows_take _ _

/-- **A name among additional members**: resolved if it is in the value and nothing covers it. -/
def TakesAdditional (step : Step) (working : Fields) (additional : Json) (name : String)
    (b b' : Built) : Prop :=
  (Fields.has working name = false ∧ b' = b) ∨
  (Fields.has working name = true ∧ ∃ uncovered,
    Probe.isAdditional step.setting.options.engine name step.fields = .ok uncovered ∧
    if uncovered then step.TakesUncovered additional name b b' else b' = b)

theorem resolveAdditional_result {additional : Json} {names : List String} :
    (step.resolveAdditional working additional names b).result = .ok b' ↔
      Chain (step.TakesAdditional working additional) names b b' := by
  induction names generalizing b with
  | nil => simp [resolveAdditional, eq_comm]
  | cons name rest ih =>
    rw [Chain.cons_iff, resolveAdditional]
    cases hw : Fields.has working name with
    | false => simp [TakesAdditional, hw, ih]
    | true =>
      simp only [Bool.not_true, Bool.false_eq_true, if_false, Run.bind_result_eq_ok,
        Run.lift_result]
      constructor
      · rintro ⟨uncovered, hu, h⟩
        cases uncovered with
        | true =>
          simp only [if_true, Run.bind_result_eq_ok, resolveUncovered_result, ih] at h
          obtain ⟨t, ht, h⟩ := h
          exact ⟨t, .inr ⟨hw, true, hu, ht⟩, h⟩
        | false => exact ⟨b, .inr ⟨hw, false, hu, rfl⟩, ih.1 h⟩
      · rintro ⟨t, ⟨hn, _⟩ | ⟨_, uncovered, hu, ht⟩, h⟩
        · rw [hw] at hn
          cases hn
        · refine ⟨uncovered, hu, ?_⟩
          cases uncovered with
          | true =>
            simp only [if_true, Run.bind_result_eq_ok, resolveUncovered_result, ih]
            exact ⟨t, ht, h⟩
          | false =>
            obtain rfl : t = b := ht
            exact ih.2 h

theorem TakesAdditional.grows {additional : Json} {name : String}
    (h : step.TakesAdditional working additional name b b') : b.Grows b' := by
  rcases h with ⟨_, rfl⟩ | ⟨_, uncovered, _, h⟩
  · exact .refl _
  · cases uncovered with
    | true => exact TakesUncovered.grows h
    | false => exact h ▸ .refl b

theorem TakesAdditional.frame {additional : Json} {name : String}
    (h : step.TakesAdditional working additional name b b') :
    ∀ k ≠ name, get? b'.members k = get? b.members k := by
  intro k hk
  rcases h with ⟨-, rfl⟩ | ⟨-, uncovered, -, h⟩
  · rfl
  · cases uncovered with
    | false => rw [show b' = b from h]
    | true =>
      cases h with
      | forbidden | dead => rfl
      | resolved => exact b.get?_take_of_ne _ hk

theorem TakesAdditional.names_eq {additional : Json} {name : String}
    (h : step.TakesAdditional working additional name b b') (hn : name ∈ Fields.names b.members) :
    Fields.names b'.members = Fields.names b.members := by
  rcases h with ⟨-, rfl⟩ | ⟨-, uncovered, -, h⟩
  · rfl
  · cases uncovered with
    | false => rw [show b' = b from h]
    | true =>
      cases h with
      | forbidden | dead => rfl
      | resolved => exact Built.names_take hn _

/-- The additional members, where the schema says something about them. -/
def TakesAllAdditional (step : Step) (working : Fields) (b b' : Built) : Prop :=
  (get? step.fields "additionalProperties" ∈ [none, some .null, some (.bool true)] ∧ b' = b) ∨
  ∃ additional, get? step.fields "additionalProperties" = some additional ∧
    additional ≠ .null ∧ additional ≠ .bool true ∧
    Chain (step.TakesAdditional working additional) (Fields.names b.members) b b'

theorem resolveAllAdditional_result :
    (step.resolveAllAdditional working b).result = .ok b' ↔
      step.TakesAllAdditional working b b' := by
  unfold resolveAllAdditional TakesAllAdditional
  split
  · next h => simp [h, eq_comm]
  · next h => simp [h, eq_comm]
  · next h => simp [h, eq_comm]
  · next additional h₁ h₂ h =>
    rw [resolveAdditional_result, h]
    have hnull : additional ≠ .null := fun e => h₁ (e ▸ rfl)
    have htrue : additional ≠ .bool true := fun e => h₂ (e ▸ rfl)
    simp [hnull, htrue]

theorem TakesAllAdditional.grows (h : step.TakesAllAdditional working b b') : b.Grows b' := by
  rcases h with ⟨_, rfl⟩ | ⟨additional, _, _, _, h⟩
  · exact .refl _
  · exact Built.grows_of_chain h fun _ _ _ => TakesAdditional.grows

/-- Under every name the declared properties come first, and else the other members. -/
theorem get?_union_otherMembers {declared : Fields} {k : String} (hw : Fields.Distinct working)
    (hd : ∀ k ∉ Fields.names properties, get? declared k = none) :
    get? (Fields.union declared (otherMembers properties working)) k =
      if k ∈ Fields.names properties then get? declared k else get? working k := by
  have distinct_others : Fields.Distinct (otherMembers properties working) := hw.filter
  rw [Fields.get?_union distinct_others, otherMembers,
    Fields.get?_filter_name fun name => !Fields.has properties name]
  by_cases hk : k ∈ Fields.names properties
  · simp [Fields.has_iff.2 hk, hk]
  · simp [Fields.has_eq_false_iff.2 (Fields.get?_eq_none_iff.2 hk), hk, hd k hk]

/-- Where all members in front are declared, the other members follow with their names. -/
theorem names_union_otherMembers {declared : Fields} (hw : Fields.Distinct working)
    (hd : ∀ k ∉ Fields.names properties, get? declared k = none) :
    Fields.names (Fields.union declared (otherMembers properties working)) =
      Fields.names declared ++ (Fields.names working).filter fun k => !Fields.has properties k := by
  have names_others : Fields.names (otherMembers properties working) =
      (Fields.names working).filter fun k => !Fields.has properties k := by
    simp only [Fields.names, otherMembers, List.filter_map, Function.comp_def]
  have distinct_others : Fields.Distinct (otherMembers properties working) := hw.filter
  rw [Fields.union_of_disjoint distinct_others fun k hk => ?_]
  · rw [← names_others]
    exact List.map_append
  · rw [names_others, List.mem_filter] at hk
    have hk' : k ∉ Fields.names properties := fun hp => by simp [Fields.has_iff.2 hp] at hk
    exact Fields.get?_eq_none_iff.1 (hd k hk')

/-! ## 4. An object -/

/-- **The stages of an object**, from its members to what has been built at the end: required names,
defaults of absent ones, declared properties, the other members, dependent schemas, patterns,
additional members, and the names. -/
inductive Stages (step : Step) (value : Fields) : Built → Prop
  | intro {size dependent names : List Issue} {required missing : List Json}
      {working properties dependents : Fields} {declared followed matched final : Built}
      (size_eq : Probe.memberCountIssues value.length step.fields step.path = .ok size)
      (required_eq : requiredNames step.skips step.fields = .ok required)
      (working_eq : step.withDefaults required value = .ok working)
      (missing_eq : step.absentNames working required = .ok missing)
      (properties_eq : Probe.membersOf (step.tableOrEmpty "properties") = .ok properties)
      (declares : Chain (step.TakesProperty working missing) properties
        ⟨[], size ++ if step.negated then []
          else missing.map fun name => Probe.missingIssue name step.path⟩ declared)
      (dependent_eq : step.dependentIssues working = .ok dependent)
      (dependents_eq : Probe.membersOf (step.tableOrEmpty "dependentSchemas") = .ok dependents)
      (follows : Chain (step.TakesDependent working) dependents
        (Built.report ⟨Fields.union declared.members (otherMembers properties working),
          declared.issues⟩ dependent) followed)
      (matches_ : Chain (step.TakesName properties) (Fields.names followed.members) followed matched)
      (adds : step.TakesAllAdditional working matched final)
      (names_eq : step.builtNameIssues final.members = .ok names) :
      Stages step value (final.report names)

/-- The outcome of what has been built. -/
def outcomeOf (b : Built) : Outcome :=
  if b.issues.isEmpty then .resolved (some (.obj none b.members)) else .failed b.issues

/-- Whether issues are noted makes no difference to the result. -/
theorem noted_result {α : Type} {c : Prop} [Decidable c] {issues : List Issue} {run : Run α} :
    (if c then Run.note issues >>= fun _ => run else run).result = run.result := by
  split
  · simp only [Bind.bind, Run.bind, Run.note]
  · rfl

/-- **How an object comes out**: by its stages. -/
theorem resolveMembers_result {value : Fields} {outcome : Outcome} :
    (step.resolveMembers value).result = .ok outcome ↔
      ∃ b, step.Stages value b ∧ outcome = outcomeOf b := by
  have ends : ∀ b : Built, (if b.issues.isEmpty then done (some (.obj none b.members))
      else fail b.issues : Run Outcome).result = .ok outcome ↔ outcome = outcomeOf b := by
    intro b
    unfold outcomeOf
    cases hb : b.issues with
    | nil => simp [eq_comm]
    | cons issue issues => simp [fail_result]
  unfold resolveMembers
  simp only [Run.bind_result_eq_ok, Run.lift_result, noted_result, ends, resolveProperties_result,
    resolveDependents_result, resolvePatterns_result, resolveAllAdditional_result]
  constructor
  · rintro ⟨size, hsize, required, hrequired, working, hworking, missing, hmissing, properties,
      hproperties, declared, hdeclares, dependent, hdependent, dependents, hdependents, followed,
      hfollows, matched, hmatches, final, hadds, names, hnames, rfl⟩
    exact ⟨_, .intro hsize hrequired hworking hmissing hproperties hdeclares hdependent hdependents
      hfollows hmatches hadds hnames, rfl⟩
  · rintro ⟨_, ⟨hsize, hrequired, hworking, hmissing, hproperties, hdeclares, hdependent,
      hdependents, hfollows, hmatches, hadds, hnames⟩, rfl⟩
    exact ⟨_, hsize, _, hrequired, _, hworking, _, hmissing, _, hproperties, _, hdeclares, _,
      hdependent, _, hdependents, _, hfollows, _, hmatches, _, hadds, _, hnames, rfl⟩

/-- There are no issues of an object that comes out with members. -/
theorem outcomeOf_eq_resolved {b : Built} {w : Option Json} :
    outcomeOf b = .resolved w ↔ b.issues = [] ∧ w = some (.obj none b.members) := by
  unfold outcomeOf
  cases hb : b.issues with
  | nil => simp [eq_comm]
  | cons issue issues => simp

/-- **The stages of an object that comes out with a value**: no stage leaves an issue. -/
structure Passage (step : Step) (value : Fields) where
  required : List Json
  missing : List Json
  working : Fields
  properties : Fields
  dependents : Fields
  declared : Built
  followed : Built
  matched : Built
  final : Built
  size_eq : Probe.memberCountIssues value.length step.fields step.path = .ok []
  required_eq : requiredNames step.skips step.fields = .ok required
  working_eq : step.withDefaults required value = .ok working
  missing_eq : step.absentNames working required = .ok missing
  reported : step.negated = false → missing = []
  properties_eq : Probe.membersOf (step.tableOrEmpty "properties") = .ok properties
  declares : Chain (step.TakesProperty working missing) properties ⟨[], []⟩ declared
  declared_issues : declared.issues = []
  dependent_eq : step.dependentIssues working = .ok []
  dependents_eq : Probe.membersOf (step.tableOrEmpty "dependentSchemas") = .ok dependents
  follows : Chain (step.TakesDependent working) dependents
    ⟨Fields.union declared.members (otherMembers properties working), []⟩ followed
  followed_issues : followed.issues = []
  matches_ : Chain (step.TakesName properties) (Fields.names followed.members) followed matched
  matched_issues : matched.issues = []
  adds : step.TakesAllAdditional working matched final
  final_issues : final.issues = []
  names_eq : step.builtNameIssues final.members = .ok []

/-- What comes out of an object has passed all stages. -/
theorem exists_passage {value : Fields} {w : Option Json}
    (h : (step.resolveMembers value).result = .ok (.resolved w)) :
    ∃ passage : Passage step value, w = some (.obj none passage.final.members) := by
  obtain ⟨b, hb, ho⟩ := resolveMembers_result.1 h
  obtain ⟨hi, rfl⟩ := outcomeOf_eq_resolved.1 ho.symm
  cases hb with
  | @intro size dependent names required missing working properties dependents declared followed
      matched final size_eq required_eq working_eq missing_eq properties_eq declares dependent_eq
      dependents_eq follows matches_ adds names_eq =>
    -- there are no issues at the end of any stage
    obtain ⟨final_issues, rfl⟩ := List.append_eq_nil_iff.1 hi
    have matched_issues : matched.issues = [] := adds.grows.issues_eq_nil final_issues
    have followed_issues : followed.issues = [] :=
      (Built.grows_of_chain matches_ fun _ _ _ => TakesName.grows).issues_eq_nil matched_issues
    obtain ⟨declared_issues, rfl⟩ : declared.issues = [] ∧ dependent = [] := by
      have hg := Built.grows_of_chain follows fun _ _ _ => TakesDependent.grows
      exact List.append_eq_nil_iff.1 (hg.issues_eq_nil followed_issues)
    have start_issues := (Built.grows_of_chain declares fun _ _ _ =>
      TakesProperty.grows).issues_eq_nil declared_issues
    obtain ⟨rfl, hmissing⟩ := List.append_eq_nil_iff.1 start_issues
    rw [hmissing] at declares
    rw [declared_issues] at follows
    refine ⟨⟨required, missing, working, properties, dependents, declared, followed, matched, final,
      size_eq, required_eq, working_eq, missing_eq, fun hn => ?_, properties_eq, declares,
      declared_issues, dependent_eq, dependents_eq, follows, followed_issues, matches_,
      matched_issues, adds, final_issues, names_eq⟩, rfl⟩
    simpa [hn] using hmissing

/-- **What passes all stages comes out.** -/
theorem Passage.result {value : Fields} (c : Passage step value) :
    (step.resolveMembers value).result = .ok (.resolved (some (.obj none c.final.members))) := by
  have hmissing : ([] : List Issue) ++ (if step.negated then []
      else c.missing.map fun name => Probe.missingIssue name step.path) = [] := by
    split
    · rfl
    · next hn => rw [c.reported (Bool.eq_false_iff.2 hn)]; rfl
  have declares := c.declares
  have follows := c.follows
  rw [← hmissing] at declares
  refine resolveMembers_result.2 ⟨c.final.report [], .intro c.size_eq c.required_eq c.working_eq
    c.missing_eq c.properties_eq declares c.dependent_eq c.dependents_eq ?_ c.matches_ c.adds
    c.names_eq, ?_⟩
  · rw [c.declared_issues]
    exact follows
  · have hout : outcomeOf (c.final.report []) = .resolved (some (.obj none c.final.members)) :=
      outcomeOf_eq_resolved.2 ⟨by simp [Built.report, c.final_issues], rfl⟩
    exact hout.symm

/-! ## 5. A list -/

/-- What the resolution of one item adds. -/
def BuiltItems.take (b : BuiltItems) : Outcome → BuiltItems
  | .failed issues => ⟨b.items, b.issues ++ issues⟩
  | .resolved value => ⟨value.getD .null :: b.items, b.issues⟩

/-- Is it a null for which the schema has no room? -/
def isStrayNull (item schema : Json) : Bool := Kind.null.fits item && !Schema.allowsNull schema

/-- **An item at its position**: kept where nothing is said about it, an issue where none is allowed,
only probed where it is a stray null, and resolved otherwise. -/
inductive TakesItem (step : Step) (i : Nat) (item : Json) (b : BuiltItems) : BuiltItems → Prop
  | kept (h : Probe.itemSchema step.fields i ∈ [none, some (.bool true)]) :
      TakesItem step i item b ⟨item :: b.items, b.issues⟩
  | forbidden (h : Probe.itemSchema step.fields i = some (.bool false)) :
      TakesItem step i item b
        ⟨b.items, b.issues ++ [⟨.additionalItem, Probe.itemPath step.path i⟩]⟩
  | probed {schema : Json} {issues : List Issue} (h : Probe.itemSchema step.fields i = some schema)
      (hnull : isStrayNull item schema = true)
      (hi : Probe.issues step.setting item schema (Probe.itemPath step.path i) = .ok issues) :
      TakesItem step i item b ⟨b.items, b.issues ++ issues⟩
  | resolved {schema : Json} {outcome : Outcome}
      (h : Probe.itemSchema step.fields i = some schema)
      (hbool : schema ≠ .bool true ∧ schema ≠ .bool false) (hnull : isStrayNull item schema = false)
      (ho : (step.descend (indexKey i) (.node schema) (some item)).result = .ok outcome) :
      TakesItem step i item b (b.take outcome)

theorem resolveItem_result {i : Nat} {item : Json} {b b' : BuiltItems} :
    (step.resolveItem i item b).result = .ok b' ↔ step.TakesItem i item b b' := by
  constructor
  · unfold resolveItem
    intro h
    split at h
    · next hs =>
      cases h
      exact .kept (by simp [hs])
    · next hs =>
      cases h
      exact .kept (by simp [hs])
    · next hs =>
      cases h
      exact .forbidden hs
    · next schema ht hf hs =>
      have hbool : schema ≠ .bool true ∧ schema ≠ .bool false :=
        ⟨fun e => ht (e ▸ rfl), fun e => hf (e ▸ rfl)⟩
      split at h
      · next hnull =>
        simp only [Run.bind_result_eq_ok, Run.lift_result, Run.pure_result, Except.ok.injEq] at h
        obtain ⟨issues, hi, rfl⟩ := h
        exact .probed hs hnull hi
      · next hnull =>
        simp only [Run.bind_result_eq_ok] at h
        obtain ⟨outcome, ho, h⟩ := h
        have taken := TakesItem.resolved (b := b) hs hbool (Bool.eq_false_iff.2 hnull) ho
        cases outcome <;> cases h <;> exact taken
  · intro h
    unfold resolveItem
    cases h with
    | kept h =>
      simp only [List.mem_cons, List.not_mem_nil, or_false] at h
      rcases h with h | h <;> simp [h]
    | forbidden h => simp [h]
    | @probed schema issues hs hnull hi =>
      have hbool : schema ≠ .bool true ∧ schema ≠ .bool false := by
        constructor <;> rintro rfl <;> simp [isStrayNull, Schema.allowsNull, Schema.declaredTypes] at hnull
      unfold isStrayNull at hnull
      simp only [hs]
      split
      · next e => cases e
      · next e => exact absurd (Option.some.inj e) hbool.1
      · next e => exact absurd (Option.some.inj e) hbool.2
      · next e =>
        cases e
        simp only [hnull, if_true, Run.bind_result_eq_ok, Run.lift_result, Run.pure_result]
        exact ⟨issues, hi, rfl⟩
    | @resolved schema outcome hs hbool hnull ho =>
      unfold isStrayNull at hnull
      simp only [hs]
      split
      · next e => cases e
      · next e => exact absurd (Option.some.inj e) hbool.1
      · next e => exact absurd (Option.some.inj e) hbool.2
      · next e =>
        cases e
        simp only [hnull, Bool.false_eq_true, if_false, Run.bind_result_eq_ok]
        exact ⟨outcome, ho, by cases outcome <;> rfl⟩

theorem resolveItems_result {i : Nat} {items : List Json} {b b' : BuiltItems} :
    (step.resolveItems i items b).result = .ok b' ↔
      Chain (fun entry => step.TakesItem entry.2 entry.1) (items.zipIdx i) b b' := by
  induction items generalizing i b with
  | nil => simp [resolveItems, eq_comm]
  | cons item rest ih =>
    rw [List.zipIdx_cons, Chain.cons_iff, resolveItems]
    simp only [Run.bind_result_eq_ok, resolveItem_result, ih]

/-- **How a list comes out**: with the issues of the list as a whole, or else item by item. -/
theorem array_result {tag : Tag} {items : List Json} {outcome : Outcome}
    (hv : step.value = some (.arr tag items)) :
    step.array.result = .ok outcome ↔ ∃ whole,
      Probe.listIssues items step.fields step.path
        (fun x _ schema place => Probe.issues step.setting x schema place) = .ok whole ∧
      ((whole ≠ [] ∧ outcome = .failed whole) ∨
        whole = [] ∧ ∃ b,
          Chain (fun entry => step.TakesItem entry.2 entry.1) items.zipIdx ⟨[], []⟩ b ∧
          ((b.issues ≠ [] ∧ outcome = .failed b.issues) ∨
            b.issues = [] ∧ outcome = .resolved (some (.arr none b.items.reverse)))) := by
  unfold array
  rw [hv]
  simp only [Run.bind_result_eq_ok, Run.lift_result]
  refine exists_congr fun whole => and_congr_right fun _ => ?_
  cases whole with
  | cons issue rest => simp [fail_result]
  | nil =>
    simp only [List.isEmpty_nil, Bool.not_true, Bool.false_eq_true, if_false,
      Run.bind_result_eq_ok, resolveItems_result, ne_eq, not_true_eq_false, false_and, false_or,
      true_and]
    refine exists_congr fun b => and_congr_right fun _ => ?_
    cases hb : b.issues with
    | cons issue rest => simp [fail_result]
    | nil => simp [eq_comm]

/-- An item and what becomes of it where it gives no issue. -/
inductive BecomesItem (step : Step) (i : Nat) (item : Json) : Json → Prop
  | kept (h : Probe.itemSchema step.fields i ∈ [none, some (.bool true)]) :
      BecomesItem step i item item
  | resolved {schema : Json} {value : Option Json}
      (h : Probe.itemSchema step.fields i = some schema)
      (hbool : schema ≠ .bool true ∧ schema ≠ .bool false) (hnull : isStrayNull item schema = false)
      (ho : (step.descend (indexKey i) (.node schema) (some item)).result = .ok (.resolved value)) :
      BecomesItem step i item (value.getD .null)

/-- An item that gives no issue is taken up with what becomes of it. -/
theorem takesItem_iff (again : ∀ extension request, Honest (step.again extension request))
    {i : Nat} {item : Json} {b b' : BuiltItems} (hb' : b'.issues = []) :
    step.TakesItem i item b b' ↔
      b.issues = [] ∧ ∃ y, step.BecomesItem i item y ∧ b' = ⟨y :: b.items, []⟩ := by
  constructor
  · intro h
    cases h with
    | kept h => exact ⟨hb', item, .kept h, by simpa using hb'⟩
    | forbidden => simp at hb'
    | @probed schema issues hs hnull hi =>
      obtain ⟨hb, rfl⟩ := List.append_eq_nil_iff.1 hb'
      obtain ⟨rfl, hroom⟩ : item = .null ∧ Schema.allowsNull schema = false := by
        cases item <;> simp_all [isStrayNull, Kind.fits]
      exact absurd hi (Probe.issues_of_null hroom)
    | @resolved schema outcome hs hbool hnull ho =>
      cases outcome with
      | failed issues =>
        obtain ⟨-, rfl⟩ := List.append_eq_nil_iff.1 hb'
        exact absurd ho (again _ _)
      | resolved value =>
        exact ⟨hb', _, .resolved hs hbool hnull ho, by simpa [BuiltItems.take] using hb'⟩
  · rintro ⟨hb, y, h, rfl⟩
    rw [← hb]
    cases h with
    | kept h => exact .kept h
    | resolved hs hbool hnull ho => exact .resolved hs hbool hnull ho

/-- **Items without issues**: each becomes something, in their order. -/
theorem takesItems_iff (again : ∀ extension request, Honest (step.again extension request))
    {entries : List (Json × Nat)} {b b' : BuiltItems} (hb' : b'.issues = []) :
    Chain (fun entry => step.TakesItem entry.2 entry.1) entries b b' ↔
      b.issues = [] ∧ ∃ ys, List.Forall₂ (fun entry => step.BecomesItem entry.2 entry.1) entries ys ∧
        b' = ⟨ys.reverse ++ b.items, []⟩ := by
  induction entries generalizing b with
  | nil =>
    rw [Chain.nil_iff]
    constructor
    · rintro rfl
      exact ⟨hb', [], .nil, by cases b'; simp_all⟩
    · rintro ⟨hb, ys, h, rfl⟩
      cases h
      cases b
      simp_all
  | cons entry rest ih =>
    rw [Chain.cons_iff]
    constructor
    · rintro ⟨t, ht, h⟩
      obtain ⟨htn, ys, hys, rfl⟩ := ih.1 h
      obtain ⟨hb, y, hy, rfl⟩ := (takesItem_iff again htn).1 ht
      exact ⟨hb, y :: ys, .cons hy hys, by simp⟩
    · rintro ⟨hb, ys, h, rfl⟩
      cases h with
      | @cons _ y _ ys hy hys =>
        exact ⟨⟨y :: b.items, []⟩, (takesItem_iff again rfl).2 ⟨hb, y, hy, rfl⟩,
          ih.2 ⟨rfl, ys, hys, by simp⟩⟩

/-- **How a list comes out with a value**: nothing is said against it as a whole, and each item becomes
something. -/
theorem array_resolved_iff {tag : Tag} {items : List Json} {w : Option Json}
    (again : ∀ extension request, Honest (step.again extension request))
    (hv : step.value = some (.arr tag items)) :
    step.array.result = .ok (.resolved w) ↔
      Probe.listIssues items step.fields step.path
        (fun x _ schema place => Probe.issues step.setting x schema place) = .ok [] ∧
      ∃ ys, List.Forall₂ (fun entry => step.BecomesItem entry.2 entry.1) items.zipIdx ys ∧
        w = some (.arr none ys) := by
  rw [array_result hv]
  constructor
  · rintro ⟨whole, hwhole, ⟨-, hf⟩ | ⟨rfl, b, hc, ⟨-, hf⟩ | ⟨hi, hw⟩⟩⟩
    · cases hf
    · cases hf
    · obtain ⟨-, ys, hys, rfl⟩ := (takesItems_iff again hi).1 hc
      cases hw
      exact ⟨hwhole, ys, hys, by simp⟩
  · rintro ⟨hwhole, ys, hys, rfl⟩
    exact ⟨[], hwhole, .inr ⟨rfl, _, (takesItems_iff again rfl).2 ⟨rfl, ys, hys, rfl⟩,
      .inr ⟨rfl, by simp⟩⟩⟩

/-- Every item becomes something. -/
theorem exists_becomesItem {entries : List (Json × Nat)} {ys : List Json} {entry : Json × Nat}
    (h : List.Forall₂ (fun entry => step.BecomesItem entry.2 entry.1) entries ys)
    (hm : entry ∈ entries) : ∃ y, step.BecomesItem entry.2 entry.1 y := by
  induction h with
  | nil => cases hm
  | @cons first y _ _ hy _ ih =>
    rcases List.mem_cons.1 hm with rfl | hm
    · exact ⟨y, hy⟩
    · exact ih hm

/-! ## 6. A value of a kind -/

/-- **How a value comes out as one of a kind**: a scalar as it is, a list by its items, an object by its
members; a missing value by what stands in for it, as missing, or as an object built from nothing. -/
inductive ComesOut (step : Step) : Kind → Option Json → Prop
  | null (hv : step.value = none) : ComesOut step .null (some .null)
  | boolean (hv : step.value = none) : ComesOut step .boolean (some (.bool false))
  | missing {kind : Kind} {atRoot w : Option Json} (hv : step.value = none)
      (ha : atRoot ∈ [none, some (.num (.int 0)), some (.arr none [])])
      (hr : (step.missing atRoot).result = .ok (.resolved w)) : ComesOut step kind w
  | scalar {kind : Kind} {x : Json} (hk : kind ∉ [.array, .object]) (hv : step.value = some x)
      (hi : Probe.kindIssues step.setting kind x step.fields step.path (Probe.inside step.setting x)
        (Probe.narrower step.setting x step.fields) = .ok []) : ComesOut step kind (some x)
  | list {tag : Tag} {items : List Json} {w : Option Json} (hv : step.value = some (.arr tag items))
      (hr : step.array.result = .ok (.resolved w)) : ComesOut step .array w
  | members {tag : Tag} {members : Fields} {w : Option Json}
      (hv : step.value = some (.obj tag members))
      (hr : (step.resolveMembers members).result = .ok (.resolved w)) : ComesOut step .object w
  | built {w : Option Json} (hv : step.value = none)
      (hr : (step.resolveMembers []).result = .ok (.resolved w))
      (hk : (step.isRoot || Outcome.holdsMembers (.resolved w)) = true) : ComesOut step .object w
  | unbuilt (hv : step.value = none) : ComesOut step .object none

/-- A value that is there or fails is done only if it has no issues. -/
theorem of_doneUnless {x : Json} {issues : List Issue} {w : Option Json}
    (hr : (doneUnless x issues).result = .ok (.resolved w)) : issues = [] ∧ w = some x := by
  unfold doneUnless at hr
  split at hr
  · next hi =>
    cases hr
    exact ⟨List.isEmpty_iff.1 hi, rfl⟩
  · exact absurd hr fail_result_ne

theorem comesOut_object {w : Option Json} (hr : step.object.result = .ok (.resolved w)) :
    step.ComesOut .object w := by
  unfold object at hr
  split at hr
  · next hv =>
    simp only [Run.bind_result_eq_ok, Run.lift_result] at hr
    obtain ⟨required, -, hr⟩ := hr
    split at hr
    · exact absurd hr fail_result_ne
    · obtain ⟨outcome, ho, hr⟩ := Run.bind_result_eq_ok.1 hr
      split at hr
      · next hk =>
        cases hr
        exact .built hv ho hk
      · cases hr
        exact .unbuilt hv
  · next hv => exact .members hv hr
  · exact absurd hr fail_result_ne

theorem comesOut_number {kind : Kind} {w : Option Json} (hk : kind ∈ [.number, .integer])
    (hr : (step.number kind).result = .ok (.resolved w)) : step.ComesOut kind w := by
  unfold number at hr
  split at hr
  · next hv => exact .missing hv (by simp) hr
  · next hv =>
    obtain ⟨hi, rfl⟩ := of_doneUnless hr
    rcases List.mem_pair.1 hk with rfl | rfl
    · exact .scalar (by decide) hv (congrArg Except.ok hi)
    · exact .scalar (by decide) hv (congrArg Except.ok hi)

/-- **Nothing else comes out of a kind.** -/
theorem comesOut {kind : Kind} {w : Option Json}
    (hr : (step.ofKind kind).result = .ok (.resolved w)) : step.ComesOut kind w := by
  cases kind with
  | null =>
    simp only [ofKind, null] at hr
    split at hr
    · next hv =>
      cases hr
      exact .null hv
    · next hv =>
      cases hr
      exact .scalar (by decide) hv rfl
    · exact absurd hr fail_result_ne
  | boolean =>
    simp only [ofKind, boolean] at hr
    split at hr
    · next hv =>
      cases hr
      exact .boolean hv
    · next hv =>
      cases hr
      exact .scalar (by decide) hv rfl
    · exact absurd hr fail_result_ne
  | number => exact comesOut_number (by simp) hr
  | integer => exact comesOut_number (by simp) hr
  | string =>
    simp only [ofKind, string] at hr
    split at hr
    · next hv => exact .missing hv (by simp) hr
    · next hv =>
      simp only [Run.bind_result_eq_ok, Run.lift_result] at hr
      obtain ⟨issues, hi, hr⟩ := hr
      obtain ⟨rfl, rfl⟩ := of_doneUnless hr
      exact .scalar (by decide) hv hi
  | array =>
    have hkind := hr
    simp only [ofKind, array] at hr
    split at hr
    · next hv => exact .missing hv (by simp) hr
    · next hv => exact .list hv hkind
    · exact absurd hr fail_result_ne
  | object => exact comesOut_object hr

/-! ## 7. A step -/

/-- **How a step comes out with a value**: what is filled in is none that is pinned otherwise, and the step
goes on with it. -/
theorem run_resolved_iff {w : Option Json} :
    step.run.result = .ok (.resolved w) ↔
      Step.pinIssues { step with value := step.filled } = .ok [] ∧
      (Step.dispatch { step with value := step.filled }).result = .ok (.resolved w) := by
  simp only [run, Run.bind_result_eq_ok, Run.lift_result]
  constructor
  · rintro ⟨issues, hpin, hr⟩
    cases issues with
    | nil => exact ⟨hpin, hr⟩
    | cons issue issues => cases hr
  · rintro ⟨hpin, hr⟩
    exact ⟨[], hpin, hr⟩

end Step

/-! ## 8. A request -/

variable {setting : Probe.Setting} {guard : Guard} {request : Request} {w : Option Json}

/-- The step that resolves a request by the members of a schema. -/
abbrev Request.step (request : Request) (setting : Probe.Setting) (guard : Guard) (tag : Tag)
    (fields : Fields) : Step :=
  ⟨setting, guard.path, tag, fields, request.value, request.parent, request.key, request.negated,
    fun extension next => resolve setting (guard.enter extension) next⟩

/-- **How a request comes out with a value**, where it is not too deep: as it is, where the schema asks
nothing; as missing, where nothing may be there and nothing is; or by a step. -/
inductive Resolves (setting : Probe.Setting) (guard : Guard) (request : Request) :
    Option Json → Prop
  | unasked {s : Json} (hs : request.schema = .node s) (ht : s ∈ [.null, .bool true]) :
      Resolves setting guard request request.value
  | missing (hs : request.schema = .node (.bool false)) (hv : request.value = none) :
      Resolves setting guard request none
  | step {tag : Tag} {fields : Fields} {w : Option Json}
      (hs : request.schema = .node (.obj tag fields))
      (hr : (request.step setting guard tag fields).run.result = .ok (.resolved w)) :
      Resolves setting guard request w

/-- **Nothing else comes out of a request.** -/
theorem resolve_resolved_iff : (resolve setting guard request).result = .ok (.resolved w) ↔
    guard.tooDeep ≠ true ∧ Resolves setting guard request w := by
  rw [resolve]
  constructor
  · intro h
    split at h
    · exact absurd h fail_result_ne
    · next deep =>
      refine ⟨deep, ?_⟩
      unfold resolveStep at h
      split at h
      · next hs =>
        cases h
        exact .unasked hs (by simp)
      · next hs =>
        cases h
        exact .unasked hs (by simp)
      · next hs =>
        split at h
        · next hv =>
          cases h
          exact .missing hs hv
        · exact absurd h fail_result_ne
      · next hs => exact .step hs h
      · cases h
      · cases h
  · rintro ⟨deep, h⟩
    rw [dif_neg deep, resolveStep]
    cases h with
    | unasked hs ht =>
      rcases List.mem_pair.1 ht with rfl | rfl
      · simp only [hs]
        rfl
      · simp only [hs]
        rfl
    | missing hs hv =>
      simp only [hs, hv]
      rfl
    | step hs hr =>
      simp only [hs]
      exact hr

end Conform.Resolve
