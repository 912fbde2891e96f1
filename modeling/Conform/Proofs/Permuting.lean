/-
# The order of branches

`anyOf` and `oneOf` are lists, but which branch comes first makes no difference to whether a value
that is there comes out, nor to what comes out.  `anyOf` leads to the rest of the schema, whichever
branch admitted the value, and `oneOf` to the rest with the one branch merged in that admits it; where
none does, or several do, the default stands in for the value, or else the resolution fails.  Only the
issues of a failure tell the order.

* **Each keyword is read off once**, by the branches that admit the value: `anyOf_of_any` and
  `anyOf_of_none`, `oneOf_of_one` and `oneOf_of_others`.  These are sets of branches, not lists.
* **A step peels off one keyword**, so both lists are put in another order one after the other
  (`answer_oneOf`, then `answer_anyOf`).  What is left of the schema is the same.

The branches must be probed without a fault.  `anyOf` stops at the first branch that admits the value,
so a fault behind it shows only where that branch comes later.  And the document that references lead
into is that of the session: it is the same for both orders.
-/
import Conform.Proofs.Exclusion
import Conform.Proofs.Totality

namespace Conform.Resolve

open Fields (get?)

/-! ## 1. Branches in another order -/

/-- Two members say the same, up to the order of the branches below one of the keywords. -/
inductive Rearranged (keywords : List String) : String × Json → String × Json → Prop where
  | same (member : String × Json) : Rearranged keywords member member
  | branches {k : String} {t t' : Tag} {xs ys : List Json} (among : k ∈ keywords)
      (order : xs.Perm ys) : Rearranged keywords (k, .arr t xs) (k, .arr t' ys)

section Rearranged

variable {keywords keywords' : List String} {fields fields' : Fields} {k : String} {x y : Json}

/-- The entries of rearranged branches are the same, but for their order. -/
theorem Rearranged.entries (h : Rearranged keywords (k, x) (k, y)) :
    (∃ fault, Probe.entriesOf x = .error fault ∧ Probe.entriesOf y = .error fault) ∨
    ∃ xs ys, Probe.entriesOf x = .ok xs ∧ Probe.entriesOf y = .ok ys ∧ xs.Perm ys := by
  cases h with
  | same =>
    cases hx : Probe.entriesOf x with
    | error fault => exact .inl ⟨fault, rfl, rfl⟩
    | ok xs => exact .inr ⟨xs, xs, rfl, rfl, .refl xs⟩
  | branches _ order => exact .inr ⟨_, _, rfl, rfl, order⟩

variable (h : List.Forall₂ (Rearranged keywords) fields fields')

include h

/-- The same keywords are there, each with the same value up to the order of its branches. -/
theorem rel_get? (k : String) :
    Option.Rel (fun x y => Rearranged keywords (k, x) (k, y)) (get? fields k) (get? fields' k) := by
  induction h with
  | nil => exact .none
  | @cons a _ _ _ first _ ih =>
    cases first with
    | same =>
      obtain ⟨i, x⟩ := a
      by_cases hk : k = i
      · subst hk
        simpa [Fields.get?_cons] using Option.Rel.some (Rearranged.same (k, x))
      · simpa [Fields.get?_cons, hk] using ih
    | @branches i t t' xs ys among order =>
      by_cases hk : k = i
      · subst hk
        simpa [Fields.get?_cons] using Option.Rel.some (Rearranged.branches among order)
      · simpa [Fields.get?_cons, hk] using ih

/-- A keyword without branches has the same value. -/
theorem get?_rearranged (hk : k ∉ keywords) : get? fields' k = get? fields k := by
  have related := rel_get? h k
  generalize get? fields k = left at related
  generalize get? fields' k = right at related
  cases related with
  | none => rfl
  | some same =>
    cases same with
    | same => rfl
    | branches among => exact absurd among hk

/-- Where some of the keywords are absent, only branches below the others are in another order. -/
theorem rearranged_of_absent (absent : ∀ k ∈ keywords, k ∉ keywords' → get? fields k = none) :
    List.Forall₂ (Rearranged keywords') fields fields' := by
  induction h with
  | nil => exact .nil
  | @cons a b rest rest' first _ ih =>
    have later : ∀ k ∈ keywords, k ∉ keywords' → get? rest k = none := by
      intro k hk hk'
      have := absent k hk hk'
      rw [Fields.get?_cons] at this
      split at this
      · cases this
      · exact this
    refine .cons ?_ (ih later)
    cases first with
    | same => exact .same _
    | @branches k t t' xs ys among order =>
      refine .branches (Classical.byContradiction fun hk => ?_) order
      have := absent k among hk
      simp [Fields.get?_cons] at this

/-- Without the keywords nothing is left to be put in another order. -/
theorem eq_of_absent (absent : ∀ k ∈ keywords, get? fields k = none) : fields = fields' := by
  have same : List.Forall₂ (Rearranged []) fields fields' :=
    rearranged_of_absent h fun k hk _ => absent k hk
  refine List.forall₂_eq_eq_eq ▸ same.imp fun a b hab => ?_
  cases hab with
  | same => rfl
  | branches among => cases among

/-- Leaving out keywords leaves rearranged members. -/
theorem rearranged_without (keys : List String) :
    List.Forall₂ (Rearranged keywords) (Fields.without fields keys) (Fields.without fields' keys) := by
  induction h with
  | nil => exact .nil
  | @cons a b rest rest' first _ ih =>
    have name : a.1 = b.1 := by cases first <;> rfl
    simp only [Fields.without, List.filter_cons, ← name] at ih ⊢
    split
    · exact .cons first ih
    · exact ih

end Rearranged

/-! ## 2. Answers -/

/-- What an outcome comes to: a value, or none for a failure. -/
def Outcome.answer : Outcome → Option (Option Json)
  | .resolved value => some value
  | .failed _ => none

/-- What a run comes to, without the issues of a failure. -/
def Run.answer (run : Run Outcome) : Except Fault (Option (Option Json)) :=
  run.result.map Outcome.answer

theorem answer_fail {issues : List Issue} (h : issues ≠ []) : (fail issues).answer = .ok none := by
  rw [Run.answer, fail_result.2 ⟨h, rfl⟩]
  rfl

theorem answer_of_resolved {run : Run Outcome} {w : Option Json} (h : run.result = .ok (.resolved w)) :
    run.answer = .ok (some w) := by
  rw [Run.answer, h]
  rfl

/-! ## 3. Branches that admit a value -/

/-- Does the schema admit the value? -/
def admits (setting : Probe.Setting) (path : Path) (x schema : Json) : Bool :=
  match Probe.issues setting x schema path with
  | .ok [] => true
  | _ => false

theorem admits_iff {setting : Probe.Setting} {path : Path} {x schema : Json} :
    admits setting path x schema = true ↔ Probe.issues setting x schema path = .ok [] := by
  unfold admits
  split <;> simp_all

/-- **No probe of a branch ends with a fault.** -/
def Probed (setting : Probe.Setting) (path : Path) (x : Json) (branches : List Json) : Prop :=
  ∀ branch ∈ branches, ∃ issues, Probe.issues setting x branch path = .ok issues

theorem Probed.perm {setting : Probe.Setting} {path : Path} {x : Json} {xs ys : List Json}
    (h : Probed setting path x xs) (order : xs.Perm ys) : Probed setting path x ys :=
  fun branch hb => h branch (order.mem_iff.2 hb)

namespace Step

variable {step : Step} {x branches : Json} {entries : List Json}

section Branches

/-- Going through the branches ends at one that admits the value, or with the issues of all. -/
theorem probeBranches_of_probed (probed : Probed step.setting step.path x entries)
    (found : List Issue) :
    (step.probeBranches x entries found = .ok none ∧
        entries.any (admits step.setting step.path x) = true) ∨
      ∃ issues, step.probeBranches x entries found = .ok (some issues) ∧
        entries.any (admits step.setting step.path x) = false := by
  induction entries generalizing found with
  | nil => exact .inr ⟨found, rfl, rfl⟩
  | cons branch rest ih =>
    obtain ⟨issues, hi⟩ := probed branch (List.mem_cons_self ..)
    rw [probeBranches, hi, ok_bind]
    cases issues with
    | nil => exact .inl ⟨rfl, by simp [admits_iff.2 hi]⟩
    | cons issue more =>
      have refused : admits step.setting step.path x branch = false := by simp [admits, hi]
      simpa [refused] using
        ih (fun b hb => probed b (List.mem_cons_of_mem _ hb)) (found ++ issue :: more)

/-- The branches that pass are those that admit the value. -/
theorem passing_of_probed (probed : Probed step.setting step.path x entries) :
    ∃ outcomes, step.branchIssues x entries = .ok outcomes ∧
      passingBranches entries outcomes = entries.filter (admits step.setting step.path x) := by
  induction entries with
  | nil => exact ⟨[], rfl, rfl⟩
  | cons branch rest ih =>
    obtain ⟨issues, hi⟩ := probed branch (List.mem_cons_self ..)
    obtain ⟨others, ho, he⟩ := ih fun b hb => probed b (List.mem_cons_of_mem _ hb)
    refine ⟨issues :: others, by rw [branchIssues, hi, ok_bind, ho, ok_bind], ?_⟩
    have here : issues.isEmpty = admits step.setting step.path x branch := by
      cases issues <;> simp [admits, hi]
    simp only [passingBranches, List.zip_cons_cons, List.filterMap_cons, here, List.filter_cons]
    cases admits step.setting step.path x branch
    · exact he
    · exact congrArg (branch :: ·) he

end Branches

/-! ## 4. What the keywords lead to -/

variable (present : step.value = some x) (he : Probe.entriesOf branches = .ok entries)
  (probed : Probed step.setting step.path x entries)

include present he probed

/-- Where a branch of `anyOf` admits the value, the rest of the schema decides. -/
theorem anyOf_of_any (any : entries.any (admits step.setting step.path x) = true) :
    step.anyOf branches = step.redirect (step.without ["anyOf"]) := by
  rcases probeBranches_of_probed probed [] with ⟨hp, -⟩ | ⟨_, -, none⟩
  · simp only [anyOf, present]
    rw [Run.lift_bind_of_ok he, Run.lift_bind_of_ok hp]
  · exact absurd any (by simp [none])

/-- Where none does, the default stands in for the value, or else the resolution fails. -/
theorem anyOf_of_none (none : entries.any (admits step.setting step.path x) = false) :
    (step.anyOf branches).answer = .ok (step.default?.map some) := by
  rcases probeBranches_of_probed probed [] with ⟨-, any⟩ | ⟨issues, hp, -⟩
  · exact absurd any (by simp [none])
  · simp only [anyOf, present]
    rw [Run.lift_bind_of_ok he, Run.lift_bind_of_ok hp]
    cases step.default? with
    | some d => rfl
    | none => exact answer_fail (List.cons_ne_nil _ _)

/-- Where one branch of `oneOf` admits the value, it is merged into the rest of the schema. -/
theorem oneOf_of_one {branch : Json}
    (one : entries.filter (admits step.setting step.path x) = [branch]) :
    step.oneOf branches =
      match Schema.merge true (step.without ["oneOf"]) branch with
      | .ok effective => step.redirect effective
      | .error (.conflict _ _) => step.failBelow "oneOf" .noCommonType
      | .error fault => Run.fault fault := by
  obtain ⟨outcomes, ho, hp⟩ := passing_of_probed probed
  simp only [oneOf, present]
  -- not `rw`: whether the two matches are one for `rfl` depends on what else is imported
  rewrite [Run.lift_bind_of_ok he, Run.lift_bind_of_ok ho, hp, one]
  cases step.default? <;> rfl

/-- Where none does or several do, the default stands in for the value, or else the resolution
fails. -/
theorem oneOf_of_others
    (others : ∀ branch, entries.filter (admits step.setting step.path x) ≠ [branch]) :
    (step.oneOf branches).answer = .ok (step.default?.map some) := by
  obtain ⟨outcomes, ho, hp⟩ := passing_of_probed probed
  simp only [oneOf, present]
  rw [Run.lift_bind_of_ok he, Run.lift_bind_of_ok ho]
  split
  · next branch hb => exact absurd (hp.symm.trans hb) (others branch)
  · next d hd _ =>
    rw [hd]
    rfl
  · next hb hd =>
    rw [hd]
    split
    · exact answer_fail (List.cons_ne_nil _ _)
    · unfold noneOfOne
      split
      · next issues hi =>
        obtain ⟨i, -, hi⟩ := Option.bind_eq_some_iff.1 hi
        exact answer_fail (ne_nil_of_passingBranches (branchIssues_length ho) hb issues
          (List.mem_of_getElem? hi))
      · exact answer_fail (by simp)
  · next hd =>
    rw [hd]
    exact answer_fail (List.cons_ne_nil _ _)

/-! ## 5. A step at a value that is there -/

omit he probed in
/-- Where the value is there, nothing is filled in. -/
theorem run_of_present (there : Schema.isAbsent (some x) step.schema = false) :
    step.run = (do
      let issues ← step.pinIssues
      if issues.isEmpty then step.dispatch else fail issues) := by
  have kept : step.filled = step.value := by
    rw [filled, present, there]
    rfl
  simp only [run, kept]

end Step

section Request

variable {setting : Probe.Setting} {guard : Guard} {tag : Tag} {fields fields' : Fields}
  {x parent key : Json} {negated : Bool}

/-- Schemas that pin down the same and say the same of types come to the same, if what they are composed
of does. -/
theorem answer_congr (there : Schema.isAbsent (some x) (.obj tag fields) = false)
    (same : ∀ k ∈ ["const", "enum", "type"], get? fields' k = get? fields k)
    (dispatch : guard.tooDeep = false →
      (stepAt setting guard tag fields x parent key negated).dispatch.answer =
        (stepAt setting guard tag fields' x parent key negated).dispatch.answer) :
    (resolve setting guard ⟨.node (.obj tag fields), some x, parent, key, negated⟩).answer =
      (resolve setting guard ⟨.node (.obj tag fields'), some x, parent, key, negated⟩).answer := by
  cases deep : guard.tooDeep with
  | true => rw [resolve, dif_pos deep, resolve, dif_pos deep]
  | false =>
    have there' : Schema.isAbsent (some x) (.obj tag fields') = false := by
      simpa [Schema.isAbsent, Schema.allowsNull, Schema.declaredTypes, same "type" (by simp)] using there
    have pins : (stepAt setting guard tag fields' x parent key negated).pinIssues =
        (stepAt setting guard tag fields x parent key negated).pinIssues := by
      simp only [Step.pinIssues, Step.skips, Probe.pinIssues, same "const" (by simp),
        same "enum" (by simp)]
    rw [resolve, dif_neg (by simp [deep]), resolve, dif_neg (by simp [deep])]
    change (stepAt setting guard tag fields x parent key negated).run.answer =
      (stepAt setting guard tag fields' x parent key negated).run.answer
    rw [Step.run_of_present rfl there, Step.run_of_present rfl there', pins]
    -- where there are issues both sides end alike, whatever comes after
    cases (stepAt setting guard tag fields x parent key negated).pinIssues with
    | error fault => exact Eq.trans (b := .error fault) rfl rfl
    | ok issues =>
      cases issues with
      | nil => exact dispatch deep
      | cons issue more => exact Eq.trans (b := .ok none) rfl rfl

/-- A schema that brings out a value is gone through. -/
theorem dispatch_of_resolved {w : Option Json}
    (there : Schema.isAbsent (some x) (.obj tag fields) = false)
    (h : (resolve setting guard ⟨.node (.obj tag fields), some x, parent, key, negated⟩).result =
      .ok (.resolved w)) :
    (stepAt setting guard tag fields x parent key negated).dispatch.result = .ok (.resolved w) := by
  obtain ⟨-, h⟩ := resolve_resolved_iff.1 h
  cases h with
  | unasked hs htrivial =>
    cases hs
    simp at htrivial
  | missing hs => cases hs
  | step hs hr =>
    cases hs
    obtain ⟨-, hr⟩ := Step.run_resolved_iff.1 hr
    have kept : (stepAt setting guard tag fields x parent key negated).filled = some x :=
      if_neg (Bool.eq_false_iff.1 there)
    rw [kept] at hr
    exact hr

/-! ## 6. The keywords one after the other -/

/-- **No probe of a branch of `anyOf` or `oneOf` ends with a fault.** -/
def AllProbed (setting : Probe.Setting) (path : Path) (x : Json) (fields : Fields) : Prop :=
  ∀ k ∈ ["anyOf", "oneOf"], ∀ branches entries, get? fields k = some branches →
    Probe.entriesOf branches = .ok entries → Probed setting path x entries

/-- Leaving out `anyOf` leaves the branches of `oneOf`, at the same place. -/
theorem AllProbed.enter (h : AllProbed setting guard.path x fields) :
    AllProbed setting (guard.enter []).path x (Fields.without fields ["anyOf"]) := by
  intro k hk branches entries hb
  rw [Fields.get?_without] at hb
  split at hb
  · cases hb
  · rw [show (guard.enter []).path = guard.path from List.append_nil _]
    exact h k hk branches entries hb

theorem isAbsent_without (there : Schema.isAbsent (some x) (.obj tag fields) = false) :
    Schema.isAbsent (some x) (.obj none (Fields.without fields ["anyOf"])) = false := by
  simpa [Schema.isAbsent, Schema.allowsNull, Schema.declaredTypes] using there

variable (unconditional : get? fields "if" = none) (lone : get? fields "allOf" = none)
  (there : Schema.isAbsent (some x) (.obj tag fields) = false)
  (probed : AllProbed setting guard.path x fields)

include unconditional lone there probed

section Order

/-- The order of the branches of `oneOf`, where there is no `anyOf`. -/
theorem answer_oneOf (h : List.Forall₂ (Rearranged ["oneOf"]) fields fields')
    (none : get? fields "anyOf" = none) :
    (resolve setting guard ⟨.node (.obj tag fields), some x, parent, key, negated⟩).answer =
      (resolve setting guard ⟨.node (.obj tag fields'), some x, parent, key, negated⟩).answer := by
  have other : ∀ {k}, k ≠ "oneOf" → get? fields' k = get? fields k := fun hk =>
    get?_rearranged h (by simpa using hk)
  have related := rel_get? h "oneOf"
  cases hb : get? fields "oneOf" with
  | none => rw [eq_of_absent h (by simpa using hb)]
  | some branches =>
    cases hb' : get? fields' "oneOf" with
    | none =>
      rw [hb, hb'] at related
      cases related
    | some branches' =>
      rw [hb, hb'] at related
      cases related with
      | some related =>
      have base : Fields.without fields ["oneOf"] = Fields.without fields' ["oneOf"] :=
        eq_of_absent (rearranged_without h ["oneOf"]) (by simp)
      refine answer_congr there (fun k hk => other (by rintro rfl; simp at hk)) fun _ => ?_
      have left : (stepAt setting guard tag fields x parent key negated).dispatch =
          (stepAt setting guard tag fields x parent key negated).oneOf branches := by
        simp only [Step.dispatch, unconditional, lone, none, hb]
      have right : (stepAt setting guard tag fields' x parent key negated).dispatch =
          (stepAt setting guard tag fields' x parent key negated).oneOf branches' := by
        simp only [Step.dispatch, other (k := "if") (by simp), other (k := "allOf") (by simp),
          other (k := "anyOf") (by simp), unconditional, lone, none, hb']
      rw [left, right]
      rcases related.entries with ⟨fault, hx, hy⟩ | ⟨xs, ys, hx, hy, order⟩
      · simp only [Step.oneOf, hx, hy]
        rfl
      · have hxs : Probed setting guard.path x xs := probed "oneOf" (by simp) branches xs hb hx
        have admitted := order.filter (admits setting guard.path x)
        by_cases one : ∃ branch, xs.filter (admits setting guard.path x) = [branch]
        · obtain ⟨branch, one⟩ := one
          rw [Step.oneOf_of_one rfl hx hxs one,
            Step.oneOf_of_one rfl hy (hxs.perm order) (List.singleton_perm.1 (one ▸ admitted)).symm]
          simp only [Step.without, base]
          rfl
        · rw [Step.oneOf_of_others rfl hx hxs fun branch hb => one ⟨branch, hb⟩,
            Step.oneOf_of_others rfl hy (hxs.perm order) fun branch hb =>
              one ⟨branch, List.perm_singleton.1 (hb ▸ admitted)⟩]
          simp only [Step.default?, other (k := "default") (by simp)]

/-- **The order of the branches of `anyOf` and of `oneOf`.** -/
theorem answer_anyOf (h : List.Forall₂ (Rearranged ["anyOf", "oneOf"]) fields fields') :
    (resolve setting guard ⟨.node (.obj tag fields), some x, parent, key, negated⟩).answer =
      (resolve setting guard ⟨.node (.obj tag fields'), some x, parent, key, negated⟩).answer := by
  have other : ∀ {k}, k ≠ "anyOf" → k ≠ "oneOf" → get? fields' k = get? fields k := fun hk hk' =>
    get?_rearranged h (by simp [hk, hk'])
  have related := rel_get? h "anyOf"
  cases hb : get? fields "anyOf" with
  | none =>
    exact answer_oneOf unconditional lone there probed
      (rearranged_of_absent h fun k hk hk' => by
        rcases List.mem_pair.1 hk with rfl | rfl
        · exact hb
        · exact absurd (List.mem_singleton_self _) hk') hb
  | some branches =>
    cases hb' : get? fields' "anyOf" with
    | none =>
      rw [hb, hb'] at related
      cases related
    | some branches' =>
      rw [hb, hb'] at related
      cases related with
      | some related =>
      have base : List.Forall₂ (Rearranged ["oneOf"]) (Fields.without fields ["anyOf"])
          (Fields.without fields' ["anyOf"]) :=
        rearranged_of_absent (rearranged_without h ["anyOf"]) fun k hk hk' => by
          rcases List.mem_pair.1 hk with rfl | rfl
          · simp
          · exact absurd (List.mem_singleton_self _) hk'
      refine answer_congr there
        (fun k hk => other (by rintro rfl; simp at hk) (by rintro rfl; simp at hk)) fun _ => ?_
      have left : (stepAt setting guard tag fields x parent key negated).dispatch =
          (stepAt setting guard tag fields x parent key negated).anyOf branches := by
        simp only [Step.dispatch, unconditional, lone, hb]
      have right : (stepAt setting guard tag fields' x parent key negated).dispatch =
          (stepAt setting guard tag fields' x parent key negated).anyOf branches' := by
        simp only [Step.dispatch, other (k := "if") (by simp) (by simp),
          other (k := "allOf") (by simp) (by simp), unconditional, lone, hb']
      rw [left, right]
      rcases related.entries with ⟨fault, hx, hy⟩ | ⟨xs, ys, hx, hy, order⟩
      · simp only [Step.anyOf, hx, hy]
        rfl
      · have hxs : Probed setting guard.path x xs := probed "anyOf" (by simp) branches xs hb hx
        have admitted : xs.any (admits setting guard.path x) = ys.any (admits setting guard.path x) :=
          order.any_eq
        cases any : xs.any (admits setting guard.path x) with
        | true =>
          rw [Step.anyOf_of_any rfl hx hxs any,
            Step.anyOf_of_any rfl hy (hxs.perm order) (admitted ▸ any)]
          exact answer_oneOf (by simpa using unconditional) (by simpa using lone)
            (isAbsent_without there) probed.enter base (by simp)
        | false =>
          rw [Step.anyOf_of_none rfl hx hxs any,
            Step.anyOf_of_none rfl hy (hxs.perm order) (admitted ▸ any)]
          simp only [Step.default?, other (k := "default") (by simp) (by simp)]

end Order

section Exclusive

variable {branches : Json} {w : Option Json} (hb : get? fields "oneOf" = some branches)
  (unfilled : get? fields "default" = none)
  (h : (resolve setting guard ⟨.node (.obj tag fields), some x, parent, key, negated⟩).result =
    .ok (.resolved w))

include hb unfilled h

/-- Without a default, a value comes out of `oneOf` only if one branch admits it. -/
theorem one_of_oneOf (none : get? fields "anyOf" = none) :
    ∃ entries branch, Probe.entriesOf branches = .ok entries ∧
      entries.filter (admits setting guard.path x) = [branch] := by
  have hd := dispatch_of_resolved there h
  simp only [Step.dispatch, unconditional, lone, none, hb] at hd
  cases he : Probe.entriesOf branches with
  | error fault =>
    simp only [Step.oneOf, he] at hd
    cases hd
  | ok entries =>
    have hp : Probed setting guard.path x entries := probed "oneOf" (by simp) branches entries hb he
    by_cases one : ∃ branch, entries.filter (admits setting guard.path x) = [branch]
    · obtain ⟨branch, one⟩ := one
      exact ⟨entries, branch, rfl, one⟩
    · have failed := (answer_of_resolved hd).symm.trans
        (Step.oneOf_of_others rfl he hp fun branch hb => one ⟨branch, hb⟩)
      simp [Step.default?, unfilled] at failed

/-- **Without a default, a value comes out only if one branch of `oneOf` admits it**, whether there is
an `anyOf` before it or not. -/
theorem one_of_resolved :
    ∃ entries branch, Probe.entriesOf branches = .ok entries ∧
      entries.filter (admits setting guard.path x) = [branch] := by
  cases ha : get? fields "anyOf" with
  | none => exact one_of_oneOf unconditional lone there probed hb unfilled h ha
  | some others =>
    have hd := dispatch_of_resolved there h
    simp only [Step.dispatch, unconditional, lone, ha] at hd
    rcases Step.anyOf_resolved hd with ⟨hr, -⟩ | ⟨d, hdefault, -⟩
    · have one := one_of_oneOf (by simpa using unconditional) (by simpa using lone)
        (isAbsent_without there) probed.enter (by simpa using hb) (by simpa using unfilled) hr
        (by simp)
      rwa [show (guard.enter []).path = guard.path from List.append_nil _] at one
    · exact absurd hdefault (by simp [Step.default?, unfilled])

end Exclusive

end Request

/-! ## 7. Any order -/

/-- **Which branch comes first makes no difference.**  For a value that is there and a schema without a
condition and without `allOf`, no order of the branches of `anyOf` and `oneOf` changes whether a value
comes out, nor which; and without a default a value comes out of `oneOf` only if exactly one of its
branches admits the value. -/
theorem branches_in_any_order {setting : Probe.Setting} {guard : Guard} {tag : Tag}
    {fields fields' : Fields} {x parent key : Json} {negated : Bool}
    (rearranged : List.Forall₂ (Rearranged ["anyOf", "oneOf"]) fields fields')
    (unconditional : get? fields "if" = none) (lone : get? fields "allOf" = none)
    (there : Schema.isAbsent (some x) (.obj tag fields) = false)
    (probed : AllProbed setting guard.path x fields) :
    (resolve setting guard ⟨.node (.obj tag fields), some x, parent, key, negated⟩).answer =
      (resolve setting guard ⟨.node (.obj tag fields'), some x, parent, key, negated⟩).answer ∧
    ∀ branches w, get? fields "oneOf" = some branches → get? fields "default" = none →
      (resolve setting guard ⟨.node (.obj tag fields), some x, parent, key, negated⟩).result =
        .ok (.resolved w) →
      ∃ entries branch, Probe.entriesOf branches = .ok entries ∧
        entries.filter (admits setting guard.path x) = [branch] :=
  ⟨answer_anyOf unconditional lone there probed rearranged, fun _ _ hb unfilled h =>
    one_of_resolved unconditional lone there probed hb unfilled h⟩

/-- Two kinds of things, told apart by a constant: what is merged in is found in either order. -/
theorem branches_in_any_order_of_kinds :
    let small : Json := .obj none [("maxProperties", .num (.int 1))]
    let a : Json := .obj none [("properties", .obj none [
      ("kind", .obj none [("const", .str "a")]), ("on", .obj none [("type", .str "boolean")])])]
    let b : Json := .obj none [("properties", .obj none [("kind", .obj none [("const", .str "b")])])]
    let fields (anyOf oneOf : List Json) : Fields :=
      [("anyOf", .arr none anyOf), ("type", .str "object"), ("oneOf", .arr none oneOf)]
    let resolved (fields : Fields) : Run Outcome := resolve ⟨.default, .null⟩ (Guard.atStart [])
      ⟨.node (.obj none fields), some (.obj none [("kind", .str "a")]), .null, .null, false⟩
    (resolved (fields [small, .bool false] [a, b])).answer =
        .ok (some (some (.obj none [("kind", .str "a"), ("on", .bool false)]))) ∧
      (resolved (fields [.bool false, small] [b, a])).answer =
        (resolved (fields [small, .bool false] [a, b])).answer ∧
      ∃ branch, [a, b].filter
        (admits ⟨.default, .null⟩ [] (.obj none [("kind", .str "a")])) = [branch] := by
  intro small a b fields resolved
  have rearranged : List.Forall₂ (Rearranged ["anyOf", "oneOf"]) (fields [small, .bool false] [a, b])
      (fields [.bool false, small] [b, a]) :=
    .cons (.branches (by simp) (.swap ..)) (.cons (.same _) (.cons (.branches (by simp) (.swap ..)) .nil))
  have probed : AllProbed ⟨.default, .null⟩ [] (.obj none [("kind", .str "a")])
      (fields [small, .bool false] [a, b]) := by
    intro k hk branches entries hb he branch hm
    simp only [List.mem_cons, List.not_mem_nil, or_false] at hk
    rcases hk with rfl | rfl
    · cases hb
      cases he
      simp only [List.mem_cons, List.not_mem_nil, or_false] at hm
      rcases hm with rfl | rfl
      · exact ⟨[], by decide +kernel⟩
      · exact ⟨[⟨.forbidden, []⟩], by decide +kernel⟩
    · cases hb
      cases he
      simp only [List.mem_cons, List.not_mem_nil, or_false] at hm
      rcases hm with rfl | rfl
      · exact ⟨[], by decide +kernel⟩
      · exact ⟨[⟨.notConstant (.str "b"), ["kind"]⟩], by decide +kernel⟩
  have value : (resolved (fields [small, .bool false] [a, b])).result =
      .ok (.resolved (some (.obj none [("kind", .str "a"), ("on", .bool false)]))) := by
    decide +kernel
  have same : (resolved (fields [small, .bool false] [a, b])).answer =
      (resolved (fields [.bool false, small] [b, a])).answer :=
    (branches_in_any_order rearranged rfl rfl rfl probed).1
  obtain ⟨entries, branch, he, hone⟩ :=
    (branches_in_any_order rearranged rfl rfl rfl probed).2 _ _ rfl rfl value
  cases he
  exact ⟨answer_of_resolved value, same.symm, branch, hone⟩

/-- A branch that cannot be probed is only come to behind one that does not admit the value. -/
example :
    let broken : Json := .obj none [("required", .num (.int 5))]
    let answer (branches : List Json) := (resolveAt ⟨.default, .null⟩
      (wholeRequest (.obj none [("anyOf", .arr none branches)]) (some (.obj none [])))).answer
    answer [.bool true, broken] = .ok (some (some (.obj none []))) ∧
      answer [broken, .bool true] = .error .notIterable := by
  decide +kernel

end Conform.Resolve
