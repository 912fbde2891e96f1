/-
# How a schema comes out

A schema that is composed of others is resolved by being led back to a schema without the composing
keyword.  For each keyword it is said here what must have happened when a value comes out: which
schema the step was redirected to, and what was probed before.  The members of `allOf` are a chain of
their own (`flatten_result`).  Without such keywords the type decides, and it does so as it does for
the probe (`typed_of_decides`).
-/
import Conform.Proofs.Failures
import Conform.Proofs.Merging

namespace Conform.Resolve.Step

open Fields (get?)
open Probe (Check)

variable {step : Step} {w : Option Json}

/-! ## 1. Conditions -/

/-- A condition leads to the rest of the schema, alone or with the branch merged in that it chooses. -/
theorem conditional_resolved {condition : Json}
    (h : (step.conditional condition).result = .ok (.resolved w)) :
    ∃ met, Probe.meets step.setting step.value condition step.path = .ok met ∧
      ((∀ branch, get? step.fields (if met then "then" else "else") = some branch → branch = .null) ∧
        (step.redirect (step.without ["if", "then", "else"])).result = .ok (.resolved w) ∨
      ∃ branch effective, get? step.fields (if met then "then" else "else") = some branch ∧
        Schema.merge false (step.without ["if", "then", "else"]) branch = .ok effective ∧
        (step.redirect effective).result = .ok (.resolved w)) := by
  simp only [conditional, Run.bind_result_eq_ok, Run.lift_result] at h
  obtain ⟨met, hmet, h⟩ := h
  refine ⟨met, hmet, ?_⟩
  split at h
  · next hb => exact .inl ⟨fun branch he => absurd (hb.symm.trans he) (by simp), h⟩
  · next hb => exact .inl ⟨fun branch he => (Option.some.inj (hb.symm.trans he)).symm, h⟩
  · next branch _ hb =>
    simp only [Run.bind_result_eq_ok, Run.lift_result] at h
    obtain ⟨effective, hm, h⟩ := h
    exact .inr ⟨branch, effective, hb, hm, h⟩

/-! ## 2. All of several schemas -/

/-- What is merged of a member of `allOf`. -/
def mergedPart (member : Json) : Json := if isComposite member then plainPart member else member

/-- A member merged into what has been made of those before it, and then the members behind it. -/
def mergeMember (step : Step) (member : Json) (rest : List Json) (flat : Flattened) :
    Run (Except (List Issue) Flattened) :=
  match Schema.merge true flat.merged member with
  | .ok merged => step.flatten rest { flat with merged := merged, plain := member :: flat.plain }
  | .error (.conflict _ _) => pure (.error (flat.issues ++ [⟨.noCommonType, step.path ++ ["allOf"]⟩]))
  | .error fault => Run.fault fault

theorem flatten_cons (member : Json) (rest : List Json) (flat : Flattened) :
    step.flatten (member :: rest) flat =
      if isComposite member then
        step.resolveMember flat member >>= step.mergeMember (mergedPart member) rest
      else pure flat >>= step.mergeMember (mergedPart member) rest := by
  rw [flatten, mergedPart]
  cases isComposite member <;> rfl

theorem mergeMember_result {member : Json} {rest : List Json} {flat flat' : Flattened} :
    (step.mergeMember member rest flat).result = .ok (.ok flat') ↔
      ∃ merged, Schema.merge true flat.merged member = .ok merged ∧
        (step.flatten rest { flat with merged := merged, plain := member :: flat.plain }).result =
          .ok (.ok flat') := by
  unfold mergeMember
  cases Schema.merge true flat.merged member with
  | ok merged => simp
  | error fault => cases fault <;> simp

/-- **A member of `allOf`**: a composite one is resolved first, then what is plain is merged. -/
def TakesMember (step : Step) (member : Json) (flat flat' : Flattened) : Prop :=
  ∃ resolved merged,
    (if isComposite member then (step.resolveMember flat member).result = .ok resolved
      else resolved = flat) ∧
    Schema.merge true resolved.merged (mergedPart member) = .ok merged ∧
    flat' = ⟨resolved.working, merged, mergedPart member :: resolved.plain, resolved.issues⟩

theorem flatten_result {members : List Json} {flat flat' : Flattened} :
    (step.flatten members flat).result = .ok (.ok flat') ↔
      Chain step.TakesMember members flat flat' := by
  induction members generalizing flat with
  | nil => simp [flatten, eq_comm]
  | cons member rest ih =>
    rw [Chain.cons_iff, flatten_cons]
    unfold TakesMember
    cases hc : isComposite member with
    | true =>
      simp only [if_true, Run.bind_result_eq_ok]
      constructor
      · rintro ⟨resolved, hr, h⟩
        obtain ⟨merged, hm, h⟩ := mergeMember_result.1 h
        exact ⟨_, ⟨resolved, merged, hr, hm, rfl⟩, ih.1 h⟩
      · rintro ⟨_, ⟨resolved, merged, hr, hm, rfl⟩, h⟩
        exact ⟨resolved, hr, mergeMember_result.2 ⟨merged, hm, ih.2 h⟩⟩
    | false =>
      simp only [Bool.false_eq_true, if_false, Run.bind_result_eq_ok]
      constructor
      · rintro ⟨_, ⟨⟩, h⟩
        obtain ⟨merged, hm, h⟩ := mergeMember_result.1 h
        exact ⟨_, ⟨flat, merged, rfl, hm, rfl⟩, ih.1 h⟩
      · rintro ⟨_, ⟨_, merged, rfl, hm, rfl⟩, h⟩
        exact ⟨_, rfl, mergeMember_result.2 ⟨merged, hm, ih.2 h⟩⟩

section Members

variable {member : Json} {members : List Json} {flat flat' : Flattened} {k : String}

/-- What a member leaves behind: the schemas to check, the issues, and what is merged. -/
theorem TakesMember.spec (h : step.TakesMember member flat flat') :
    flat'.plain = mergedPart member :: flat.plain ∧
      (∃ more, flat'.issues = flat.issues ++ more) ∧
      Schema.merge true flat.merged (mergedPart member) = .ok flat'.merged := by
  obtain ⟨resolved, merged, hr, hm, rfl⟩ := h
  split at hr
  · simp only [resolveMember, Run.bind_result_eq_ok] at hr
    obtain ⟨outcome, -, hr⟩ := hr
    cases outcome with
    | failed issues =>
      cases hr
      exact ⟨rfl, ⟨issues, rfl⟩, hm⟩
    | resolved value =>
      cases hr
      exact ⟨rfl, ⟨[], by simp⟩, hm⟩
  · subst hr
    exact ⟨rfl, ⟨[], by simp⟩, hm⟩

/-- Schemas to check stay, and there were no issues before if there are none in the end. -/
theorem spec_of_chain (h : Chain step.TakesMember members flat flat') :
    (∀ s ∈ flat.plain, s ∈ flat'.plain) ∧ (flat'.issues = [] → flat.issues = []) := by
  induction h with
  | nil => exact ⟨fun _ => id, id⟩
  | cons first _ ih =>
    obtain ⟨hp, ⟨more, hm⟩, -⟩ := first.spec
    refine ⟨fun s hs => ih.1 s (hp ▸ List.mem_cons_of_mem _ hs), fun hi => ?_⟩
    exact (List.append_eq_nil_iff.1 (hm ▸ ih.2 hi)).1

/-- A composite member that leaves no issue comes out with a value. -/
theorem TakesMember.resolved (h : step.TakesMember member flat flat')
    (hc : isComposite member = true) (hi : flat'.issues = [])
    (again : ∀ extension request, Honest (step.again extension request)) :
    ∃ value, (step.again ["allOf"] ⟨.node member, flat.working, step.parent, step.key,
      step.negated⟩).result = .ok (.resolved value) := by
  obtain ⟨resolved, merged, hr, -, rfl⟩ := h
  simp only [hc, if_true, resolveMember, Run.bind_result_eq_ok] at hr
  obtain ⟨outcome, ho, hr⟩ := hr
  cases outcome with
  | resolved value => exact ⟨value, ho⟩
  | failed issues =>
    cases hr
    obtain ⟨-, rfl⟩ := List.append_eq_nil_iff.1 hi
    exact absurd ho (again _ _)

/-- What is merged of a member has no composing keyword. -/
theorem get?_mergedPart (hk : k ∈ Schema.compositeKeywords) :
    get? (Schema.fieldsOf (mergedPart member)) k = none := by
  unfold mergedPart
  cases member with
  | obj tag fields =>
    cases hc : isComposite (.obj tag fields) with
    | true =>
      simp only [if_true, plainPart, Schema.fieldsOf, Fields.get?_without, hk]
    | false =>
      simp only [isComposite, List.any_eq_false] at hc
      simp only [Bool.false_eq_true, if_false, Schema.fieldsOf]
      exact Fields.has_eq_false_iff.1 (Bool.eq_false_iff.2 (hc k hk))
  | _ => rfl

/-- **Merging the members of `allOf` does not touch the other compositions of the schema**, unless it
comes to the schema that allows nothing. -/
theorem get?_merged_of_chain (h : Chain step.TakesMember members flat flat')
    (hk : k ∈ ["anyOf", "not"]) : flat'.merged = .bool false ∨
      get? (Schema.fieldsOf flat'.merged) k = get? (Schema.fieldsOf flat.merged) k := by
  have hcomposite : k ∈ Schema.compositeKeywords ∧ k ∉ Schema.remade := by
    rcases List.mem_pair.1 hk with rfl | rfl <;> decide
  induction h with
  | nil => exact .inr rfl
  | @cons member members flat t flat' first rest ih =>
    obtain ⟨-, -, hm⟩ := first.spec
    rcases ih with hf | he
    · exact .inl hf
    · rcases Schema.merge_sourced hm with hf | ⟨r, hr, sourced⟩
      · refine .inl (rest.keeps (P := fun flat => flat.merged = .bool false)
          (fun _ _ s t ht hs => ?_) hf)
        obtain ⟨-, -, hm⟩ := ht.spec
        exact Schema.eq_false_of_merge_false (hs ▸ hm)
      · refine .inr (he.trans ?_)
        rw [hr]
        exact sourced.kept k hcomposite.2 (get?_mergedPart hcomposite.1)

end Members

/-- **What `allOf` takes to come out with a value**: no composite member fails, the merged schema
admits the value, and so do the members on their own in the end. -/
theorem allOf_resolved {members : Json} (h : (step.allOf members).result = .ok (.resolved w)) :
    ∃ entries flat, Probe.entriesOf members = .ok entries ∧
      Chain step.TakesMember entries
        ⟨step.value, step.without ["allOf"], [plainPart (step.without ["allOf"])], []⟩ flat ∧
      flat.issues = [] ∧
      (step.again [] ⟨.node flat.merged, flat.working, step.parent, step.key,
        step.negated⟩).result = .ok (.resolved w) ∧
      step.issuesAgainst w flat.plain.reverse = .ok [] := by
  simp only [allOf, Run.bind_result_eq_ok, Run.lift_result] at h
  obtain ⟨entries, he, flattened, hf, h⟩ := h
  cases flattened with
  | error issues => exact absurd h fail_result_ne
  | ok flat =>
    simp only [Run.bind_result_eq_ok] at h
    obtain ⟨outcome, ho, h⟩ := h
    cases hi : flat.issues with
    | cons issue rest =>
      simp only [hi, List.isEmpty_cons, Bool.not_false, if_true] at h
      exact absurd h fail_result_ne
    | nil =>
      simp only [hi, List.isEmpty_nil, Bool.not_true, Bool.false_eq_true, if_false] at h
      cases outcome with
      | failed issues => simp at h
      | resolved value =>
        simp only [Run.bind_result_eq_ok, Run.lift_result] at h
        obtain ⟨issues, hp, h⟩ := h
        cases issues with
        | cons issue rest =>
          simp only [List.isEmpty_cons, Bool.false_eq_true, if_false] at h
          exact absurd h fail_result_ne
        | nil =>
          cases h
          exact ⟨entries, flat, he, flatten_result.1 hf, hi, ho, hp⟩

/-! ## 3. Any of several schemas -/

/-- **What `anyOf` takes to come out with a value**: a branch admits the value, or the default stands in
for it. -/
theorem anyOf_resolved {branches : Json} (h : (step.anyOf branches).result = .ok (.resolved w)) :
    ((step.redirect (step.without ["anyOf"])).result = .ok (.resolved w) ∧
      ∀ x, step.value = some x → ∃ entries, Probe.entriesOf branches = .ok entries ∧
        step.probeBranches x entries [] = .ok none) ∨
    ∃ d, step.default? = some d ∧ w = some d := by
  simp only [anyOf] at h
  split at h
  · next hv => exact .inl ⟨h, by simp [hv]⟩
  · next x hv =>
    simp only [Run.bind_result_eq_ok, Run.lift_result] at h
    obtain ⟨entries, he, found, hf, h⟩ := h
    split at h
    · refine .inl ⟨h, fun y hy => ⟨entries, he, ?_⟩⟩
      rw [hv] at hy
      cases hy
      exact hf
    · split at h
      · next d hd =>
        cases h
        exact .inr ⟨d, hd, rfl⟩
      · exact absurd h fail_result_ne

/-- The branches are probed as `anyOf` is: until one admits the value. -/
theorem probeBranches_eq_none_iff {x : Json} {entries : List Json} {found : List Issue} :
    step.probeBranches x entries found = .ok none ↔
      Probe.exists? entries (fun s _ => Probe.valid (Probe.issues step.setting x s step.path)) =
        .ok true := by
  induction entries generalizing found with
  | nil => simp [probeBranches, Probe.exists?]
  | cons branch rest ih =>
    rw [probeBranches, Probe.exists?]
    cases Probe.issues step.setting x branch step.path with
    | error fault => simp [Probe.valid, Except.map, error_bind]
    | ok issues => cases issues <;> simp [Probe.valid, Except.map, ok_bind, ih]

/-! ## 4. Exactly one of several schemas -/

theorem mem_of_mem_passingBranches {branches : List Json} {outcomes : List (List Issue)}
    {branch : Json} (h : branch ∈ passingBranches branches outcomes) : branch ∈ branches := by
  obtain ⟨⟨b, issues⟩, hm, hb⟩ := List.mem_filterMap.1 h
  have hmem : b ∈ branches := (List.of_mem_zip hm).1
  by_cases hi : issues.isEmpty
  · simp only [hi, if_true, Option.some.injEq] at hb
    exact hb ▸ hmem
  · simp [hi] at hb

/-- A branch does not admit a value. -/
def Refuses (step : Step) (x branch : Json) : Prop :=
  ∃ found, Probe.issues step.setting x branch step.path = .ok found ∧ found ≠ []

/-- **One branch admits a value, and no other does.** -/
def Selects (step : Step) (x : Json) (entries : List Json) (branch : Json) : Prop :=
  ∃ before after, entries = before ++ branch :: after ∧
    Probe.issues step.setting x branch step.path = .ok [] ∧
    ∀ other ∈ before ++ after, step.Refuses x other

theorem Selects.mem {x branch : Json} {entries : List Json} (h : step.Selects x entries branch) :
    branch ∈ entries := by
  obtain ⟨before, after, rfl, -⟩ := h
  exact List.mem_append_right _ (List.mem_cons_self ..)

/-- What the branches that pass say about all of them. -/
theorem passingBranches_cons {x first : Json} {rest : List Json} {outcomes : List (List Issue)}
    (h : step.branchIssues x (first :: rest) = .ok outcomes) :
    ∃ others, step.branchIssues x rest = .ok others ∧
      (Probe.issues step.setting x first step.path = .ok [] ∧
          passingBranches (first :: rest) outcomes = first :: passingBranches rest others ∨
        step.Refuses x first ∧
          passingBranches (first :: rest) outcomes = passingBranches rest others) := by
  simp only [branchIssues, bind_eq_ok, Except.ok.injEq] at h
  obtain ⟨issues, hi, others, ho, rfl⟩ := h
  refine ⟨others, ho, ?_⟩
  cases issues with
  | nil => exact .inl ⟨hi, rfl⟩
  | cons issue more => exact .inr ⟨⟨issue :: more, hi, by simp⟩, rfl⟩

/-- Where no branch passes, each refuses the value. -/
theorem refuses_of_passingBranches {x : Json} {entries : List Json} {outcomes : List (List Issue)}
    (h : step.branchIssues x entries = .ok outcomes) (hp : passingBranches entries outcomes = []) :
    ∀ branch ∈ entries, step.Refuses x branch := by
  induction entries generalizing outcomes with
  | nil => exact nofun
  | cons first rest ih =>
    obtain ⟨others, ho, ⟨-, he⟩ | ⟨hr, he⟩⟩ := passingBranches_cons h
    · rw [he] at hp
      cases hp
    · intro branch hm
      rcases List.mem_cons.1 hm with rfl | hm
      · exact hr
      · exact ih ho (he ▸ hp) branch hm

/-- Where one branch passes, it is the only one that admits the value. -/
theorem selects_of_passingBranches {x branch : Json} {entries : List Json}
    {outcomes : List (List Issue)} (h : step.branchIssues x entries = .ok outcomes)
    (hp : passingBranches entries outcomes = [branch]) : step.Selects x entries branch := by
  induction entries generalizing outcomes with
  | nil => cases hp
  | cons first rest ih =>
    obtain ⟨others, ho, ⟨hi, he⟩ | ⟨hr, he⟩⟩ := passingBranches_cons h
    · rw [he] at hp
      obtain ⟨rfl, hnone⟩ := List.cons.inj hp
      exact ⟨[], rest, rfl, hi, refuses_of_passingBranches ho hnone⟩
    · obtain ⟨before, after, rfl, hi, hothers⟩ := ih ho (he ▸ hp)
      refine ⟨first :: before, after, rfl, hi, fun other hm => ?_⟩
      rcases List.mem_cons.1 hm with rfl | hm
      · exact hr
      · exact hothers other hm

/-- **What `oneOf` takes to come out with a value**: a missing value leads to the rest of the schema, a
value to the rest of the schema with the one branch merged in that admits it, or the default stands in
for it. -/
theorem oneOf_resolved {branches : Json} (h : (step.oneOf branches).result = .ok (.resolved w)) :
    step.value = none ∧ (step.redirect (step.without ["oneOf"])).result = .ok (.resolved w) ∨
    (∃ x entries branch effective, step.value = some x ∧ Probe.entriesOf branches = .ok entries ∧
      step.Selects x entries branch ∧
      Schema.merge true (step.without ["oneOf"]) branch = .ok effective ∧
      (step.redirect effective).result = .ok (.resolved w)) ∨
    ∃ d, step.default? = some d ∧ w = some d := by
  simp only [oneOf] at h
  split at h
  · next hv => exact .inl ⟨hv, h⟩
  · next x hv =>
    simp only [Run.bind_result_eq_ok, Run.lift_result] at h
    obtain ⟨entries, he, outcomes, ho, h⟩ := h
    split at h
    · next branch hb =>
      have hm := selects_of_passingBranches ho hb
      split at h
      · next effective hmerge =>
        exact .inr (.inl ⟨x, entries, branch, effective, hv, he, hm, hmerge, h⟩)
      · exact absurd h fail_result_ne
      · cases h
    · next d hd _ =>
      cases h
      exact .inr (.inr ⟨d, hd, rfl⟩)
    · split at h
      · exact absurd h fail_result_ne
      · unfold noneOfOne at h
        split at h <;> exact absurd h fail_result_ne
    · exact absurd h fail_result_ne

/-! ## 5. Negation -/

/-- **What a negated schema takes to come out with a value**: it does not admit the value. -/
theorem not_resolved {negated : Json} (h : (step.not negated).result = .ok (.resolved w)) :
    (step.redirect (step.without ["not"])).result = .ok (.resolved w) ∧
    ∀ x, step.value = some x → ∃ issues,
      Probe.issues step.setting x negated (step.path ++ ["not"]) = .ok issues ∧ issues ≠ [] := by
  simp only [not] at h
  split at h
  · next hv => exact ⟨h, by simp [hv]⟩
  · next x hv =>
    simp only [Run.bind_result_eq_ok, Run.lift_result] at h
    obtain ⟨issues, hi, h⟩ := h
    cases issues with
    | nil =>
      simp only [List.isEmpty_nil, if_true] at h
      split at h
      · simp only [Run.bind_result_eq_ok] at h
        obtain ⟨_, -, h⟩ := h
        exact absurd h fail_result_ne
      · exact absurd h fail_result_ne
    | cons issue rest =>
      refine ⟨h, fun y hy => ⟨issue :: rest, ?_, by simp⟩⟩
      rw [hv] at hy
      cases hy
      exact hi

/-! ## 6. Types -/

open Schema (Decides Silent)

/-- Where nothing is said about a value by its type, it stays. -/
theorem typed_of_silent {x : Json} (hv : step.value = some x) (h : Silent step.fields x) :
    step.typed = done (some x) := by
  have hd : Schema.declaredTypes step.schema = [] := h.1
  simp only [typed, hd, hv, h.2]

/-- The tag of what remains of the schema: reduced to one of several types, it is a schema of its own. -/
def remainingTag (step : Step) : Tag :=
  match Schema.declaredTypes step.schema with
  | _ :: _ :: _ => none
  | _ => step.tag

/-- The step at what remains of its schema. -/
def narrowed (step : Step) (remaining : Fields) : Step :=
  { step with tag := step.remainingTag, fields := remaining }

/-- Where a kind decides about a value, the members that remain for it resolve it. -/
theorem typed_of_decides {x : Json} {kind : Kind} {remaining : Fields}
    (hv : step.value = some x) (h : Decides step.fields x kind remaining) :
    step.typed = (step.narrowed remaining).ofKind kind := by
  cases h with
  | inferred h hk =>
    have hd : Schema.declaredTypes step.schema = [] := h
    rw [← hv] at hk
    simp only [typed, hd, hk, narrowed, remainingTag]
  | single h hk =>
    have hd : Schema.declaredTypes step.schema = [.str _] := h
    simp only [typed, hd, ofType, hk, narrowed, remainingTag]
  | several h hk =>
    have hd : Schema.declaredTypes step.schema = _ := h
    rw [h] at hk
    simp only [typed, hd, ofTypes, hv, hk, narrowed, remainingTag]

/-- **A value that comes out by its type** was decided about, or nothing was said about it. -/
theorem decides_of_typed {x : Json} (hv : step.value = some x)
    (h : step.typed.result = .ok (.resolved w)) :
    Silent step.fields x ∨ ∃ kind remaining, Decides step.fields x kind remaining := by
  unfold typed at h
  split at h
  · next hd =>
    cases hk : Schema.inferKind step.fields (some x) with
    | none => exact .inl ⟨hd, hk⟩
    | some kind => exact .inr ⟨kind, _, .inferred hd hk⟩
  · next type hd =>
    unfold ofType at h
    split at h
    · next s =>
      split at h
      · next kind hk => exact .inr ⟨kind, _, .single hd hk⟩
      · exact absurd h fail_result_ne
    · split at h
      · cases h
      · exact absurd h fail_result_ne
  · next types hnil hone =>
    cases hd : Schema.declaredTypes step.schema with
    | nil => exact absurd hd hnil
    | cons a rest =>
      cases rest with
      | nil => exact absurd hd (hone a)
      | cons b rest =>
        rw [hd] at h
        unfold ofTypes at h
        simp only [hv] at h
        split at h
        · simp only [Run.bind_result_eq_ok] at h
          obtain ⟨_, -, h⟩ := h
          exact absurd h fail_result_ne
        · next kind hk => exact .inr ⟨kind, _, .several hd (hd.symm ▸ hk)⟩

end Conform.Resolve.Step

namespace Conform.Schema

/-- What holds of a schema reduced to any of its types holds of what remains for the kind that
decides. -/
theorem Wholly.of_decides {P : Fields → Prop} {tag tag' : Tag} {fields remaining : Fields} {x : Json}
    {kind : Kind} (h : Wholly P (.obj tag fields))
    (hP : ∀ kind : Kind, Json.listsName (declaredTypes (.obj none fields)) kind.name = true →
      P (Schema.restrict fields (.str kind.name)))
    (hd : Decides fields x kind remaining) : Wholly P (.obj tag' remaining) := by
  cases hd with
  | inferred | single => exact h.retag
  | several _ hk =>
    have hf := List.find?_some hk
    simp only [Bool.and_eq_true] at hf
    exact h.restrict (hP kind hf.1)

/-- What remains for the kind that decides has no other schemas below it. -/
theorem Decides.mem_subschemas {fields remaining : Fields} {x s : Json} {kind : Kind}
    (hd : Decides fields x kind remaining) (hs : s ∈ subschemas remaining) : s ∈ subschemas fields := by
  cases hd with
  | inferred | single => exact hs
  | several =>
    obtain ⟨k, y, hm, hs⟩ := Schema.mem_subschemas.1 hs
    rcases mem_restrict hm with hm | ⟨rfl, -⟩
    · exact Schema.mem_subschemas.2 ⟨k, y, hm, hs⟩
    · cases hs

end Conform.Schema
