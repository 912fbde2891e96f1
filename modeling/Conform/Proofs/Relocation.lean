/-
# A resolution below a place

Where a resolution starts is of no consequence for what it does.  Started below a place it ends as it does
by itself, with every issue, every note and the path of a fault below the place (`alike_resolve`).

The path of a resolution is put into issues and handed to the probe, which the same holds of; but it
is also what the guard measures.  The guard measures from the start, and its frames are lengths of paths
below the start, so below a place all of them grow alike (`Guard.moved`), and it stops at the same calls.
-/
import Conform.Proofs.Compositions
import Conform.Proofs.Prefixing
import Conform.Session

namespace Conform.Resolve

open Issue (AllBelow)
open Fields (get?)
open Probe (Check lists_issues lists_issues? shifted_meets)

variable {α β γ δ : Type} {place start : Path}

/-! ## 1. Runs -/

/-- **The first run is the second, made below the place.** -/
structure Relocated (place : Path) (R : α → β → Prop) (run : Run α) (run' : Run β) : Prop where
  result : Shifted place R run.result run'.result
  notes : AllBelow place run.notes run'.notes

namespace Relocated

variable {R : α → β → Prop} {S : γ → δ → Prop} {run : Run α} {run' : Run β}

theorem bind (h : Relocated place R run run') {f : α → Run γ} {g : β → Run δ}
    (hn : ∀ a b, R a b → Relocated place S (f a) (g b)) : Relocated place S (run >>= f) (run' >>= g) := by
  obtain ⟨result, notes⟩ := run
  obtain ⟨result', notes'⟩ := run'
  obtain ⟨hr, hnotes⟩ := h
  dsimp only at hr hnotes
  cases hr with
  | fault hf => exact ⟨.fault hf, hnotes⟩
  | answer h => exact ⟨(hn _ _ h).result, hnotes.append (hn _ _ h).notes⟩

theorem pure {a : α} {b : β} (h : R a b) : Relocated place R (Pure.pure a) (Pure.pure b) :=
  ⟨.answer h, .nil⟩

theorem check {check : Check α} {check' : Check β} (h : Shifted place R check check') :
    Relocated place R (Run.ofCheck check) (Run.ofCheck check') :=
  ⟨h, .nil⟩

/-- A check that ends with ordinary faults only, and what comes after it. -/
theorem after {check : Check α} (h : Ordinary check) {f : α → Run γ} {g : α → Run δ}
    (hn : ∀ a, Relocated place S (f a) (g a)) :
    Relocated place S (liftM check >>= f) (liftM check >>= g) :=
  (Relocated.check (.same h)).bind fun a _ e => e ▸ hn a

theorem fault {fault : Fault} (h : fault.Ordinary) :
    Relocated place R (Run.fault fault) (Run.fault fault) :=
  ⟨.error h, .nil⟩

theorem ite {p : Prop} [Decidable p] {other : Run α} {other' : Run β}
    (h : Relocated place R run run') (h' : Relocated place R other other') :
    Relocated place R (if p then run else other) (if p then run' else other') := by
  split
  · exact h
  · exact h'

end Relocated

/-- The outcome is the other, found below the place. -/
inductive Outcome.Below (place : Path) : Outcome → Outcome → Prop
  | resolved (value : Option Json) : Below place (.resolved value) (.resolved value)
  | failed {a b : List Issue} (h : AllBelow place a b) : Below place (.failed a) (.failed b)

/-- Two resolutions of which the first is the second, made below the place. -/
abbrev Alike (place : Path) (run run' : Run Outcome) : Prop :=
  Relocated place (Outcome.Below place) run run'

theorem alike_done (value : Option Json) : Alike place (done value) (done value) :=
  .pure (.resolved value)

theorem alike_fail {a b : List Issue} (h : AllBelow place a b) : Alike place (fail a) (fail b) := by
  unfold fail
  rw [h.isEmpty_eq]
  exact .ite (.fault trivial) (.pure (.failed h))

/-! ## 2. Steps -/

/-- Further resolutions of which the first are the second, made below the place. -/
def Follows (place : Path) (again again' : Again) : Prop :=
  ∀ extension request, Alike place (again extension request) (again' extension request)

/-- What has been built, with the issues below the place. -/
structure Built.Below (place : Path) (built built' : Built) : Prop where
  members : built.members = built'.members
  issues : AllBelow place built.issues built'.issues

theorem Built.Below.report {built built' : Built} (h : built.Below place built') {a b : List Issue}
    (hi : AllBelow place a b) : (built.report a).Below place (built'.report b) :=
  ⟨h.members, h.issues.append hi⟩

theorem Built.Below.others {built built' : Built} (h : built.Below place built')
    (properties working : Fields) :
    Built.Below place
      { built with members := Fields.union built.members (Step.otherMembers properties working) }
      { built' with members := Fields.union built'.members (Step.otherMembers properties working) } :=
  ⟨congrArg (Fields.union · _) h.members, h.issues⟩

theorem Built.Below.take {built built' : Built} (h : built.Below place built') (name : String)
    {outcome outcome' : Outcome} (ho : outcome.Below place outcome') :
    (built.take name outcome).Below place (built'.take name outcome') := by
  cases ho with
  | failed ho => exact h.report ho
  | resolved value =>
    cases value with
    | none => exact h
    | some x => exact ⟨congrArg (Fields.put · name x) h.members, h.issues⟩

namespace Step

/-- The step below a place, with another starting path in its options. -/
def moved (step : Step) (start place : Path) (again : Again) : Step :=
  { step with setting := step.setting.at start, path := place ++ step.path, again := again }

variable {step : Step} {again : Again}

theorem shifted_probeBranches (value : Json) (branches : List Json) {found found' : List Issue}
    (h : AllBelow place found found') :
    Shifted place (Option.Rel (AllBelow place))
      ((step.moved start place again).probeBranches value branches found)
      (step.probeBranches value branches found') := by
  induction branches generalizing found found' with
  | nil => exact .answer (.some h)
  | cons branch rest ih =>
    refine (lists_issues step.setting start value branch rfl).bind fun issues issues' hi => ?_
    rw [hi.isEmpty_eq]
    exact .ite (.answer .none) (ih (h.append hi))

/-- The issues against each branch are the others, found below the place. -/
def AllsBelow (place : Path) (outcomes outcomes' : List (List Issue)) : Prop :=
  outcomes = outcomes'.map (List.map (Issue.below place))

theorem shifted_branchIssues (value : Json) (branches : List Json) :
    Shifted place (AllsBelow place) ((step.moved start place again).branchIssues value branches)
      (step.branchIssues value branches) := by
  induction branches with
  | nil => exact .answer rfl
  | cons branch rest ih =>
    refine (lists_issues step.setting start value branch rfl).bind fun issues issues' hi => ?_
    exact ih.bind fun others others' ho => .answer (congrArg₂ List.cons hi ho)

theorem AllsBelow.passingBranches_eq {outcomes outcomes' : List (List Issue)}
    (h : AllsBelow place outcomes outcomes') (branches : List Json) :
    passingBranches branches outcomes = passingBranches branches outcomes' := by
  rw [h, passingBranches, List.zip_map_right, List.filterMap_map]
  simp only [Function.comp_def, Prod.map, List.isEmpty_map, id]
  rfl

theorem AllsBelow.noneOfOne (step : Step) (value : Json) (branches : List Json)
    {outcomes outcomes' : List (List Issue)} (h : AllsBelow place outcomes outcomes') :
    Alike place ((step.moved start place again).noneOfOne value branches outcomes)
      (step.noneOfOne value branches outcomes') := by
  subst h
  have first : AllBelow place
      (((outcomes'.map (List.map (Issue.below place))).head?.getD []) ++
        [⟨.notExactlyOne, place ++ step.path ++ ["oneOf"]⟩])
      ((outcomes'.head?.getD []) ++ [⟨.notExactlyOne, step.path ++ ["oneOf"]⟩]) := by
    refine AllBelow.append ?_ (.single (path_append rfl _) _)
    cases outcomes' with
    | nil => exact .nil
    | cons issues rest => exact rfl
  unfold Step.noneOfOne
  cases closestBranch branches value with
  | none => exact alike_fail first
  | some i =>
    simp only [Option.bind_some, List.getElem?_map]
    cases outcomes'[i]? with
    | some issues => exact alike_fail rfl
    | none => exact alike_fail first

/-! ## 3. Conditions and compositions -/

section Composed

variable (follows : Follows place again step.again)

include follows

theorem alike_redirect (schema : Json) :
    Alike place ((step.moved start place again).redirect schema) (step.redirect schema) :=
  follows _ _

theorem alike_descend (key : Json) (node : Reference.Node) (value : Option Json) :
    Alike place ((step.moved start place again).descend key node value)
      (step.descend key node value) :=
  follows _ _

omit follows in
theorem alike_failWith (reason : Reason) :
    Alike place ((step.moved start place again).failWith reason) (step.failWith reason) :=
  alike_fail (.single rfl _)

theorem alike_conditional (condition : Json) :
    Alike place ((step.moved start place again).conditional condition) (step.conditional condition) := by
  refine (Relocated.check (shifted_meets step.setting start step.value condition rfl)).bind ?_
  rintro met _ rfl
  dsimp only [moved]
  generalize get? step.fields (if met then "then" else "else") = branch
  match branch with
  | none | some .null => exact alike_redirect follows _
  | some (.bool _) | some (.num _) | some (.str _) | some (.arr _ _) | some (.obj _ _) =>
    exact .after (Schema.ordinary_merge _ _) fun _ => alike_redirect follows _

/-- What has been made of members, with the issues below the place. -/
structure Flattened.Below (place : Path) (flat flat' : Flattened) : Prop where
  working : flat.working = flat'.working
  merged : flat.merged = flat'.merged
  plain : flat.plain = flat'.plain
  issues : AllBelow place flat.issues flat'.issues

/-- What flattening ends with, with the issues below the place. -/
inductive Flattened.Ends (place : Path) :
    Except (List Issue) Flattened → Except (List Issue) Flattened → Prop
  | error {a b : List Issue} (h : AllBelow place a b) : Ends place (.error a) (.error b)
  | ok {flat flat' : Flattened} (h : flat.Below place flat') : Ends place (.ok flat) (.ok flat')

omit follows in
theorem relocated_mergeMember (member : Json) {rest : List Json}
    (others : ∀ {flat flat' : Flattened}, flat.Below place flat' →
      Relocated place (Flattened.Ends place)
        ((step.moved start place again).flatten rest flat) (step.flatten rest flat'))
    {flat flat' : Flattened} (h : flat.Below place flat') :
    Relocated place (Flattened.Ends place)
      ((step.moved start place again).mergeMember member rest flat)
      (step.mergeMember member rest flat') := by
  obtain ⟨working, merged, plain, issues⟩ := flat
  obtain ⟨_, _, _, issues'⟩ := flat'
  obtain ⟨rfl, rfl, rfl, hi⟩ := h
  have ordinary := @Schema.ordinary_of_merge true merged member
  unfold mergeMember
  dsimp only at hi ⊢
  generalize Schema.merge true merged member = ends at ordinary
  rcases ends with fault | merged
  · cases fault with
    | conflict => exact .pure (.error (hi.append (.single (path_append rfl _) _)))
    | _ => exact .fault (ordinary rfl nofun)
  · exact others ⟨rfl, rfl, rfl, hi⟩

theorem relocated_resolveMember (member : Json) {flat flat' : Flattened} (h : flat.Below place flat') :
    Relocated place (Flattened.Below place)
      ((step.moved start place again).resolveMember flat member) (step.resolveMember flat' member) := by
  obtain ⟨working, merged, plain, issues⟩ := flat
  obtain ⟨_, _, _, issues'⟩ := flat'
  obtain ⟨rfl, rfl, rfl, hi⟩ := h
  refine (follows _ _).bind fun outcome outcome' ho => ?_
  cases ho with
  | resolved value => exact .pure ⟨rfl, rfl, rfl, hi⟩
  | failed ho => exact .pure ⟨rfl, rfl, rfl, hi.append ho⟩

theorem relocated_flatten (members : List Json) {flat flat' : Flattened} (h : flat.Below place flat') :
    Relocated place (Flattened.Ends place)
      ((step.moved start place again).flatten members flat) (step.flatten members flat') := by
  induction members generalizing flat flat' with
  | nil => exact .pure (.ok h)
  | cons member rest ih =>
    rw [flatten_cons, flatten_cons]
    refine .ite ?_ ((Relocated.pure h).bind fun flat flat' h => relocated_mergeMember _ ih h)
    exact (relocated_resolveMember follows member h).bind fun flat flat' h =>
      relocated_mergeMember _ ih h

theorem alike_allOf (members : Json) :
    Alike place ((step.moved start place again).allOf members) (step.allOf members) := by
  refine .after Probe.ordinary_entriesOf fun entries => ?_
  have unmerged : Flattened.Below place
      ⟨step.value, step.without ["allOf"], [plainPart (step.without ["allOf"])], []⟩
      ⟨step.value, step.without ["allOf"], [plainPart (step.without ["allOf"])], []⟩ :=
    ⟨rfl, rfl, rfl, .nil⟩
  refine (relocated_flatten follows entries unmerged).bind fun flat flat' h => ?_
  cases h with
  | error h => exact alike_fail h
  | @ok flat flat' h =>
    obtain ⟨working, merged, plain, issues⟩ := flat
    obtain ⟨_, _, _, issues'⟩ := flat'
    obtain ⟨rfl, rfl, rfl, hi⟩ := h
    refine (follows _ _).bind fun outcome outcome' ho => ?_
    dsimp only
    rw [hi.isEmpty_eq]
    refine .ite (alike_fail (hi.append ?_)) ?_
    · cases ho with
      | resolved => exact .nil
      | failed ho => exact ho
    · cases ho with
      | failed ho => exact .pure (.failed ho)
      | resolved value =>
        refine (Relocated.check (Probe.lists_gather fun schema _ =>
          lists_issues? step.setting start value schema (path_append rfl _))).bind
          fun found found' hf => ?_
        rw [hf.isEmpty_eq]
        exact .ite (alike_done _) (alike_fail hf)

theorem alike_anyOf (branches : Json) :
    Alike place ((step.moved start place again).anyOf branches) (step.anyOf branches) := by
  obtain ⟨setting, path, tag, fields, value, parent, key, negated, again'⟩ := step
  cases value with
  | none => exact alike_redirect follows _
  | some value =>
    refine .after Probe.ordinary_entriesOf fun branches => ?_
    refine (Relocated.check (shifted_probeBranches value branches .nil)).bind
      fun found found' hf => ?_
    cases hf with
    | none => exact alike_redirect follows _
    | some hf =>
      dsimp only [default?, moved]
      cases get? fields "default" with
      | some x => exact alike_done _
      | none => exact alike_fail ((AllBelow.single rfl _).append hf)

theorem alike_oneOf (branches : Json) :
    Alike place ((step.moved start place again).oneOf branches) (step.oneOf branches) := by
  obtain ⟨setting, path, tag, fields, value, parent, key, negated, again'⟩ := step
  cases value with
  | none => exact alike_redirect follows _
  | some value =>
    refine .after Probe.ordinary_entriesOf fun branches => ?_
    refine (Relocated.check (shifted_branchIssues value branches)).bind fun outcomes outcomes' h => ?_
    rw [h.passingBranches_eq]
    dsimp only [default?, moved, without]
    generalize passingBranches branches outcomes' = passing
    match passing, get? fields "default" with
    | [branch], _ =>
      dsimp only
      have ordinary := @Schema.ordinary_of_merge true (.obj none (Fields.without fields ["oneOf"])) branch
      generalize Schema.merge true _ branch = merged at ordinary
      rcases merged with fault | merged
      · cases fault with
        | conflict => exact alike_fail (.single (path_append rfl _) _)
        | _ => exact .fault (ordinary rfl nofun)
      · exact alike_redirect follows _
    | [], some x | _ :: _ :: _, some x => exact alike_done _
    | [], none =>
      refine .ite (alike_fail (.single (path_append rfl _) _)) ?_
      exact h.noneOfOne ⟨setting, path, tag, fields, some value, parent, key, negated, again'⟩
        value branches
    | _ :: _ :: _, none => exact alike_fail (.single (path_append rfl _) _)

theorem alike_not (negated : Json) :
    Alike place ((step.moved start place again).not negated) (step.not negated) := by
  obtain ⟨setting, path, tag, fields, value, parent, key, negated', again'⟩ := step
  cases value with
  | none => exact alike_redirect follows _
  | some value =>
    refine (Relocated.check (lists_issues setting start value negated (path_append rfl _))).bind
      fun issues issues' hi => ?_
    rw [hi.isEmpty_eq]
    refine .ite (.ite ((follows _ _).bind fun _ _ _ => ?_) ?_) (alike_redirect follows _)
    · exact alike_fail (.single (path_append rfl _) _)
    · exact alike_fail (.single (path_append rfl _) _)

end Composed

/-! ## 4. Objects -/

/-- What has been built is the value, unless there are issues. -/
theorem alike_built {built built' : Built} (h : built.Below place built') :
    Alike place
      (if built.issues.isEmpty then done (some (.obj none built.members)) else fail built.issues)
      (if built'.issues.isEmpty then done (some (.obj none built'.members))
        else fail built'.issues) := by
  rw [h.issues.isEmpty_eq, h.members]
  exact .ite (alike_done _) (alike_fail h.issues)

theorem lists_stepDependentIssues (working : Fields) :
    Lists place ((step.moved start place again).dependentIssues working)
      (step.dependentIssues working) :=
  .ite (.answer .nil) (Probe.lists_dependentIssues rfl)

theorem lists_builtNameIssues (members : Fields) :
    Lists place ((step.moved start place again).builtNameIssues members)
      (step.builtNameIssues members) :=
  Probe.lists_nameIssues (fun _ _ _ _ _ hq => lists_issues step.setting start _ _ hq) rfl

section Objects

variable (follows : Follows place again step.again)

/-- A check about the step that ends with ordinary faults only. -/
theorem ordinary_requiredNames (skips : Bool) (fields : Fields) :
    Ordinary (requiredNames skips fields) := by
  have named : ∀ properties name, Ordinary (isMemberName properties name) := by
    intro properties name
    unfold isMemberName
    split
    · exact within_ok
    · split
      · exact ordinary_error trivial
      · exact within_ok
  have names : ∀ properties names, Ordinary (memberNames properties names) := by
    intro properties names
    induction names with
    | nil => exact within_ok
    | cons name rest ih =>
      exact within_bind (named _ _) fun _ _ => within_bind ih fun _ _ => within_ok
  unfold requiredNames
  split
  · exact within_ok
  · refine within_bind Probe.ordinary_entriesOf fun listed _ => ?_
    split
    · exact names _ _
    · exact within_ok

theorem ordinary_isRequired (step : Step) : Ordinary step.isRequired := by
  unfold isRequired
  split
  · exact within_ok
  · exact within_bind (ordinary_requiredNames _ _) fun _ _ => within_ok
  · exact within_ok

theorem ordinary_withDefaults (names : List Json) (members : Fields) :
    Ordinary (step.withDefaults names members) := by
  induction names generalizing members with
  | nil => exact within_ok
  | cons name rest ih =>
    refine within_bind Probe.ordinary_propertySchema fun schema _ => ?_
    split
    · split
      · exact within_bind ordinary_read fun _ _ => ih _
      · exact ih _
    · exact ih _

theorem ordinary_absentNames (members : Fields) (names : List Json) :
    Ordinary (step.absentNames members names) := by
  induction names with
  | nil => exact within_ok
  | cons name rest ih =>
    refine within_bind ordinary_read fun _ _ => ?_
    exact within_bind Probe.ordinary_propertySchema fun _ _ => within_bind ih fun _ _ => within_ok

include follows

theorem relocated_resolveProperties (working : Fields) (missing : List Json) (properties : Fields)
    {built built' : Built} (h : built.Below place built') :
    Relocated place (Built.Below place)
      ((step.moved start place again).resolveProperties working missing properties built)
      (step.resolveProperties working missing properties built') := by
  induction properties generalizing built built' with
  | nil => exact .pure h
  | cons member rest ih =>
    refine .ite (ih h) (.after ordinary_read fun found => ?_)
    exact (alike_descend follows _ _ _).bind fun outcome outcome' ho => ih (h.take _ ho)

theorem relocated_resolveDependents (working : Fields) (dependents : Fields) {built built' : Built}
    (h : built.Below place built') :
    Relocated place (Built.Below place)
      ((step.moved start place again).resolveDependents working dependents built)
      (step.resolveDependents working dependents built') := by
  induction dependents generalizing built built' with
  | nil => exact .pure h
  | cons member rest ih =>
    refine .after ordinary_read fun found => ?_
    cases found with
    | none => exact ih h
    | some found =>
      obtain ⟨members, issues⟩ := built
      obtain ⟨_, issues'⟩ := built'
      obtain ⟨rfl, hi⟩ := h
      refine (follows _ _).bind fun outcome outcome' ho => ?_
      cases ho with
      | failed ho => exact ih ⟨rfl, hi.append ho⟩
      | resolved value =>
        match value with
        | some (.obj _ members) => exact ih ⟨rfl, hi⟩
        | none | some .null | some (.bool _) | some (.num _) | some (.str _) | some (.arr _ _) =>
          exact ih ⟨rfl, hi⟩

theorem relocated_resolveMatching (name : String) (patterns : Fields) {built built' : Built}
    (h : built.Below place built') :
    Relocated place (Built.Below place)
      ((step.moved start place again).resolveMatching name patterns built)
      (step.resolveMatching name patterns built') := by
  induction patterns generalizing built built' with
  | nil => exact .pure h
  | cons member rest ih =>
    refine .after ordinary_search fun fits => .ite ?_ (ih h)
    rw [h.members]
    exact (alike_descend follows _ _ _).bind fun outcome outcome' ho => ih (h.take _ ho)

theorem relocated_resolvePatterns (properties : Fields) (names : List String) {built built' : Built}
    (h : built.Below place built') :
    Relocated place (Built.Below place)
      ((step.moved start place again).resolvePatterns properties names built)
      (step.resolvePatterns properties names built') := by
  induction names generalizing built built' with
  | nil => exact .pure h
  | cons name rest ih =>
    refine .ite (ih h) (.after Probe.ordinary_membersOf fun patterns => ?_)
    exact (relocated_resolveMatching follows _ _ h).bind fun built built' h => ih h

theorem relocated_resolveUncovered (additional : Json) (name : String) {built built' : Built}
    (h : built.Below place built') :
    Relocated place (Built.Below place)
      ((step.moved start place again).resolveUncovered additional name built)
      (step.resolveUncovered additional name built') := by
  refine .ite (.pure (h.report (.single (path_append rfl _) _))) ?_
  refine .after ordinary_expand fun target => ?_
  cases target with
  | none =>
    exact .after Probe.ordinary_deadReference fun reason =>
      .pure (h.report (.single (path_append rfl _) _))
  | some node =>
    dsimp only
    rw [h.members]
    exact (alike_descend follows _ _ _).bind fun outcome outcome' ho => .pure (h.take _ ho)

theorem relocated_resolveAllAdditional (working : Fields) {built built' : Built}
    (h : built.Below place built') :
    Relocated place (Built.Below place)
      ((step.moved start place again).resolveAllAdditional working built)
      (step.resolveAllAdditional working built') := by
  have walk : ∀ additional names {built built' : Built}, built.Below place built' →
      Relocated place (Built.Below place)
        ((step.moved start place again).resolveAdditional working additional names built)
        (step.resolveAdditional working additional names built') := by
    intro additional names
    induction names with
    | nil => exact fun h => .pure h
    | cons name rest ih =>
      intro built built' h
      refine .ite (ih h) (.after Probe.ordinary_isAdditional fun uncovered => ?_)
      exact .ite ((relocated_resolveUncovered follows _ _ h).bind fun built built' h => ih h)
        ((Relocated.pure h).bind fun built built' h => ih h)
  unfold resolveAllAdditional
  dsimp only [moved]
  rw [h.members]
  generalize get? step.fields "additionalProperties" = additional
  match additional with
  | none | some .null | some (.bool true) => exact .pure h
  | some (.bool false) | some (.num _) | some (.str _) | some (.arr _ _) | some (.obj _ _) =>
    exact walk _ _ h

theorem alike_resolveMembers (value : Fields) :
    Alike place ((step.moved start place again).resolveMembers value) (step.resolveMembers value) := by
  have absent : ∀ missing : List Json,
      AllBelow place (missing.map fun name => Probe.missingIssue name (place ++ step.path))
        (missing.map fun name => Probe.missingIssue name step.path) := by
    intro missing
    simp only [AllBelow, List.map_map, Function.comp_def, Probe.below_missingIssue rfl]
  have same : (step.moved start place again).fields = step.fields := rfl
  simp only [resolveMembers, withDefaults_congr same rfl, absentNames_congr same rfl]
  refine (Relocated.check (Probe.lists_memberCountIssues rfl)).bind fun size size' hs => ?_
  refine .after (ordinary_requiredNames _ _) fun required =>
    .after (ordinary_withDefaults _ _) fun working =>
      .after (ordinary_absentNames _ _) fun missing => ?_
  have noted : Relocated place Eq
      (Run.note (missing.map fun name => Probe.missingIssue name (place ++ step.path)))
      (Run.note (missing.map fun name => Probe.missingIssue name step.path)) :=
    ⟨.answer rfl, absent missing⟩
  have first : Built.Below place
      ⟨[], size ++ (if step.negated then []
        else missing.map fun name => Probe.missingIssue name (place ++ step.path))⟩
      ⟨[], size' ++ (if step.negated then []
        else missing.map fun name => Probe.missingIssue name step.path)⟩ :=
    ⟨rfl, hs.append (.ite .nil (absent missing))⟩
  refine .ite (noted.bind fun _ _ _ => ?_) ?_
  all_goals
    refine .after Probe.ordinary_membersOf fun properties => ?_
    refine (relocated_resolveProperties follows _ _ _ first).bind fun built built' h => ?_
    have others := h.others properties working
    refine (Relocated.check (lists_stepDependentIssues working)).bind fun _ _ hd => ?_
    refine .after Probe.ordinary_membersOf fun dependents => ?_
    refine (relocated_resolveDependents follows _ _ (others.report hd)).bind fun built built' h => ?_
    rw [h.members]
    refine (relocated_resolvePatterns follows _ _ h).bind fun built built' h => ?_
    refine (relocated_resolveAllAdditional follows _ h).bind fun built built' h => ?_
    rw [h.members]
    refine (Relocated.check (lists_builtNameIssues _)).bind fun _ _ hn => ?_
    exact alike_built (h.report hn)

end Objects

/-! ## 5. Types -/

theorem alike_missing (atRoot : Option Json) :
    Alike place ((step.moved start place again).missing atRoot) (step.missing atRoot) :=
  .after (ordinary_isRequired step) fun _ => .ite (alike_failWith _) (alike_done _)

theorem alike_doneUnless (value : Json) {issues issues' : List Issue}
    (h : AllBelow place issues issues') :
    Alike place (doneUnless value issues) (doneUnless value issues') := by
  unfold doneUnless
  rw [h.isEmpty_eq]
  exact .ite (alike_done _) (alike_fail h)

/-- The items built so far, with the issues below the place. -/
structure BuiltItems.Below (place : Path) (built built' : BuiltItems) : Prop where
  items : built.items = built'.items
  issues : AllBelow place built.issues built'.issues

section Typed

variable (follows : Follows place again step.again)

include follows

theorem relocated_resolveItem (i : Nat) (item : Json) {built built' : BuiltItems}
    (h : built.Below place built') :
    Relocated place (BuiltItems.Below place)
      ((step.moved start place again).resolveItem i item built)
      (step.resolveItem i item built') := by
  obtain ⟨items, issues⟩ := built
  obtain ⟨_, issues'⟩ := built'
  obtain ⟨rfl, hi⟩ := h
  unfold resolveItem
  dsimp only [moved] at hi ⊢
  match Probe.itemSchema step.fields i with
  | none | some (.bool true) => exact .pure ⟨rfl, hi⟩
  | some (.bool false) => exact .pure ⟨rfl, hi.append (.single (path_append rfl _) _)⟩
  | some .null | some (.num _) | some (.str _) | some (.arr _ _) | some (.obj _ _) =>
    refine .ite ?_ ((alike_descend follows _ _ _).bind fun outcome outcome' ho => ?_)
    · exact (Relocated.check (lists_issues step.setting start _ _ (path_append rfl _))).bind
        fun _ _ hf => .pure ⟨rfl, hi.append hf⟩
    · cases ho with
      | failed ho => exact .pure ⟨rfl, hi.append ho⟩
      | resolved value => exact .pure ⟨rfl, hi⟩

theorem relocated_resolveItems (i : Nat) (items : List Json) {built built' : BuiltItems}
    (h : built.Below place built') :
    Relocated place (BuiltItems.Below place)
      ((step.moved start place again).resolveItems i items built)
      (step.resolveItems i items built') := by
  induction items generalizing i built built' with
  | nil => exact .pure h
  | cons item rest ih =>
    exact (relocated_resolveItem follows i item h).bind fun built built' h => ih _ h

theorem alike_array : Alike place (step.moved start place again).array step.array := by
  obtain ⟨setting, path, tag, fields, value, parent, key, negated, again'⟩ := step
  match value with
  | none => exact alike_missing _
  | some (.arr _ items) =>
    refine (Relocated.check (Probe.lists_listIssues
      (fun x _ s _ _ hq => lists_issues setting start x s hq) rfl)).bind fun whole whole' hw => ?_
    rw [hw.isEmpty_eq]
    refine .ite (alike_fail hw) ?_
    have empty : BuiltItems.Below place ⟨[], []⟩ ⟨[], []⟩ := ⟨rfl, .nil⟩
    refine (relocated_resolveItems follows 0 items empty).bind fun built built' h => ?_
    rw [h.issues.isEmpty_eq, h.items]
    exact .ite (alike_done _) (alike_fail h.issues)
  | some .null | some (.bool _) | some (.num _) | some (.str _) | some (.obj _ _) =>
    exact alike_failWith _

theorem alike_object : Alike place (step.moved start place again).object step.object := by
  obtain ⟨setting, path, tag, fields, value, parent, key, negated, again'⟩ := step
  match value with
  | none =>
    refine .after (ordinary_isRequired _) fun required => .ite (alike_failWith _) ?_
    refine (alike_resolveMembers follows _).bind fun outcome outcome' ho => ?_
    have holds : Outcome.holdsMembers outcome = Outcome.holdsMembers outcome' := by
      cases ho <;> rfl
    rw [holds]
    exact .ite (.pure ho) (alike_done _)
  | some (.obj _ members) => exact alike_resolveMembers follows _
  | some .null | some (.bool _) | some (.num _) | some (.str _) | some (.arr _ _) =>
    exact alike_failWith _

theorem alike_ofKind (kind : Kind) :
    Alike place ((step.moved start place again).ofKind kind) (step.ofKind kind) := by
  have number : ∀ kind, Alike place ((step.moved start place again).number kind)
      (step.number kind) := by
    intro kind
    obtain ⟨setting, path, tag, fields, value, parent, key, negated, again'⟩ := step
    cases value with
    | none => exact alike_missing _
    | some x => exact alike_doneUnless x (Probe.allBelow_numberIssues rfl)
  cases kind with
  | number => exact number .number
  | integer => exact number .integer
  | array => exact alike_array follows
  | object => exact alike_object follows
  | string =>
    obtain ⟨setting, path, tag, fields, value, parent, key, negated, again'⟩ := step
    cases value with
    | none => exact alike_missing _
    | some x =>
      exact (Relocated.check (Probe.lists_stringIssues rfl)).bind fun _ _ h => alike_doneUnless x h
  | null =>
    obtain ⟨setting, path, tag, fields, value, parent, key, negated, again'⟩ := step
    match value with
    | none | some .null => exact alike_done _
    | some (.bool _) | some (.num _) | some (.str _) | some (.arr _ _) | some (.obj _ _) =>
      exact alike_failWith _
  | boolean =>
    obtain ⟨setting, path, tag, fields, value, parent, key, negated, again'⟩ := step
    match value with
    | none | some (.bool _) => exact alike_done _
    | some .null | some (.num _) | some (.str _) | some (.arr _ _) | some (.obj _ _) =>
      exact alike_failWith _

theorem alike_ofType (type : Json) :
    Alike place ((step.moved start place again).ofType type) (step.ofType type) := by
  have unnamed : ∀ type : Json, Alike place
      (if Accessor.isContainer type then Run.fault .unusableName
        else (step.moved start place again).failWith (.unknownType type.plain))
      (if Accessor.isContainer type then Run.fault .unusableName
        else step.failWith (.unknownType type.plain)) :=
    fun type => .ite (.fault trivial) (alike_failWith _)
  match type with
  | .str s =>
    unfold ofType
    dsimp only
    cases Kind.ofName? s with
    | none => exact alike_failWith _
    | some kind => exact alike_ofKind follows kind
  | .null => exact unnamed .null
  | .bool b => exact unnamed (.bool b)
  | .num n => exact unnamed (.num n)
  | .arr tag items => exact unnamed (.arr tag items)
  | .obj tag fields => exact unnamed (.obj tag fields)

theorem alike_ofTypes (types : List Json) :
    Alike place ((step.moved start place again).ofTypes types) (step.ofTypes types) := by
  obtain ⟨setting, path, tag, fields, value, parent, key, negated, again'⟩ := step
  cases value with
  | none => exact alike_missing _
  | some x =>
    dsimp only [ofTypes, moved]
    cases Kind.firstFit types x with
    | none => exact .after Probe.ordinary_typeNames fun names => alike_fail (.single rfl _)
    | some kind =>
      have restricted : Follows place again (Step.again ⟨setting, path, none,
        Schema.restrict fields (.str kind.name), some x, parent, key, negated, again'⟩) := follows
      exact alike_ofKind restricted kind

theorem alike_typed : Alike place (step.moved start place again).typed step.typed := by
  unfold typed
  dsimp only [schema, moved]
  match Schema.declaredTypes (.obj step.tag step.fields) with
  | [] =>
    dsimp only
    cases Schema.inferKind step.fields step.value with
    | none => exact alike_done _
    | some kind => exact alike_ofKind follows kind
  | [type] => exact alike_ofType follows type
  | type :: type' :: types => exact alike_ofTypes follows _

/-! ## 6. A resolution -/

theorem alike_dispatch : Alike place (step.moved start place again).dispatch step.dispatch := by
  unfold dispatch
  dsimp only [moved]
  match get? step.fields "if", get? step.fields "allOf", get? step.fields "anyOf",
      get? step.fields "oneOf", get? step.fields "not" with
  | some condition, _, _, _, _ => exact alike_conditional follows _
  | none, some members, _, _, _ => exact alike_allOf follows _
  | none, none, some branches, _, _ => exact alike_anyOf follows _
  | none, none, none, some branches, _ => exact alike_oneOf follows _
  | none, none, none, none, some negated => exact alike_not follows _
  | none, none, none, none, none => exact alike_typed follows

theorem alike_run : Alike place (step.moved start place again).run step.run := by
  obtain ⟨setting, path, tag, fields, value, parent, key, negated, again'⟩ := step
  have pinned : ∀ value : Option Json, Lists place
      ((moved ⟨setting, path, tag, fields, value, parent, key, negated, again'⟩ start place
        again).pinIssues)
      (pinIssues ⟨setting, path, tag, fields, value, parent, key, negated, again'⟩) := by
    intro value
    cases value with
    | none => exact Probe.Lists.nil
    | some x => exact .ite Probe.Lists.nil (Probe.lists_pinIssues rfl)
  refine (Relocated.check (pinned _)).bind fun issues issues' h => ?_
  rw [h.isEmpty_eq]
  have filled : Follows place again (Step.again ⟨setting, path, tag, fields,
    filled ⟨setting, path, tag, fields, value, parent, key, negated, again'⟩, parent, key, negated,
    again'⟩) := follows
  exact .ite (alike_dispatch filled) (alike_fail h)

end Typed

end Step

/-- **One resolution below a place**, given that what it asks for further is. -/
theorem alike_resolveStep (setting : Probe.Setting) (path : Path) (request : Request)
    {again again' : Again} (follows : Follows place again again') :
    Alike place (resolveStep (setting.at start) (place ++ path) request again)
      (resolveStep setting path request again') := by
  obtain ⟨node, value, parent, key, negated⟩ := request
  match node with
  | .node .null | .node (.bool true) => exact alike_done _
  | .node (.bool false) =>
    cases value with
    | none => exact alike_done _
    | some x => exact alike_fail (.single rfl _)
  | .node (.obj tag fields) =>
    have step : Follows place again (Step.again ⟨setting, path, tag, fields, value, parent, key,
      negated, again'⟩) := follows
    exact Step.alike_run step
  | .node (.num _) | .node (.str _) | .node (.arr _ _) | .endOfList _ =>
    exact ⟨.invalidNode _ _, .nil⟩

/-! ## 7. The guard -/

/-- The guard below a place: start, path and frames are longer by the place. -/
def Guard.moved (guard : Guard) (place : Path) : Guard where
  start := place.length + guard.start
  path := place ++ guard.path
  frames := guard.frames.map (place.length + ·)
  sorted := List.pairwise_map.2 (guard.sorted.imp fun h => Nat.add_le_add_left h _)
  frames_le f hf := by
    obtain ⟨g, hg, rfl⟩ := List.mem_map.1 hf
    have := guard.frames_le g hg
    rw [List.length_append]
    omega

/-- **The guard stops at the same calls**: what it compares grows alike. -/
theorem Guard.tooDeep_moved (guard : Guard) : (guard.moved place).tooDeep = guard.tooDeep := by
  have level : (guard.moved place).level = place.length + guard.level := List.length_append
  have distance : (guard.moved place).level - (guard.moved place).start =
      guard.level - guard.start := by
    rw [level]
    exact Nat.add_sub_add_left _ _ _
  have frame : ((guard.moved place).frames[depthLimit - 1]? == some (guard.moved place).level) =
      (guard.frames[depthLimit - 1]? == some guard.level) := by
    rw [level, Guard.moved, List.getElem?_map]
    cases guard.frames[depthLimit - 1]? with
    | none => rfl
    | some f => simp
  rw [tooDeep, distance, frame]
  rfl

theorem Guard.enter_moved (guard : Guard) (extension : Path) :
    (guard.moved place).enter extension = (guard.enter extension).moved place := by
  simp [Guard.enter, Guard.moved, Guard.level]

theorem Guard.atStart_eq_moved : Guard.atStart place = (Guard.atStart []).moved place := by
  simp [Guard.atStart, Guard.moved]

/-- **A resolution started below a place** does what it does by itself, with everything it says of places
below that place. -/
theorem alike_resolve (setting : Probe.Setting) (start : Path) (guard : Guard) (request : Request) :
    Alike place (resolve (setting.at start) (guard.moved place) request)
      (resolve setting guard request) := by
  rw [resolve, resolve]
  rw [Guard.tooDeep_moved]
  split
  · exact alike_fail (.single rfl _)
  · next deep =>
    refine alike_resolveStep setting guard.path request fun extension next => ?_
    rw [Guard.enter_moved]
    exact alike_resolve setting start (guard.enter extension) next
termination_by guard.rank
decreasing_by exact Guard.rank_enter_lt ‹_› extension

/-- A resolution from another starting path. -/
theorem alike_resolveAt (place : Path) (setting : Probe.Setting) (request : Request) :
    Alike place (resolveAt (setting.at place) request) (resolveAt (setting.at []) request) := by
  unfold resolveAt
  rw [show (setting.at place).options.currentPath = place from rfl, Guard.atStart_eq_moved]
  exact alike_resolve (setting.at []) place (Guard.atStart []) request

end Conform.Resolve

namespace Conform

open Resolve (Outcome Request)
open Issue (AllBelow)

variable {α : Type} {place : Path}

/-! ## 8. The starting path -/

/-- An outcome, found below the place. -/
def Resolve.Outcome.below (place : Path) : Outcome → Outcome
  | .resolved value => .resolved value
  | .failed issues => .failed (issues.map (Issue.below place))

/-- What work ends with below the place, given what becomes of its answer there. -/
def endsBelow (place : Path) (answer : α → α) : Except Fault α → Except Fault α
  | .error fault => .error (fault.below place)
  | .ok a => .ok (answer a)

theorem Shifted.eq_endsBelow {answer : α → α} {x y : Except Fault α}
    (h : Shifted place (fun a b => a = answer b) x y) : x = endsBelow place answer y := by
  cases h with
  | fault => rfl
  | answer h => exact congrArg Except.ok h

theorem Lists.eq_endsBelow {x y : Except Fault (List Issue)} (h : Lists place x y) :
    x = endsBelow place (List.map (Issue.below place)) y :=
  Shifted.eq_endsBelow h

theorem Resolve.Outcome.Below.eq {outcome outcome' : Outcome} (h : outcome.Below place outcome') :
    outcome = outcome'.below place := by
  cases h with
  | resolved value => rfl
  | failed h => exact congrArg Outcome.failed h

/-- **The starting path only prefixes paths.**  The issues of a value at a path are those that it has at
the empty path, each below that path; conditions are answered alike at every path; and a resolver that
starts at a path resolves what one does that starts at the empty path, with the same value or the same
issues in the same order, each below the path, and so are its notes.  All of them stop with a fault in the
same cases, and if the fault has a path, that is below the path, too. -/
theorem start_only_prefixes (options : Options) (root : Json) (place : Path) :
    (∀ (session : Session) (value : Option Json) (schema : Json),
      session.validate value schema (some place) =
        endsBelow place (List.map (Issue.below place))
          (session.validate value schema (some []))) ∧
    (∀ (session : Session) (value : Option Json) (condition : Json),
      session.meets value condition (some place) =
        endsBelow place id (session.meets value condition (some []))) ∧
    (∀ request : Request,
      let there := (Session.start { options with currentPath := place } root).resolve request
      let here := (Session.start { options with currentPath := [] } root).resolve request
      there.1 = endsBelow place (Outcome.below place) here.1 ∧
        there.2.notes = here.2.notes.map (Issue.below place) ∧ there.2.root = here.2.root) := by
  refine ⟨fun session value schema => ?_, fun session value condition => ?_, fun request => ?_⟩
  · have issues := Probe.lists_issues? session.setting session.options.currentPath value schema
      (List.append_nil place).symm
    exact issues.eq_endsBelow
  · have met := Probe.shifted_meets session.setting session.options.currentPath value condition
      (List.append_nil place).symm
    exact met.eq_endsBelow
  · have alike := Resolve.alike_resolveAt place ⟨options, root⟩ request
    exact ⟨(alike.result.mono fun _ _ h => h.eq).eq_endsBelow, alike.notes, rfl⟩

/-- A member that the value of a nested object lacks. -/
example :
    let required : Json := .obj none [("required", .arr none [.str "b"])]
    let options := { Options.default with currentPath := ["p", "q"] }
    let request := Resolve.wholeRequest (.obj none [("properties", .obj none [("a", required)])])
      (some (.obj none [("a", .obj none [])]))
    (match ((Session.start options .null).resolve request).1 with
      | .ok (.failed issues) => issues.map fun issue => issue.path
      | _ => []) = [["p", "q", "a", "b"]] := by
  cbv

end Conform
