/-
# What is asked for although validation is skipped

A resolution that skips validation compares no value with a constant or an enumeration, and requires no
name.  The probe knows nothing of that: whatever it is handed, it checks in full.  So an issue of these
three kinds (`isWaivable`) comes from a schema that was handed to the probe, and there are four places
where the resolution hands one over (`HandsOver`): to see whether the result satisfies what is plain of
the members of `allOf`, which branches of `anyOf` and `oneOf` admit the value, what is wrong with a null
that the schema of its position has no room for, and whether names satisfy `propertyNames`.

Everything else keeps to the option, whatever the schema is: every issue of these kinds that is reported
is one that the probe found there (`handedOver_of_waivable`).  Which schemas those are is told by the
schema alone, as `Reaches` leads from it to whatever it asks for; and from a schema without `anyOf` and
`oneOf` it leads to no other ones (`Reaches.good`).
-/
import Conform.Proofs.Addressing
import Conform.Proofs.Lossless
import Conform.Proofs.Noting
import Conform.Proofs.Sifting

namespace Conform

open Fields (get?)
open Reference (Node)

namespace Resolve

open Probe (Finds isWaivable)
open Schema (Everywhere OfMembers Mergeable partsOf)

/-! ## 1. What a run tells -/

section Tells

variable {α β : Type} {P : Issue → Prop} {told : α → List Issue} {told' : β → List Issue}
  {run : Run α} {next : α → Run β}

/-- **Something holds of all issues of a run**: of those that it notes and of those in its result. -/
structure Tells (P : Issue → Prop) (told : α → List Issue) (run : Run α) : Prop where
  notes : ∀ issue ∈ run.notes, P issue
  result : ∀ a, run.result = .ok a → ∀ issue ∈ told a, P issue

theorem Tells.mono {P' : Issue → Prop} (h : Tells P told run) (hP : ∀ issue, P issue → P' issue) :
    Tells P' told run :=
  ⟨fun issue hm => hP issue (h.notes issue hm), fun a ha issue hm => hP issue (h.result a ha issue hm)⟩

theorem tells_pure {a : α} (h : ∀ issue ∈ told a, P issue) : Tells P told (pure a : Run α) where
  notes := nofun
  result _ ha := by
    cases ha
    exact h

theorem tells_fault {fault : Fault} : Tells P told (Run.fault fault : Run α) := ⟨nofun, nofun⟩

theorem tells_done {value : Option Json} : Tells P Outcome.issues (done value) := tells_pure nofun

theorem tells_fail {issues : List Issue} (h : ∀ issue ∈ issues, P issue) :
    Tells P Outcome.issues (fail issues) := by
  unfold fail
  split
  · exact tells_fault
  · exact tells_pure h

/-- One run after another, of which the second may rely on what the first has told. -/
theorem Tells.bind (h : Tells P told run)
    (hn : ∀ a, run.result = .ok a → (∀ issue ∈ told a, P issue) → Tells P told' (next a)) :
    Tells P told' (run >>= next) where
  notes issue hm := by
    rcases ha : run.result with fault | a
    · have same : (run >>= next).notes = run.notes := by
        rcases run with ⟨result, notes⟩
        cases ha
        rfl
      exact h.notes issue (same ▸ hm)
    · rw [Run.bind_notes_of_ok ha] at hm
      exact (List.mem_append.1 hm).elim (h.notes issue) ((hn a ha (h.result a ha)).notes issue)
  result b hb := by
    obtain ⟨a, ha, hb⟩ := Run.bind_result_eq_ok.1 hb
    exact (hn a ha (h.result a ha)).result b hb

/-- A check before a run tells nothing by itself. -/
theorem tells_check {check : Except Fault α} (h : ∀ a, check = .ok a → Tells P told' (next a)) :
    Tells P told' (liftM check >>= next) := by
  have silent : Tells P (fun _ => []) (liftM check : Run α) := ⟨nofun, nofun⟩
  exact silent.bind fun a ha _ => h a ha

end Tells

/-! ## 2. What is handed over -/

/-- **What a schema hands to the probe by type**: the value, the schema it is checked against, and the
place. -/
inductive HandsInside (path : Path) (fields : Fields) : Json → Json → Path → Prop where
  /-- A null that the schema of its position has no room for. -/
  | item {i : Nat} {s : Json} (hs : Probe.itemSchema fields i = some s)
      (full : Schema.allowsNull s = false) : HandsInside path fields .null s (Probe.itemPath path i)
  /-- The name of a member. -/
  | name {name : String} {s : Json} (hs : get? fields "propertyNames" = some s) :
      HandsInside path fields (.str name) s (path ++ ["propertyNames"])

/-- **What a schema hands to the probe**, of what it reports the issues. -/
inductive HandsOver (path : Path) (fields : Fields) : Json → Json → Path → Prop where
  | inside {x s : Json} {place : Path} (h : HandsInside path fields x s place) :
      HandsOver path fields x s place
  /-- A result, which has to satisfy what is plain of the schema and of each member of `allOf`. -/
  | plain {x value s : Json} {members : List Json} (hx : get? fields "allOf" = some x)
      (he : Probe.entriesOf x = .ok members)
      (hs : s = Step.plainPart (.obj none (Fields.without fields ["allOf"])) ∨
        ∃ member ∈ members, s = Step.mergedPart member) :
      HandsOver path fields value s (path ++ ["allOf"])
  /-- A value that has to satisfy some of several schemas. -/
  | branch {k : String} {x value s : Json} {branches : List Json} (hk : k ∈ ["anyOf", "oneOf"])
      (hx : get? fields k = some x) (he : Probe.entriesOf x = .ok branches) (hs : s ∈ branches) :
      HandsOver path fields value s path

/-- Reduced to one of its types, a schema hands nothing else to the probe. -/
theorem HandsInside.restrict {path place : Path} {fields : Fields} {kind : Kind} {x s : Json}
    (h : HandsInside path (Schema.restrict fields (.str kind.name)) x s place) :
    HandsInside path fields x s place := by
  cases h with
  | item hs full => exact .item (itemSchema_of_restrict hs) full
  | name hs => exact .name (Schema.get?_of_restrict (by simp) hs)

/-- What is found of a value that may be missing is found of the value. -/
theorem finds_issues? {P : Issue → Prop} {setting : Probe.Setting} {value : Option Json} {s : Json}
    {place : Path} (h : ∀ x, Finds P (Probe.issues setting x s place)) :
    Finds P (Probe.issues? setting value s place) := by
  cases value with
  | some x => exact h x
  | none =>
    cases s with
    | null | bool | obj => exact .nil
    | _ => exact .error

/-! ## 3. Steps -/

variable {P : Issue → Prop} {Allowed : Path → Node → Prop} {Handed : Json → Json → Path → Prop}

/-- **A step that skips validation**, where something holds of all issues that nothing waives, of those
that further resolutions tell and of those that the probe finds. -/
structure Lenient (P : Issue → Prop) (Allowed : Path → Node → Prop) (Handed : Json → Json → Path → Prop)
    (step : Step) : Prop where
  skips : step.skips = true
  other : ∀ reason path, isWaivable reason = false → P ⟨reason, path⟩
  heard : ∀ extension request, Allowed extension request.schema →
    Tells P Outcome.issues (step.again extension request)
  found : ∀ x s place, Handed x s place → Finds P (Probe.issues step.setting x s place)

namespace Lenient

variable {step : Step}

theorem mono {Fewer : Path → Node → Prop} {Less : Json → Json → Path → Prop}
    (h : Lenient P Allowed Handed step) (ha : ∀ extension node, Fewer extension node → Allowed extension node)
    (hh : ∀ x s place, Less x s place → Handed x s place) : Lenient P Fewer Less step :=
  ⟨h.skips, h.other, fun extension request asked => h.heard extension request (ha _ _ asked),
    fun x s place handed => h.found x s place (hh _ _ _ handed)⟩

section Plain

variable (h : Lenient P Allowed Handed step)

include h

theorem failWith {reason : Reason} (hr : isWaivable reason = false) :
    Tells P Outcome.issues (step.failWith reason) :=
  tells_fail (List.forall_mem_singleton.2 (h.other _ _ hr))

theorem failBelow {segment : String} {reason : Reason} (hr : isWaivable reason = false) :
    Tells P Outcome.issues (step.failBelow segment reason) :=
  tells_fail (List.forall_mem_singleton.2 (h.other _ _ hr))

/-- Nothing is required. -/
theorem requiredNames_eq {fields : Fields} : Step.requiredNames step.skips fields = .ok [] := by
  rw [h.skips]
  rfl

/-- So no value is missing. -/
theorem isRequired_eq {required : Bool} (hr : step.isRequired = .ok required) : required = false := by
  unfold Step.isRequired at hr
  split at hr
  · cases hr
    rfl
  · rw [h.requiredNames_eq] at hr
    cases hr
    rfl
  · cases hr
    rfl

theorem missing {atRoot : Option Json} : Tells P Outcome.issues (step.missing atRoot) := by
  refine tells_check fun required hr => ?_
  rw [h.isRequired_eq hr]
  exact tells_done

theorem pinIssues_eq : step.pinIssues = .ok [] := by
  unfold Step.pinIssues
  split
  · rfl
  · rw [h.skips]
    rfl

end Plain

/-! ## 4. Objects -/

theorem issues_take {b : Built} {name : String} {outcome : Outcome} (hb : ∀ issue ∈ b.issues, P issue)
    (ho : ∀ issue ∈ outcome.issues, P issue) : ∀ issue ∈ (b.take name outcome).issues, P issue := by
  cases outcome with
  | failed issues => exact List.forall_mem_append.2 ⟨hb, ho⟩
  | resolved value => cases value <;> exact hb

/-- A reference that leads nowhere is named. -/
theorem exists_of_deadReference {additional : Json} {reason : Reason}
    (h : Probe.deadReference additional = .ok reason) : ∃ ref, reason = .deadReference ref := by
  cases additional with
  | obj tag fields =>
    cases h
    exact ⟨_, rfl⟩
  | _ => cases h

section Objects

variable (h : Lenient P (Enters step.setting step.fields) (HandsInside step.path step.fields) step)

include h

theorem properties (working : Fields) (missing : List Json) {properties : Fields}
    (asked : ∀ name s, (name, s) ∈ properties → Enters step.setting step.fields [name] (.node s))
    {b : Built} (hb : ∀ issue ∈ b.issues, P issue) :
    Tells P Built.issues (step.resolveProperties working missing properties b) := by
  induction properties generalizing b with
  | nil => exact tells_pure hb
  | cons property rest ih =>
    have later := @ih fun name s hs => asked name s (List.mem_cons_of_mem _ hs)
    rw [Step.resolveProperties]
    split
    · exact later hb
    · refine tells_check fun found _ => ?_
      exact (h.heard _ _ (asked _ _ (List.mem_cons_self ..))).bind fun outcome _ ho =>
        later (issues_take hb ho)

theorem dependents (working : Fields) {dependents : Fields}
    (asked : ∀ name s, (name, s) ∈ dependents → Enters step.setting step.fields [] (.node s))
    {b : Built} (hb : ∀ issue ∈ b.issues, P issue) :
    Tells P Built.issues (step.resolveDependents working dependents b) := by
  induction dependents generalizing b with
  | nil => exact tells_pure hb
  | cons dependent rest ih =>
    have later := @ih fun name s hs => asked name s (List.mem_cons_of_mem _ hs)
    refine tells_check fun found _ => ?_
    cases found with
    | none => exact later hb
    | some found =>
      refine (h.heard [] _ (asked _ _ (List.mem_cons_self ..))).bind fun outcome _ ho => ?_
      split
      · exact later (List.forall_mem_append.2 ⟨hb, ho⟩)
      · exact later hb
      · exact later hb

theorem matching (name : String) {patterns : Fields}
    (asked : ∀ pattern s, (pattern, s) ∈ patterns → Enters step.setting step.fields [name] (.node s))
    {b : Built} (hb : ∀ issue ∈ b.issues, P issue) :
    Tells P Built.issues (step.resolveMatching name patterns b) := by
  induction patterns generalizing b with
  | nil => exact tells_pure hb
  | cons pattern rest ih =>
    have later := @ih fun pattern s hs => asked pattern s (List.mem_cons_of_mem _ hs)
    refine tells_check fun fits _ => ?_
    split
    · exact (h.heard _ _ (asked _ _ (List.mem_cons_self ..))).bind fun outcome _ ho =>
        later (issues_take hb ho)
    · exact later hb

theorem patterns (properties : Fields) (names : List String) {b : Built}
    (hb : ∀ issue ∈ b.issues, P issue) :
    Tells P Built.issues (step.resolvePatterns properties names b) := by
  induction names generalizing b with
  | nil => exact tells_pure hb
  | cons name rest ih =>
    rw [Step.resolvePatterns]
    split
    · exact ih hb
    · refine tells_check fun patterns hp => ?_
      refine (h.matching name (fun pattern s hs => ?_) hb).bind fun b _ hb => ih hb
      obtain ⟨tag, hx⟩ := Ready.mem_tableOrEmpty hp hs
      exact .tabled (by simp) hx hs

theorem uncovered {additional : Json}
    (ha : get? step.fields "additionalProperties" = some additional) (name : String) {b : Built}
    (hb : ∀ issue ∈ b.issues, P issue) :
    Tells P Built.issues (step.resolveUncovered additional name b) := by
  have reported : ∀ {reason path}, isWaivable reason = false →
      ∀ issue ∈ (b.report [⟨reason, path⟩]).issues, P issue := fun hr =>
    List.forall_mem_append.2 ⟨hb, List.forall_mem_singleton.2 (h.other _ _ hr)⟩
  unfold Step.resolveUncovered
  split
  · exact tells_pure (reported rfl)
  · refine tells_check fun target ht => ?_
    cases target with
    | none =>
      refine tells_check fun reason hr => tells_pure (reported ?_)
      obtain ⟨ref, rfl⟩ := exists_of_deadReference hr
      rfl
    | some node =>
      exact (h.heard [name] _ (.additional ha ht)).bind fun outcome _ ho => tells_pure (issues_take hb ho)

theorem additional (working : Fields) {additional : Json}
    (ha : get? step.fields "additionalProperties" = some additional) (names : List String) {b : Built}
    (hb : ∀ issue ∈ b.issues, P issue) :
    Tells P Built.issues (step.resolveAdditional working additional names b) := by
  induction names generalizing b with
  | nil => exact tells_pure hb
  | cons name rest ih =>
    rw [Step.resolveAdditional]
    split
    · exact ih hb
    · refine tells_check fun uncovered _ => ?_
      split
      · exact (h.uncovered ha name hb).bind fun b _ hb => ih hb
      · exact ih hb

theorem allAdditional (working : Fields) {b : Built} (hb : ∀ issue ∈ b.issues, P issue) :
    Tells P Built.issues (step.resolveAllAdditional working b) := by
  unfold Step.resolveAllAdditional
  split
  · exact tells_pure hb
  · exact tells_pure hb
  · exact tells_pure hb
  · next ha => exact h.additional working ha _ hb

theorem names (members : Fields) : Finds P (step.builtNameIssues members) := by
  unfold Step.builtNameIssues Probe.nameIssues
  split
  · exact .nil
  · next hs =>
    refine .gather fun x hx => ?_
    obtain ⟨name, -, rfl⟩ := List.mem_map.1 hx
    exact h.found _ _ _ (.name hs)

/-- **The members of an object.** -/
theorem members (value : Fields) : Tells P Outcome.issues (step.resolveMembers value) := by
  unfold Step.resolveMembers
  refine tells_check fun size hs => tells_check fun required hr => tells_check fun working _ =>
    tells_check fun missing hm => ?_
  rw [h.requiredNames_eq] at hr
  cases hr
  cases hm
  have counted : ∀ issue ∈ size, P issue :=
    Probe.finds_memberCountIssues (fun reason => h.other reason _) _ hs
  -- nothing is missing, so that nothing is noted either
  have silent : (Run.note [] : Run Unit) = pure () := rfl
  simp only [List.map_nil, ite_self, List.append_nil, silent, pure_bind]
  refine tells_check fun properties hp => ?_
  refine (h.properties working [] (fun name s hm => ?_) counted).bind fun declared _ hdeclared => ?_
  · obtain ⟨tag, hx⟩ := Ready.mem_tableOrEmpty hp hm
    exact .tabled (by simp) hx hm
  refine tells_check fun dependent hd => tells_check fun schemas hschemas => ?_
  rw [Step.dependentIssues, h.skips] at hd
  cases hd
  refine (h.dependents working (fun name s hm => ?_)
    (by simpa [Built.report] using hdeclared)).bind fun followed _ hfollowed => ?_
  · obtain ⟨tag, hx⟩ := Ready.mem_tableOrEmpty hschemas hm
    exact .dependent hx hm
  refine (h.patterns _ _ hfollowed).bind fun matched _ hmatched => ?_
  refine (h.allAdditional working hmatched).bind fun final _ hfinal => tells_check fun names hn => ?_
  have all : ∀ issue ∈ (final.report names).issues, P issue :=
    List.forall_mem_append.2 ⟨hfinal, h.names _ _ hn⟩
  split
  · exact tells_done
  · exact tells_fail all

end Objects

/-! ## 5. Types -/

theorem doneUnless {value : Json} {issues : List Issue} (h : ∀ issue ∈ issues, P issue) :
    Tells P Outcome.issues (Step.doneUnless value issues) := by
  unfold Step.doneUnless
  split
  · exact tells_done
  · exact tells_fail h

section Typed

variable (h : Lenient P (Enters step.setting step.fields) (HandsInside step.path step.fields) step)

include h

theorem item (i : Nat) (x : Json) {b : Step.BuiltItems} (hb : ∀ issue ∈ b.issues, P issue) :
    Tells P Step.BuiltItems.issues (step.resolveItem i x b) := by
  unfold Step.resolveItem
  split
  · exact tells_pure hb
  · exact tells_pure hb
  · exact tells_pure (List.forall_mem_append.2 ⟨hb, List.forall_mem_singleton.2 (h.other _ _ rfl)⟩)
  · next s _ _ hs =>
    split
    · next hnull =>
      obtain ⟨hx, full⟩ : Kind.null.fits x = true ∧ Schema.allowsNull s = false := by
        simpa using hnull
      obtain rfl : x = .null := by
        cases x with
        | null => rfl
        | _ => cases hx
      exact tells_check fun issues hi => tells_pure
        (List.forall_mem_append.2 ⟨hb, h.found _ _ _ (.item hs full) _ hi⟩)
    · refine (h.heard [Nat.repr i] _ (.item hs)).bind fun outcome _ ho => ?_
      split
      · exact tells_pure (List.forall_mem_append.2 ⟨hb, ho⟩)
      · exact tells_pure hb

theorem items (i : Nat) (xs : List Json) {b : Step.BuiltItems} (hb : ∀ issue ∈ b.issues, P issue) :
    Tells P Step.BuiltItems.issues (step.resolveItems i xs b) := by
  induction xs generalizing i b with
  | nil => exact tells_pure hb
  | cons x rest ih => exact (h.item i x hb).bind fun b _ hb => ih _ hb

theorem array : Tells P Outcome.issues step.array := by
  unfold Step.array
  split
  · exact h.missing
  · refine tells_check fun whole hw => ?_
    have whole_told : ∀ issue ∈ whole, P issue :=
      Probe.finds_listIssues (fun reason => h.other reason _) (fun reason => h.other reason _) _ hw
    split
    · exact tells_fail whole_told
    · refine (h.items 0 _ (by simp)).bind fun b _ hb => ?_
      split
      · exact tells_done
      · exact tells_fail hb
  · exact h.failWith rfl

theorem object : Tells P Outcome.issues step.object := by
  unfold Step.object
  split
  · refine tells_check fun required hr => ?_
    rw [h.isRequired_eq hr]
    refine (h.members []).bind fun outcome _ ho => ?_
    split
    · exact tells_pure ho
    · exact tells_done
  · exact h.members _
  · exact h.failWith rfl

theorem ofKind (kind : Kind) : Tells P Outcome.issues (step.ofKind kind) := by
  cases kind with
  | null | boolean =>
    simp only [Step.ofKind, Step.null, Step.boolean]
    split
    · exact tells_done
    · exact tells_done
    · exact h.failWith rfl
  | number | integer =>
    simp only [Step.ofKind, Step.number]
    split
    · exact h.missing
    · exact doneUnless (Probe.finds_numberIssues (fun reason => h.other reason _) _ rfl)
  | string =>
    simp only [Step.ofKind, Step.string]
    split
    · exact h.missing
    · exact tells_check fun issues hi =>
        doneUnless (Probe.finds_stringIssues (fun reason => h.other reason _) _ hi)
  | array => exact h.array
  | object => exact h.object

/-- Reduced to one of its types, the schema leads to nothing new and hands nothing else over. -/
theorem restrict (kind : Kind) : Lenient P
    (Enters step.setting (Schema.restrict step.fields (.str kind.name)))
    (HandsInside step.path (Schema.restrict step.fields (.str kind.name)))
    { step with tag := none, fields := Schema.restrict step.fields (.str kind.name) } :=
  ⟨h.skips, h.other, fun extension request asked => h.heard extension request asked.restrict,
    fun x s place handed => h.found x s place handed.restrict⟩

theorem typed : Tells P Outcome.issues step.typed := by
  unfold Step.typed
  split
  · split
    · exact tells_done
    · exact h.ofKind _
  · unfold Step.ofType
    split
    · split
      · exact h.ofKind _
      · exact h.failWith rfl
    · split
      · exact tells_fault
      · exact h.failWith rfl
  · unfold Step.ofTypes
    split
    · exact h.missing
    · split
      · exact tells_check fun names _ => h.failWith rfl
      · exact (h.restrict _).ofKind _

end Typed

/-! ## 6. Conditions and compositions -/

/-- What ends the members of `allOf` early, or has been found on the way. -/
def flatIssues : Except (List Issue) Step.Flattened → List Issue
  | .error issues => issues
  | .ok flat => flat.issues

section Composed

variable (h : Lenient P (Asks step.setting step.fields) (HandsOver step.path step.fields) step)

include h

theorem redirect {schema : Json} (asked : Asks step.setting step.fields [] (.node schema)) :
    Tells P Outcome.issues (step.redirect schema) := h.heard _ _ asked

theorem conditional {condition : Json} (hc : get? step.fields "if" = some condition) :
    Tells P Outcome.issues (step.conditional condition) := by
  have rest : Asks step.setting step.fields [] (.node (step.without ["if", "then", "else"])) :=
    .rest (by simp [peeled]) hc
  refine tells_check fun met _ => ?_
  have either : (if met then "then" else "else") ∈ ["then", "else"] := by cases met <;> simp
  split
  · exact h.redirect rest
  · exact h.redirect rest
  · next hb => exact tells_check fun _ hm => h.redirect (.chosen hc either hb hm)

theorem flatten {members : List Json}
    (asked : ∀ member ∈ members, Asks step.setting step.fields ["allOf"] (.node member))
    {flat : Step.Flattened} (hf : ∀ issue ∈ flat.issues, P issue) :
    Tells P flatIssues (step.flatten members flat) := by
  induction members generalizing flat with
  | nil => exact tells_pure hf
  | cons member rest ih =>
    obtain ⟨first, others⟩ := List.forall_mem_cons.1 asked
    have merging : ∀ {flat : Step.Flattened}, (∀ issue ∈ flat.issues, P issue) →
        Tells P flatIssues (step.mergeMember (Step.mergedPart member) rest flat) := by
      intro flat hf
      unfold Step.mergeMember
      split
      · exact ih others hf
      · exact tells_pure
          (List.forall_mem_append.2 ⟨hf, List.forall_mem_singleton.2 (h.other _ _ rfl)⟩)
      · exact tells_fault
    rw [Step.flatten_cons]
    split
    · have resolving : Tells P Step.Flattened.issues (step.resolveMember flat member) := by
        refine (h.heard ["allOf"] _ first).bind fun outcome _ ho => ?_
        split
        · exact tells_pure hf
        · exact tells_pure (List.forall_mem_append.2 ⟨hf, ho⟩)
      exact resolving.bind fun flat _ hf => merging hf
    · rw [pure_bind]
      exact merging hf

theorem allOf {members : Json} (hm : get? step.fields "allOf" = some members) :
    Tells P Outcome.issues (step.allOf members) := by
  refine tells_check fun entries he => ?_
  refine (h.flatten (fun member hi => .member hm he hi) (by simp)).bind fun ended hf hended => ?_
  split
  · exact tells_fail hended
  · next flat =>
    have chain := Step.flatten_result.1 hf
    have checked : ∀ s ∈ flat.plain, s = Step.plainPart (step.without ["allOf"]) ∨
        ∃ member ∈ entries, s = Step.mergedPart member := by
      refine chain.keeps (P := fun flat : Step.Flattened => ∀ s ∈ flat.plain,
        s = Step.plainPart (step.without ["allOf"]) ∨ ∃ member ∈ entries, s = Step.mergedPart member)
        (fun member hi u v taken hu => ?_) (by simp)
      obtain ⟨hplain, -, -⟩ := taken.spec
      rw [hplain]
      exact List.forall_mem_cons.2 ⟨.inr ⟨member, hi, rfl⟩, hu⟩
    have asked : Asks step.setting step.fields [] (.node flat.merged) :=
      .flattened hm he (Step.mergedAll_of_chain chain)
    refine (h.heard [] _ asked).bind fun outcome _ ho => ?_
    split
    · exact tells_fail (List.forall_mem_append.2 ⟨hended, ho⟩)
    · split
      · exact tells_pure ho
      · refine tells_check fun issues hi => ?_
        split
        · exact tells_done
        · refine tells_fail (Finds.gather (fun s hs => finds_issues? fun x => ?_) _ hi)
          exact h.found _ _ _ (.plain hm he (checked s (List.mem_reverse.1 hs)))

/-- Issues against branches are found there. -/
theorem probed {value : Json} {branches : List Json} {found issues : List Issue}
    (hs : ∀ s ∈ branches, HandsOver step.path step.fields value s step.path)
    (hf : ∀ issue ∈ found, P issue)
    (hp : step.probeBranches value branches found = .ok (some issues)) : ∀ issue ∈ issues, P issue := by
  induction branches generalizing found with
  | nil =>
    cases hp
    exact hf
  | cons branch rest ih =>
    obtain ⟨first, others⟩ := List.forall_mem_cons.1 hs
    rw [Step.probeBranches, bind_eq_ok] at hp
    obtain ⟨here, hi, hp⟩ := hp
    split at hp
    · cases hp
    · exact ih others (List.forall_mem_append.2 ⟨hf, h.found _ _ _ first _ hi⟩) hp

theorem listed {value : Json} {branches : List Json} {outcomes : List (List Issue)}
    (hs : ∀ s ∈ branches, HandsOver step.path step.fields value s step.path)
    (ho : step.branchIssues value branches = .ok outcomes) :
    ∀ issues ∈ outcomes, ∀ issue ∈ issues, P issue := by
  induction branches generalizing outcomes with
  | nil =>
    cases ho
    exact nofun
  | cons branch rest ih =>
    obtain ⟨first, others⟩ := List.forall_mem_cons.1 hs
    simp only [Step.branchIssues, bind_eq_ok, Except.ok.injEq] at ho
    obtain ⟨here, hi, later, hl, rfl⟩ := ho
    exact List.forall_mem_cons.2 ⟨h.found _ _ _ first _ hi, ih others hl⟩

theorem noneOfOne {value : Json} {branches : List Json} {outcomes : List (List Issue)}
    (ho : ∀ issues ∈ outcomes, ∀ issue ∈ issues, P issue) :
    Tells P Outcome.issues (step.noneOfOne value branches outcomes) := by
  unfold Step.noneOfOne
  split
  · next hi =>
    obtain ⟨i, -, hi⟩ := Option.bind_eq_some_iff.1 hi
    exact tells_fail (ho _ (List.mem_of_getElem? hi))
  · refine tells_fail (List.forall_mem_append.2
      ⟨?_, List.forall_mem_singleton.2 (h.other _ _ rfl)⟩)
    cases outcomes with
    | nil => exact nofun
    | cons first rest => exact ho first (List.mem_cons_self ..)

theorem anyOf {branches : Json} (hb : get? step.fields "anyOf" = some branches) :
    Tells P Outcome.issues (step.anyOf branches) := by
  have rest : Asks step.setting step.fields [] (.node (step.without ["anyOf"])) :=
    .rest (by simp [peeled]) hb
  simp only [Step.anyOf]
  split
  · exact h.redirect rest
  · next value _ =>
    refine tells_check fun entries he => tells_check fun found hfound => ?_
    split
    · exact h.redirect rest
    · next issues =>
      split
      · exact tells_done
      · refine tells_fail (List.forall_mem_cons.2 ⟨h.other _ _ rfl, ?_⟩)
        exact h.probed (fun s hs => .branch (by simp) hb he hs) (by simp) hfound

theorem oneOf {branches : Json} (hb : get? step.fields "oneOf" = some branches) :
    Tells P Outcome.issues (step.oneOf branches) := by
  simp only [Step.oneOf]
  split
  · exact h.redirect (.rest (by simp [peeled]) hb)
  · next value _ =>
    refine tells_check fun entries he => tells_check fun outcomes hout => ?_
    split
    · next branch hp =>
      have passes : branch ∈ entries := Step.mem_of_mem_passingBranches (hp ▸ List.mem_singleton_self branch)
      split
      · next hm => exact h.redirect (.selected hb he passes hm)
      · exact h.failBelow rfl
      · exact tells_fault
    · exact tells_done
    · split
      · exact h.failBelow rfl
      · exact h.noneOfOne (h.listed (fun s hs => .branch (by simp) hb he hs) hout)
    · exact h.failBelow rfl

/-- What is resolved under a negation comes to nothing, but it may note something. -/
theorem not {negated : Json} (hn : get? step.fields "not" = some negated) :
    Tells P Outcome.issues (step.not negated) := by
  have rest : Asks step.setting step.fields [] (.node (step.without ["not"])) :=
    .rest (by simp [peeled]) hn
  simp only [Step.not]
  split
  · exact h.redirect rest
  · refine tells_check fun issues _ => ?_
    split
    · split
      · exact (h.heard ["not"] _ (.negated hn)).bind fun _ _ _ => h.failBelow rfl
      · exact h.failBelow rfl
    · exact h.redirect rest

theorem dispatch : Tells P Outcome.issues step.dispatch := by
  unfold Step.dispatch
  match hc : get? step.fields "if", hm : get? step.fields "allOf", ha : get? step.fields "anyOf",
      ho : get? step.fields "oneOf", hn : get? step.fields "not" with
  | some condition, _, _, _, _ => exact h.conditional hc
  | none, some members, _, _, _ => exact h.allOf hm
  | none, none, some branches, _, _ => exact h.anyOf ha
  | none, none, none, some branches, _ => exact h.oneOf ho
  | none, none, none, none, some negated => exact h.not hn
  | none, none, none, none, none =>
    exact (h.mono (fun _ _ => .entered) fun _ _ _ => .inside).typed

theorem run : Tells P Outcome.issues step.run := by
  have filled : Lenient P (Asks step.setting step.fields) (HandsOver step.path step.fields)
      { step with value := step.filled } := ⟨h.skips, h.other, h.heard, h.found⟩
  refine tells_check fun issues hi => ?_
  obtain rfl : issues = [] := Except.ok.inj (hi.symm.trans filled.pinIssues_eq)
  exact filled.dispatch

end Composed

end Lenient

/-! ## 7. The resolution -/

/-- **An issue was found by the probe**, of what a schema handed to it that the resolution leads to. -/
inductive HandedOver (setting : Probe.Setting) (guard : Guard) (node : Node) (issue : Issue) : Prop
  | intro {guard' : Guard} {tag : Tag} {fields : Fields} {x s : Json} {place : Path} {found : List Issue}
      (reached : Reaches setting guard node guard' (.node (.obj tag fields)))
      (handed : HandsOver guard'.path fields x s place)
      (checked : Probe.issues setting x s place = .ok found) (listed : issue ∈ found)

theorem HandedOver.of_asked {setting : Probe.Setting} {guard : Guard} {node next : Node}
    {extension : Path} {issue : Issue} (asked : Asked setting node extension next)
    (h : HandedOver setting (guard.enter extension) next issue) : HandedOver setting guard node issue := by
  obtain ⟨reached, handed, checked, listed⟩ := h
  exact ⟨.further asked reached, handed, checked, listed⟩

/-- **Where validation is skipped**, a resolution tells nothing that might have been waived but what was
handed over. -/
theorem tells_resolve {setting : Probe.Setting} (skips : setting.options.skipValidation = true)
    (guard : Guard) (request : Request) :
    Tells (fun issue => isWaivable issue.reason = true → HandedOver setting guard request.schema issue)
      Outcome.issues (resolve setting guard request) := by
  have unwaivable : ∀ {Q : Issue → Prop} reason path, isWaivable reason = false →
      isWaivable (Issue.mk reason path).reason = true → Q ⟨reason, path⟩ := by
    intro Q reason path hr hw
    exact absurd hw (by simp [hr])
  rw [resolve]
  split
  · exact tells_fail (List.forall_mem_singleton.2 (unwaivable _ _ rfl))
  · next shallow =>
    obtain ⟨node, value, parent, key, negated⟩ := request
    unfold resolveStep
    split
    · exact tells_done
    · exact tells_done
    · split
      · exact tells_done
      · exact tells_fail (List.forall_mem_singleton.2 (unwaivable _ _ rfl))
    · next tag fields hs =>
      obtain rfl : node = .node (.obj tag fields) := hs
      refine Lenient.run ⟨skips, unwaivable, fun extension next asked => ?_, ?_⟩
      · exact (tells_resolve skips (guard.enter extension) next).mono fun issue h hw =>
          (h hw).of_asked ⟨tag, fields, rfl, asked⟩
      · exact fun x s place handed found hf issue hm _ => ⟨.here, handed, hf, hm⟩
    · exact tells_fault
    · exact tells_fault
termination_by guard.rank
decreasing_by exact Guard.rank_enter_lt ‹_› extension

/-! ## 8. Schemas without some keywords -/

section Good

variable {A : String → Json → Prop} {setting : Probe.Setting} {tag : Tag} {fields : Fields}
  {extension : Path} {s : Json} (mergeable : Mergeable A A)
  (referred : ∀ ref x, A "$ref" ref →
    setting.options.source.lookup ref setting.root = .ok (.node x) → Good A x)
  (affirmative : ∀ x, ¬A "not" x)

include mergeable

theorem good_merge {conjunction : Bool} {a b m : Json} (ha : Good A a) (hb : Good A b)
    (hm : Schema.merge conjunction a b = .ok m) : Good A m :=
  ⟨mergeable.everywhere_merge ha.everywhere hb.everywhere hb.proper hm,
    Schema.proper_merge ha.proper hb.proper hm⟩

theorem good_mergedAll {base merged : Json} {members : List Json} (hb : Good A base)
    (hm : ∀ member ∈ members, Good A member) (h : mergedAll base members = .ok merged) :
    Good A merged := by
  induction members generalizing base with
  | nil =>
    cases h
    exact hb
  | cons member rest ih =>
    obtain ⟨first, others⟩ := List.forall_mem_cons.1 hm
    rw [mergedAll, List.foldlM_cons, bind_eq_ok] at h
    obtain ⟨next, hn, h⟩ := h
    obtain ⟨everywhere, proper⟩ := Ready.mergedPart first first.everywhere
    exact ih (good_merge mergeable hb ⟨everywhere, proper⟩ hn) others h

include referred affirmative

/-- **A good schema asks for good ones only.** -/
theorem good_of_asks (h : Good A (.obj tag fields)) (asks : Asks setting fields extension (.node s)) :
    Good A s := by
  have without : ∀ keys, Good A (.obj none (Fields.without fields keys)) := fun keys =>
    h.without fun k x hm => h.here k x (Fields.mem_of_mem_without hm)
  have entry : ∀ {k x entries}, k ∈ ["allOf", "oneOf"] → get? fields k = some x →
      Probe.entriesOf x = .ok entries → ∀ t ∈ entries, Good A t := by
    intro k x entries hk hx he t ht
    rcases Schema.mem_entries he ht with ⟨tag, rfl⟩ | ⟨text, rfl⟩
    · refine h.part hx ?_
      rcases List.mem_pair.1 hk with rfl | rfl <;> exact ht
    · exact ⟨.plain rfl, Json.proper_str _⟩
  cases asks with
  | entered enters =>
    cases enters with
    | @tabled k name segment t table s hk hx hs =>
      refine h.part hx ?_
      rcases List.mem_pair.1 hk with rfl | rfl <;> exact List.mem_map.2 ⟨_, hs, rfl⟩
    | dependent hx hs => exact h.part hx (List.mem_map.2 ⟨_, hs, rfl⟩)
    | additional hx hn =>
      exact good_of_expand (.inr ⟨mergeable, referred⟩) (h.part hx (List.mem_singleton_self _)) hn
    | item hs =>
      obtain ⟨k, x, hk, hp⟩ := Schema.exists_of_itemSchema hs
      exact h.part hk hp
  | rest => exact without _
  | @chosen k x branch effective hx hk hb hm =>
    refine good_merge mergeable (without _) (h.part hb ?_) hm
    rcases List.mem_pair.1 hk with rfl | rfl <;> exact List.mem_singleton_self _
  | member hx he hm => exact entry (by simp) hx he _ hm
  | flattened hx he hm => exact good_mergedAll mergeable (without _) (entry (by simp) hx he) hm
  | selected hx he hb hm => exact good_merge mergeable (without _) (entry (by simp) hx he _ hb) hm
  | negated hx => exact absurd (h.here _ _ (Json.mem_of_get? hx)) (affirmative _)

/-- **A good schema leads to good ones only.** -/
theorem Reaches.good {guard guard' : Guard} {node node' : Node}
    (reached : Reaches setting guard node guard' node') (h : ∀ s, node = .node s → Good A s) :
    ∀ s, node' = .node s → Good A s := by
  induction reached with
  | here => exact h
  | further asked _ ih =>
    obtain ⟨tag, fields, rfl, asks⟩ := asked
    exact ih fun s hs => good_of_asks mergeable referred affirmative (h _ rfl) (hs ▸ asks)

end Good


/-- A schema that is led to lacks what all schemas lack that are reached in the document. -/
theorem Reaches.lacks {setting : Probe.Setting} {follower : Reference.Follower} {banned : List String} {guard guard' : Guard} {tag : Tag}
    {fields : Fields} (reached : Reaches setting guard (.node setting.root) guard' (.node (.obj tag fields)))
    (hd : setting.options.source = .document follower) (hp : setting.root.Proper)
    (hl : AllLack follower setting.root banned) (hc : "const" ∉ banned) (hr : "required" ∉ banned)
    (hn : "not" ∈ banned) : ∀ k ∈ banned, get? fields k = none := by
  intro k hk
  have good : Good (Allowed follower setting.root banned) (.obj tag fields) :=
    reached.good (mergeable_allowed hc hr) (fun _ _ => good_of_lookup hd hp hl) (fun _ h => h.1 hn)
      (fun s hs => by cases hs; exact Reached.start.good hp hl) _ rfl
  cases found : get? fields k with
  | none => rfl
  | some x => exact absurd hk (good.here k x (Json.mem_of_get? found)).1

end Resolve

/-! ## 9. What is reported although validation is skipped -/

open Resolve (Guard Reaches HandsOver AllLack)
open Probe (isWaivable)

/-- **What is asked for although validation is skipped**: whatever the schema and the value are, an issue
of a constant, of an enumeration or of a missing property that is reported is one that the probe found of
what a schema handed to it which the resolution leads to.  Where the document lacks conditions, `anyOf`,
`oneOf` and `not`, so does that schema, and only `allOf`, a null among items and the names of members are
left. -/
theorem handedOver_of_waivable {schema : Json} {value : Option Json} {options : Options}
    {found : List Issue} {issue : Issue} (skips : options.skipValidation = true)
    (failed : resolveValues schema value options = .ok (.failed found)) (hm : issue ∈ found)
    (waivable : isWaivable issue.reason = true) :
    ∃ guard tag fields,
      Reaches ⟨options, schema⟩ (Guard.atStart options.currentPath) (.node schema) guard
        (.node (.obj tag fields)) ∧
      (∃ x s place issues, HandsOver guard.path fields x s place ∧
        Probe.issues ⟨options, schema⟩ x s place = .ok issues ∧ issue ∈ issues) ∧
      (∀ follower, schema.Proper → options.source = .document follower →
        AllLack follower schema ["if", "then", "else", "anyOf", "oneOf", "not"] →
        ∀ k ∈ ["if", "then", "else", "anyOf", "oneOf", "not"], get? fields k = none) := by
  have told := Resolve.tells_resolve (show (Probe.Setting.mk options schema).options.skipValidation = true
    from skips) (Guard.atStart options.currentPath) (Resolve.wholeRequest schema value)
  obtain ⟨outcome, hr, reported⟩ :=
    bind_eq_ok.1 ((resolveValues_eq_reported schema value options).symm.trans failed)
  have among : issue ∈ (Resolve.resolveAt ⟨options, schema⟩ (Resolve.wholeRequest schema value)).notes ++
      outcome.issues := by
    cases outcome with
    | resolved w => cases reported
    | failed issues =>
      refine Issue.mem_of_mem_reported ?_
      simp only [Resolve.reportedOutcome] at reported
      split at reported
      · cases reported
      · cases reported
        exact hm
  have handed : Resolve.HandedOver ⟨options, schema⟩ (Guard.atStart options.currentPath) (.node schema)
      issue := (List.mem_append.1 among).elim (fun h => told.notes issue h waivable)
    fun h => told.result outcome hr issue h waivable
  obtain ⟨reached, handed, checked, listed⟩ := handed
  exact ⟨_, _, _, reached, ⟨_, _, _, _, handed, checked, listed⟩, fun _ proper document lacks =>
    reached.lacks document proper lacks (by simp) (by simp) (by simp)⟩

/-- A constant in a member of `allOf`. -/
def boundMember : Json := .obj none [("allOf", .arr none [.obj none [("const", .num (.int 1))]])]

/-- The result is checked against the member, whatever the options say. -/
theorem handedOver_of_waivable_member :
    let options : Options := { Options.default with skipValidation := true }
    let issue : Issue := ⟨.notConstant (.num (.int 1)), ["allOf"]⟩
    resolveValues boundMember (some (.num (.int 2))) options = .ok (.failed [issue]) ∧
      isWaivable issue.reason = true ∧
      ∃ guard tag fields,
        Reaches ⟨options, boundMember⟩ (Guard.atStart []) (.node boundMember) guard
          (.node (.obj tag fields)) ∧
        ∃ x s place issues, HandsOver guard.path fields x s place ∧
          Probe.issues ⟨options, boundMember⟩ x s place = .ok issues ∧ issue ∈ issues := by
  intro options issue
  have failed : resolveValues boundMember (some (.num (.int 2))) options = .ok (.failed [issue]) := by
    decide +kernel
  obtain ⟨guard, tag, fields, reached, handed, -⟩ :=
    handedOver_of_waivable rfl failed (List.mem_singleton_self _) rfl
  exact ⟨failed, rfl, guard, tag, fields, reached, handed⟩

end Conform
