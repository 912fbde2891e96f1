/-
# Schemas that fill in no nulls

A value without nulls gets one only where something was missing: as a default or a constant with a null in
it, or as what stands in for a missing value of the type null.  Where a schema that is not composed of
others allows for none of these, at no depth (`FillsNoNull`), what comes out of a value without nulls has
none either (`solid_resolve`).

This is what lets a schema that depends on members look at what the properties have made of them: from there
on the members are as good as those of a value that was given.
-/
import Conform.Proofs.Turns
import Conform.Proofs.Filling

namespace Conform

open Fields (get?)
open Schema (Wholly Decides subschemas)

namespace Schema

/-! ## 1. Schemas -/

/-- **Nothing missing becomes null by the schema**, nor anything with a null inside; and it is neither
composed of others nor leads on to another. -/
structure FillsNoNull (fields : Fields) : Prop where
  lacks : ∀ k ∈ windingKeywords, get? fields k = none
  filled : ∀ k ∈ ["default", "const"], ∀ d ∈ get? fields k, d.NullFree
  types : declaredTypes (.obj none fields) ≠ [.str "null"]

instance : DecidablePred FillsNoNull := fun fields =>
  decidable_of_iff
    ((∀ k ∈ windingKeywords, get? fields k = none) ∧
      (∀ k ∈ ["default", "const"], ∀ d ∈ get? fields k, d.NullFree) ∧
      declaredTypes (.obj none fields) ≠ [.str "null"])
    ⟨fun ⟨h₁, h₂, h₃⟩ => ⟨h₁, h₂, h₃⟩, fun ⟨h₁, h₂, h₃⟩ => ⟨h₁, h₂, h₃⟩⟩

end Schema

open Schema (FillsNoNull)

namespace Resolve

/-! ## 2. What resolutions promise -/

/-- **A value that comes out without nulls**; and something comes out if something went in. -/
structure Solid (value w : Option Json) : Prop where
  there : w = none → value = none
  sound : ∀ y, w = some y → Sound False y

/-- A request for such a schema, with a value without nulls, or without a value inside a container. -/
structure Lucid (request : Request) (s : Json) : Prop where
  schema : request.schema = .node s
  fills : Wholly FillsNoNull s
  value : ∀ x, request.value = some x → Sound False x
  inner : request.value = none → request.parent.isObject = true

/-- **Resolutions that fill in no nulls.** -/
def Solidly (again : Again) : Prop :=
  ∀ extension request s w, Lucid request s →
    (again extension request).result = .ok (.resolved w) → Solid request.value w

theorem Solid.refl {value : Option Json} (h : ∀ x, value = some x → Sound False x) :
    Solid value value := ⟨id, h⟩

/-- What is resolved below a step has no nulls. -/
theorem Solidly.descend {step : Step} {key s : Json} {value w : Option Json}
    (h : Solidly step.again) (hs : Wholly FillsNoNull s) (hv : ∀ x, value = some x → Sound False x)
    (hr : (step.descend key (.node s) value).result = .ok (.resolved w)) : Solid value w :=
  h _ _ s w ⟨rfl, hs, hv, fun _ => rfl⟩ hr

/-! ## 3. Members on their way -/

/-- **Members without nulls**, one for each name. -/
structure Clean (members : Fields) : Prop where
  distinct : Fields.Distinct members
  sound : ∀ k x, get? members k = some x → Sound False x

namespace Clean

variable {members : Fields} {name : String} {x : Json}

theorem of_obj {tag : Tag} (h : Sound False (.obj tag members)) : Clean members :=
  ⟨h.proper.distinct, fun _ _ hk => h.of_get? hk⟩

theorem obj (h : Clean members) {tag : Tag} : Sound False (.obj tag members) := by
  have inner : ∀ k x, (k, x) ∈ members → Sound False x := fun k x hm =>
    h.sound k x (Fields.get?_of_mem h.distinct hm)
  refine ⟨Json.proper_obj h.distinct fun k x hm => (inner k x hm).proper,
    .inr (.intro Json.noConfusion fun y hy => ?_)⟩
  obtain ⟨⟨k, x⟩, hm, rfl⟩ := List.mem_map.1 hy
  exact (inner k x hm).plain.resolve_left id

theorem put (h : Clean members) (hx : Sound False x) : Clean (Fields.put members name x) := by
  refine ⟨h.distinct.put, fun k y hy => ?_⟩
  rw [Fields.get?_put] at hy
  split at hy
  · cases hy
    exact hx
  · exact h.sound k y hy

theorem union {upper : Fields} (h : Clean members) (hu : Clean upper) :
    Clean (Fields.union members upper) := by
  refine ⟨h.distinct.union, fun k x hk => ?_⟩
  rw [Fields.get?_union hu.distinct] at hk
  cases hupper : get? upper k with
  | some y =>
    rw [hupper, Option.some_or] at hk
    exact hu.sound k x (hupper.trans hk)
  | none =>
    rw [hupper, Option.none_or] at hk
    exact h.sound k x hk

/-- What comes out for a member is taken up. -/
theorem take {b : Built} {outcome : Outcome} (h : Clean b.members)
    (ho : ∀ w, outcome = .resolved w → ∃ value, Solid value w) :
    Clean (b.take name outcome).members := by
  cases outcome with
  | failed issues => exact h
  | resolved w =>
    obtain ⟨_, solid⟩ := ho w rfl
    cases w with
    | none => exact h
    | some y => exact h.put (solid.sound y rfl)

end Clean

/-- **What the declared properties have made of the members has no nulls**, if their schemas fill in none. -/
theorem clean_gathered {step : Step} {members : Fields} (c : Step.Passage step members)
    (ha : step.setting.options.accessor = .direct) (again : Solidly step.again) (hm : Clean members)
    (hs : ∀ property ∈ c.properties, Wholly FillsNoNull property.2) : Clean c.gathered := by
  have hw : Clean c.working := by
    refine Ready.keeps_withDefaults (P := Clean) ?_ c.working_eq hm
    intro _ name tag fields d _ hp hd _ _ hm
    obtain ⟨table, ht, hp⟩ := Ready.mem_of_propertySchema hp
    cases c.properties_eq.symm.trans ht
    have fills := hs _ hp
    exact hm.put ⟨fills.proper.of_get? hd, .inr (fills.here.filled "default" (by simp) d hd)⟩
  have declared : Clean c.declared.members := by
    refine c.declares.keeps (P := fun b => Clean b.members) (fun property hp b b' ht hb => ?_)
      ⟨Fields.distinct_nil, fun k x hk => by cases hk⟩
    rcases ht with ⟨-, rfl⟩ | ⟨-, found, outcome, hf, ho, rfl⟩
    · exact hb
    · obtain rfl : get? c.working property.1 = found :=
        Except.ok.inj ((Step.read_str ha none property.1).symm.trans hf)
      refine hb.take ?_
      rintro w rfl
      exact ⟨_, again.descend (hs property hp) (hw.sound property.1) ho⟩
  refine declared.union ⟨hw.distinct.filter, fun k x hk => ?_⟩
  exact hw.sound k x (Fields.get?_of_mem hw.distinct (List.mem_of_mem_filter (Json.mem_of_get? hk)))

/-! ## 4. Objects -/

/-- What is known of a step: its value has no nulls, and the schemas below fill in none. -/
structure Clearly (step : Step) : Prop where
  accessor : step.setting.options.accessor = .direct
  honest : ∀ extension request, Honest (step.again extension request)
  below : ∀ s ∈ subschemas step.fields, Wholly FillsNoNull s
  value : ∀ x, step.value = some x → Sound False x
  inner : step.value = none → step.parent.isObject = true
  again : Solidly step.again

namespace Clearly

variable {step : Step} {w : Option Json} {s x y : Json} {name : String}

section Objects

open Ready (mem_subschemas_of_table)
open Step (Passage)

variable {b b' : Built} {working : Fields}

/-- A member that is resolved stays without nulls. -/
theorem clean_descend (h : Clearly step) (hs : Wholly FillsNoNull s) {outcome : Outcome}
    (ho : (step.descend (.str name) (.node s) (get? b.members name)).result = .ok outcome)
    (hb : Clean b.members) : Clean (b.take name outcome).members := by
  refine hb.take ?_
  rintro w rfl
  exact ⟨_, h.again.descend hs (hb.sound name) ho⟩

/-- **A schema that depends on a member** leaves members without nulls. -/
theorem clean_dependent (h : Clearly step) {d : String × Json} (hs : Wholly FillsNoNull d.2)
    (ht : step.TakesDependent working d b b') (hb : Clean b.members) : Clean b'.members := by
  rcases ht with ⟨-, rfl⟩ | ⟨-, outcome, -, ho, rfl⟩
  · exact hb
  · unfold Built.follow
    split
    · exact hb
    · next tag upper =>
      have solid : Solid (some (.obj none b.members)) (some (.obj tag upper)) := by
        refine h.again _ _ d.2 _ ⟨rfl, hs, fun x hx => ?_, fun hn => ?_⟩ ho
        · cases hx
          exact hb.obj
        · cases hn
      exact hb.union (.of_obj (solid.sound _ rfl))
    · exact hb

/-- **A name among patterns** keeps its member without nulls. -/
theorem clean_name (h : Clearly step) {properties : Fields}
    (ht : step.TakesName properties name b b') (hb : Clean b.members) : Clean b'.members := by
  rcases ht with ⟨-, rfl⟩ | ⟨-, patterns, hp, hc⟩
  · exact hb
  · refine hc.keeps (P := fun b => Clean b.members) (fun pattern hm b b' ht hb => ?_) hb
    rcases ht with ⟨-, rfl⟩ | ⟨-, outcome, ho, rfl⟩
    · exact hb
    · exact h.clean_descend (h.below _ (mem_subschemas_of_table (by simp) hp hm)) ho hb

/-- **An additional member** stays without nulls. -/
theorem clean_additional (h : Clearly step) {additional : Json}
    (ha : get? step.fields "additionalProperties" = some additional) (hnull : additional ≠ .null)
    (ht : step.TakesAdditional working additional name b b') (hb : Clean b.members) :
    Clean b'.members := by
  rcases ht with ⟨-, rfl⟩ | ⟨-, uncovered, -, hu⟩
  · exact hb
  · have hs : Wholly FillsNoNull additional :=
      h.below _ (Schema.mem_subschemas_of_get? ha (List.mem_singleton_self _))
    cases uncovered with
    | false => exact hu ▸ hb
    | true =>
      cases hu with
      | forbidden | dead => exact hb
      | resolved _ hx ho =>
        rw [Step.expand_of_lone (P := FillsNoNull) (·.lacks) hnull hs] at hx
        cases hx
        exact h.clean_descend hs ho hb

/-- **An object without nulls comes out without nulls.** -/
theorem members_solid (h : Clearly step) {members : Fields} (hm : Clean members)
    (hr : (step.resolveMembers members).result = .ok (.resolved w)) :
    ∃ y, w = some y ∧ Sound False y := by
  obtain ⟨c, rfl⟩ := Step.exists_passage hr
  have hfollowed : Clean c.followed.members :=
    c.follows.keeps (P := fun b => Clean b.members) (fun d hp _ _ ht hb =>
      h.clean_dependent (h.below _ (mem_subschemas_of_table (by simp) c.dependents_eq hp)) ht hb)
      (clean_gathered c h.accessor h.again hm fun _ hp =>
        h.below _ (mem_subschemas_of_table (by simp) c.properties_eq hp))
  have hmatched : Clean c.matched.members :=
    c.matches_.keeps (P := fun b => Clean b.members) (fun _ _ _ _ ht hb => h.clean_name ht hb)
      hfollowed
  refine ⟨_, rfl, Clean.obj ?_⟩
  rcases c.adds with ⟨-, he⟩ | ⟨additional, ha, hnull, -, hc⟩
  · exact he ▸ hmatched
  · exact hc.keeps (P := fun b => Clean b.members)
      (fun _ _ _ _ ht hb => h.clean_additional ha hnull ht hb) hmatched

end Objects

/-! ## 5. Lists -/

/-- **A list without nulls comes out without nulls.** -/
theorem items_solid (h : Clearly step) {tag : Tag} {items : List Json}
    (hv : step.value = some (.arr tag items)) (hx : Sound False (.arr tag items))
    (hr : step.array.result = .ok (.resolved w)) : ∃ y, w = some y ∧ Sound False y := by
  obtain ⟨-, ys, hys, rfl⟩ := (Step.array_resolved_iff h.honest hv).1 hr
  have each : ∀ {entries : List (Json × Nat)} {ys : List Json},
      List.Forall₂ (fun entry => step.BecomesItem entry.2 entry.1) entries ys →
      (∀ entry ∈ entries, Sound False entry.1) → ∀ y ∈ ys, Sound False y := by
    intro entries ys hys hentries
    induction hys with
    | nil => exact fun _ hy => nomatch hy
    | @cons entry y entries ys hy _ ih =>
      have hentry := hentries entry (List.mem_cons_self ..)
      refine List.forall_mem_cons.2 ⟨?_, ih fun e hm => hentries e (List.mem_cons_of_mem _ hm)⟩
      cases hy with
      | kept => exact hentry
      | @resolved s w hs _ _ ho =>
        obtain ⟨k, z, hz, hp⟩ := Schema.exists_of_itemSchema hs
        have solid : Solid (some entry.1) w :=
          h.again.descend (h.below s (Schema.mem_subschemas_of_get? hz hp))
            (fun x hx => by cases hx; exact hentry) ho
        cases w with
        | none => cases solid.there rfl
        | some y => exact solid.sound y rfl
  have sound := each hys fun entry hm => hx.of_mem_items (List.fst_mem_of_mem_zipIdx hm)
  refine ⟨_, rfl, Json.proper_arr fun y hy => (sound y hy).proper, ?_⟩
  exact .inr (.intro Json.noConfusion fun y hy => (sound y hy).plain.resolve_left id)

/-! ## 6. Kinds and types -/

/-- **What comes out of a kind has no nulls**, if the kind does not put null in the place of a missing value. -/
theorem ofKind_solid (h : Clearly step) {kind : Kind} (hk : step.value = none → kind ≠ .null)
    (hr : (step.ofKind kind).result = .ok (.resolved w)) : Solid step.value w := by
  have built : ∀ {w}, step.value = none → (∃ y, w = some y ∧ Sound False y) → Solid step.value w := by
    rintro _ hv ⟨y, rfl, hy⟩
    refine ⟨fun _ => hv, fun z hz => ?_⟩
    cases hz
    exact hy
  have kept : ∀ {w}, (∃ y, w = some y ∧ Sound False y) → Solid step.value w := by
    rintro _ ⟨y, rfl, hy⟩
    refine ⟨nofun, fun z hz => ?_⟩
    cases hz
    exact hy
  cases Step.comesOut hr with
  | null hv => exact absurd rfl (hk hv)
  | boolean hv =>
    refine built hv ⟨_, rfl, Json.proper_atom trivial rfl, .inr (.intro Json.noConfusion ?_)⟩
    exact fun _ hm => nomatch hm
  | missing hv _ hr =>
    obtain rfl := Step.eq_none_of_missing (h.inner hv) hr
    exact ⟨fun _ => hv, nofun⟩
  | scalar _ hv => exact hv ▸ .refl (hv ▸ h.value)
  | list hv hr => exact kept (h.items_solid hv (h.value _ hv) hr)
  | members hv hr => exact kept (h.members_solid (.of_obj (h.value _ hv)) hr)
  | built hv hr => exact built hv (h.members_solid ⟨Fields.distinct_nil, nofun⟩ hr)
  | unbuilt hv => exact ⟨fun _ => hv, nofun⟩

/-- The step at what remains of its schema. -/
theorem narrowed (h : Clearly step) {kind : Kind} {remaining : Fields}
    (hd : Decides step.fields x kind remaining) : Clearly (step.narrowed remaining) :=
  ⟨h.accessor, h.honest, fun s hs => h.below s (hd.mem_subschemas hs), h.value, h.inner, h.again⟩

/-- **What comes out by type has no nulls.** -/
theorem typed_solid (h : Clearly step)
    (ht : Schema.declaredTypes step.schema ≠ [.str "null"])
    (hr : step.typed.result = .ok (.resolved w)) : Solid step.value w := by
  cases hv : step.value with
  | some x =>
    rcases Step.decides_of_typed hv hr with hs | ⟨kind, remaining, hd⟩
    · rw [Step.typed_of_silent hv hs] at hr
      cases hr
      exact .refl (hv ▸ h.value)
    · rw [Step.typed_of_decides hv hd] at hr
      exact hv ▸ (h.narrowed hd).ofKind_solid (fun hn => nomatch hv.symm.trans hn) hr
  | none =>
    rcases Step.typed_of_missing (h.inner hv) hv hr with rfl | ⟨kind, hkind, -, hnamed, -⟩
    · exact .refl (by simp)
    · refine hv ▸ h.ofKind_solid (fun _ => ?_) hkind
      rintro rfl
      exact ht (hnamed (.inl rfl))

/-! ## 7. Steps -/

/-- What is filled in has no nulls. -/
theorem filled_solid (h : Clearly step) (hs : Wholly FillsNoNull step.schema) :
    ∀ x, step.filled = some x → Sound False x := by
  have pinned : ∀ k ∈ ["default", "const"], ∀ d, get? step.fields k = some d → Sound False d :=
    fun k hk d hd => ⟨hs.proper.of_get? hd, .inr (hs.here.filled k hk d hd)⟩
  intro x hx
  unfold Step.filled at hx
  split at hx
  · split at hx
    · next hd =>
      cases hx
      exact pinned "default" (by simp) _ hd
    · next hd =>
      cases hx
      exact pinned "const" (by simp) _ hd
    · cases hx
  · exact h.value x hx

/-- **A step fills in no nulls.** -/
theorem run_solid (h : Clearly step) (hs : Wholly FillsNoNull step.schema)
    (hr : step.run.result = .ok (.resolved w)) : Solid step.value w := by
  obtain ⟨-, hr⟩ := Step.run_resolved_iff.1 hr
  have there : step.filled = none → step.value = none := by
    intro hf
    cases hv : step.value with
    | none => rfl
    | some x =>
      have hnull : x ≠ .null := ((h.value x hv).plain.resolve_left id).here
      cases hf.symm.trans (Step.filled_eq hv hnull)
  have filled : Clearly { step with value := step.filled } :=
    ⟨h.accessor, h.honest, h.below, h.filled_solid hs, fun hf => h.inner (there hf), h.again⟩
  have hdispatch : Step.dispatch { step with value := step.filled } =
      Step.typed { step with value := step.filled } := Step.dispatch_of_lone hs.here.lacks
  rw [hdispatch] at hr
  have solid := filled.typed_solid hs.here.types hr
  exact ⟨fun hw => there (solid.there hw), solid.sound⟩

end Clearly

/-- **Every resolution fills in no nulls**, where the schema does not. -/
theorem solid_resolve {setting : Probe.Setting} (ha : setting.options.accessor = .direct) (guard : Guard) :
    ∀ request s w, Lucid request s → (resolve setting guard request).result = .ok (.resolved w) →
      Solid request.value w := by
  intro request s w hf h
  obtain ⟨-, h⟩ := resolve_resolved_iff.1 h
  cases h with
  | unasked => exact .refl hf.value
  | missing _ hv =>
    rw [hv]
    exact .refl (by simp)
  | @step tag fields _ hs hr =>
    cases hs.symm.trans hf.schema
    have again : Solidly fun extension next => resolve setting (guard.enter extension) next :=
      fun extension next s w hf h => solid_resolve ha (guard.enter extension) next s w hf h
    have clearly : Clearly (request.step setting guard tag fields) :=
      ⟨ha, fun _ _ => honest_resolve _ _ _, fun s hm => hf.fills.below hm, hf.value, hf.inner, again⟩
    exact clearly.run_solid hf.fills hr
termination_by guard.rank
decreasing_by exact Guard.rank_enter_lt ‹_› extension

end Resolve

end Conform
