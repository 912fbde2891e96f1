/-
# What the second of two schemas asks for

What one schema asks for can be lost where another one becomes one with it, since keywords of one schema
depend on one another.  `Independent` says of two schemas that this does not happen to the second.  Then
what they become is plain if they are (`plain_of_fused`), and it upholds what the second asks for,
provided that the schemas inside do (`upheld_of_fused`).
-/
import Conform.Proofs.Fusing

namespace Conform

open Fields (get?)

namespace Schema

open Probe (requiredNames tableKeywords)

/-! ## 1. Plain schemas -/

/-- **A sober schema without compositions**, which pins no value down and requires names only. -/
structure Plain (fields : Fields) : Prop extends Sober fields where
  unpinned : pinned? fields = none
  alone : ∀ k ∈ ["not", "allOf", "anyOf"], get? fields k = none
  texts : (get? fields "required").all isTextList = true

instance : DecidablePred Plain := fun fields =>
  decidable_of_iff
    (Sober fields ∧ pinned? fields = none ∧ (∀ k ∈ ["not", "allOf", "anyOf"], get? fields k = none) ∧
      (get? fields "required").all isTextList = true)
    ⟨fun ⟨h₁, h₂, h₃, h₄⟩ => ⟨h₁, h₂, h₃, h₄⟩, fun ⟨h₁, h₂, h₃, h₄⟩ => ⟨h₁, h₂, h₃, h₄⟩⟩

namespace Plain

variable {fields : Fields} {s : Json}

theorem uncomposed (h : Plain fields) : ∀ k ∈ compositeKeywords, get? fields k = none := by
  intro k hk
  simp only [compositeKeywords, List.mem_cons, List.not_mem_nil, or_false] at hk
  rcases hk with rfl | rfl | rfl | rfl | rfl | rfl | rfl
  · exact h.lacks _ (by simp)
  · exact h.lacks _ (by simp)
  · exact h.lacks _ (by simp)
  · exact h.alone _ (by simp)
  · exact h.alone _ (by simp)
  · exact h.alone _ (by simp)
  · exact h.lacks _ (by simp)

/-- What is no object has no members. -/
theorem fieldsOf (h : Everywhere Plain s) : Plain (fieldsOf s) := by
  cases s with
  | obj tag fields => exact h.here
  | _ => exact of_decide_eq_true rfl

/-- A plain schema is assertive, if it declares the names that it requires. -/
theorem assertive (h : Plain fields) (hr : declaresRequired fields = true) : Assertive fields :=
  ⟨h.toSober, h.unpinned, hr⟩

end Plain

/-! ## 2. Independent schemas -/

/-- Are all the values of the first list in the second, which lists more than one or none? -/
def listsAll : Json → Json → Bool
  | .arr _ xs, .arr _ ys => decide ((∀ v ∈ xs, v ∈ ys) ∧ (Json.distinct (xs ++ ys)).length ≠ 1)
  | _, _ => false

theorem listsAll_iff {x y : Json} : listsAll x y = true ↔ ∃ tag xs tag' ys, x = .arr tag xs ∧
    y = .arr tag' ys ∧ xs ⊆ ys ∧ (Json.distinct (xs ++ ys)).length ≠ 1 := by
  unfold listsAll
  split
  · simp [List.subset_def]
  · next hn => exact iff_of_false Bool.false_ne_true fun ⟨_, _, _, _, hx, hy, _⟩ => hn _ _ _ _ hx hy

/-- **Two schemas whose members do not get in each other's way**: wherever what the second asks for
depends on what else a schema says, the first says nothing to change it. -/
structure Independent (engine : Pattern.Engine) (mode : Fusion) (a b : Fields) : Prop where
  /-- Nothing is added to the values that the second lists, of which there is more than one. -/
  values : ∀ x ∈ get? a "enum", ∀ y ∈ get? b "enum", listsAll x y = true
  spared : ∀ k ∈ asserting, k ∉ joined → mode.Spared a b k
  /-- The least number of items that are to be found is one or more. -/
  least : Fields.has b "contains" = true → Fields.has b "minContains" = false →
    ∀ m ∈ get? a "minContains", Probe.isUnder 0 m = .ok true
  /-- Items are counted from where they are. -/
  positions : Fields.has b "items" = true → Fields.has b "prefixItems" = false →
    Fields.has a "prefixItems" = false
  /-- Patterns still get to see the names that they match. -/
  aside : ∀ n ∈ Probe.namesUnder a "properties", n ∉ Probe.namesUnder b "properties" →
    ∀ p ∈ Probe.namesUnder b "patternProperties", engine.search (.str p) (.str n) = .ok false
  /-- Further members are still further members. -/
  additional : ∀ s ∈ get? b "additionalProperties", s = .bool true ∨
    Probe.namesUnder a "properties" ⊆ Probe.namesUnder b "properties" ∧
      Probe.namesUnder a "patternProperties" ⊆ Probe.namesUnder b "patternProperties"

section Members

variable {a b r : Fields}

instance {engine : Pattern.Engine} {mode : Fusion} : Decidable (Independent engine mode a b) :=
  decidable_of_iff
    ((∀ x ∈ get? a "enum", ∀ y ∈ get? b "enum", listsAll x y = true) ∧
      (∀ k ∈ asserting, k ∉ joined → mode.Spared a b k) ∧
      (Fields.has b "contains" = true → Fields.has b "minContains" = false →
        ∀ m ∈ get? a "minContains", Probe.isUnder 0 m = .ok true) ∧
      (Fields.has b "items" = true → Fields.has b "prefixItems" = false →
        Fields.has a "prefixItems" = false) ∧
      (∀ n ∈ Probe.namesUnder a "properties", n ∉ Probe.namesUnder b "properties" →
        ∀ p ∈ Probe.namesUnder b "patternProperties",
          engine.search (.str p) (.str n) = .ok false) ∧
      ∀ s ∈ get? b "additionalProperties", s = .bool true ∨
        Probe.namesUnder a "properties" ⊆ Probe.namesUnder b "properties" ∧
          Probe.namesUnder a "patternProperties" ⊆ Probe.namesUnder b "patternProperties")
    ⟨fun ⟨h₁, h₂, h₃, h₄, h₅, h₆⟩ => ⟨h₁, h₂, h₃, h₄, h₅, h₆⟩,
      fun ⟨h₁, h₂, h₃, h₄, h₅, h₆⟩ => ⟨h₁, h₂, h₃, h₄, h₅, h₆⟩⟩

/-- **What two plain schemas become is plain.** -/
theorem plain_of_fused {engine : Pattern.Engine} {mode : Fusion} (hf : Fused mode a b r)
    (hi : Independent engine mode a b) (ha : Plain a) (hb : Plain b) : Plain r := by
  have types : get? r "type" = (get? b "type").or (get? a "type") :=
    hf.overridden (by simp) (by cases mode <;> simp [Fusion.inner])
      (hi.spared _ (by simp [asserting]) (by simp))
  have sober : Sober r := by
    refine hf.sober ha.toSober hb.toSober (fun t ht => ?_)
      (hi.spared _ (by simp [asserting, objectKeywords]) (by simp))
    rw [declaredTypes, types] at ht
    cases hb' : get? b "type" with
    | none =>
      rw [hb', Option.none_or] at ht
      exact ha.types t ht
    | some y =>
      rw [hb', Option.some_or, ← hb'] at ht
      exact hb.types t ht
  refine ⟨sober, ?_, ?_, (hf.required ha.texts hb.texts).1⟩
  · have unpinned_iff : ∀ {f : Fields}, get? f "const" = none →
        (pinned? f = none ↔ ∀ tag v, get? f "enum" ≠ some (.arr tag [v])) := by
      intro f hf
      rw [pinned?, hf]
      split <;> simp_all
    have ha' := (unpinned_iff (ha.lacks "const" (by simp))).1 ha.unpinned
    have hb' := (unpinned_iff (hb.lacks "const" (by simp))).1 hb.unpinned
    rw [unpinned_iff (sober.lacks "const" (by simp))]
    intro tag v hr
    obtain hx | ⟨x, hx⟩ := Option.eq_none_or_eq_some (get? a "enum")
    · obtain hy | ⟨y, hy⟩ := Option.eq_none_or_eq_some (get? b "enum")
      · rw [hf.absent (by simp) hx hy] at hr
        cases hr
      · exact hb' tag v (hy.trans ((hf.right _ _ (by simp) hx hy).symm.trans hr))
    · obtain hy | ⟨y, hy⟩ := Option.eq_none_or_eq_some (get? b "enum")
      · exact ha' tag v ((hf.left _ (by simp) hy).symm.trans hr)
      · obtain ⟨_, xs, _, ys, rfl, rfl, -, several⟩ := listsAll_iff.1 (hi.values x hx y hy)
        have alone := (hf.values _ _ xs ys hx hy).symm.trans hr
        simp only [Option.some.injEq, Json.arr.injEq] at alone
        exact several (congrArg List.length alone.2)
  · intro k hk
    refine hf.absent ?_ (ha.alone k hk) (hb.alone k hk)
    rintro rfl
    simp at hk

end Members

/-! ## 3. What is asked for stays asked for -/

open Probe (Upheld ArrayUpheld ObjectUpheld Kept TableUpheld entriesUnder namesUnder itemSchema)

section Upheld

variable {mode : Fusion} {options : Options} {root : Json} {E : Json → Json → Prop} {a b r : Fields}
  {tag : Tag}

variable (hf : Fused mode a b r) (hi : Independent options.engine mode a b) (ha : Plain a) (hb : Plain b)
  (hd : (Json.obj tag b).Proper)
  (hE : ∀ s, Elementary s → E s s) (he : Elementary (.obj tag b))
  (htables : ∀ k ∈ tableKeywords, ∀ n u v w, get? (entriesUnder a k) n = some u →
    get? (entriesUnder b k) n = some v → (mode.under k).fuse u v = .ok w → E w v)
  (hinner : ∀ k ∈ mode.inner, ∀ x y z, get? a k = some x → get? b k = some y → x.isObject = true →
    y.isObject = true → mode.fuse x y = .ok z → E z y)

include hf ha hb hd hE he htables in
theorem tableUpheld_of_fused {k : String} (hk : k ∈ tableKeywords) :
    TableUpheld E (entriesUnder r k) (entriesUnder b k) := by
  have tabled := hf.tabled hk (ha.tables k hk) (hb.tables k hk)
  intro n v hm
  obtain ⟨tag', hb'⟩ := Probe.exists_of_mem_memberTable
    (Probe.membersOf_memberTable (hb.tables k hk)) hm
  have distinct : Fields.Distinct (entriesUnder b k) := Json.Proper.distinct (hd.of_get? hb')
  have hv := Fields.get?_of_mem distinct hm
  cases hu : get? (entriesUnder a k) n with
  | none =>
    have elementary : Elementary v := by
      refine he.table hb' ?_ hm
      simp only [List.mem_cons, List.not_mem_nil, or_false] at hk
      rcases hk with rfl | rfl | rfl <;> rfl
    exact ⟨v, Json.mem_of_get? (tabled.right n v hu hv), hE v elementary⟩
  | some u =>
    obtain ⟨w, hw, hfuse⟩ := tabled.both n u v hu hv
    exact ⟨w, Json.mem_of_get? hw, htables k hk n u v w hu hv hfuse⟩

include hf hi hinner in
/-- A schema under a keyword is there still, or something that asks for no less. -/
theorem upheld_of_placed {k : String} (hk : k ∈ asserting) (hr : k ∉ joined)
    {y : Json} (hb' : get? b k = some y) :
    ∃ z, get? r k = some z ∧ (z = y ∨ z.isObject = true ∧ y.isObject = true ∧ E z y) := by
  obtain ⟨z, hz, rfl | ⟨hm, x, ha', hx, hy, hfuse⟩⟩ := hf.placed hr (hi.spared k hk hr) hb'
  · exact ⟨z, hz, .inl rfl⟩
  · exact ⟨z, hz, .inr ⟨isObject_of_fuse hx hy hfuse, hy, hinner k hm x y z ha' hb' hx hy hfuse⟩⟩

/-- What is said about an item behind the prefix. -/
def listedSchema (fields : Fields) (i : Nat) : Option Json :=
  match get? fields "items" with
  | some (.arr _ schemas) => Probe.tupleSchema fields schemas i
  | _ => get? fields "items"

theorem itemSchema_eq_listed (fields : Fields) (i : Nat) : itemSchema fields i =
    match get? fields "prefixItems" with
    | some (.arr _ start) =>
      if i < start.length then start[i]? else listedSchema fields (i - start.length)
    | _ => listedSchema fields i := rfl

/-- **The schema of a position** is there still, or something that asks for no less, if positions are
counted as before. -/
theorem itemSchema_of_placed {i : Nat} {s : Json} (he : Elementary (.obj tag b))
    (hE : ∀ s, Elementary s → E s s)
    (hp : ∀ y, get? b "prefixItems" = some y → get? r "prefixItems" = some y)
    (hn : get? b "items" ≠ none → get? r "prefixItems" = get? b "prefixItems")
    (placed : ∀ k ∈ ["items", "additionalItems"], ∀ y, get? b k = some y → ∃ z, get? r k = some z ∧
      (z = y ∨ z.isObject = true ∧ y.isObject = true ∧ E z y))
    (hs : itemSchema b i = some s) : ∃ s', itemSchema r i = some s' ∧ E s' s := by
  have unchanged : E s s := hE s (he.item hs)
  have of_placed : ∀ {z : Json}, z = s ∨ z.isObject = true ∧ s.isObject = true ∧ E z s → E z s := by
    rintro z (rfl | ⟨-, -, h⟩)
    · exact unchanged
    · exact h
  have of_tuple : ∀ {schemas : List Json} {j : Nat}, Probe.tupleSchema b schemas j = some s →
      ∃ s', Probe.tupleSchema r schemas j = some s' ∧ E s' s := by
    intro schemas j h
    unfold Probe.tupleSchema at h ⊢
    split
    · next hlt =>
      rw [if_pos hlt] at h
      exact ⟨s, h, unchanged⟩
    · next hge =>
      rw [if_neg hge] at h
      obtain ⟨z, hz, hzs⟩ := placed _ (by simp) s h
      exact ⟨z, hz, of_placed hzs⟩
  have of_listed : ∀ {j : Nat}, get? b "items" ≠ none → listedSchema b j = some s →
      ∃ s', listedSchema r j = some s' ∧ E s' s := by
    intro j hitems h
    obtain ⟨y, hy⟩ := Option.ne_none_iff_exists'.1 hitems
    obtain ⟨z, hz, hzy⟩ := placed _ (by simp) y hy
    simp only [listedSchema, hy, hz] at h ⊢
    cases y with
    | arr tag schemas =>
      obtain rfl : z = .arr tag schemas := hzy.resolve_right fun ho => Bool.false_ne_true ho.2.1
      exact of_tuple h
    | _ =>
      cases h
      cases z with
      | arr tag schemas =>
        rcases hzy with hzy | hzy
        · cases hzy
        · cases hzy.1
      | _ => exact ⟨_, rfl, of_placed hzy⟩
  rw [itemSchema_eq_listed] at hs ⊢
  cases hitems : get? b "items" with
  | none =>
    have silent : ∀ j, listedSchema b j = none := by simp [listedSchema, hitems]
    simp only [silent] at hs
    split at hs
    · next hb =>
      split at hs
      · next hlt => exact ⟨s, by rw [hp _ hb]; simp only [if_pos hlt, hs], unchanged⟩
      · cases hs
    · cases hs
  | some y =>
    have there : get? b "items" ≠ none := by simp [hitems]
    rw [hn there]
    split at hs
    · next hb =>
      split at hs
      · next hlt => exact ⟨s, by simp only [if_pos hlt, hs], unchanged⟩
      · next hge =>
        simp only [if_neg hge]
        exact of_listed there hs
    · exact of_listed there hs

include hf hi hE he hinner in
theorem arrayUpheld_of_fused : ArrayUpheld E r b := by
  have overridden : ∀ k ∈ ["minItems", "maxItems", "uniqueItems", "contains", "minContains",
      "maxContains", "prefixItems"], get? r k = (get? b k).or (get? a k) := by
    intro k hk
    simp only [List.mem_cons, List.not_mem_nil, or_false] at hk
    rcases hk with rfl | rfl | rfl | rfl | rfl | rfl | rfl <;>
      exact hf.overridden (by simp) (by cases mode <;> simp [Fusion.inner])
        (hi.spared _ (by simp [asserting, arrayKeywords]) (by simp))
  constructor
  · intro k hk y hy
    rw [overridden k (List.mem_append_left ["prefixItems"] hk), hy, Option.some_or]
  · intro hc hm m hr
    rw [overridden _ (by simp), hm, Option.none_or] at hr
    exact hi.least (by simpa [Fields.has, Option.isSome_iff_ne_none] using hc)
      (by simp [Fields.has, hm]) m hr
  · intro i s hs
    have start := overridden "prefixItems" (by simp)
    refine itemSchema_of_placed he hE (fun y hy => ?_) (fun hitems => ?_) (fun k hk y hy => ?_) hs
    · rw [start, hy, Option.some_or]
    · cases hb : get? b "prefixItems" with
      | some y => rw [start, hb, Option.some_or]
      | none =>
        have unstarted := hi.positions
          (by simpa [Fields.has, Option.isSome_iff_ne_none] using hitems) (by simp [Fields.has, hb])
        rw [start, hb, Option.none_or, Fields.has_eq_false_iff.1 unstarted]
    · refine upheld_of_placed hf hi hinner ?_ ?_ hy <;>
        rcases List.mem_pair.1 hk with rfl | rfl <;> simp [asserting, arrayKeywords]

include hf hi ha hb hd hE he htables hinner in
theorem objectUpheld_of_fused (hexpand : ∀ z, get? r "additionalProperties" = some z →
      Reference.expand options.source root z = .ok (some (.node z))) :
    ObjectUpheld options root E r b := by
  have plain := plain_of_fused hf hi ha hb
  have declared := hf.tabled (by simp) (ha.tables "properties" (by simp)) (hb.tables _ (by simp))
  have matched := hf.tabled (by simp) (ha.tables "patternProperties" (by simp)) (hb.tables _ (by simp))
  obtain ⟨texts, names, -⟩ := hf.required ha.texts hb.texts
  constructor
  · intro k hk y hy
    have assertion : k ∈ asserting ∧ k ∉ joined ∧ k ∉ mode.inner := by
      simp only [List.mem_cons, List.not_mem_nil, or_false] at hk
      rcases hk with rfl | rfl | rfl | rfl <;> cases mode <;>
        simp [asserting, objectKeywords, Fusion.inner]
    rw [hf.overridden assertion.2.1 assertion.2.2 (hi.spared k assertion.1 assertion.2.1), hy, Option.some_or]
  · exact hb.texts
  · intro n hn
    exact mem_distinct_of_texts (Probe.entriesOf_required texts).2 ((names n).2 (.inr (mem_of_mem_distinct hn)))
  · exact fun k hk => ⟨plain.tables k hk, hb.tables k hk⟩
  · exact fun k hk => tableUpheld_of_fused hf ha hb hd hE he htables hk
  · intro n hn hnb
    exact hi.aside n ((declared.mem_names_iff.1 hn).resolve_right hnb) hnb
  · intro s hs
    refine (hi.additional s hs).imp_right fun aside => ⟨?_, ?_, ?_⟩
    · exact fun n hn => (declared.mem_names_iff.1 hn).elim (fun hm => aside.1 hm) id
    · exact fun n hn => (matched.mem_names_iff.1 hn).elim (fun hm => aside.2 hm) id
    · obtain ⟨z, hz, h⟩ :=
        upheld_of_placed hf hi hinner (by simp [asserting, objectKeywords]) (by simp) hs
      refine ⟨z, hz, ?_, hexpand z hz⟩
      rcases h with rfl | ⟨-, -, h⟩
      · exact hE z (he.schema hs rfl)
      · exact h

include hf hi ha hb in
/-- A keyword about values of a kind that the second schema has is there. -/
theorem has_of_fused {kind : Kind} {k : String} (hk : k ∈ keywordsOf kind)
    (h : Fields.has b k = true) : Fields.has r k = true := by
  obtain ⟨y, hy⟩ := Option.isSome_iff_exists.1 h
  have assertion : k ∈ asserting := by
    cases kind <;> simp_all [keywordsOf, asserting]
  by_cases hr : k = "required"
  · subst hr
    exact (hf.required ha.texts hb.texts).2.2 h
  · by_cases ht : k ∈ tableKeywords
    · cases ha' : get? a k with
      | none => rw [Fields.has, hf.right k y hr ha' hy, Option.isSome_some]
      | some x =>
        have hx := ha.tables k ht
        have hy' := hb.tables k ht
        rw [ha'] at hx
        rw [hy] at hy'
        cases x with
        | obj tag f =>
          cases y with
          | obj tag' g =>
            obtain ⟨t, ht, -⟩ := hf.tables k ht tag tag' f g ha' hy
            rw [Fields.has, ht, Option.isSome_some]
          | _ => cases hy'
        | _ => cases hx
    · have hn : k ∉ joined := by
        simp only [joined, List.mem_cons, not_or] at ht ⊢
        refine ⟨hr, ?_, ht⟩
        rintro rfl
        revert hk
        cases kind <;> decide
      obtain ⟨z, hz, -⟩ := hf.placed hn (hi.spared k assertion hn) hy
      rw [Fields.has, hz, Option.isSome_some]

include hf hi ha hb hd hE he htables hinner in
/-- **What the second of two schemas asks for is asked for by what they become.** -/
theorem upheld_of_fused (hexpand : ∀ z, get? r "additionalProperties" = some z →
      Reference.expand options.source root z = .ok (some (.node z))) :
    Upheld options root E r b := by
  have kept : ∀ {keys : List String}, (∀ k ∈ keys, k ∈ asserting ∧ k ∉ joined ∧
      k ∉ mode.inner) → Kept keys r b := by
    intro keys hkeys k hk y hy
    obtain ⟨h₁, h₂, h₃⟩ := hkeys k hk
    rw [hf.overridden h₂ h₃ (hi.spared k h₁ h₂), hy, Option.some_or]
  constructor
  · exact kept fun k hk => by
      obtain rfl := List.mem_singleton.1 hk
      cases mode <;> simp [asserting, Fusion.inner]
  · intro y hy
    cases hx : get? a "enum" with
    | none => exact ⟨y, hf.right _ y (by simp) hx hy, fun listed h => ⟨listed, h, fun _ => id⟩⟩
    | some x =>
      obtain ⟨_, xs, _, ys, rfl, rfl, hsub, -⟩ := listsAll_iff.1 (hi.values x hx y hy)
      refine ⟨_, hf.values _ _ xs ys hx hy, ?_⟩
      rintro _ ⟨⟩
      refine ⟨ys, rfl, fun v hv => ?_⟩
      exact (List.mem_append.1 (mem_of_mem_distinct hv)).elim (fun hm => hsub hm) id
  · exact fun kind k hk hh => has_of_fused hf hi ha hb hk hh
  · intro kind
    cases kind with
    | null | boolean => trivial
    | string => exact kept (by rcases mode with ⟨_ | _⟩ | _ <;> decide)
    | number | integer => exact kept (by rcases mode with ⟨_ | _⟩ | _ <;> decide)
    | array => exact arrayUpheld_of_fused hf hi hE he hinner
    | object => exact objectUpheld_of_fused hf hi ha hb hd hE he htables hinner hexpand

end Upheld

end Schema

end Conform
