/-
# What two schemas become

A branch is merged into a schema keyword by keyword, and so is a member of `allOf`, except that types
are intersected there; two schemas under a pattern are united like any two documents.  All these ways of
making one schema of two (`Fusion`) come to the same thing: a keyword of one of them stays, and where
both have it, tables are joined name by name, objects under some keywords become one in turn, required
names and enumerated values are joined, and otherwise the second schema says what it is (`Fused`).

The schemas that come together below two schemas are listed by `Fusion.pairs`: whatever stands below
what the two become stands below one of them, or is what such a pair became (`Fused.subschema_cases`).
-/
import Conform.Proofs.Counterparts
import Conform.Proofs.Deciding
import Conform.Proofs.Entailment
import Conform.Proofs.Texts

namespace Conform

open Fields (get?)

/-! ## 1. Names without repetition -/

namespace Schema

open Probe (entriesUnder tableKeywords requiredNames)

/-- Texts are the same only if they are equal, so that each is kept where repetitions are dropped. -/
theorem mem_distinct_of_texts {items : List Json} {x : Json}
    (h : ∀ y ∈ items, isText y = true) (hx : x ∈ items) : x ∈ Json.distinct items := by
  refine Json.mem_distinct_of_unique hx fun y hy same => ?_
  obtain ⟨s, rfl⟩ := isText_iff.1 (h y hy)
  obtain ⟨t, rfl⟩ := isText_iff.1 (h x hx)
  exact congrArg Json.str (Text.quoted_injective same)

/-! ## 2. Two ways of making one schema of two -/

/-- How two schemas become one: merged as schemas are, in a conjunction or not, or united as documents
are. -/
inductive Fusion where
  | merging (conjunction : Bool)
  | uniting
  deriving DecidableEq

namespace Fusion

/-- What two schemas become. -/
def fuse : Fusion → Json → Json → Except Fault Json
  | .merging conjunction, a, b => merge conjunction a b
  | .uniting, a, b => .ok (Json.unite a b)

/-- What becomes of the schemas that both hold under a name in the table of a keyword. -/
def under (mode : Fusion) (k : String) : Fusion :=
  match mode with
  | .merging conjunction => if k = "properties" then .merging conjunction else .uniting
  | .uniting => .uniting

/-- The keywords under which two objects become one. -/
def inner : Fusion → List String
  | .merging _ => ["additionalProperties", "items"]
  | .uniting => ["additionalProperties", "items", "additionalItems"]

end Fusion

/-- Two tables of schemas become one, name by name. -/
structure Tabled (mode : Fusion) (f g t : Fields) : Prop where
  left : ∀ n, get? g n = none → get? t n = get? f n
  right : ∀ n v, get? f n = none → get? g n = some v → get? t n = some v
  both : ∀ n u v, get? f n = some u → get? g n = some v →
    ∃ w, get? t n = some w ∧ mode.fuse u v = .ok w

section Rules

variable {conjunction : Bool} {a b r r' : Fields} {k : String}

theorem get?_mergeTypes (h : mergeTypes conjunction a b r = .ok r')
    (hk : conjunction = true → k = "type" → get? a "type" = none ∨ get? b "type" = none)
    (hr : ∀ y, get? b "type" = some y → get? r "type" = some y) : get? r' k = get? r k := by
  unfold mergeTypes at h
  split at h
  · next x y hx hy =>
    cases conjunction with
    | false =>
      simp only [Bool.false_eq_true, if_false, Except.ok.injEq] at h
      rw [← h, Fields.put_of_get? (hr y hy)]
    | true =>
      simp only [if_true, bind_eq_ok, Except.ok.injEq] at h
      obtain ⟨_, -, rfl⟩ := h
      rw [Fields.get?_put, if_neg]
      intro he
      rcases hk rfl he with hn | hn
      · rw [hx] at hn
        cases hn
      · rw [hy] at hn
        cases hn
  · cases h
    rfl

/-- In a conjunction the types of both schemas are intersected. -/
theorem types_mergeTypes {x y : Json} (hx : get? a "type" = some x) (hy : get? b "type" = some y)
    (h : mergeTypes true a b r = .ok r') :
    ∃ z, get? r' "type" = some z ∧ intersectTypes x y = .ok z := by
  simp only [mergeTypes, hx, hy, if_true, bind_eq_ok, Except.ok.injEq] at h
  obtain ⟨z, hz, rfl⟩ := h
  exact ⟨z, by rw [Fields.get?_put, if_pos rfl], hz⟩

/-- Where two schemas do not pin down the same value, no constant comes of them. -/
theorem mergePinned_of_unpinned (hu : ∀ u ∈ pinned? a, ∀ v ∈ pinned? b, Json.same u v = false)
    (h : mergePinned a b r = .ok r') :
    (match get? a "enum", get? b "enum" with
      | some x, some y => do
        let left ← entries x
        let right ← entries y
        .ok (Fields.put r "enum" (.arr none (Json.distinct (left ++ right))))
      | _, _ => .ok r) = Except.ok r' := by
  cases ha : pinned? a with
  | none =>
    simp only [mergePinned, ha] at h
    exact h
  | some u =>
    cases hb : pinned? b with
    | none =>
      simp only [mergePinned, ha, hb] at h
      exact h
    | some v =>
      simp only [mergePinned, ha, hb, hu u ha v hb, Bool.false_eq_true, if_false] at h
      exact h

theorem get?_mergePinned (hu : ∀ u ∈ pinned? a, ∀ v ∈ pinned? b, Json.same u v = false)
    (h : mergePinned a b r = .ok r')
    (hk : k = "enum" → get? a "enum" = none ∨ get? b "enum" = none) : get? r' k = get? r k := by
  have united := mergePinned_of_unpinned hu h
  split at united
  · next x y ha hb' =>
    simp only [bind_eq_ok, Except.ok.injEq] at united
    obtain ⟨_, -, _, -, rfl⟩ := united
    rw [Fields.get?_put, if_neg]
    intro he
    rcases hk he with hn | hn
    · rw [ha] at hn
      cases hn
    · rw [hb'] at hn
      cases hn
  · cases united
    rfl

/-- The values that two schemas list are listed. -/
theorem values_mergePinned {tag tag' : Tag} {xs ys : List Json}
    (hu : ∀ u ∈ pinned? a, ∀ v ∈ pinned? b, Json.same u v = false)
    (hx : get? a "enum" = some (.arr tag xs)) (hy : get? b "enum" = some (.arr tag' ys))
    (h : mergePinned a b r = .ok r') :
    get? r' "enum" = some (.arr none (Json.distinct (xs ++ ys))) := by
  have united := mergePinned_of_unpinned hu h
  simp only [hx, hy, entries, Json.entries?, ok_bind, Except.ok.injEq] at united
  rw [← united, Fields.get?_put, if_pos rfl]

theorem get?_mergeRequired (h : mergeRequired a b r = .ok r') (hk : k ≠ "required") :
    get? r' k = get? r k := by
  unfold mergeRequired at h
  split at h
  · simp only [bind_eq_ok, Except.ok.injEq] at h
    obtain ⟨_, -, _, -, rfl⟩ := h
    rw [Fields.get?_put, if_neg hk]
  · cases h
    rfl

theorem get?_uniteKeyword {keyword : String}
    (hk : k = keyword → get? a keyword = none ∨ get? b keyword = none) :
    get? (uniteKeyword keyword a b r) k = get? r k := by
  unfold uniteKeyword
  split
  · next ha hb =>
    rw [Fields.get?_put, if_neg]
    intro he
    rcases hk he with hn | hn
    · rw [ha] at hn
      cases hn
    · rw [hb] at hn
      cases hn
  · rfl

theorem get?_uniteKeyword_self {x y : Json} (ha : get? a k = some x) (hb : get? b k = some y) :
    get? (uniteKeyword k a b r) k = some (Json.unite x y) := by
  rw [uniteKeyword, ha, hb, Fields.get?_put, if_pos rfl]

theorem mergeConditions_of_none (hb : get? b "if" = none) : mergeConditions b r = r := by
  rw [mergeConditions, if_neg]
  rw [Fields.has, hb]
  exact Bool.false_ne_true

theorem get?_mergeConditions (hk : k ∉ ["if", "then", "else"]) :
    get? (mergeConditions b r) k = get? r k := by
  unfold mergeConditions
  split
  · refine List.foldlRecOn (motive := fun acc => get? acc k = get? r k) _ _ rfl
      fun acc h keyword hm => ?_
    have hne : k ≠ keyword := by
      rintro rfl
      exact hk hm
    split
    · rw [Fields.get?_put, if_neg hne, h]
    · rw [Fields.get?_erase, if_neg hne, h]
  · rfl

theorem get?_mergeComposition {keyword : String} (h : mergeComposition keyword a b r = .ok r')
    (hk : k ≠ keyword) : get? r' k = get? r k := by
  unfold mergeComposition at h
  split at h
  · simp only [bind_eq_ok, Except.ok.injEq] at h
    obtain ⟨_, -, _, -, rfl⟩ := h
    rw [Fields.get?_put, if_neg hk]
  · cases h
    rfl

theorem mergeComposition_of_none {keyword : String} (hb : get? b keyword = none)
    (h : mergeComposition keyword a b r = .ok r') : r' = r := by
  unfold mergeComposition at h
  split at h
  · next hy =>
    rw [hb] at hy
    cases hy
  · cases h
    rfl

variable {self : MergeBelow (Json.sizeFields a)}
  (hself : ∀ x y h, self x y h = merge conjunction x y)

theorem mergeNegated_of_none (hb : get? b "not" = none) (h : mergeNegated a b self r = .ok r') :
    r' = r := by
  unfold mergeNegated at h
  split at h
  · next hy =>
    rw [hb] at hy
    cases hy
  · cases h
    rfl

theorem get?_mergeNegated (h : mergeNegated a b self r = .ok r') (hk : k ≠ "not") :
    get? r' k = get? r k := by
  unfold mergeNegated at h
  split at h
  · simp only [bind_eq_ok, Except.ok.injEq] at h
    obtain ⟨_, -, rfl⟩ := h
    rw [Fields.get?_put, if_neg hk]
  · cases h
    rfl

theorem get?_mergeProperties (h : mergeProperties a b self r = .ok r')
    (hk : k = "properties" → get? a "properties" = none ∨ get? b "properties" = none) :
    get? r' k = get? r k := by
  unfold mergeProperties at h
  split at h
  · next ha hb =>
    split at h
    · cases h
    · simp only [bind_eq_ok, Except.ok.injEq] at h
      obtain ⟨_, -, _, -, rfl⟩ := h
      rw [Fields.get?_put, if_neg]
      intro he
      rcases hk he with hn | hn
      · rw [ha] at hn
        cases hn
      · rw [hb] at hn
        cases hn
  · cases h
    rfl

theorem get?_mergeObjects {keyword : String} (h : mergeObjects keyword a b self r = .ok r')
    (hk : k = keyword → ∀ x y, get? a k = some x → get? b k = some y →
      (x.isObject && y.isObject) = false) : get? r' k = get? r k := by
  unfold mergeObjects at h
  split at h
  · next x y ha hb =>
    split at h
    · next ho =>
      simp only [bind_eq_ok, Except.ok.injEq] at h
      obtain ⟨_, -, rfl⟩ := h
      rw [Fields.get?_put, if_neg]
      rintro rfl
      rw [hk rfl x y ha hb] at ho
      cases ho
    · cases h
      rfl
  · cases h
    rfl

/-- Members merged into those of `left`, name by name. -/
theorem get?_mergeMembers {left : Fields} {self : MergeBelow (Json.sizeFields left)}
    (hself : ∀ x y h, self x y h = merge conjunction x y) {right acc merged : Fields}
    (hd : Fields.Distinct right) (h : mergeMembers left self right acc = .ok merged) {n : String} :
    (get? right n = none → get? merged n = get? acc n) ∧ ∀ v, get? right n = some v →
      (get? left n = none → get? merged n = some v) ∧
        ∀ u, get? left n = some u → ∃ w, get? merged n = some w ∧ merge conjunction u v = .ok w := by
  induction right generalizing acc with
  | nil =>
    cases h
    exact ⟨fun _ => rfl, nofun⟩
  | cons m rest ih =>
    obtain ⟨j, y⟩ := m
    obtain ⟨hj, hrest⟩ := Fields.distinct_cons.1 hd
    -- either way a single member is put into `acc` before the others follow
    have step : ∃ z, mergeMembers left self rest (Fields.put acc j z) = .ok merged ∧
        (get? left j = none → z = y) ∧ ∀ u, get? left j = some u → merge conjunction u y = .ok z := by
      unfold mergeMembers at h
      split at h
      · next x hx =>
        simp only [bind_eq_ok, hself] at h
        obtain ⟨z, hz, h⟩ := h
        refine ⟨z, h, fun hn => ?_, fun u hu => ?_⟩
        · rw [hx] at hn
          cases hn
        · rw [hx] at hu
          cases hu
          exact hz
      · next hx =>
        refine ⟨y, h, fun _ => rfl, fun u hu => ?_⟩
        rw [hx] at hu
        cases hu
    obtain ⟨z, hmerged, alone, both⟩ := step
    obtain ⟨kept, put⟩ := ih hrest hmerged
    by_cases hn : n = j
    · subst hn
      have here : get? merged n = some z := by
        rw [kept (Fields.get?_eq_none_iff.2 hj), Fields.get?_put, if_pos rfl]
      constructor
      · intro hnone
        simp [Fields.get?_cons] at hnone
      · intro v hv
        obtain rfl : y = v := by simpa [Fields.get?_cons] using hv
        exact ⟨fun hl => alone hl ▸ here, fun u hu => ⟨z, here, both u hu⟩⟩
    · simp only [Fields.get?_cons, if_neg hn]
      refine ⟨fun hnone => ?_, put⟩
      rw [kept hnone, Fields.get?_put, if_neg hn]

/-- Members united with those of the first, name by name. -/
theorem get?_uniteFields {f g : Fields} (hd : Fields.Distinct g) {n : String} :
    (get? g n = none → get? (Json.uniteFields f g) n = get? f n) ∧ ∀ v, get? g n = some v →
      get? (Json.uniteFields f g) n = some ((get? f n).elim v fun u => Json.unite u v) := by
  induction g generalizing f with
  | nil =>
    rw [Json.uniteFields]
    exact ⟨fun _ => rfl, by simp⟩
  | cons m rest ih =>
    obtain ⟨j, y⟩ := m
    obtain ⟨hj, hrest⟩ := Fields.distinct_cons.1 hd
    have step : Json.uniteFields f ((j, y) :: rest) = Json.uniteFields
        (Fields.put f j ((get? f j).elim y fun u => Json.unite u y)) rest := by
      rw [Json.uniteFields]
      cases get? f j <;> rfl
    rw [step]
    obtain ⟨kept, put⟩ := ih hrest (f := Fields.put f j ((get? f j).elim y fun u => Json.unite u y))
    by_cases hn : n = j
    · subst hn
      constructor
      · intro hnone
        simp [Fields.get?_cons] at hnone
      · intro v hv
        obtain rfl : y = v := by simpa [Fields.get?_cons] using hv
        rw [kept (Fields.get?_eq_none_iff.2 hj), Fields.get?_put, if_pos rfl]
    · simp only [Fields.get?_cons, if_neg hn, Fields.get?_put] at kept put ⊢
      exact ⟨kept, put⟩

theorem tabled_uniteFields {f g : Fields} (hd : Fields.Distinct g) :
    Tabled .uniting f g (Json.uniteFields f g) where
  left n hn := (get?_uniteFields hd).1 hn
  right n v hf hg := by rw [(get?_uniteFields hd).2 v hg, hf]; rfl
  both n u v hf hg := ⟨_, (get?_uniteFields hd).2 v hg, by rw [hf]; rfl⟩

include hself

/-- Two tables of properties are merged name by name. -/
theorem properties_merged {tag tag' : Tag} {f g : Fields}
    (ha : get? a "properties" = some (.obj tag f)) (hb : get? b "properties" = some (.obj tag' g))
    (hd : Fields.Distinct g) (h : mergeProperties a b self r = .ok r') :
    ∃ t, get? r' "properties" = some (.obj none t) ∧ Tabled (.merging conjunction) f g t := by
  unfold mergeProperties at h
  split at h
  · next x y hx hy =>
    rw [ha] at hx
    rw [hb] at hy
    cases hx
    cases hy
    split at h
    · cases h
    · next left hl =>
      cases hl
      simp only [bind_eq_ok, Except.ok.injEq] at h
      obtain ⟨_, ⟨⟩, merged, hm, rfl⟩ := h
      refine ⟨merged, by rw [Fields.get?_put, if_pos rfl], ?_⟩
      have named := fun n => get?_mergeMembers (fun u v _ => hself u v _) hd hm (n := n)
      exact ⟨fun n => (named n).1, fun n v hf hg => ((named n).2 v hg).1 hf,
        fun n u v hf hg => ((named n).2 v hg).2 u hf⟩
  · next hnone => exact absurd hb (hnone _ _ ha)

/-- Two objects under a keyword are merged. -/
theorem objects_merged {x y : Json} (ha : get? a k = some x) (hb : get? b k = some y)
    (hx : x.isObject = true) (hy : y.isObject = true) (h : mergeObjects k a b self r = .ok r') :
    ∃ z, get? r' k = some z ∧ merge conjunction x y = .ok z := by
  unfold mergeObjects at h
  split at h
  · next x' y' hx' hy' =>
    rw [ha] at hx'
    rw [hb] at hy'
    cases hx'
    cases hy'
    simp only [hx, hy, Bool.and_self, if_true, bind_eq_ok, Except.ok.injEq, hself] at h
    obtain ⟨z, hz, rfl⟩ := h
    exact ⟨z, by rw [Fields.get?_put, if_pos rfl], hz⟩
  · next hnone => exact absurd hb (hnone _ _ ha)

end Rules

/-! ## 3. What the members of two schemas become -/

/-- Is nothing lost of the second of two values under a keyword? -/
def Fusion.spares : Fusion → String → Json → Json → Bool
  | .merging conjunction, k, _, _ => !(conjunction && k == "type")
  | .uniting, _, x, y => decide (Json.unite x y = y)

/-- Is nothing lost of what the second of two schemas says under a keyword? -/
def Fusion.Spared (mode : Fusion) (a b : Fields) (k : String) : Prop :=
  ∀ x ∈ get? a k, ∀ y ∈ get? b k, (k ∈ mode.inner → (x.isObject && y.isObject) = false) →
    mode.spares k x y = true

instance {mode : Fusion} {a b : Fields} {k : String} : Decidable (mode.Spared a b k) :=
  inferInstanceAs (Decidable (∀ x ∈ get? a k, ∀ y ∈ get? b k,
    (k ∈ mode.inner → (x.isObject && y.isObject) = false) → mode.spares k x y = true))

/-- The keywords that ask for something. -/
def asserting : List String :=
  "type" :: "enum" :: (stringKeywords ++ numberKeywords ++ arrayKeywords ++ objectKeywords)

/-- The keywords whose values are joined, whatever the schemas are. -/
abbrev joined : List String := "required" :: "enum" :: tableKeywords

/-- **What becomes of the members of two schemas.** -/
structure Fused (mode : Fusion) (a b r : Fields) : Prop where
  left : ∀ k, k ≠ "required" → get? b k = none → get? r k = get? a k
  right : ∀ k y, k ≠ "required" → get? a k = none → get? b k = some y → get? r k = some y
  tables : ∀ k ∈ tableKeywords, ∀ tag tag' f g, get? a k = some (.obj tag f) →
    get? b k = some (.obj tag' g) →
    ∃ t, get? r k = some (.obj none t) ∧ Tabled (mode.under k) f g t
  inner : ∀ k ∈ mode.inner, ∀ x y, get? a k = some x → get? b k = some y → x.isObject = true →
    y.isObject = true → ∃ z, get? r k = some z ∧ mode.fuse x y = .ok z
  replaced : ∀ k, k ∉ joined → ∀ x y, get? a k = some x → get? b k = some y →
    (k ∈ mode.inner → (x.isObject && y.isObject) = false) → mode.spares k x y = true →
    get? r k = some y
  types : mode = .merging true → ∀ x y, get? a "type" = some x → get? b "type" = some y →
    ∃ z, get? r "type" = some z ∧ intersectTypes x y = .ok z
  values : ∀ tag tag' xs ys, get? a "enum" = some (.arr tag xs) → get? b "enum" = some (.arr tag' ys) →
    get? r "enum" = some (.arr none (Json.distinct (xs ++ ys)))
  required : (get? a "required").all isTextList = true → (get? b "required").all isTextList = true →
    (get? r "required").all isTextList = true ∧
      (∀ n, n ∈ requiredNames r ↔ n ∈ requiredNames a ∨ n ∈ requiredNames b) ∧
      (Fields.has b "required" = true → Fields.has r "required" = true)

section Members

variable {a b r : Fields}

theorem requiredNames_mergeRequired {r' : Fields} (ha : (get? a "required").all isTextList = true)
    (hb : (get? b "required").all isTextList = true) (hr : get? b "required" = none →
      get? a "required" = none → get? r "required" = none)
    (h : mergeRequired a b r = .ok r') :
    (get? r' "required").all isTextList = true ∧
      (∀ n, n ∈ requiredNames r' ↔ n ∈ requiredNames a ∨ n ∈ requiredNames b) ∧
      (Fields.has b "required" = true → Fields.has r' "required" = true) := by
  obtain ⟨hea, texts_a⟩ := Probe.entriesOf_required ha
  obtain ⟨heb, texts_b⟩ := Probe.entriesOf_required hb
  have texts : ∀ n ∈ requiredNames a ++ requiredNames b, isText n = true := fun n hn =>
    (List.mem_append.1 hn).elim (texts_a n) (texts_b n)
  unfold mergeRequired at h
  split at h
  · simp only [bind_eq_ok, Except.ok.injEq] at h
    obtain ⟨left, hl, right, hr, rfl⟩ := h
    obtain rfl : left = requiredNames a := Except.ok.inj (hl.symm.trans hea)
    obtain rfl : right = requiredNames b := Except.ok.inj (hr.symm.trans heb)
    simp only [requiredNames, Fields.has, Fields.get?_put, if_true, Option.all_some]
    refine ⟨isTextList_iff.2 ⟨_, _, rfl, fun n hn => texts n (mem_of_mem_distinct hn)⟩, fun n => ?_,
      fun _ => rfl⟩
    rw [← List.mem_append]
    exact ⟨mem_of_mem_distinct, mem_distinct_of_texts texts⟩
  · next hnone =>
    cases h
    simp only [Fields.has, Bool.or_eq_true, not_or, Option.not_isSome_iff_eq_none] at hnone
    rw [requiredNames, requiredNames, requiredNames, hr hnone.2 hnone.1, hnone.1, hnone.2, Fields.has,
      hnone.2]
    exact ⟨rfl, by simp, by simp⟩

section Merged

variable {self : MergeBelow (Json.sizeFields a)} {r₁ r₂ r₃ r₄ r₅ : Fields} {k : String}

/-- The rules for compositions are none for a schema without any. -/
theorem mergeFields_of_uncomposed (hc : ∀ k ∈ compositeKeywords, get? b k = none)
    (h : mergeFields conjunction a b self = .ok r) : ∃ r₁ r₂ r₃ r₄ r₅,
      mergeTypes conjunction a b (Fields.union a b) = .ok r₁ ∧ mergePinned a b r₁ = .ok r₂ ∧
      mergeRequired a b r₂ = .ok r₃ ∧ mergeProperties a b self r₃ = .ok r₄ ∧
      mergeObjects "additionalProperties" a b self
        (uniteKeyword "dependentSchemas" a b (uniteKeyword "patternProperties" a b r₄)) = .ok r₅ ∧
      mergeObjects "items" a b self r₅ = .ok r := by
  simp only [mergeFields, bind_eq_ok] at h
  obtain ⟨r₁, h₁, r₂, h₂, r₃, h₃, r₄, h₄, r₅, h₅, r₆, h₆, r₇, h₇, r₈, h₈, r₉, h₉, h⟩ := h
  obtain rfl := mergeComposition_of_none (hc _ (by simp [compositeKeywords])) h
  obtain rfl := mergeComposition_of_none (hc _ (by simp [compositeKeywords])) h₉
  obtain rfl := mergeComposition_of_none (hc _ (by simp [compositeKeywords])) h₈
  obtain rfl := mergeNegated_of_none (hc _ (by simp [compositeKeywords])) h₇
  rw [mergeConditions_of_none (hc _ (by simp [compositeKeywords]))]
  exact ⟨r₁, r₂, r₃, r₄, r₅, h₁, h₂, h₃, h₄, h₅, h₆⟩

/-- Up to the rule for properties, the second schema overrides the first. -/
theorem get?_before_properties (hd : Fields.Distinct b)
    (hu : ∀ u ∈ pinned? a, ∀ v ∈ pinned? b, Json.same u v = false)
    (h₁ : mergeTypes conjunction a b (Fields.union a b) = .ok r₁) (h₂ : mergePinned a b r₁ = .ok r₂)
    (ht : conjunction = true → k = "type" → get? a k = none ∨ get? b k = none)
    (hk : k = "enum" → get? a k = none ∨ get? b k = none) :
    get? r₂ k = (get? b k).or (get? a k) := by
  have typed : ∀ y, get? b "type" = some y → get? (Fields.union a b) "type" = some y := by
    intro y hy
    rw [Fields.get?_union hd, hy, Option.some_or]
  rw [get?_mergePinned hu h₂ (by rintro rfl; exact hk rfl),
    get?_mergeTypes h₁ (by rintro hc rfl; exact ht hc rfl) typed, Fields.get?_union hd]

/-- The rules behind the one for properties are about tables and objects. -/
theorem get?_behind_properties
    (h₅ : mergeObjects "additionalProperties" a b self
      (uniteKeyword "dependentSchemas" a b (uniteKeyword "patternProperties" a b r₄)) = .ok r₅)
    (h₆ : mergeObjects "items" a b self r₅ = .ok r)
    (ht : k ∈ ["patternProperties", "dependentSchemas"] → get? a k = none ∨ get? b k = none)
    (hi : k ∈ ["additionalProperties", "items"] → ∀ x y, get? a k = some x → get? b k = some y →
      (x.isObject && y.isObject) = false) : get? r k = get? r₄ k := by
  rw [get?_mergeObjects h₆ (by rintro rfl; exact hi (by simp)),
    get?_mergeObjects h₅ (by rintro rfl; exact hi (by simp)),
    get?_uniteKeyword (by rintro rfl; exact ht (by simp)),
    get?_uniteKeyword (by rintro rfl; exact ht (by simp))]

/-- **A schema that is merged in member by member**: without compositions and without a value that both
schemas pin down there are no other rules than those for types, for required names, for tables and for
objects. -/
theorem fused_mergeFields (hself : ∀ x y h, self x y h = merge conjunction x y)
    (hd : (Json.obj none b).Proper) (hc : ∀ k ∈ compositeKeywords, get? b k = none)
    (hu : ∀ u ∈ pinned? a, ∀ v ∈ pinned? b, Json.same u v = false)
    (h : mergeFields conjunction a b self = .ok r) : Fused (.merging conjunction) a b r := by
  obtain ⟨r₁, r₂, r₃, r₄, r₅, h₁, h₂, h₃, h₄, h₅, h₆⟩ := mergeFields_of_uncomposed hc h
  have untouched : ∀ {k}, k ≠ "required" →
      (k ∈ "enum" :: tableKeywords → get? a k = none ∨ get? b k = none) →
      (conjunction = true → k = "type" → get? a k = none ∨ get? b k = none) →
      (k ∈ ["additionalProperties", "items"] → ∀ x y, get? a k = some x → get? b k = some y →
        (x.isObject && y.isObject) = false) → get? r k = (get? b k).or (get? a k) := by
    intro k hk ht htype hi
    rw [get?_behind_properties h₅ h₆
        (fun hm => ht (List.mem_cons_of_mem _ (List.mem_cons_of_mem _ hm))) hi,
      get?_mergeProperties h₄ (by rintro rfl; exact ht (by simp)), get?_mergeRequired h₃ hk,
      get?_before_properties hd.distinct hu h₁ h₂ htype (by rintro rfl; exact ht (by simp))]
  constructor
  · intro k hk hb
    rw [untouched hk (fun _ => .inr hb) (fun _ _ => .inr hb)
      (fun _ x y _ hy => by rw [hb] at hy; cases hy), hb, Option.none_or]
  · intro k y hk ha hb
    rw [untouched hk (fun _ => .inl ha) (fun _ _ => .inl ha)
      (fun _ x _ hx => by rw [ha] at hx; cases hx), hb, Option.some_or]
  · intro k hk tag tag' f g ha hb
    have hg : Fields.Distinct g := Json.Proper.distinct (hd.of_get? hb)
    simp only [List.mem_cons, List.not_mem_nil, or_false] at hk
    have united : ∀ r', get? r k = get? (uniteKeyword k a b r') k → k ≠ "properties" →
        ∃ t, get? r k = some (.obj none t) ∧
          Tabled ((Fusion.merging conjunction).under k) f g t := by
      intro r' hr hne
      rw [hr, get?_uniteKeyword_self ha hb, Json.unite, Fusion.under, if_neg hne]
      exact ⟨_, rfl, tabled_uniteFields hg⟩
    rcases hk with rfl | rfl | rfl
    · rw [get?_behind_properties h₅ h₆ (by simp) (by simp)]
      exact properties_merged hself ha hb hg h₄
    · refine united r₄ ?_ (by simp)
      rw [get?_mergeObjects h₆ (by simp), get?_mergeObjects h₅ (by simp),
        get?_uniteKeyword (by simp)]
    · refine united (uniteKeyword "patternProperties" a b r₄) ?_ (by simp)
      rw [get?_mergeObjects h₆ (by simp), get?_mergeObjects h₅ (by simp)]
  · intro k hk x y ha hb hx hy
    rcases List.mem_pair.1 hk with rfl | rfl
    · rw [get?_mergeObjects h₆ (by simp)]
      exact objects_merged hself ha hb hx hy h₅
    · exact objects_merged hself ha hb hx hy h₆
  · intro k hk x y ha hb hi hs
    simp only [List.mem_cons, List.not_mem_nil, or_false, not_or] at hk
    rw [untouched hk.1 (fun hm => ?_) (fun hconj he => ?_) fun hm x' y' hx' hy' => ?_, hb,
      Option.some_or]
    · simp only [List.mem_cons, List.not_mem_nil, or_false] at hm
      exact absurd hm (by simpa using hk.2)
    · simp [Fusion.spares, hconj, he] at hs
    · rw [ha] at hx'
      rw [hb] at hy'
      cases hx'
      cases hy'
      exact hi hm
  · rintro ⟨⟩ x y hx hy
    rw [get?_behind_properties h₅ h₆ (by simp) (by simp), get?_mergeProperties h₄ (by simp),
      get?_mergeRequired h₃ (by simp), get?_mergePinned hu h₂ (by simp)]
    exact types_mergeTypes hx hy h₁
  · intro tag tag' xs ys hx hy
    rw [get?_behind_properties h₅ h₆ (by simp) (by simp), get?_mergeProperties h₄ (by simp),
      get?_mergeRequired h₃ (by simp), values_mergePinned hu hx hy h₂]
  · intro ha hb
    have last : get? r "required" = get? r₃ "required" := by
      rw [get?_behind_properties h₅ h₆ (by simp) (by simp), get?_mergeProperties h₄ (by simp)]
    have names : requiredNames r = requiredNames r₃ := by rw [requiredNames, requiredNames, last]
    have has : Fields.has r "required" = Fields.has r₃ "required" := by
      rw [Fields.has, Fields.has, last]
    rw [last, names, has]
    refine requiredNames_mergeRequired ha hb (fun hb' ha' => ?_) h₃
    rw [get?_before_properties hd.distinct hu h₁ h₂ (by simp) (by simp), hb', ha']
    rfl

end Merged

/-- A schema that is united with another one, member by member. -/
theorem fused_uniteFields (hd : (Json.obj none b).Proper) :
    Fused .uniting a b (Json.uniteFields a b) := by
  have distinct : Fields.Distinct b := hd.distinct
  have both : ∀ {k x y}, get? a k = some x → get? b k = some y →
      get? (Json.uniteFields a b) k = some (Json.unite x y) := by
    intro k x y ha hb
    rw [(get?_uniteFields distinct).2 y hb, ha]
    rfl
  constructor
  · exact fun k _ hb => (get?_uniteFields distinct).1 hb
  · intro k y _ ha hb
    rw [(get?_uniteFields distinct).2 y hb, ha]
    rfl
  · intro k _ tag tag' f g ha hb
    refine ⟨_, (both ha hb).trans (by rw [Json.unite]), tabled_uniteFields ?_⟩
    exact Json.Proper.distinct (hd.of_get? hb)
  · exact fun k _ x y ha hb _ _ => ⟨_, both ha hb, rfl⟩
  · intro k _ x y ha hb _ hs
    rw [both ha hb, of_decide_eq_true hs]
  · intro mode
    cases mode
  · intro tag tag' xs ys hx hy
    rw [both hx hy, Json.unite]
  · intro ha hb
    cases hb' : get? b "required" with
    | none =>
      have here := (get?_uniteFields distinct (f := a)).1 hb'
      rw [here]
      exact ⟨ha, by simp [requiredNames, here, hb'], by simp [Fields.has, hb']⟩
    | some y =>
      cases ha' : get? a "required" with
      | none =>
        have here : get? (Json.uniteFields a b) "required" = some y := by
          rw [(get?_uniteFields distinct).2 y hb', ha']
          rfl
        rw [hb'] at hb
        simp only [requiredNames, Fields.has, here, ha', hb']
        exact ⟨hb, by simp, id⟩
      | some x =>
        rw [ha'] at ha
        rw [hb'] at hb
        obtain ⟨_, xs, rfl, texts_x⟩ := isTextList_iff.1 ha
        obtain ⟨_, ys, rfl, texts_y⟩ := isTextList_iff.1 hb
        have texts : ∀ n ∈ xs ++ ys, isText n = true := fun n hn =>
          (List.mem_append.1 hn).elim (texts_x n) (texts_y n)
        simp only [requiredNames, Fields.has, both ha' hb', ha', hb', Json.unite]
        refine ⟨isTextList_iff.2 ⟨none, _, rfl, fun n hn => texts n (mem_of_mem_distinct hn)⟩,
          fun n => ?_, fun _ => rfl⟩
        exact Iff.trans ⟨mem_of_mem_distinct, mem_distinct_of_texts texts⟩ List.mem_append

section Fused

variable {mode : Fusion} {k : String} (hf : Fused mode a b r)

include hf

/-- Where both schemas have a keyword for anything but required names, tables and objects, the second
says what it is. -/
theorem Fused.overridden (hr : k ∉ joined) (hn : k ∉ mode.inner) (hs : mode.Spared a b k) :
    get? r k = (get? b k).or (get? a k) := by
  have hne : k ≠ "required" := fun he => hr (he ▸ List.mem_cons_self ..)
  cases hb : get? b k with
  | none => rw [hf.left k hne hb, Option.none_or]
  | some y =>
    rw [Option.some_or]
    cases ha : get? a k with
    | none => exact hf.right k y hne ha hb
    | some x =>
      exact hf.replaced k hr x y ha hb (fun hm => absurd hm hn)
        (hs x ha y hb fun hm => absurd hm hn)

/-- Under a keyword for a schema there is the one of the second schema or, of two objects, what they
became. -/
theorem Fused.placed (hr : k ∉ joined) (hs : mode.Spared a b k) {y : Json} (hb : get? b k = some y) :
    ∃ z, get? r k = some z ∧ (z = y ∨ k ∈ mode.inner ∧
      ∃ x, get? a k = some x ∧ x.isObject = true ∧ y.isObject = true ∧ mode.fuse x y = .ok z) := by
  have hne : k ≠ "required" := fun he => hr (he ▸ List.mem_cons_self ..)
  cases ha : get? a k with
  | none => exact ⟨y, hf.right k y hne ha hb, .inl rfl⟩
  | some x =>
    by_cases ho : k ∈ mode.inner ∧ (x.isObject && y.isObject) = true
    · obtain ⟨hm, ho⟩ := ho
      rw [Bool.and_eq_true] at ho
      obtain ⟨z, hz, hfuse⟩ := hf.inner k hm x y ha hb ho.1 ho.2
      exact ⟨z, hz, .inr ⟨hm, x, rfl, ho.1, ho.2, hfuse⟩⟩
    · have apart : k ∈ mode.inner → (x.isObject && y.isObject) = false := fun hm =>
        Bool.eq_false_iff.2 fun ho' => ho ⟨hm, ho'⟩
      exact ⟨y, hf.replaced k hr x y ha hb apart (hs x ha y hb apart), .inl rfl⟩

/-- What neither schema has is not there. -/
theorem Fused.absent (hk : k ≠ "required") (ha : get? a k = none) (hb : get? b k = none) :
    get? r k = none :=
  (hf.left k hk hb).trans ha

/-- Two tables become a table. -/
theorem Fused.table (hk : k ∈ tableKeywords) (ha : (get? a k).all Json.isObject = true)
    (hb : (get? b k).all Json.isObject = true) : (get? r k).all Json.isObject = true := by
  have hne : k ≠ "required" := by
    rintro rfl
    simp at hk
  cases hb' : get? b k with
  | none => rwa [hf.left k hne hb']
  | some y =>
    cases ha' : get? a k with
    | none => rwa [hf.right k y hne ha' hb', ← hb']
    | some x =>
      rw [ha'] at ha
      rw [hb'] at hb
      cases x with
      | obj tag f =>
        cases y with
        | obj tag' g =>
          obtain ⟨t, ht, -⟩ := hf.tables k hk tag tag' f g ha' hb'
          rw [ht]
          rfl
        | _ => cases hb
      | _ => cases ha

/-- The entries of the tables of two schemas are those of the one, those of the other, or fused. -/
theorem Fused.tabled (hk : k ∈ tableKeywords) (ha : (get? a k).all Json.isObject = true)
    (hb : (get? b k).all Json.isObject = true) :
    Tabled (mode.under k) (entriesUnder a k) (entriesUnder b k) (entriesUnder r k) := by
  have hne : k ≠ "required" := by
    rintro rfl
    simp at hk
  have under : ∀ {f : Fields} {x : Option Json}, get? f k = x →
      entriesUnder f k = fieldsOf (x.getD (.obj none [])) := by
    rintro f _ rfl
    rfl
  cases hb' : get? b k with
  | none =>
    rw [under hb', under (hf.left k hne hb')]
    exact ⟨fun _ _ => rfl, nofun, nofun⟩
  | some y =>
    rw [hb'] at hb
    cases y with
    | obj tag' g =>
      cases ha' : get? a k with
      | none =>
        rw [under hb', under ha', under (hf.right k _ hne ha' hb')]
        exact ⟨fun n hn => hn, fun _ _ _ h => h, nofun⟩
      | some x =>
        rw [ha'] at ha
        cases x with
        | obj tag f =>
          obtain ⟨t, ht, tabled⟩ := hf.tables k hk tag tag' f g ha' hb'
          rw [under hb', under ha', under ht]
          exact tabled
        | _ => cases ha
    | _ => cases hb

end Fused

end Members

/-- The names in a table are the names of the one and of the other. -/
theorem Tabled.mem_names_iff {mode : Fusion} {f g t : Fields} (h : Tabled mode f g t) {n : String} :
    n ∈ Fields.names t ↔ n ∈ Fields.names f ∨ n ∈ Fields.names g := by
  constructor
  · intro hn
    obtain ⟨w, hw⟩ := Fields.exists_get?_of_mem_names hn
    cases hg : get? g n with
    | none => exact .inl (Fields.mem_names_of_get? ((h.left n hg).symm.trans hw))
    | some v => exact .inr (Fields.mem_names_of_get? hg)
  · intro hn
    cases hg : get? g n with
    | none =>
      have hf := hn.resolve_right fun hm => by
        obtain ⟨v, hv⟩ := Fields.exists_get?_of_mem_names hm
        rw [hg] at hv
        cases hv
      obtain ⟨u, hu⟩ := Fields.exists_get?_of_mem_names hf
      exact Fields.mem_names_of_get? ((h.left n hg).trans hu)
    | some v =>
      cases hf : get? f n with
      | none => exact Fields.mem_names_of_get? (h.right n v hf hg)
      | some u =>
        obtain ⟨w, hw, -⟩ := h.both n u v hf hg
        exact Fields.mem_names_of_get? hw

/-- Two objects become an object. -/
theorem isObject_of_fuse {mode : Fusion} {x y z : Json} (hx : x.isObject = true)
    (hy : y.isObject = true) (h : mode.fuse x y = .ok z) : z.isObject = true := by
  cases x with
  | obj tag f =>
    cases y with
    | obj tag' g =>
      cases mode with
      | merging conjunction =>
        simp only [Fusion.fuse] at h
        rw [merge] at h
        simp only [isFalse, Bool.or_self, Bool.false_eq_true, if_false, bind_eq_ok,
          Except.ok.injEq] at h
        obtain ⟨_, -, rfl⟩ := h
        rfl
      | uniting =>
        simp only [Fusion.fuse, Json.unite, Except.ok.injEq] at h
        exact h ▸ rfl
    | _ => cases hy
  | _ => cases hx

/-- **What two sober schemas become is sober**, if its types are. -/
theorem Fused.sober {mode : Fusion} {a b r : Fields} (hf : Fused mode a b r) (ha : Sober a)
    (hb : Sober b) (ht : ∀ t ∈ declaredTypes (.obj none r), isSolidType t = true)
    (hs : mode.Spared a b "additionalProperties") : Sober r where
  lacks k hk := by
    refine hf.absent ?_ (ha.lacks k hk) (hb.lacks k hk)
    rintro rfl
    simp at hk
  types := ht
  tables k hk := hf.table hk (ha.tables k hk) (hb.tables k hk)
  additional := by
    cases hb' : get? b "additionalProperties" with
    | none => exact hf.left _ (by simp) hb' ▸ ha.additional
    | some y =>
      have hy := hb.additional
      obtain ⟨z, hz, rfl | ⟨-, x, -, hx, hyo, hfuse⟩⟩ := hf.placed (by simp) hs hb'
      · rwa [hz, ← hb']
      · have ho := isObject_of_fuse hx hyo hfuse
        rw [hz]
        cases z with
        | obj tag fields => rfl
        | _ => cases ho

/-! ## 4. Schemas that come together -/

/-- **The pairs of schemas that become one where two schemas become one**, and how they do. -/
def Fusion.pairs (mode : Fusion) (a b : Fields) : List (Fusion × Json × Json) :=
  (tableKeywords.flatMap fun k => (entriesUnder a k).filterMap fun entry =>
    (get? (entriesUnder b k) entry.1).map fun v => (mode.under k, entry.2, v)) ++
  mode.inner.filterMap fun k =>
    match get? a k, get? b k with
    | some x, some y => if x.isObject && y.isObject then some (mode, x, y) else none
    | _, _ => none

/-- **Something holds of two schemas, and of any two below them that come together.** -/
inductive Met (P : Fusion → Json → Json → Prop) : Fusion → Json → Json → Prop
  | intro {mode : Fusion} {a b : Json} (here : P mode a b)
      (below : ∀ p ∈ mode.pairs (fieldsOf a) (fieldsOf b), Met P p.1 p.2.1 p.2.2) : Met P mode a b

/-- Does the test pass for two schemas and for any two below that come together, down to a depth? -/
def met (p : Fusion → Json → Json → Bool) : (depth : Nat) → Fusion → Json → Json → Bool
  | 0, _, _, _ => false
  | depth + 1, mode, a, b =>
    p mode a b && (mode.pairs (fieldsOf a) (fieldsOf b)).all fun q => met p depth q.1 q.2.1 q.2.2

section Pairs

variable {mode : Fusion} {a b : Fields} {k : String}

theorem mem_pairs_of_table {n : String} {u v : Json} (hk : k ∈ tableKeywords)
    (hu : get? (entriesUnder a k) n = some u) (hv : get? (entriesUnder b k) n = some v) :
    (mode.under k, u, v) ∈ mode.pairs a b := by
  refine List.mem_append_left _ (List.mem_flatMap.2 ⟨k, hk, List.mem_filterMap.2 ?_⟩)
  exact ⟨(n, u), Json.mem_of_get? hu, by rw [hv]; rfl⟩

theorem mem_pairs_of_inner {x y : Json} (hk : k ∈ mode.inner) (hx : get? a k = some x)
    (hy : get? b k = some y) (hxo : x.isObject = true) (hyo : y.isObject = true) :
    (mode, x, y) ∈ mode.pairs a b := by
  refine List.mem_append_right _ (List.mem_filterMap.2 ⟨k, hk, ?_⟩)
  simp [hx, hy, hxo, hyo]

/-- The schemas in a table stand below the schema. -/
theorem mem_subschemas_of_table {n : String} {u : Json} (hk : k ∈ tableKeywords)
    (hu : (n, u) ∈ entriesUnder a k) : u ∈ subschemas a := by
  rw [entriesUnder, Probe.memberTable] at hu
  cases ha : get? a k with
  | none =>
    rw [ha] at hu
    cases hu
  | some x =>
    rw [ha, Option.getD_some] at hu
    cases x with
    | obj tag entries =>
      refine mem_subschemas_of_get? ha ?_
      rw [partsOf, Place.ofKeyword, if_pos hk]
      exact List.mem_map.2 ⟨_, hu, rfl⟩
    | _ => cases hu

/-- An object under such a keyword is a schema below the schema. -/
theorem partsOf_of_inner {x : Json} (hk : k ∈ mode.inner) (hx : x.isObject = true) :
    partsOf k x = [x] := by
  have place : ∀ k ∈ mode.inner, Place.ofKeyword k = .itself ∨ Place.ofKeyword k = .listOrItself := by
    cases mode <;> simp [Fusion.inner, Place.ofKeyword]
  cases x with
  | obj tag fields => rcases place k hk with hp | hp <;> rw [partsOf, hp] <;> rfl
  | _ => cases hx

theorem mem_subschemas_of_inner {x : Json} (hk : k ∈ mode.inner) (ha : get? a k = some x)
    (hx : x.isObject = true) : x ∈ subschemas a :=
  mem_subschemas_of_get? ha (by rw [partsOf_of_inner hk hx]; exact List.mem_singleton_self x)

/-- Schemas that come together stand below the schemas that they are of. -/
theorem mem_subschemas_of_mem_pairs {p : Fusion × Json × Json} (hp : p ∈ mode.pairs a b) :
    p.2.1 ∈ subschemas a ∧ p.2.2 ∈ subschemas b := by
  rcases List.mem_append.1 hp with hp | hp
  · obtain ⟨k, hk, hp⟩ := List.mem_flatMap.1 hp
    obtain ⟨⟨n, u⟩, hu, hp⟩ := List.mem_filterMap.1 hp
    obtain ⟨v, hv, rfl⟩ := Option.map_eq_some_iff.1 hp
    exact ⟨mem_subschemas_of_table hk hu, mem_subschemas_of_table hk (Json.mem_of_get? hv)⟩
  · obtain ⟨k, hk, hp⟩ := List.mem_filterMap.1 hp
    split at hp
    · next x y hx hy =>
      simp only [Option.ite_none_right_eq_some, Bool.and_eq_true, Option.some.injEq] at hp
      obtain ⟨⟨hxo, hyo⟩, rfl⟩ := hp
      exact ⟨mem_subschemas_of_inner hk hx hxo, mem_subschemas_of_inner hk hy hyo⟩
    · cases hp

end Pairs

theorem met_iff {P : Fusion → Json → Json → Prop} [∀ mode a b, Decidable (P mode a b)] {depth : Nat}
    {mode : Fusion} {a b : Json} (h : a.size ≤ depth) :
    met (fun mode a b => decide (P mode a b)) depth mode a b = true ↔ Met P mode a b := by
  induction depth generalizing mode a b with
  | zero => exact absurd (Json.size_pos a) (Nat.not_lt.2 h)
  | succ depth ih =>
    have below : ∀ p ∈ mode.pairs (fieldsOf a) (fieldsOf b), p.2.1.size ≤ depth := by
      intro p hp
      obtain ⟨k, x, hm, hs⟩ := mem_subschemas.1 (mem_subschemas_of_mem_pairs hp).1
      exact Nat.le_of_lt_succ (Nat.lt_of_lt_of_le (Nat.lt_of_le_of_lt (size_le_of_mem_partsOf hs)
        (size_lt_of_mem_fieldsOf hm)) h)
    simp only [met, Bool.and_eq_true, decide_eq_true_iff, List.all_eq_true]
    constructor
    · rintro ⟨here, inner⟩
      exact .intro here fun p hp => (ih (below p hp)).1 (inner p hp)
    · rintro ⟨here, inner⟩
      exact ⟨here, fun p hp => (ih (below p hp)).2 (inner p hp)⟩

instance {P : Fusion → Json → Json → Prop} [∀ mode a b, Decidable (P mode a b)] {mode : Fusion}
    {a b : Json} : Decidable (Met P mode a b) :=
  decidable_of_iff _ (met_iff (Nat.le_refl _))

section Fuse

variable {mode : Fusion} {a b m s z : Json} {r : Fields} {k : String}

/-- **What two schemas become** is false, the second of them, or a schema with members of both. -/
theorem fuse_cases (hd : b.Proper) (he : Elementary b)
    (hu : mode ≠ .uniting → ∀ u ∈ pinned? (fieldsOf a), ∀ v ∈ pinned? (fieldsOf b),
      Json.same u v = false) (h : mode.fuse a b = .ok m) :
    m = .bool false ∧ (a = .bool false ∨ b = .bool false) ∨ m = b ∨
      ∃ r, m = .obj none r ∧ b ≠ .bool false ∧ Fused mode (fieldsOf a) (fieldsOf b) r := by
  have proper : (Json.obj none (fieldsOf b)).Proper := by
    cases b with
    | obj tag fields => exact hd.retag
    | _ => exact Json.proper_obj List.nodup_nil nofun
  have false_of_isFalse : ∀ {s : Json}, isFalse s = true → s = .bool false := by
    intro s hs
    unfold isFalse at hs
    split at hs
    · rfl
    · cases hs
  cases mode with
  | merging conjunction =>
    simp only [Fusion.fuse] at h
    rw [merge] at h
    split at h
    · next hn =>
      cases h
      exact .inl ⟨rfl, (Bool.or_eq_true _ _ ▸ hn).imp false_of_isFalse false_of_isFalse⟩
    · next hn =>
      simp only [bind_eq_ok, Except.ok.injEq] at h
      obtain ⟨r, hr, rfl⟩ := h
      have uncomposed : ∀ k ∈ compositeKeywords, get? (fieldsOf b) k = none := by
        intro k hk
        cases b with
        | obj tag fields => exact he.lacks (List.mem_cons_of_mem _ hk)
        | _ => rfl
      refine .inr (.inr ⟨r, rfl, ?_,
        fused_mergeFields (fun _ _ _ => rfl) proper uncomposed (hu (by simp)) hr⟩)
      rintro rfl
      simp [isFalse] at hn
  | uniting =>
    obtain rfl : Json.unite a b = m := Except.ok.inj h
    rcases unite_cases a b with ⟨_, f, _, g, rfl, rfl, hu⟩ | ⟨_, _, _, _, -, rfl, -⟩ | hu
    · exact .inr (.inr ⟨_, hu, by simp, fused_uniteFields proper⟩)
    · cases he
    · exact .inr (.inl hu)

/-- The keywords under which schemas stand. -/
theorem keyword_of_mem_partsOf (h : s ∈ partsOf k z) : k ∈ tableKeywords ∨
    k ∈ ["prefixItems", "additionalProperties", "additionalItems", "items"] ∨
      k ∈ ["allOf", "oneOf", "then", "else"] := by
  by_contra hn
  simp only [List.mem_cons, List.not_mem_nil, or_false, not_or] at hn
  obtain ⟨⟨h₁, h₂, h₃⟩, ⟨h₄, h₅, h₆, h₇⟩, h₈, h₉, h₁₀, h₁₁⟩ := hn
  have nowhere : Place.ofKeyword k = .nowhere := by
    simp [Place.ofKeyword, h₁, h₂, h₃, h₄, h₅, h₆, h₇, h₈, h₉, h₁₀, h₁₁]
  rw [partsOf, nowhere] at h
  cases h

/-- **A schema below what two schemas become** stands below one of them, or two schemas that stand there
became it. -/
theorem Fused.subschema_cases {a b r : Fields} (hf : Fused mode a b r)
    (hsp : ∀ k ∈ ["prefixItems", "additionalProperties", "additionalItems", "items"],
      mode.Spared a b k)
    (ha : ∀ k ∈ tableKeywords, (get? a k).all Json.isObject = true)
    (hb : ∀ k ∈ tableKeywords, (get? b k).all Json.isObject = true)
    (hc : ∀ k ∈ ["allOf", "oneOf", "then", "else"], get? r k = none) (hr : (Json.obj none r).Proper)
    (hs : s ∈ subschemas r) :
    s ∈ subschemas a ∨ s ∈ subschemas b ∨
      ∃ p ∈ mode.pairs a b, p.1.fuse p.2.1 p.2.2 = .ok s := by
  obtain ⟨k, z, hm, hs⟩ := mem_subschemas.1 hs
  have hz : get? r k = some z := Fields.get?_of_mem hr.distinct hm
  rcases keyword_of_mem_partsOf hs with hk | hk | hk
  · -- a table: its entries are told apart by their names
    have hn : ∃ n, (n, s) ∈ entriesUnder r k := by
      have ho := hf.table hk (ha k hk) (hb k hk)
      rw [hz] at ho
      cases z with
      | obj tag entries =>
        rw [partsOf, Place.ofKeyword, if_pos hk] at hs
        obtain ⟨⟨n, _⟩, he, rfl⟩ := List.mem_map.1 hs
        exact ⟨n, by rw [entriesUnder, Probe.memberTable, hz]; exact he⟩
      | _ => cases ho
    obtain ⟨n, hn⟩ := hn
    have distinct : Fields.Distinct (entriesUnder r k) := by
      rw [entriesUnder, Probe.memberTable, hz]
      cases z with
      | obj tag entries => exact Json.Proper.distinct (hr.of_get? hz)
      | _ => exact List.nodup_nil
    have hw := Fields.get?_of_mem distinct hn
    have tabled := hf.tabled hk (ha k hk) (hb k hk)
    cases hv : get? (entriesUnder b k) n with
    | none =>
      have hu := (tabled.left n hv).symm.trans hw
      exact .inl (mem_subschemas_of_table hk (Json.mem_of_get? hu))
    | some v =>
      cases hu : get? (entriesUnder a k) n with
      | none =>
        obtain rfl : s = v := Option.some.inj (hw.symm.trans (tabled.right n v hu hv))
        exact .inr (.inl (mem_subschemas_of_table hk (Json.mem_of_get? hv)))
      | some u =>
        obtain ⟨w, hw', hfuse⟩ := tabled.both n u v hu hv
        obtain rfl : s = w := Option.some.inj (hw.symm.trans hw')
        exact .inr (.inr ⟨_, mem_pairs_of_table hk hu hv, hfuse⟩)
  · have unjoined : k ∉ joined := by
      simp only [List.mem_cons, List.not_mem_nil, or_false] at hk
      rcases hk with rfl | rfl | rfl | rfl <;> simp
    cases hy : get? b k with
    | none =>
      have hne : k ≠ "required" := fun he => unjoined (he ▸ List.mem_cons_self ..)
      exact .inl (mem_subschemas_of_get? ((hf.left k hne hy).symm.trans hz) hs)
    | some y =>
      obtain ⟨z', hz', rfl | ⟨hin, x, hx, hxo, hyo, hfuse⟩⟩ := hf.placed unjoined (hsp k hk) hy
      · obtain rfl : z = z' := Option.some.inj (hz.symm.trans hz')
        exact .inr (.inl (mem_subschemas_of_get? hy hs))
      · obtain rfl : z = z' := Option.some.inj (hz.symm.trans hz')
        rw [partsOf_of_inner hin (isObject_of_fuse hxo hyo hfuse)] at hs
        obtain rfl := List.mem_singleton.1 hs
        exact .inr (.inr ⟨_, mem_pairs_of_inner hin hx hy hxo hyo, hfuse⟩)
  · rw [hc k hk] at hz
    cases hz

/-- What two proper schemas become is proper. -/
theorem proper_of_fuse (ha : a.Proper) (hb : b.Proper) (h : mode.fuse a b = .ok m) : m.Proper := by
  cases mode with
  | merging conjunction => exact proper_merge ha hb h
  | uniting => exact Except.ok.inj h ▸ proper_unite ha hb

/-- What holds of a schema in full holds of those below it. -/
theorem wholly_of_mem_subschemas {P : Fields → Prop} (h : Wholly P a)
    (hs : s ∈ subschemas (fieldsOf a)) : Wholly P s := by
  cases a with
  | obj tag fields =>
    obtain ⟨k, x, hm, hp⟩ := mem_subschemas.1 hs
    exact ⟨h.everywhere.inner hs, proper_of_mem_partsOf (h.proper.of_mem_fields hm) hp⟩
  | _ => cases hs

theorem elementary_of_mem_subschemas (h : Elementary a) (hd : a.Proper)
    (hs : s ∈ subschemas (fieldsOf a)) : Elementary s := by
  cases a with
  | obj tag fields =>
    obtain ⟨k, x, hm, hp⟩ := mem_subschemas.1 hs
    exact h.part (Fields.get?_of_mem hd.distinct hm) (mem_schemasIn_of_mem_partsOf hp)
  | _ => cases hs

end Fuse

/-- A schema for further members in a sober schema stands for itself. -/
theorem expand_additional {options : Options} {root z : Json} {tag : Tag} {fields : Fields}
    (h : Everywhere Sober (.obj tag fields)) (hz : get? fields "additionalProperties" = some z) :
    Reference.expand options.source root z = .ok (some (.node z)) := by
  have proper := h.here.additional
  rw [hz] at proper
  refine Resolve.Step.expand_eq (fun hn => ?_) ?_
  · rw [hn] at proper
    cases proper
  · have below := h.inner (mem_subschemas_of_get? hz (List.mem_singleton_self z))
    cases z with
    | obj tag inner => exact below.here.lacks "$ref" (by simp)
    | _ => rfl

end Schema

end Conform
