/-
# What a merge carries over

The rules for keywords are applied one after the other to what starts as the first schema overridden by
the second, and a rule may take back what an earlier one has put there.  Only two of them remove anything:
the one for constants, which drops the enumerations of two schemas that pin down the same value, and the
one for conditions, which drops the branches that belong to another condition (`Displaced`).  Every other
rule says anew what a keyword of both schemas is and lets all the rest be (`Restates`).

Hence what is kept of two schemas can be said keyword by keyword (`Keeps`).  Schemas under a common name in
`properties` are merged in the same way, so that it holds at every depth, along any path of names that
leads into both (`Describes`).
-/
import Conform.Proofs.Fusing

namespace Conform.Schema

open Fields (get? has)

/-! ## 1. Names in order -/

/-- The first occurrence of each text is kept, of those that were not seen before. -/
theorem distinctFrom_texts (seen names : List String) :
    Json.distinctFrom (seen.map (Text.quoted Text.minimal)) (names.map Json.str) =
      ((names.filter (· ∉ seen)).eraseDups).map Json.str := by
  induction names generalizing seen with
  | nil => rfl
  | cons n rest ih =>
    have repeated : (seen.map (Text.quoted Text.minimal)).contains (Json.str n).canonical = true ↔
        n ∈ seen :=
      List.contains_iff_mem.trans (List.mem_map_of_injective fun _ _ => Text.quoted_injective)
    rw [List.map_cons, Json.distinctFrom]
    by_cases hn : n ∈ seen
    · rw [if_pos (repeated.2 hn), ih, List.filter_cons_of_neg (by simpa using hn)]
    · have later : rest.filter (· ∉ n :: seen) = (rest.filter (· ∉ seen)).filter fun m => !m == n := by
        rw [List.filter_filter]
        refine List.filter_congr fun m _ => ?_
        by_cases he : m = n <;> simp [he]
      rw [if_neg (mt repeated.1 hn), List.filter_cons_of_pos (by simpa using hn), List.eraseDups_cons,
        List.map_cons, ← later, ← ih]
      rfl

/-- **Texts without repetition**: the first occurrence of each, in order. -/
theorem distinct_texts (names : List String) :
    Json.distinct (names.map Json.str) = names.eraseDups.map Json.str := by
  simpa [Json.distinct] using distinctFrom_texts [] names

/-! ## 2. Rules that restate -/

/-- **A rule restates keywords**: it says anew what they are, if both schemas have them, and lets the rest
be. -/
structure Restates (a b : Fields) (keywords : List String) (r r' : Fields) : Prop where
  same : ∀ k, (k ∈ keywords → get? a k = none ∨ get? b k = none) → get? r' k = get? r k
  kept : ∀ k, has r k = true → has r' k = true

/-- A keyword stays when one is put. -/
theorem has_put {r : Fields} {keyword k : String} {x : Json} (h : has r k = true) :
    has (Fields.put r keyword x) k = true := by
  rw [Fields.has, Fields.get?_put]
  split
  · rfl
  · exact h

namespace Restates

variable {a b r r' r'' : Fields} {keywords keywords' : List String} {keyword : String}

theorem nothing : Restates a b keywords r r := ⟨fun _ _ => rfl, fun _ => id⟩

theorem put {x y z : Json} (ha : get? a keyword = some x) (hb : get? b keyword = some y) :
    Restates a b [keyword] r (Fields.put r keyword z) where
  same k hk := by
    rw [Fields.get?_put, if_neg]
    rintro rfl
    rcases hk (List.mem_singleton.2 rfl) with hn | hn
    · rw [ha] at hn
      cases hn
    · rw [hb] at hn
      cases hn
  kept _ := has_put

theorem trans (h : Restates a b keywords r r') (h' : Restates a b keywords' r' r'') :
    Restates a b (keywords ++ keywords') r r'' where
  same k hk := by
    rw [h'.same k fun hm => hk (List.mem_append_right _ hm), h.same k fun hm =>
      hk (List.mem_append_left _ hm)]
  kept k hk := h'.kept k (h.kept k hk)

variable {conjunction : Bool} {self : MergeBelow (Json.sizeFields a)}

theorem types (h : mergeTypes conjunction a b r = .ok r') : Restates a b ["type"] r r' := by
  unfold mergeTypes at h
  split at h
  · next ha hb =>
    split at h
    · simp only [bind_eq_ok, Except.ok.injEq] at h
      obtain ⟨_, -, rfl⟩ := h
      exact .put ha hb
    · cases h
      exact .put ha hb
  · cases h
    exact .nothing

theorem properties (h : mergeProperties a b self r = .ok r') : Restates a b ["properties"] r r' := by
  unfold mergeProperties at h
  split at h
  · next ha hb =>
    split at h
    · cases h
    · simp only [bind_eq_ok, Except.ok.injEq] at h
      obtain ⟨_, -, _, -, rfl⟩ := h
      exact .put ha hb
  · cases h
    exact .nothing

theorem united (keyword : String) : Restates a b [keyword] r (uniteKeyword keyword a b r) := by
  unfold uniteKeyword
  split
  · next ha hb => exact .put ha hb
  · exact .nothing

theorem objects (h : mergeObjects keyword a b self r = .ok r') : Restates a b [keyword] r r' := by
  unfold mergeObjects at h
  split at h
  · next ha hb =>
    split at h
    · simp only [bind_eq_ok, Except.ok.injEq] at h
      obtain ⟨_, -, rfl⟩ := h
      exact .put ha hb
    · cases h
      exact .nothing
  · cases h
    exact .nothing

theorem negated (h : mergeNegated a b self r = .ok r') : Restates a b ["not"] r r' := by
  unfold mergeNegated at h
  split at h
  · next ha hb =>
    simp only [bind_eq_ok, Except.ok.injEq] at h
    obtain ⟨_, -, rfl⟩ := h
    exact .put ha hb
  · cases h
    exact .nothing

theorem composition (h : mergeComposition keyword a b r = .ok r') :
    Restates a b [keyword] r r' := by
  unfold mergeComposition at h
  split at h
  · next ha hb =>
    simp only [bind_eq_ok, Except.ok.injEq] at h
    obtain ⟨_, -, _, -, rfl⟩ := h
    exact .put ha hb
  · cases h
    exact .nothing

end Restates

/-! ## 3. Rules that remove -/

/-- A branch of the first schema belongs to its own condition, and the second has another one without such
a branch. -/
def Displaced (b : Fields) (k : String) : Prop :=
  k ∈ ["then", "else"] ∧ has b "if" = true ∧ has b k = false

/-- Two schemas pin down the same value, and it is the constant of a third. -/
def PinnedAlike (a b r : Fields) : Prop :=
  ∃ x y, pinned? a = some x ∧ pinned? b = some y ∧ Json.same x y = true ∧ get? r "const" = some x

/-- **Required names**: those of the list that is given, or none. -/
def Requires (fields : Fields) (names : List String) : Prop :=
  get? fields "required" = none ∧ names = [] ∨
    ∃ tag, get? fields "required" = some (.arr tag (names.map Json.str))

section Rules

variable {a b r r' : Fields} {k : String}

theorem has_mergeConditions (h : has r k = true) :
    has (mergeConditions b r) k = true ∨ Displaced b k := by
  unfold mergeConditions
  split
  · next hb =>
    -- of the three keywords, the condition itself is there
    refine or_iff_not_imp_right.2 fun kept => ?_
    refine List.foldlRecOn (motive := fun acc => has acc k = true) _ _ h fun acc hacc keyword hm => ?_
    split
    · exact has_put hacc
    · next hn =>
      rw [Fields.has, Fields.get?_erase, if_neg]
      · exact hacc
      · rintro rfl
        simp only [List.mem_cons, List.not_mem_nil, or_false] at hm
        rcases hm with rfl | hm
        · rw [Fields.has, hn] at hb
          cases hb
        · exact kept ⟨by simpa using hm, hb, Fields.has_eq_false_iff.2 hn⟩
  · exact .inl h

theorem has_mergePinned (h : mergePinned a b r = .ok r') (hk : has r k = true) :
    has r' k = true ∨ k = "enum" ∧ PinnedAlike a b r' := by
  have same : ∀ {x y}, pinned? a = some x → pinned? b = some y → Json.same x y = true →
      mergePinned a b r = .ok (Fields.put (Fields.erase r "enum") "const" x) := by
    intro x y hx hy hs
    simp only [mergePinned, hx, hy, hs, if_true]
  by_cases alike : ∃ x y, pinned? a = some x ∧ pinned? b = some y ∧ Json.same x y = true
  · obtain ⟨x, y, hx, hy, hs⟩ := alike
    rw [same hx hy hs] at h
    cases h
    by_cases he : k = "enum"
    · exact .inr ⟨he, x, y, hx, hy, hs, by rw [Fields.get?_put, if_pos rfl]⟩
    · refine .inl (has_put ?_)
      rwa [Fields.has, Fields.get?_erase, if_neg he]
  · have apart : ∀ u ∈ pinned? a, ∀ v ∈ pinned? b, Json.same u v = false := fun u hu v hv =>
      Bool.eq_false_iff.2 fun hs => alike ⟨u, v, hu, hv, hs⟩
    have united := mergePinned_of_unpinned apart h
    split at united
    · simp only [bind_eq_ok, Except.ok.injEq] at united
      obtain ⟨_, -, _, -, rfl⟩ := united
      exact .inl (has_put hk)
    · cases united
      exact .inl hk

/-- The rule for constants and enumerations is about nothing else. -/
theorem get?_mergePinned_of_ne (h : mergePinned a b r = .ok r') (hc : k ≠ "const") (he : k ≠ "enum") :
    get? r' k = get? r k := by
  rcases mergePinned_cases a b r with ⟨x, y, -, -, hp⟩ | ⟨x, y, -, -, hp⟩ | hp
  · rw [hp] at h
    cases h
    rw [Fields.get?_put, if_neg hc, Fields.get?_erase, if_neg he]
  · rw [hp] at h
    simp only [bind_eq_ok, Except.ok.injEq] at h
    obtain ⟨_, -, _, -, rfl⟩ := h
    rw [Fields.get?_put, if_neg he]
  · rw [hp] at h
    cases h
    rfl

theorem has_mergeRequired (h : mergeRequired a b r = .ok r') (hk : has r k = true) :
    has r' k = true := by
  unfold mergeRequired at h
  split at h
  · simp only [bind_eq_ok, Except.ok.injEq] at h
    obtain ⟨_, -, _, -, rfl⟩ := h
    exact has_put hk
  · cases h
    exact hk

theorem Requires.entries_eq {names : List String} (h : Requires a names) :
    entries ((get? a "required").getD (.arr none [])) = .ok (names.map Json.str) := by
  rcases h with ⟨hn, rfl⟩ | ⟨tag, hs⟩
  · rw [hn]
    rfl
  · rw [hs]
    rfl

/-- Required names of either schema are joined, the first occurrence of each. -/
theorem required_mergeRequired {left right : List String} (ha : Requires a left)
    (hb : Requires b right) (either : has a "required" = true ∨ has b "required" = true)
    (h : mergeRequired a b r = .ok r') :
    get? r' "required" = some (.arr none ((left ++ right).eraseDups.map Json.str)) := by
  rw [mergeRequired, if_pos (by simpa using either), ha.entries_eq, hb.entries_eq, ok_bind, ok_bind] at h
  cases h
  rw [Fields.get?_put, if_pos rfl, ← List.map_append, distinct_texts]

end Rules

/-! ## 4. What is kept of two schemas -/

/-- The keywords that have a rule of their own. -/
def ruledKeywords : List String :=
  ["type", "const", "enum", "required", "properties", "patternProperties", "dependentSchemas",
    "additionalProperties", "items", "if", "then", "else", "not", "allOf", "anyOf", "oneOf"]

/-- **What is kept of two schemas** when they become a third. -/
structure Keeps (conjunction : Bool) (a b r : Fields) : Prop where
  /-- Every keyword is there, but for the branches of another condition and the enumerations that have
  become a constant. -/
  carried : ∀ k, has a k = true ∨ has b k = true →
    has r k = true ∨ Displaced b k ∨ k = "enum" ∧ PinnedAlike a b r
  /-- Every name that is required by one of the two is required, in the order of first mention. -/
  required : ∀ left right, Requires a left → Requires b right →
    has a "required" = true ∨ has b "required" = true →
    get? r "required" = some (.arr none ((left ++ right).eraseDups.map Json.str))
  /-- The properties of both are there, merged where they have a name in common. -/
  properties : ∀ tag tag' f g, get? a "properties" = some (.obj tag f) →
    get? b "properties" = some (.obj tag' g) →
    ∃ t, get? r "properties" = some (.obj none t) ∧ Tabled (.merging conjunction) f g t ∧
      ∀ n, has t n = true ↔ has f n = true ∨ has g n = true
  /-- The second schema says what a keyword without a rule is, or else the first. -/
  unruled : ∀ k ∉ ruledKeywords, get? r k = (get? b k).or (get? a k)
  /-- So it is for a keyword that only one of the two has. -/
  alone : ∀ k ∉ ["const", "enum", "required", "if", "then", "else"],
    get? a k = none ∨ get? b k = none → get? r k = (get? b k).or (get? a k)

/-- The names in a table of two are the names of either. -/
theorem Tabled.names {mode : Fusion} {f g t : Fields} (h : Tabled mode f g t) (n : String) :
    has t n = true ↔ has f n = true ∨ has g n = true := by
  simp only [Fields.has]
  cases hg : get? g n with
  | none => rw [h.left n hg]; simp
  | some v =>
    cases hf : get? f n with
    | none => rw [h.right n v hf hg]; simp
    | some u =>
      obtain ⟨w, hw, -⟩ := h.both n u v hf hg
      rw [hw]
      simp

/-- **Members that are merged are kept.** -/
theorem keeps_mergeFields {conjunction : Bool} {a b r : Fields} {self : MergeBelow (Json.sizeFields a)}
    (hself : ∀ x y h, self x y h = merge conjunction x y) (hb : (Json.obj none b).Proper)
    (h : mergeFields conjunction a b self = .ok r) : Keeps conjunction a b r := by
  simp only [mergeFields, bind_eq_ok] at h
  obtain ⟨r₁, h₁, r₂, h₂, r₃, h₃, r₄, h₄, r₅, h₅, r₆, h₆, r₇, h₇, r₈, h₈, r₉, h₉, h⟩ := h
  have typed := Restates.types h₁
  have described := Restates.properties h₄
  have patterned := Restates.united (a := a) (b := b) (r := r₄) "patternProperties"
  have depending := Restates.united (a := a) (b := b)
    (r := uniteKeyword "patternProperties" a b r₄) "dependentSchemas"
  have placed := (patterned.trans depending).trans ((Restates.objects h₅).trans (.objects h₆))
  have composed := (Restates.negated h₇).trans
    ((Restates.composition h₈).trans ((Restates.composition h₉).trans (.composition h)))
  have started : ∀ k, get? (Fields.union a b) k = (get? b k).or (get? a k) := fun k =>
    Fields.get?_union hb.distinct
  -- behind the rule for required names, conditions aside, keywords of one schema stay
  have later : ∀ k ∉ ["if", "then", "else"],
      (k ∈ ["properties", "patternProperties", "dependentSchemas", "additionalProperties", "items",
        "not", "allOf", "anyOf", "oneOf"] → get? a k = none ∨ get? b k = none) →
      get? r k = get? r₃ k := by
    intro k hc hk
    rw [composed.same k fun hm => hk (by simp at hm ⊢; tauto), get?_mergeConditions hc,
      placed.same k fun hm => hk (by simp at hm ⊢; tauto),
      described.same k fun hm => hk (by simp at hm ⊢; tauto)]
  have earlier : ∀ k ∉ ["const", "enum", "required"],
      (k = "type" → get? a k = none ∨ get? b k = none) → get? r₃ k = (get? b k).or (get? a k) := by
    intro k hk ht
    simp only [List.mem_cons, List.not_mem_nil, or_false, not_or] at hk
    rw [get?_mergeRequired h₃ hk.2.2, get?_mergePinned_of_ne h₂ hk.1 hk.2.1,
      typed.same k fun hm => ht (List.mem_singleton.1 hm), started]
  refine ⟨fun k hk => ?_, fun left right hl hr hs => ?_, fun tag tag' f g hf hg => ?_,
    fun k hk => ?_, fun k hk hn => ?_⟩
  · have first : has (Fields.union a b) k = true := by
      rw [Fields.has, started, Option.isSome_or, Bool.or_eq_true]
      exact hk.symm
    rcases has_mergePinned h₂ (typed.kept k first) with hk₂ | ⟨rfl, x, y, hx, hy, hs, hconst⟩
    · have hk₆ := placed.kept k (described.kept k (has_mergeRequired h₃ hk₂))
      rcases has_mergeConditions hk₆ with hk₇ | displaced
      · exact .inl (composed.kept k hk₇)
      · exact .inr (.inl displaced)
    · refine .inr (.inr ⟨rfl, x, y, hx, hy, hs, ?_⟩)
      rw [later _ (by simp) (by simp), get?_mergeRequired h₃ (by simp), hconst]
  · rw [later _ (by simp) (by simp), required_mergeRequired hl hr hs h₃]
  · obtain ⟨t, ht, tabled⟩ := properties_merged hself hf hg (Json.Proper.distinct (hb.of_get? hg)) h₄
    refine ⟨t, ?_, tabled, tabled.names⟩
    rw [composed.same _ (by simp), get?_mergeConditions (by simp), placed.same _ (by simp), ht]
  · simp only [ruledKeywords, List.mem_cons, List.not_mem_nil, or_false, not_or] at hk
    rw [later k (by simp [hk]) (by simp [hk]), earlier k (by simp [hk]) (by simp [hk])]
  · simp only [List.mem_cons, List.not_mem_nil, or_false, not_or] at hk
    rw [later k (by simp [hk]) fun _ => hn, earlier k (by simp [hk]) fun _ => hn]

/-! ## 5. At every depth -/

/-- **The schema that describes the member at a path of names**, one `properties` below the other. -/
inductive Describes : List String → Json → Json → Prop
  | here {schema : Json} : Describes [] schema schema
  | deeper {names : List String} {name : String} {tag tag' : Tag} {fields table : Fields}
      {schema subschema : Json} :
      get? fields "properties" = some (.obj tag' table) → get? table name = some schema →
      Describes names schema subschema → Describes (name :: names) (.obj tag fields) subschema

/-- What two schemas become, of which neither allows nothing. -/
theorem keeps_merge {conjunction : Bool} {a b m : Json} (hb : b.Proper)
    (h : merge conjunction a b = .ok m) :
    (isFalse a || isFalse b) = true ∧ m = .bool false ∨
      (isFalse a || isFalse b) = false ∧
        ∃ r, m = .obj none r ∧ Keeps conjunction (fieldsOf a) (fieldsOf b) r := by
  have proper : (Json.obj none (fieldsOf b)).Proper := by
    cases b with
    | obj tag fields => exact hb.retag
    | _ => exact Json.proper_atom Fields.distinct_nil rfl
  rw [merge] at h
  split at h
  · next hf =>
    cases h
    exact .inl ⟨hf, rfl⟩
  · next hf =>
    simp only [bind_eq_ok, Except.ok.injEq] at h
    obtain ⟨r, hr, rfl⟩ := h
    exact .inr ⟨Bool.eq_false_iff.2 hf, r, rfl, keeps_mergeFields (fun _ _ _ => rfl) proper hr⟩

/-- **A merge loses nothing, at any depth.**  Where a path of names leads into both schemas, it leads into
what they become, and to what the two schemas at its end become; these are kept, unless one of them allows
nothing. -/
theorem merge_loses_nothing {conjunction : Bool} {a b m : Json} (ha : a.Proper) (hb : b.Proper)
    (h : merge conjunction a b = .ok m) (names : List String) {u v : Json} (hu : Describes names a u)
    (hv : Describes names b v) :
    ∃ w, Describes names m w ∧ merge conjunction u v = .ok w ∧
      ((isFalse u || isFalse v) = true ∧ w = .bool false ∨
        (isFalse u || isFalse v) = false ∧
          ∃ r, w = .obj none r ∧ Keeps conjunction (fieldsOf u) (fieldsOf v) r) := by
  induction hu generalizing b m with
  | here =>
    cases hv
    exact ⟨m, .here, h, keeps_merge hb h⟩
  | deeper htable hname _ ih =>
    cases hv with
    | deeper htable' hname' rest =>
      rcases keeps_merge hb h with ⟨hf, -⟩ | ⟨-, r, rfl, keeps⟩
      · cases hf
      · obtain ⟨t, ht, tabled, -⟩ := keeps.properties _ _ _ _ htable htable'
        obtain ⟨w, hw, merged⟩ := tabled.both _ _ _ hname hname'
        obtain ⟨z, hz, rest⟩ := ih ((ha.of_get? htable).of_get? hname)
          ((hb.of_get? htable').of_get? hname') merged rest
        exact ⟨z, .deeper ht hw hz, rest⟩

/-- One level down, names that both require are mentioned once and the value that both pin down becomes a
constant; the branch of another condition is gone. -/
theorem merge_loses_nothing_below :
    let inner : Json := .obj none [("required", .arr none [.str "n"]), ("const", .num (.int 1))]
    let inner' : Json := .obj none
      [("required", .arr none [.str "m", .str "n"]), ("enum", .arr none [.num (.int 1)])]
    let a : Json := .obj none
      [("properties", .obj none [("p", inner)]), ("if", .bool true), ("then", .bool false)]
    let b : Json := .obj none
      [("properties", .obj none [("p", inner'), ("q", .bool true)]), ("if", .bool false)]
    let both : Json := .obj none [("required", .arr none [.str "n", .str "m"]), ("const", .num (.int 1))]
    let m : Json := .obj none
      [("properties", .obj none [("p", both), ("q", .bool true)]), ("if", .bool false)]
    a.Proper ∧ b.Proper ∧ merge true a b = .ok m ∧
      ∃ w, Describes ["p"] m w ∧ merge true inner inner' = .ok w ∧
        ((isFalse inner || isFalse inner') = true ∧ w = .bool false ∨
          (isFalse inner || isFalse inner') = false ∧
            ∃ r, w = .obj none r ∧ Keeps true (fieldsOf inner) (fieldsOf inner') r) := by
  intro inner inner' a b both m
  have ha : a.Proper := by decide +kernel
  have hb : b.Proper := by decide +kernel
  have hm : merge true a b = .ok m := by decide +kernel
  exact ⟨ha, hb, hm, merge_loses_nothing ha hb hm ["p"] (.deeper rfl rfl .here) (.deeper rfl rfl .here)⟩

end Conform.Schema
