/-
# How many values a schema is made of

Every value in a document counts one: each object, each list and each scalar (`Json.nodes`).  A schema
is resolved by schemas that are put together of its parts, and none of them counts as much as it does.
Two facts make that so, and neither is worth anything without the other.

* **Merging does not make more of two schemas than they are** (`nodes_merge`).  Every name of the merged
  schema holds at most what the two schemas hold under it (`load`).  There is one exception: where both
  pin down the same value, one of them perhaps as the only one that is enumerated, the constant may have
  come from the enumeration.  Then the enumeration is gone (`pins_merged`).
* **What a schema asks for leaves something behind** (`nodes_lt_of_asks`): the list of the composition, the
  condition, or the keyword that holds the schema.

The schemas have to be well formed.  A text counts one however long it is, but a list of its characters
would come of it where a list is expected.
-/
import Conform.Proofs.Asking
import Conform.Proofs.Fusing
import Conform.Proofs.Totality

namespace Conform

open Fields (get?)

/-! ## 1. Counting -/

namespace Json

mutual

/-- **How many values there are in a value**, itself among them. -/
def nodes : Json → Nat
  | .arr _ items => 1 + nodesItems items
  | .obj _ fields => 1 + nodesFields fields
  | _ => 1

/-- How many values there are in the items of an array. -/
def nodesItems : List Json → Nat
  | [] => 0
  | x :: rest => nodes x + nodesItems rest

/-- How many values there are in the members of an object. -/
def nodesFields : List (String × Json) → Nat
  | [] => 0
  | (_, x) :: rest => nodes x + nodesFields rest

end

theorem nodes_pos (x : Json) : 0 < x.nodes := by
  cases x <;> simp only [nodes] <;> omega

theorem nodesItems_append (xs ys : List Json) :
    nodesItems (xs ++ ys) = nodesItems xs + nodesItems ys := by
  induction xs with
  | nil => simp [nodesItems]
  | cons x rest ih =>
    simp only [List.cons_append, nodesItems, ih]
    omega

theorem nodesItems_sublist {xs ys : List Json} (h : xs.Sublist ys) : nodesItems xs ≤ nodesItems ys := by
  induction h with
  | slnil => exact Nat.le_refl _
  | cons y _ ih =>
    simp only [nodesItems]
    omega
  | cons_cons y _ ih =>
    simp only [nodesItems]
    omega

theorem nodes_le_of_mem_items {x : Json} {items : List Json} (h : x ∈ items) :
    x.nodes ≤ nodesItems items := by
  have := nodesItems_sublist (List.singleton_sublist.2 h)
  simpa [nodesItems] using this

theorem nodesFields_filter (p : String × Json → Bool) (fields : Fields) :
    nodesFields (fields.filter p) ≤ nodesFields fields := by
  induction fields with
  | nil => exact Nat.le_refl _
  | cons member rest ih =>
    simp only [List.filter_cons]
    split
    · simp only [nodesFields]
      omega
    · simp only [nodesFields]
      omega

end Json

open Json (nodesItems nodesFields)

namespace Fields

/-- How many values there are under a name. -/
def load (fields : Fields) (k : String) : Nat :=
  match get? fields k with
  | some x => x.nodes
  | none => 0

variable {a b fields : Fields} {k : String} {x : Json}

theorem load_of_get? (h : get? fields k = some x) : load fields k = x.nodes := by
  rw [load, h]

theorem load_of_mem (hd : Distinct fields) (h : (k, x) ∈ fields) : load fields k = x.nodes :=
  load_of_get? (get?_of_mem hd h)

theorem load_erase {j : String} (h : j ≠ k) : load (erase fields k) j = load fields j := by
  rw [load, load, get?_erase, if_neg h]

/-- What is under a name is left behind when the name is left out. -/
theorem nodesFields_erase (fields : Fields) (k : String) :
    nodesFields (erase fields k) + load fields k ≤ nodesFields fields := by
  induction fields with
  | nil => exact Nat.le_refl _
  | cons member rest ih =>
    obtain ⟨i, x⟩ := member
    by_cases hk : i = k
    · subst hk
      have := Json.nodesFields_filter (fun member => member.1 != i) rest
      simp only [erase, load, get?_cons, List.filter_cons, bne_self_eq_false, Bool.false_eq_true,
        if_false, if_true, nodesFields]
      omega
    · have hne : (i != k) = true := by simpa using hk
      simp only [erase, load, get?_cons, List.filter_cons, hne, if_true, nodesFields,
        if_neg (Ne.symm hk)] at ih ⊢
      omega

theorem without_erase {keys : List String} (hk : k ∈ keys) :
    without (erase fields k) keys = without fields keys := by
  simp only [without, erase, List.filter_filter]
  refine List.filter_congr fun member _ => ?_
  by_cases hm : member.1 = k
  · simp [hm, hk]
  · simp [hm]

theorem nodesFields_put (fields : Fields) (k : String) (x : Json) :
    nodesFields (put fields k x) ≤ nodesFields fields + x.nodes := by
  induction fields with
  | nil => simp [put, nodesFields]
  | cons member rest ih =>
    obtain ⟨i, y⟩ := member
    rw [put]
    split
    · simp only [nodesFields]
      omega
    · simp only [nodesFields]
      omega

/-- So is what is under one of several names. -/
theorem nodesFields_without (fields : Fields) {keys : List String} (hk : k ∈ keys) :
    nodesFields (without fields keys) + load fields k ≤ nodesFields fields := by
  have left := nodesFields_erase fields k
  have rest := Json.nodesFields_filter (fun member => !keys.contains member.1) (erase fields k)
  rw [← without_erase hk]
  simp only [without] at rest ⊢
  omega

/-- And what is under two of them. -/
theorem nodesFields_without_two {j : String} (fields : Fields) {keys : List String} (hj : j ∈ keys)
    (hk : k ∈ keys) (hne : j ≠ k) :
    nodesFields (without fields keys) + load fields j + load fields k ≤ nodesFields fields := by
  have left := nodesFields_erase fields k
  have rest := nodesFields_without (erase fields k) hj
  rw [load_erase hne, without_erase hk] at rest
  omega

/-- **Members that hold under each name no more than two others do together** are no more than these. -/
theorem nodesFields_le_add {r : Fields} (hd : Distinct r)
    (h : ∀ k x, (k, x) ∈ r → x.nodes ≤ load a k + load b k) :
    nodesFields r ≤ nodesFields a + nodesFields b := by
  induction r generalizing a b with
  | nil => exact Nat.zero_le _
  | cons member rest ih =>
    obtain ⟨k, x⟩ := member
    obtain ⟨hk, hrest⟩ := distinct_cons.1 hd
    have here := h k x (List.mem_cons_self ..)
    have later : nodesFields rest ≤ nodesFields (erase a k) + nodesFields (erase b k) := by
      refine ih hrest fun j y hj => ?_
      have hne : j ≠ k := by
        rintro rfl
        exact hk (mem_names_of_mem hj)
      rw [load_erase hne, load_erase hne]
      exact h j y (List.mem_cons_of_mem _ hj)
    have := nodesFields_erase a k
    have := nodesFields_erase b k
    simp only [nodesFields]
    omega

end Fields

open Fields (load load_of_get? load_of_mem)

/-! ## 2. What is put together -/

namespace Json

/-- Two lists joined without repetition. -/
theorem nodes_joined (tag tag' : Tag) (xs ys : List Json) :
    (Json.arr none (distinct (xs ++ ys))).nodes + 1 ≤ (Json.arr tag xs).nodes + (Json.arr tag' ys).nodes := by
  have := nodesItems_sublist (distinct_sublist (xs ++ ys))
  rw [nodesItems_append] at this
  simp only [nodes]
  omega

/-- **Uniting does not make more of two documents than they are.** -/
theorem nodes_unite {x y : Json} (hx : x.Proper) (hy : y.Proper) :
    (unite x y).nodes + 1 ≤ x.nodes + y.nodes := by
  induction x using Json.induction generalizing y with
  | step x ih =>
    rcases Schema.unite_cases x y with ⟨tag, f, tag', g, rfl, rfl, h⟩ |
        ⟨tag, xs, tag', ys, rfl, rfl, h⟩ | h
    · have members : nodesFields (uniteFields f g) ≤ nodesFields f + nodesFields g := by
        refine Fields.nodesFields_le_add (Schema.distinct_uniteFields hx.distinct) fun k z hz => ?_
        rcases Schema.mem_uniteFields hy.distinct hz with hz | hz | ⟨u, v, hu, hv, rfl⟩
        · rw [load_of_mem hx.distinct hz]
          omega
        · rw [load_of_mem hy.distinct hz]
          omega
        · have := ih u (List.mem_map.2 ⟨_, hu, rfl⟩) (hx.of_mem_fields hu) (hy.of_mem_fields hv)
          rw [load_of_mem hx.distinct hu, load_of_mem hy.distinct hv]
          omega
      rw [h]
      simp only [nodes]
      omega
    · rw [h]
      exact nodes_joined tag tag' xs ys
    · have := nodes_pos x
      rw [h]
      omega

end Json

namespace Schema

theorem distinctOccurrences_sublist (schemas : List Json) :
    (distinctOccurrences schemas).Sublist schemas := by
  have from_kept : ∀ kept : List Json, ∃ more : List Json, more.Sublist schemas ∧ schemas.foldl
      (fun acc y => if acc.any (Json.sameOccurrence y) then acc else acc ++ [y]) kept =
        kept ++ more := by
    induction schemas with
    | nil => exact fun kept => ⟨[], .slnil, by simp⟩
    | cons y rest ih =>
      intro kept
      rw [List.foldl_cons]
      split
      · obtain ⟨more, hm, he⟩ := ih kept
        exact ⟨more, .cons y hm, he⟩
      · obtain ⟨more, hm, he⟩ := ih (kept ++ [y])
        exact ⟨y :: more, .cons_cons y hm, by simpa using he⟩
  obtain ⟨more, hm, he⟩ := from_kept []
  rw [distinctOccurrences, he, List.nil_append]
  exact hm

/-- The types in common are no more than those of the first declaration. -/
theorem nodes_intersectTypes {x y z : Json} (h : intersectTypes x y = .ok z) : z.nodes ≤ x.nodes := by
  unfold intersectTypes at h
  extract_lets typesOf left right shared listed common at h
  have sub : shared.Sublist left := List.filter_sublist
  have whole : nodesItems left ≤ x.nodes ∧ (2 ≤ left.length → nodesItems left < x.nodes) := by
    cases x <;> simp [left, typesOf, Json.nodes, nodesItems]
  have hcommon : common = [.str "integer"] ∨ common = shared := ite_eq_or_eq _ _ _
  have few := Json.nodesItems_sublist sub
  have positive := Json.nodes_pos x
  clear_value common shared left
  split at h
  · cases h
  · cases h
    rcases hcommon with hcommon | rfl
    · cases hcommon
      simp only [Json.nodes]
      omega
    · simp only [nodesItems] at few
      omega
  · next types hnil hone =>
    cases h
    rcases hcommon with rfl | rfl
    · exact absurd rfl (hone _)
    · have two : 2 ≤ common.length := by
        match common, hnil, hone with
        | [], hnil, _ => exact absurd rfl hnil
        | [type], _, hone => exact absurd rfl (hone type)
        | _ :: _ :: _, _, _ => simp
      have := whole.2 (Nat.le_trans two sub.length_le)
      simp only [Json.nodes]
      omega

/-! ## 3. What merging makes of two schemas -/

section Merged

variable {terms : Schema.Terms} {conjunction : Bool} {a b : Json} {k : String} {x y z m : Json}

theorem distinct_fieldsOf (hx : x.Proper) : Fields.Distinct (fieldsOf x) := by
  cases x with
  | obj tag fields => exact hx.distinct
  | _ => exact Fields.distinct_nil

/-- The rule for constants and enumerations: a constant takes the place of the enumeration, or the
constants stay what they are. -/
theorem pins_mergePinned {a b r r' : Fields} (h : mergePinned a b r = .ok r') :
    ((∃ u, pinned? a = some u ∧ get? r' "const" = some u ∧ get? r' "enum" = none) ∨
      get? r' "const" = get? r "const") ∧
    get? r' "required" = get? r "required" := by
  rcases mergePinned_cases a b r with ⟨u, v, hu, -, hm⟩ | ⟨_, _, -, -, hm⟩ | hm
  · cases hm.symm.trans h
    exact ⟨.inl ⟨u, hu, by simp⟩, by simp⟩
  · rw [hm] at h
    simp only [bind_eq_ok, Except.ok.injEq] at h
    obtain ⟨_, -, _, -, rfl⟩ := h
    exact ⟨.inr (by simp), by simp⟩
  · cases hm.symm.trans h
    exact ⟨.inr rfl, rfl⟩

/-- **A constant that both schemas pin down takes the place of the enumerations**, and names are required
only if one of the two schemas requires some. -/
theorem pins_merged {r : Fields} (hb : b.Proper) (h : merge conjunction a b = .ok (.obj none r)) :
    ((∃ u, pinned? (fieldsOf a) = some u ∧ get? r "const" = some u ∧ get? r "enum" = none) ∨
      ∀ u, get? r "const" = some u →
        get? (fieldsOf a) "const" = some u ∨ get? (fieldsOf b) "const" = some u) ∧
    (get? r "required" ≠ none →
      get? (fieldsOf a) "required" ≠ none ∨ get? (fieldsOf b) "required" ≠ none) := by
  rw [merge] at h
  split at h
  · cases h
  simp only [bind_eq_ok, Except.ok.injEq, mergeFields, Json.obj.injEq, true_and] at h
  obtain ⟨r, ⟨r₁, h₁, r₂, h₂, r₃, h₃, r₄, h₄, r₅, h₅, r₆, h₆, r₇, h₇, r₈, h₈, r₉, h₉, hr⟩, rfl⟩ := h
  have behind : ∀ k ∈ ["const", "enum", "required"], get? r k = get? r₃ k := by
    intro k hk
    have other : ∀ {j}, j ∉ ["const", "enum", "required"] → k ≠ j := fun hj he => hj (he ▸ hk)
    rw [get?_mergeComposition hr (other (by simp)), get?_mergeComposition h₉ (other (by simp)),
      get?_mergeComposition h₈ (other (by simp)), get?_mergeNegated h₇ (other (by simp)),
      get?_mergeConditions (by simp [other]), get?_mergeObjects h₆ fun he => absurd he (other (by simp)),
      get?_mergeObjects h₅ fun he => absurd he (other (by simp)),
      get?_uniteKeyword fun he => absurd he (other (by simp)),
      get?_uniteKeyword fun he => absurd he (other (by simp)),
      get?_mergeProperties h₄ fun he => absurd he (other (by simp))]
  have before : ∀ k ∈ ["const", "required"],
      get? r₁ k = (get? (fieldsOf b) k).or (get? (fieldsOf a) k) := by
    intro k hk
    have hd := distinct_fieldsOf hb
    have typed : ∀ y, get? (fieldsOf b) "type" = some y →
        get? (Fields.union (fieldsOf a) (fieldsOf b)) "type" = some y := by
      intro y hy
      rw [Fields.get?_union hd, hy, Option.some_or]
    rw [get?_mergeTypes h₁ (by rintro - rfl; simp at hk) typed, Fields.get?_union hd]
  obtain ⟨pins, required⟩ := pins_mergePinned h₂
  constructor
  · rw [behind "const" (by simp), behind "enum" (by simp), get?_mergeRequired h₃ (by simp),
      get?_mergeRequired h₃ (by simp)]
    refine pins.imp id fun same u hu => ?_
    rw [same, before "const" (by simp)] at hu
    exact (Option.or_eq_some_iff.1 hu).symm.imp (·.2) id
  · intro there
    by_contra neither
    obtain ⟨ha, hb⟩ := not_or.1 neither
    rw [ne_eq, not_not] at ha hb
    rw [mergeRequired, if_neg (by simp [Fields.has, ha, hb])] at h₃
    cases h₃
    rw [behind "required" (by simp), required, before "required" (by simp), ha, hb] at there
    exact there rfl

/-- What holds in a well-formed schema, and that it is proper. -/
theorem holds_of_get? (ha : WellFormed terms a) (hk : get? (fieldsOf a) k = some x) :
    Holds terms k x ∧ x.Proper :=
  ⟨ha.formed.holds_fieldsOf (Json.mem_of_get? hk), proper_of_mem_fieldsOf ha.proper (Json.mem_of_get? hk)⟩

/-- The names that a well-formed schema requires are no more than the keyword counts, and less if it is
there. -/
theorem nodesItems_required {items : List Json} (ha : WellFormed terms a)
    (he : entries ((get? (fieldsOf a) "required").getD (.arr none [])) = .ok items) :
    nodesItems items ≤ load (fieldsOf a) "required" ∧
      (get? (fieldsOf a) "required" ≠ none → nodesItems items < load (fieldsOf a) "required") := by
  cases hk : get? (fieldsOf a) "required" with
  | none =>
    rw [hk] at he
    cases he
    exact ⟨Nat.zero_le _, by simp⟩
  | some x =>
    obtain ⟨tag, texts, rfl, -⟩ := isTextList_iff.1 (holds_of_get? ha hk).1.fits
    rw [hk] at he
    cases he
    rw [load_of_get? hk]
    simp only [Json.nodes]
    omega

/-- **Members blended name by name are no more than those of both sides**, if a merge makes less of any
two. -/
theorem nodesFields_blended {f g r : Fields} (hf : Fields.Distinct f) (hg : Fields.Distinct g)
    (hr : Fields.Distinct r)
    (less : ∀ n u v s, (n, u) ∈ f → (n, v) ∈ g → merge conjunction u v = .ok s →
      s.nodes + 1 ≤ u.nodes + v.nodes)
    (blended : ∀ n s, (n, s) ∈ r → (n, s) ∈ f ∨ (n, s) ∈ g ∨
      ∃ u v, (n, u) ∈ f ∧ (n, v) ∈ g ∧ merge conjunction u v = .ok s) :
    nodesFields r ≤ nodesFields f + nodesFields g := by
  refine Fields.nodesFields_le_add hr fun n s hs => ?_
  rcases blended n s hs with hs | hs | ⟨u, v, hu, hv, hs⟩
  · rw [load_of_mem hf hs]
    omega
  · rw [load_of_mem hg hs]
    omega
  · have := less n u v s hu hv hs
    rw [load_of_mem hf hu, load_of_mem hg hv]
    omega

/-- **What blends two members is no more than they are together.** -/
theorem load_blend (ha : WellFormed terms a) (hb : WellFormed terms b)
    (ih : ∀ x y z : Json, x.size < a.size → WellFormed terms x → WellFormed terms y →
      merge conjunction x y = .ok z → z.nodes + 1 ≤ x.nodes + y.nodes)
    (h : Blend conjunction (fieldsOf a) (fieldsOf b) k z) (pinned : k ≠ "const")
    (required : k = "required" →
      get? (fieldsOf a) "required" ≠ none ∨ get? (fieldsOf b) "required" ≠ none) :
    z.nodes ≤ load (fieldsOf a) k + load (fieldsOf b) k := by
  cases h with
  | types hx hy h =>
    have := nodes_intersectTypes h
    rw [load_of_get? hx]
    omega
  | constant => exact absurd rfl pinned
  | @enumeration x y left right hx hy hl hr =>
    obtain ⟨tag, xs, rfl⟩ := (holds_of_get? ha hx).1.list
    obtain ⟨tag', ys, rfl⟩ := (holds_of_get? hb hy).1.list
    cases hl
    cases hr
    have := Json.nodes_joined tag tag' left right
    rw [load_of_get? hx, load_of_get? hy]
    omega
  | @required left right hl hr =>
    obtain ⟨left_le, left_lt⟩ := nodesItems_required ha hl
    obtain ⟨right_le, right_lt⟩ := nodesItems_required hb hr
    have joined := Json.nodesItems_sublist (Json.distinct_sublist (left ++ right))
    rw [Json.nodesItems_append] at joined
    simp only [Json.nodes]
    rcases required rfl with h | h
    · have := left_lt h
      omega
    · have := right_lt h
      omega
  | @properties x y left right merged hx hy hl hr hm hd =>
    obtain ⟨hax, px⟩ := holds_of_get? ha hx
    obtain ⟨hby, py⟩ := holds_of_get? hb hy
    obtain ⟨tag, f, rfl, hf⟩ := hax.table rfl
    obtain ⟨tag', g, rfl, hg⟩ := hby.table rfl
    cases hl
    cases hr
    have members : nodesFields merged ≤ nodesFields left + nodesFields right := by
      refine nodesFields_blended px.distinct py.distinct (hd px.distinct) ?_ hm
      intro n u v s hu hv hs
      have smaller : u.size < a.size := Nat.lt_trans (Json.size_lt_of_mem_fields tag hu)
        (size_lt_of_mem_fieldsOf (Json.mem_of_get? hx))
      exact ih u v s smaller ⟨hf n u hu, px.of_mem_fields hu⟩ ⟨hg n v hv, py.of_mem_fields hv⟩ hs
    rw [load_of_get? hx, load_of_get? hy]
    simp only [Json.nodes]
    omega
  | united hk hx hy =>
    have := Json.nodes_unite (holds_of_get? ha hx).2 (holds_of_get? hb hy).2
    rw [load_of_get? hx, load_of_get? hy]
    omega
  | @merged k x y z hk hx hy hobj h =>
    obtain ⟨hax, px⟩ := holds_of_get? ha hx
    obtain ⟨hby, py⟩ := holds_of_get? hb hy
    have schemas : Formed terms x ∧ Formed terms y := by
      simp only [List.mem_cons, List.not_mem_nil, or_false] at hk
      rcases hk with rfl | rfl | rfl
      · exact ⟨hax.schema rfl, hby.schema rfl⟩
      · obtain ⟨hxo, hyo⟩ := hobj.resolve_left (by decide)
        exact ⟨hax.items hxo, hby.items hyo⟩
      · exact ⟨hax.schema rfl, hby.schema rfl⟩
    have := ih _ _ _ (size_lt_of_mem_fieldsOf (Json.mem_of_get? hx)) ⟨schemas.1, px⟩ ⟨schemas.2, py⟩ h
    rw [load_of_get? hx, load_of_get? hy]
    omega
  | @composed k x y left right hk hx hy hl hr =>
    have shape : Shape.ofKeyword k = .schemas := by
      simp only [List.mem_cons, List.not_mem_nil, or_false] at hk
      rcases hk with rfl | rfl | rfl <;> rfl
    obtain ⟨tag, xs, rfl, -⟩ := (holds_of_get? ha hx).1.schemas shape
    obtain ⟨tag', ys, rfl, -⟩ := (holds_of_get? hb hy).1.schemas shape
    cases hl
    cases hr
    have := Json.nodesItems_sublist (distinctOccurrences_sublist (left ++ right))
    rw [Json.nodesItems_append] at this
    rw [load_of_get? hx, load_of_get? hy]
    simp only [Json.nodes]
    omega

/-- Keeping the value that a schema pins down as a constant, in place of the enumeration, makes no more
of the schema. -/
theorem nodes_pinned {fields : Fields} (h : pinned? fields = some x) :
    nodesFields (Fields.put (Fields.erase fields "enum") "const" x) ≤ nodesFields fields := by
  have left := Fields.nodesFields_erase fields "enum"
  cases hc : get? fields "const" with
  | some y =>
    simp only [pinned?, hc, Option.some.injEq] at h
    have kept : get? (Fields.erase fields "enum") "const" = some x := by
      rw [Fields.get?_erase, if_neg (by simp), hc, h]
    rw [Fields.put_of_get? kept]
    omega
  | none =>
    have put := Fields.nodesFields_put (Fields.erase fields "enum") "const" x
    simp only [pinned?, hc] at h
    split at h
    · next hn => cases hn
    · next tag y _ he =>
      cases h
      rw [load_of_get? he] at left
      simp only [Json.nodes, nodesItems] at left
      omega
    · cases h

theorem nodesFields_fieldsOf (x : Json) : nodesFields (fieldsOf x) + 1 ≤ x.nodes := by
  cases x <;> simp only [fieldsOf, Json.nodes, nodesFields] <;> omega

/-- **Merging does not make more of two schemas than they are**: the merged one counts less. -/
theorem nodes_merge (ha : WellFormed terms a) (hb : WellFormed terms b)
    (h : merge conjunction a b = .ok m) : m.nodes + 1 ≤ a.nodes + b.nodes := by
  induction a using Json.sizeInduction generalizing b m with
  | step a ih =>
    have left := nodesFields_fieldsOf a
    have right := nodesFields_fieldsOf b
    have da := distinct_fieldsOf ha.proper
    have db := distinct_fieldsOf hb.proper
    rcases merge_sourced h with rfl | ⟨r, rfl, hr⟩
    · simp only [Json.nodes]
      omega
    obtain ⟨pins, required⟩ := pins_merged hb.proper h
    have other : ∀ k z, (k, z) ∈ r → k ≠ "const" →
        z.nodes ≤ load (fieldsOf a) k + load (fieldsOf b) k := by
      intro k z hz hk
      rcases hr.source k z hz with hz | hz | blend
      · rw [load_of_mem da hz]
        omega
      · rw [load_of_mem db hz]
        omega
      · refine load_blend ha hb (fun x y z hx hxa hyb hxy => ih x hx hxa hyb hxy) blend hk ?_
        rintro rfl
        exact required (by simp [Fields.get?_of_mem (hr.distinct da) hz])
    suffices nodesFields r ≤ nodesFields (fieldsOf a) + nodesFields (fieldsOf b) by
      simp only [Json.nodes]
      omega
    rcases pins with ⟨u, hu, hconst, henum⟩ | kept
    · -- the enumeration that the constant may have come from counts for the constant
      refine Nat.le_trans (Fields.nodesFields_le_add (hr.distinct da) fun k z hz => ?_)
        (Nat.add_le_add_right (nodes_pinned hu) _)
      have there := Fields.get?_of_mem (hr.distinct da) hz
      by_cases hk : k = "const"
      · subst hk
        cases there.symm.trans hconst
        rw [load_of_get? (x := u) (by simp)]
        omega
      · have hne : k ≠ "enum" := by
          rintro rfl
          rw [henum] at there
          cases there
        have := other k z hz hk
        rw [load, Fields.get?_put, if_neg hk, Fields.get?_erase, if_neg hne]
        exact this
    · refine Fields.nodesFields_le_add (hr.distinct da) fun k z hz => ?_
      by_cases hk : k = "const"
      · subst hk
        rcases kept z (Fields.get?_of_mem (hr.distinct da) hz) with hz | hz
        · rw [load_of_get? hz]
          omega
        · rw [load_of_get? hz]
          omega
      · exact other k z hz hk

end Merged

end Schema

/-! ## 4. What is left behind -/

namespace Json

theorem nodes_lt_of_get? {fields : Fields} {k : String} {x : Json} (tag : Tag)
    (h : get? fields k = some x) : x.nodes < (Json.obj tag fields).nodes := by
  have := Fields.nodesFields_erase fields k
  rw [load_of_get? h] at this
  simp only [nodes]
  omega

theorem nodes_lt_of_mem_fields {fields : Fields} {k : String} {x : Json} (tag : Tag)
    (h : (k, x) ∈ fields) : x.nodes < (Json.obj tag fields).nodes := by
  induction fields with
  | nil => cases h
  | cons member rest ih =>
    simp only [nodes, nodesFields] at ih ⊢
    rcases List.mem_cons.1 h with rfl | h
    · simp only
      omega
    · have := ih h
      omega

theorem nodes_lt_of_mem_children {x y : Json} (h : y ∈ x.children) : y.nodes < x.nodes := by
  cases x with
  | arr tag items =>
    have inside : y ∈ items := h
    have := nodes_le_of_mem_items inside
    simp only [nodes]
    omega
  | obj tag fields =>
    obtain ⟨member, hm, rfl⟩ := List.mem_map.1 h
    exact nodes_lt_of_mem_fields tag hm
  | _ => cases h

end Json

namespace Resolve

open Schema (WellFormed)

variable {terms : Schema.Terms} {setting : Probe.Setting} {tag : Tag} {fields : Fields}
  {extension : Path} {node : Reference.Node}

/-- **A well-formed schema of fewer values**, at the place or right below it. -/
def Lighter (terms : Schema.Terms) (bound : Nat) (extension : Path) (node : Reference.Node) : Prop :=
  extension.length ≤ 1 ∧ ∃ s, node = .node s ∧ WellFormed terms s ∧ s.nodes < bound

/-- What a schema leads to by type is lighter than it is. -/
theorem lighter_of_enters (h : WellFormed terms (.obj tag fields))
    (enters : Enters setting fields extension node) :
    Lighter terms (Json.obj tag fields).nodes extension node := by
  cases enters with
  | @tabled k name segment t table s hk hx hs =>
    refine ⟨by simp, s, rfl, h.inside hx (Schema.mem_schemasIn_of_mem_partsOf ?_), ?_⟩
    · rcases List.mem_pair.1 hk with rfl | rfl <;> exact List.mem_map.2 ⟨_, hs, rfl⟩
    · exact Nat.lt_trans (Json.nodes_lt_of_mem_fields t hs) (Json.nodes_lt_of_get? tag hx)
  | @dependent name t table s hx hs =>
    refine ⟨by simp, s, rfl, h.inside hx ?_, ?_⟩
    · exact Schema.mem_schemasIn_of_mem_partsOf (List.mem_map.2 ⟨_, hs, rfl⟩)
    · exact Nat.lt_trans (Json.nodes_lt_of_mem_fields t hs) (Json.nodes_lt_of_get? tag hx)
  | @additional segment x node hx hn =>
    have formed : WellFormed terms x := h.schema rfl hx
    rw [Probe.expand_of_formed formed.formed] at hn
    cases hn
    exact ⟨by simp, x, rfl, formed, Json.nodes_lt_of_get? tag hx⟩
  | @item i segment s hs =>
    obtain ⟨k, x, hx, hp⟩ := Schema.exists_of_itemSchema hs
    refine ⟨by simp, s, rfl, h.item hs, Nat.lt_of_le_of_lt ?_ (Json.nodes_lt_of_get? tag hx)⟩
    rcases Schema.mem_partsOf hp with rfl | hp
    · exact Nat.le_refl _
    · exact Nat.le_of_lt (Json.nodes_lt_of_mem_children hp)

theorem nodes_mergedPart (member : Json) : (Step.mergedPart member).nodes ≤ member.nodes := by
  unfold Step.mergedPart
  split
  · cases member with
    | obj tag fields =>
      have := Json.nodesFields_filter (fun field => !Schema.compositeKeywords.contains field.1) fields
      simp only [Step.plainPart, Fields.without, Json.nodes]
      omega
    | _ => exact Nat.le_refl _
  · exact Nat.le_refl _

/-- The members of `allOf` merged into a schema are no more than all of them together. -/
theorem nodes_mergedAll {base merged : Json} {members : List Json} (hb : WellFormed terms base)
    (hm : ∀ member ∈ members, WellFormed terms member) (h : mergedAll base members = .ok merged) :
    WellFormed terms merged ∧ merged.nodes ≤ base.nodes + nodesItems members := by
  induction members generalizing base with
  | nil =>
    cases h
    exact ⟨hb, Nat.le_add_right _ _⟩
  | cons member rest ih =>
    obtain ⟨first, others⟩ := List.forall_mem_cons.1 hm
    rw [mergedAll, List.foldlM_cons, bind_eq_ok] at h
    obtain ⟨next, hn, h⟩ := h
    have part := Step.wellFormed_mergedPart first
    obtain ⟨formed, le⟩ := ih (hb.merge part hn) others h
    have here := Schema.nodes_merge hb part hn
    have stripped := nodes_mergedPart member
    refine ⟨formed, ?_⟩
    simp only [nodesItems]
    omega

/-- **What a schema asks for is lighter than it is.** -/
theorem lighter_of_asks (h : WellFormed terms (.obj tag fields))
    (asks : Asks setting fields extension node) :
    Lighter terms (Json.obj tag fields).nodes extension node := by
  have listed : ∀ {k x}, Schema.Shape.ofKeyword k = .schemas → get? fields k = some x →
      ∀ {schemas}, Probe.entriesOf x = .ok schemas → (∀ s ∈ schemas, WellFormed terms s) ∧
        nodesItems schemas < load fields k := by
    intro k x hk hx schemas he
    obtain ⟨t, items, rfl, formed⟩ := h.schemas hk hx
    cases he
    rw [load_of_get? hx]
    simp only [Json.nodes]
    exact ⟨formed, by omega⟩
  cases asks with
  | entered enters => exact lighter_of_enters h enters
  | @rest k keys x hk hx =>
    have among : k ∈ keys := by
      simp only [peeled, List.mem_cons, Prod.mk.injEq, List.not_mem_nil, or_false] at hk
      rcases hk with ⟨rfl, rfl⟩ | ⟨rfl, rfl⟩ | ⟨rfl, rfl⟩ | ⟨rfl, rfl⟩ <;> simp
    have left := Fields.nodesFields_without fields among
    have := Json.nodes_pos x
    rw [load_of_get? hx] at left
    refine ⟨by simp, _, rfl, h.without, ?_⟩
    simp only [Json.nodes]
    omega
  | @chosen k x branch effective hx hk hb hm =>
    have formed : WellFormed terms branch := by
      rcases List.mem_pair.1 hk with rfl | rfl <;> exact h.schema rfl hb
    have rest : WellFormed terms (.obj none (Fields.without fields ["if", "then", "else"])) :=
      h.without
    have among : k ∈ ["if", "then", "else"] := List.mem_cons_of_mem _ hk
    have left := Fields.nodesFields_without_two fields among (List.mem_cons_self ..)
      (by rintro rfl; simp at hk)
    have merged := Schema.nodes_merge rest formed hm
    have := Json.nodes_pos x
    rw [load_of_get? hx, load_of_get? hb] at left
    refine ⟨by simp, effective, rfl, rest.merge formed hm, ?_⟩
    simp only [Json.nodes] at merged ⊢
    omega
  | @member x member members hx he hm =>
    obtain ⟨formed, lt⟩ := listed rfl hx he
    have := Json.nodes_le_of_mem_items hm
    have := Json.nodes_lt_of_get? tag hx
    rw [load_of_get? hx] at lt
    exact ⟨by simp, member, rfl, formed member hm, by omega⟩
  | @flattened x merged members hx he hm =>
    obtain ⟨formed, lt⟩ := listed rfl hx he
    have rest : WellFormed terms (.obj none (Fields.without fields ["allOf"])) := h.without
    obtain ⟨all, le⟩ := nodes_mergedAll rest formed hm
    have left := Fields.nodesFields_without fields (List.mem_singleton_self "allOf")
    refine ⟨by simp, merged, rfl, all, ?_⟩
    simp only [Json.nodes] at le ⊢
    omega
  | @selected x branch effective branches hx he hb hm =>
    obtain ⟨formed, lt⟩ := listed rfl hx he
    have rest : WellFormed terms (.obj none (Fields.without fields ["oneOf"])) := h.without
    have left := Fields.nodesFields_without fields (List.mem_singleton_self "oneOf")
    have merged := Schema.nodes_merge rest (formed branch hb) hm
    have := Json.nodes_le_of_mem_items hb
    refine ⟨by simp, effective, rfl, rest.merge (formed branch hb) hm, ?_⟩
    simp only [Json.nodes] at merged ⊢
    omega
  | @negated x hx => exact ⟨by simp, x, rfl, h.schema rfl hx, Json.nodes_lt_of_get? tag hx⟩

end Resolve

end Conform
