/-
# Laying schemas over one another

Where two schemas have nothing but types, required names, properties and keywords without a rule of their
own, their merge lays the second over the first (`Laid`): keywords are overridden, required names are
joined, properties are laid over properties name by name.

Three such schemas can be put together in either order (`merge_assoc`).  What stands in the way is that a
merge also tidies up.  A schema under a name that only one side has is kept as it is, while one under a
common name comes out as an object without repeated requirements, even where both were `true`.  So whether
something is tidied up must not depend on the order, and it does not: it is if and only if two of the three
have it.  `Joined.assoc` goes through the presence patterns, once for names and keywords alike, and leaves
the case in which all three have something to the induction.
-/
import Conform.Proofs.Carrying
import Conform.Proofs.Firsts

namespace Conform

/-! ## 1. Order of names -/

namespace Fields

variable {a b c ab bc : Fields}

instance : DecidablePred Distinct := fun fields => inferInstanceAs (Decidable (names fields).Nodup)

/-- **The order of names does not depend on the order in which members are laid over one another.** -/
theorem names_union_assoc (hb : Distinct b) (hc : Distinct c) (hab : names ab = names (union a b))
    (hbc : names bc = names (union b c)) : names (union ab c) = names (union a bc) := by
  have hdbc : Distinct bc := by
    rw [Distinct, hbc]
    exact hb.union
  rw [names_union hc, names_union hdbc, hab, hbc, names_union hb, names_union hc, List.filter_append,
    List.append_assoc, List.filter_filter]
  have fresh : (names c).filter (· ∉ names a ++ (names b).filter (· ∉ names a)) =
      (names c).filter fun k => decide (k ∉ names a) && decide (k ∉ names b) :=
    List.filter_congr fun k _ => by by_cases hka : k ∈ names a <;> simp [hka]
  rw [fresh]

end Fields

namespace Schema

open Fields (get? has)
open Probe (entriesUnder requiredNames)

/-! ## 2. Two of what may be missing -/

/-- **Two of what may be missing become one**: what only one side has is kept, and what both have is put
together. -/
inductive Joined (R : Json → Json → Json → Prop) : (x y z : Option Json) → Prop
  | left (x : Option Json) : Joined R x none x
  | right (y : Option Json) : Joined R none y y
  | both {x y z : Json} (h : R x y z) : Joined R (some x) (some y) (some z)

namespace Joined

variable {R : Json → Json → Json → Prop} {x y z z' : Option Json}

/-- There is at most one result if there is at most one where both have something. -/
theorem unique (functional : ∀ x y z z', R x y z → R x y z' → z = z') (h : Joined R x y z)
    (h' : Joined R x y z') : z = z' := by
  cases h with
  | left x =>
    cases h' with
    | left => rfl
    | right => rfl
  | right y =>
    cases h' with
    | left => rfl
    | right => rfl
  | both h =>
    cases h' with
    | both h' => exact congrArg some (functional _ _ _ _ h h')

/-- **Three can be put together in either order**, whichever of them are missing, if they can where none
is. -/
theorem assoc {xy yz m m' : Option Json} (functional : ∀ x y z z', R x y z → R x y z' → z = z')
    (associative : ∀ u v w p q t t', x = some u → y = some v → z = some w → R u v p → R p w t → R v w q →
      R u q t' → t = t')
    (hxy : Joined R x y xy) (hm : Joined R xy z m) (hyz : Joined R y z yz) (hm' : Joined R x yz m') :
    m = m' := by
  cases x with
  | none =>
    obtain rfl := hxy.unique functional (.right y)
    obtain rfl := hm'.unique functional (.right yz)
    exact hm.unique functional hyz
  | some u =>
    cases y with
    | none =>
      obtain rfl := hxy.unique functional (.left _)
      obtain rfl := hyz.unique functional (.right z)
      exact hm.unique functional hm'
    | some v =>
      cases z with
      | none =>
        obtain rfl := hyz.unique functional (.left _)
        obtain rfl := hm.unique functional (.left xy)
        exact hxy.unique functional hm'
      | some w =>
        cases hxy with
        | both huv =>
          cases hm with
          | both ht =>
            cases hyz with
            | both hvw =>
              cases hm' with
              | both ht' => exact congrArg some (associative u v w _ _ _ _ rfl rfl rfl huv ht hvw ht')

end Joined

/-- What is under a name in a table of two, of which one or both have it. -/
theorem Tabled.joined {conjunction : Bool} {f g t : Fields} (h : Tabled (.merging conjunction) f g t)
    (n : String) :
    Joined (fun u v w => merge conjunction u v = .ok w) (get? f n) (get? g n) (get? t n) := by
  cases hg : get? g n with
  | none =>
    rw [h.left n hg]
    exact .left _
  | some v =>
    cases hf : get? f n with
    | none =>
      rw [h.right n v hf hg]
      exact .right _
    | some u =>
      obtain ⟨w, hw, fused⟩ := h.both n u v hf hg
      rw [hw]
      exact .both fused

/-! ## 3. One schema over another -/

/-- **Tables of schemas laid over one another**, name by name. -/
inductive Tables : Json → Json → Json → Prop
  | intro {tag tag' : Tag} {f g t : Fields} (distinct : Fields.Distinct f) (distinct' : Fields.Distinct g)
      (names : Fields.names t = Fields.names (Fields.union f g))
      (merged : ∀ n, Joined (fun u v w => merge false u v = .ok w) (get? f n) (get? g n) (get? t n)) :
      Tables (.obj tag f) (.obj tag' g) (.obj none t)

/-- **The second schema laid over the first.** -/
structure Laid (a b r : Fields) : Prop where
  names : Fields.names r = Fields.names (Fields.union a b)
  required : get? r "required" = if has a "required" || has b "required" then
    some (.arr none (Json.distinct (requiredNames a ++ requiredNames b))) else none
  properties : Joined Tables (get? a "properties") (get? b "properties") (get? r "properties")
  others : ∀ k, k ≠ "required" → k ≠ "properties" → get? r k = (get? b k).or (get? a k)

namespace Tables

variable {x y z z' : Json}

/-- Two tables make one. -/
theorem unique (h : Tables x y z) (h' : Tables x y z') : z = z' := by
  cases h with
  | intro df dg names merged =>
    cases h' with
    | intro _ _ names' merged' =>
      refine congrArg (Json.obj none) (Fields.eq_of_get? (names.trans names'.symm) ?_ fun n => ?_)
      · rw [Fields.Distinct, names]
        exact df.union
      · exact (merged n).unique (fun _ _ _ _ h h' => Except.ok.inj (h.symm.trans h')) (merged' n)

end Tables

section Laid

variable {a b c r s t t' : Fields}

/-- Required names of both, or none. -/
theorem Laid.requiredNames_eq (h : Laid a b r) :
    requiredNames r = Json.distinct (requiredNames a ++ requiredNames b) := by
  rw [requiredNames, h.required]
  split
  · rfl
  · next none_has =>
    simp only [Bool.or_eq_true, not_or, Bool.not_eq_true, Fields.has_eq_false_iff] at none_has
    rw [requiredNames, requiredNames, none_has.1, none_has.2]
    rfl

theorem Laid.has_required (h : Laid a b r) :
    has r "required" = (has a "required" || has b "required") := by
  rw [has, h.required]
  split
  · next some_has => exact some_has.symm
  · next none_has => exact (Bool.eq_false_iff.2 none_has).symm

theorem Laid.distinct (h : Laid a b r) (ha : Fields.Distinct a) : Fields.Distinct r := by
  rw [Fields.Distinct, h.names]
  exact ha.union

theorem Laid.assoc_required (hr : Laid a b r) (ht : Laid r c t) (hs : Laid b c s) (ht' : Laid a s t') :
    get? t "required" = get? t' "required" := by
  rw [ht.required, ht'.required, hr.has_required, hs.has_required, hr.requiredNames_eq,
    hs.requiredNames_eq, Json.distinct_distinct_append, Json.distinct_append_distinct, Bool.or_assoc,
    List.append_assoc]

/-- **Three schemas put together in either order become the same**, if the schemas do that stand under a
name in all three. -/
theorem Laid.assoc (ha : Fields.Distinct a) (hb : Fields.Distinct b) (hc : Fields.Distinct c)
    (hr : Laid a b r) (ht : Laid r c t) (hs : Laid b c s) (ht' : Laid a s t')
    (below : ∀ n u v w p q m m', get? (entriesUnder a "properties") n = some u →
      get? (entriesUnder b "properties") n = some v → get? (entriesUnder c "properties") n = some w →
      merge false u v = .ok p → merge false p w = .ok m → merge false v w = .ok q →
      merge false u q = .ok m' → m = m') : t = t' := by
  refine Fields.eq_of_get? ?_ (ht.distinct (hr.distinct ha)) fun k => ?_
  · rw [ht.names, ht'.names]
    exact Fields.names_union_assoc hb hc hr.names hs.names
  by_cases required : k = "required"
  · rw [required]
    exact hr.assoc_required ht hs ht'
  by_cases properties : k = "properties"
  · rw [properties]
    refine Joined.assoc (R := Tables) (fun _ _ _ _ => Tables.unique)
      (fun x y z p q m m' hx hy hz hp hm hq hm' => ?_)
      hr.properties ht.properties hs.properties ht'.properties
    -- tables under all three: the same again, one level down
    cases hp with
    | @intro _ _ f g _ df dg pnames pmerged =>
      cases hm with
      | @intro _ _ _ h m _ dh mnames mmerged =>
        cases hq with
        | intro _ _ qnames qmerged =>
          cases hm' with
          | @intro _ _ _ _ m' _ _ mnames' mmerged' =>
            have entries_a : entriesUnder a "properties" = f := by
              rw [entriesUnder, Probe.memberTable, hx]
              rfl
            have entries_b : entriesUnder b "properties" = g := by
              rw [entriesUnder, Probe.memberTable, hy]
              rfl
            have entries_c : entriesUnder c "properties" = h := by
              rw [entriesUnder, Probe.memberTable, hz]
              rfl
            rw [entries_a, entries_b, entries_c] at below
            have distinct : Fields.Distinct m := by
              rw [Fields.Distinct, mnames]
              exact Fields.Distinct.union (by rw [Fields.Distinct, pnames]; exact df.union)
            refine congrArg (Json.obj none) (Fields.eq_of_get? ?_ distinct fun n => ?_)
            · rw [mnames, mnames']
              exact Fields.names_union_assoc dg dh pnames qnames
            · exact Joined.assoc (fun _ _ _ _ h h' => Except.ok.inj (h.symm.trans h'))
                (fun u v w p q m m' => below n u v w p q m m')
                (pmerged n) (mmerged n) (qmerged n) (mmerged' n)
  · rw [ht.others k required properties, ht'.others k required properties,
      hr.others k required properties, hs.others k required properties, Option.or_assoc]

end Laid

/-! ## 4. Merging lays over -/

/-- **The members of a schema that can be laid over others**: types, required names, properties, and
keywords without a rule of their own. -/
structure Layered (fields : Fields) : Prop where
  distinct : Fields.Distinct fields
  lacks : ∀ k ∈ ruledKeywords, k ∉ ["type", "required", "properties"] → get? fields k = none
  required : (get? fields "required").all isTextList = true
  properties : (get? fields "properties").all Json.isObject = true
  named : Fields.Distinct (entriesUnder fields "properties")

instance : DecidablePred Layered := fun fields =>
  decidable_of_iff
    (Fields.Distinct fields ∧
      (∀ k ∈ ruledKeywords, k ∉ ["type", "required", "properties"] → get? fields k = none) ∧
      (get? fields "required").all isTextList = true ∧
      (get? fields "properties").all Json.isObject = true ∧
      Fields.Distinct (entriesUnder fields "properties"))
    ⟨fun ⟨h₁, h₂, h₃, h₄, h₅⟩ => ⟨h₁, h₂, h₃, h₄, h₅⟩, fun ⟨h₁, h₂, h₃, h₄, h₅⟩ => ⟨h₁, h₂, h₃, h₄, h₅⟩⟩

/-- Required names can be gone through. -/
theorem Layered.entries_required {fields : Fields} (h : Layered fields) :
    entries ((get? fields "required").getD (.arr none [])) = .ok (requiredNames fields) := by
  have isList := h.required
  unfold requiredNames
  cases hx : get? fields "required" with
  | none => rfl
  | some x =>
    rw [hx] at isList
    cases x with
    | arr tag items => rfl
    | _ => cases isList

/-- Required names are texts. -/
theorem Layered.isText_of_required {fields : Fields} (h : Layered fields) {x : Json}
    (hx : x ∈ requiredNames fields) : isText x = true := by
  have isList := h.required
  unfold requiredNames at hx
  cases hr : get? fields "required" with
  | none =>
    rw [hr] at hx
    cases hx
  | some y =>
    rw [hr] at isList hx
    cases y with
    | arr tag items => exact List.all_eq_true.1 isList x hx
    | _ => cases isList

section Rules

variable {a b r : Fields} {keyword : String} {self : MergeBelow (Json.sizeFields a)}

/-- A type that overrides the other is there already. -/
theorem mergeTypes_union (hb : Fields.Distinct b) :
    mergeTypes false a b (Fields.union a b) = .ok (Fields.union a b) := by
  unfold mergeTypes
  split
  · next x y _ hy =>
    have typed : get? (Fields.union a b) "type" = some y := by
      rw [Fields.get?_union hb, hy, Option.some_or]
    rw [if_neg Bool.false_ne_true, Fields.put_of_get? typed]
  · rfl

theorem mergePinned_of_lacks (hc : get? b "const" = none) (he : get? b "enum" = none) :
    mergePinned a b r = .ok r := by
  have unpinned : pinned? b = none := by
    rw [pinned?, hc, he]
  rw [mergePinned, unpinned, he]
  cases pinned? a <;> cases get? a "enum" <;> rfl

theorem uniteKeyword_of_lacks (hb : get? b keyword = none) : uniteKeyword keyword a b r = r := by
  rw [uniteKeyword, hb]
  cases get? a keyword <;> rfl

theorem mergeObjects_of_lacks (hb : get? b keyword = none) :
    mergeObjects keyword a b self r = .ok r := by
  unfold mergeObjects
  split
  · next hy =>
    rw [hb] at hy
    cases hy
  · rfl

theorem mergeNegated_of_lacks (hb : get? b "not" = none) : mergeNegated a b self r = .ok r := by
  unfold mergeNegated
  split
  · next hy =>
    rw [hb] at hy
    cases hy
  · rfl

theorem mergeComposition_of_lacks (hb : get? b keyword = none) :
    mergeComposition keyword a b r = .ok r := by
  rw [mergeComposition, hb]
  cases get? a keyword <;> rfl

/-- **Of all rules, two are left**: the ones for required names and for properties. -/
theorem mergeFields_of_layered (hb : Layered b) : mergeFields false a b self =
    mergeRequired a b (Fields.union a b) >>= mergeProperties a b self := by
  have lacks : ∀ k ∈ ruledKeywords, k ∉ ["type", "required", "properties"] → get? b k = none := hb.lacks
  rw [mergeFields, mergeTypes_union hb.distinct, ok_bind,
    mergePinned_of_lacks (lacks _ (by decide) (by decide)) (lacks _ (by decide) (by decide)), ok_bind]
  refine bind_congr_of_ok fun r₁ _ => ?_
  cases mergeProperties a b self r₁ with
  | error fault => rfl
  | ok r₂ =>
    simp only [ok_bind, uniteKeyword_of_lacks (lacks "patternProperties" (by decide) (by decide)),
      uniteKeyword_of_lacks (lacks "dependentSchemas" (by decide) (by decide)),
      mergeObjects_of_lacks (lacks "additionalProperties" (by decide) (by decide)),
      mergeObjects_of_lacks (lacks "items" (by decide) (by decide)),
      mergeConditions_of_none (lacks "if" (by decide) (by decide)),
      mergeNegated_of_lacks (lacks "not" (by decide) (by decide)),
      mergeComposition_of_lacks (lacks "allOf" (by decide) (by decide)),
      mergeComposition_of_lacks (lacks "anyOf" (by decide) (by decide)),
      mergeComposition_of_lacks (lacks "oneOf" (by decide) (by decide))]

/-- Members are merged into others in their order, if those can be that both have. -/
theorem exists_mergeMembers {left right : Fields} (acc : Fields) {self : MergeBelow (Json.sizeFields left)}
    (hself : ∀ x y h, self x y h = merge false x y) (hd : Fields.Distinct right)
    (below : ∀ n u v, get? left n = some u → get? right n = some v → ∃ w, merge false u v = .ok w) :
    ∃ merged, mergeMembers left self right acc = .ok merged ∧
      Fields.names merged = Fields.names (Fields.union acc right) := by
  induction right generalizing acc with
  | nil => exact ⟨acc, rfl, rfl⟩
  | cons m rest ih =>
    obtain ⟨k, y⟩ := m
    obtain ⟨hk, hrest⟩ := Fields.distinct_cons.1 hd
    have later : ∀ n u v, get? left n = some u → get? rest n = some v → ∃ w, merge false u v = .ok w := by
      intro n u v hu hv
      refine below n u v hu ?_
      rw [Fields.get?_cons, if_neg, hv]
      rintro rfl
      exact hk (Fields.mem_names_of_get? hv)
    -- what is put under the name does not matter to the order
    have placed : ∀ z, Fields.names (Fields.union (Fields.put acc k z) rest) =
        Fields.names (Fields.union acc ((k, y) :: rest)) := fun z =>
      Fields.names_union_congr (by rw [Fields.names_put, Fields.names_put])
    rw [mergeMembers]
    split
    · next x hx =>
      obtain ⟨z, hz⟩ := below k x y hx (by rw [Fields.get?_cons, if_pos rfl])
      obtain ⟨merged, hm, names⟩ := ih (Fields.put acc k z) hrest later
      exact ⟨merged, by rw [hself, hz, ok_bind, hm], names.trans (placed z)⟩
    · obtain ⟨merged, hm, names⟩ := ih (Fields.put acc k y) hrest later
      exact ⟨merged, hm, names.trans (placed y)⟩

/-- The properties of a layer are an object. -/
theorem Layered.exists_properties {fields : Fields} {x : Json} (h : Layered fields)
    (hx : get? fields "properties" = some x) :
    ∃ tag, x = .obj tag (entriesUnder fields "properties") := by
  have isObject := h.properties
  rw [hx] at isObject
  cases x with
  | obj tag f =>
    refine ⟨tag, ?_⟩
    rw [entriesUnder, Probe.memberTable, hx]
    rfl
  | _ => cases isObject

theorem mergeProperties_of_lacks (missing : get? a "properties" = none ∨ get? b "properties" = none) :
    mergeProperties a b self r = .ok r := by
  unfold mergeProperties
  split
  · next hx hy =>
    rw [hx, hy] at missing
    cases missing <;> contradiction
  · rfl

/-- Two objects of properties are merged into one, if the properties can be that both have. -/
theorem exists_mergeProperties_of_some {tag tag' : Tag} {left right : Fields}
    (hself : ∀ x y h, self x y h = merge false x y)
    (hx : get? a "properties" = some (.obj tag left))
    (hy : get? b "properties" = some (.obj tag' right)) (hd : Fields.Distinct right)
    (below : ∀ n u v, get? left n = some u → get? right n = some v → ∃ w, merge false u v = .ok w) :
    ∃ merged, mergeProperties a b self r = .ok (Fields.put r "properties" (.obj none merged)) ∧
      Fields.names merged = Fields.names (Fields.union left right) := by
  unfold mergeProperties
  split
  · next x' y' hx' hy' =>
    cases hx.symm.trans hx'
    cases hy.symm.trans hy'
    split
    · next he => cases he
    · next left' hl =>
      cases hl
      obtain ⟨merged, hm, names⟩ :=
        exists_mergeMembers left (fun u v _ => hself u v _) hd below
      exact ⟨merged, congrArg (· >>= fun merged =>
        Except.ok (Fields.put r "properties" (.obj none merged))) hm, names⟩
  · next hnone => exact absurd hy (hnone _ _ hx)

/-- The rule for properties, which has an effect where both schemas have some. -/
theorem exists_mergeProperties (hself : ∀ x y h, self x y h = merge false x y) (ha : Layered a)
    (hb : Layered b) (below : ∀ n u v, get? (entriesUnder a "properties") n = some u →
      get? (entriesUnder b "properties") n = some v → ∃ w, merge false u v = .ok w)
    (kept : get? r "properties" = (get? b "properties").or (get? a "properties")) :
    ∃ r', mergeProperties a b self r = .ok r' ∧ Fields.names r' = Fields.names r ∧
      Joined Tables (get? a "properties") (get? b "properties") (get? r' "properties") := by
  cases hx : get? a "properties" with
  | none =>
    refine ⟨r, mergeProperties_of_lacks (.inl hx), rfl, ?_⟩
    rw [kept, hx, Option.or_none]
    exact .right _
  | some x =>
    cases hy : get? b "properties" with
    | none =>
      refine ⟨r, mergeProperties_of_lacks (.inr hy), rfl, ?_⟩
      rw [kept, hx, hy, Option.none_or]
      exact .left _
    | some y =>
      obtain ⟨tag, rfl⟩ := ha.exists_properties hx
      obtain ⟨tag', rfl⟩ := hb.exists_properties hy
      have there : "properties" ∈ Fields.names r :=
        Fields.mem_names_of_get? (by rw [kept, hy, Option.some_or])
      obtain ⟨merged, h, names⟩ := exists_mergeProperties_of_some hself hx hy hb.named below
      obtain ⟨t, ht, tabled⟩ := properties_merged hself hx hy hb.named h
      rw [Fields.get?_put, if_pos rfl] at ht
      cases ht
      refine ⟨_, h, by rw [Fields.names_put, if_pos there], ?_⟩
      rw [Fields.get?_put, if_pos rfl]
      exact .both (.intro ha.named hb.named names tabled.joined)

end Rules

/-- **A schema without anything but types, required names, properties and unruled keywords is laid over
another one.** -/
theorem exists_laid {a b : Fields} (self : MergeBelow (Json.sizeFields a))
    (hself : ∀ x y h, self x y h = merge false x y) (ha : Layered a) (hb : Layered b)
    (below : ∀ n u v, get? (entriesUnder a "properties") n = some u →
      get? (entriesUnder b "properties") n = some v → ∃ w, merge false u v = .ok w) :
    ∃ r, mergeFields false a b self = .ok r ∧ Laid a b r := by
  have started : ∀ k, get? (Fields.union a b) k = (get? b k).or (get? a k) := fun _ =>
    Fields.get?_union hb.distinct
  have required : ∃ r₁, mergeRequired a b (Fields.union a b) = .ok r₁ ∧
      Fields.names r₁ = Fields.names (Fields.union a b) ∧
      get? r₁ "required" = if has a "required" || has b "required" then
        some (.arr none (Json.distinct (requiredNames a ++ requiredNames b))) else none := by
    unfold mergeRequired
    split
    · next either =>
      have there : "required" ∈ Fields.names (Fields.union a b) := by
        rw [← Fields.has_iff, has, started, Option.isSome_or, Bool.or_comm]
        exact either
      refine ⟨_, by rw [ha.entries_required, hb.entries_required, ok_bind, ok_bind], ?_, ?_⟩
      · rw [Fields.names_put, if_pos there]
      · rw [Fields.get?_put, if_pos rfl]
    · next neither =>
      refine ⟨_, rfl, rfl, ?_⟩
      simp only [Bool.or_eq_true, not_or, Bool.not_eq_true, Fields.has_eq_false_iff] at neither
      rw [started, neither.1, neither.2, Option.or_none]
  obtain ⟨r₁, h₁, names₁, required₁⟩ := required
  have before : ∀ k, k ≠ "required" → get? r₁ k = (get? b k).or (get? a k) := fun k hk => by
    rw [get?_mergeRequired h₁ hk, started]
  obtain ⟨r, h, names, properties⟩ :=
    exists_mergeProperties hself ha hb below (before _ (by decide))
  have after : ∀ k, k ≠ "properties" → get? r k = get? r₁ k := fun k hk =>
    get?_mergeProperties h fun he => absurd he hk
  refine ⟨r, by rw [mergeFields_of_layered hb, h₁, ok_bind, h], names.trans names₁, ?_, properties, ?_⟩
  · rw [after _ (by decide), required₁]
  · exact fun k hr hp => by rw [after k hp, before k hr]

/-! ## 5. Layers -/

/-- **A layer**: a boolean, or a schema that can be laid over others, as can all schemas in its
properties. -/
inductive Layer : Json → Prop
  | boolean (b : Bool) : Layer (.bool b)
  | node {tag : Tag} {fields : Fields} (here : Layered fields)
      (inner : ∀ n u, (n, u) ∈ entriesUnder fields "properties" → Layer u) : Layer (.obj tag fields)

/-- Is the schema a layer, as far as one can see down to a depth? -/
def isLayer : (depth : Nat) → Json → Bool
  | _, .bool _ => true
  | depth + 1, .obj _ fields =>
    decide (Layered fields) && (entriesUnder fields "properties").all fun entry => isLayer depth entry.2
  | _, _ => false

theorem size_lt_of_mem_entriesUnder (tag : Tag) {fields : Fields} {k n : String} {u : Json}
    (hu : (n, u) ∈ entriesUnder fields k) : u.size < (Json.obj tag fields).size := by
  unfold entriesUnder Probe.memberTable at hu
  cases hx : get? fields k with
  | none =>
    rw [hx] at hu
    cases hu
  | some x =>
    rw [hx] at hu
    exact Nat.lt_trans (size_lt_of_mem_fieldsOf hu) (Json.size_lt_of_get? tag hx)

theorem isLayer_iff {depth : Nat} {s : Json} (hs : s.size ≤ depth) : isLayer depth s = true ↔ Layer s := by
  induction depth generalizing s with
  | zero => exact absurd (Json.size_pos s) (Nat.not_lt.2 hs)
  | succ depth ih =>
    cases s with
    | obj tag fields =>
      have below : ∀ n u, (n, u) ∈ entriesUnder fields "properties" → u.size ≤ depth := fun n u hu =>
        Nat.le_of_lt_succ (Nat.lt_of_lt_of_le (size_lt_of_mem_entriesUnder tag hu) hs)
      simp only [isLayer, Bool.and_eq_true, decide_eq_true_iff, List.all_eq_true, Prod.forall]
      constructor
      · rintro ⟨here, inner⟩
        exact .node here fun n u hu => (ih (below n u hu)).1 (inner n u hu)
      · rintro ⟨⟩
        next here inner => exact ⟨here, fun n u hu => (ih (below n u hu)).2 (inner n u hu)⟩
    | bool b => exact iff_of_true rfl (.boolean b)
    | _ => exact iff_of_false Bool.false_ne_true nofun

instance : DecidablePred Layer := fun _ => decidable_of_iff _ (isLayer_iff (Nat.le_refl _))

namespace Layer

variable {x a b c : Json}

theorem here (h : Layer x) : Layered (fieldsOf x) := by
  cases h with
  | boolean b => exact ⟨Fields.distinct_nil, fun _ _ _ => rfl, rfl, rfl, Fields.distinct_nil⟩
  | node here _ => exact here

theorem inner (h : Layer x) {n : String} {u : Json}
    (hu : get? (entriesUnder (fieldsOf x) "properties") n = some u) : Layer u := by
  cases h with
  | boolean b => cases hu
  | node _ inner => exact inner n u (Json.mem_of_get? hu)

end Layer

/-- The table under a keyword is read off the keyword alone. -/
theorem entriesUnder_eq {fields : Fields} {x : Option Json} {k : String} (h : get? fields k = x) :
    entriesUnder fields k = fieldsOf (x.getD (.obj none [])) := by
  rw [entriesUnder, Probe.memberTable, h]

/-- **A layer over a layer is a layer**, if it is so for the schemas under common names. -/
theorem Laid.layer {a b r : Fields} (ha : Layer (.obj none a)) (hb : Layer (.obj none b)) (h : Laid a b r)
    (below : ∀ n u v w, get? (entriesUnder a "properties") n = some u →
      get? (entriesUnder b "properties") n = some v → merge false u v = .ok w → Layer w) :
    Layer (.obj none r) := by
  have la : Layered a := ha.here
  have lb : Layered b := hb.here
  have lacks : ∀ k ∈ ruledKeywords, k ∉ ["type", "required", "properties"] → get? r k = none := by
    intro k hk hn
    simp only [List.mem_cons, List.not_mem_nil, or_false, not_or] at hn
    rw [h.others k hn.2.1 hn.2.2, lb.lacks k hk (by simp [hn]), la.lacks k hk (by simp [hn])]
    rfl
  have required : (get? r "required").all isTextList = true := by
    rw [h.required]
    split
    · refine List.all_eq_true.2 fun x hx => ?_
      rcases List.mem_append.1 (mem_of_mem_distinct hx) with hx | hx
      · exact la.isText_of_required hx
      · exact lb.isText_of_required hx
    · rfl
  have distinct := h.distinct la.distinct
  -- properties come from one side or from both
  have properties := h.properties
  generalize hx : get? a "properties" = x, hy : get? b "properties" = y,
    hz : get? r "properties" = z at properties
  cases properties with
  | left =>
    have same : entriesUnder r "properties" = entriesUnder a "properties" := by
      rw [entriesUnder_eq hx, entriesUnder_eq hz]
    refine .node ⟨distinct, lacks, required, ?_, same ▸ la.named⟩ fun n u hu =>
      ha.inner (Fields.get?_of_mem la.named (same ▸ hu))
    rw [hz, ← hx]
    exact la.properties
  | right =>
    have same : entriesUnder r "properties" = entriesUnder b "properties" := by
      rw [entriesUnder_eq hy, entriesUnder_eq hz]
    refine .node ⟨distinct, lacks, required, ?_, same ▸ lb.named⟩ fun n u hu =>
      hb.inner (Fields.get?_of_mem lb.named (same ▸ hu))
    rw [hz, ← hy]
    exact lb.properties
  | both tables =>
    cases tables with
    | @intro _ _ f g t df dg names merged =>
      have ef : entriesUnder a "properties" = f := entriesUnder_eq hx
      have eg : entriesUnder b "properties" = g := entriesUnder_eq hy
      have et : entriesUnder r "properties" = t := entriesUnder_eq hz
      have dt : Fields.Distinct t := by
        rw [Fields.Distinct, names]
        exact df.union
      refine .node ⟨distinct, lacks, required, by rw [hz]; rfl, et ▸ dt⟩ fun n u hu => ?_
      · have hn := merged n
        rw [et] at hu
        replace hu := Fields.get?_of_mem dt hu
        generalize hl : get? f n = l, hr : get? g n = r', hu' : get? t n = w at hn
        cases hn with
        | left => exact ha.inner (ef ▸ hl.trans (hu'.symm.trans hu))
        | right => exact hb.inner (eg ▸ hr.trans (hu'.symm.trans hu))
        | both hm =>
          cases hu'.symm.trans hu
          exact below n _ _ _ (ef ▸ hl) (eg ▸ hr) hm

/-- A layer is an object with its members, or a boolean without any. -/
theorem Layer.retag {x : Json} (h : Layer x) : Layer (.obj none (fieldsOf x)) :=
  .node h.here fun _ _ hu => h.inner (Fields.get?_of_mem h.here.named hu)

/-- What layers become: the one that allows nothing if one of them does, and otherwise the second laid over
the first. -/
theorem exists_merge_of_below {a b : Json} (ha : Layer a) (hb : Layer b)
    (below : ∀ n u v, get? (entriesUnder (fieldsOf a) "properties") n = some u →
      get? (entriesUnder (fieldsOf b) "properties") n = some v → ∃ w, merge false u v = .ok w ∧ Layer w) :
    ∃ m, merge false a b = .ok m ∧ Layer m ∧ ((isFalse a || isFalse b) = true ∧ m = .bool false ∨
      (isFalse a || isFalse b) = false ∧
        ∃ r, m = .obj none r ∧ Laid (fieldsOf a) (fieldsOf b) r) := by
  rw [merge]
  cases isFalse a || isFalse b with
  | true => exact ⟨_, rfl, .boolean false, .inl ⟨rfl, rfl⟩⟩
  | false =>
    obtain ⟨r, hr, laid⟩ := exists_laid (fun x y _ => merge false x y) (fun _ _ _ => rfl) ha.here hb.here
      fun n u v hu hv => (below n u v hu hv).imp fun _ h => h.1
    refine ⟨.obj none r, by rw [if_neg Bool.false_ne_true, hr, ok_bind], ?_, .inr ⟨rfl, r, rfl, laid⟩⟩
    refine laid.layer ha.retag hb.retag fun n u v w hu hv hw => ?_
    obtain ⟨w', hw', layer⟩ := below n u v hu hv
    cases hw.symm.trans hw'
    exact layer

/-- **Layers can be merged, and a layer comes of it.** -/
theorem exists_merge_layers {a b : Json} (ha : Layer a) (hb : Layer b) :
    ∃ m, merge false a b = .ok m ∧ Layer m := by
  induction ha generalizing b with
  | boolean c =>
    obtain ⟨m, hm, layer, -⟩ := exists_merge_of_below (.boolean c) hb (by nofun)
    exact ⟨m, hm, layer⟩
  | node here inner ih =>
    obtain ⟨m, hm, layer, -⟩ := exists_merge_of_below (.node here inner) hb
      fun n u v hu hv => ih n u (Json.mem_of_get? hu) (hb.inner hv)
    exact ⟨m, hm, layer⟩

/-- What two layers have become. -/
theorem laid_of_merge {a b m : Json} (ha : Layer a) (hb : Layer b) (h : merge false a b = .ok m) :
    (isFalse a || isFalse b) = true ∧ m = .bool false ∨ (isFalse a || isFalse b) = false ∧
      ∃ r, m = .obj none r ∧ Laid (fieldsOf a) (fieldsOf b) r := by
  obtain ⟨m', hm', -, become⟩ := exists_merge_of_below ha hb fun n u v hu hv =>
    exists_merge_layers (ha.inner hu) (hb.inner hv)
  cases h.symm.trans hm'
  exact become

theorem layer_of_merge {a b m : Json} (ha : Layer a) (hb : Layer b) (h : merge false a b = .ok m) :
    Layer m := by
  obtain ⟨m', hm', layer⟩ := exists_merge_layers ha hb
  cases h.symm.trans hm'
  exact layer

theorem isFalse_of_merge_layers {a b m : Json} (ha : Layer a) (hb : Layer b)
    (h : merge false a b = .ok m) : isFalse m = (isFalse a || isFalse b) := by
  rcases laid_of_merge ha hb h with ⟨hf, rfl⟩ | ⟨hf, r, rfl, -⟩ <;> rw [hf] <;> rfl

/-! ## 6. Three layers -/

/-- One step of the induction: what has to be known of the schemas in the properties of the first layer. -/
theorem merge_assoc_of_below {a b c ab bc m m' : Json} (ha : Layer a) (hb : Layer b) (hc : Layer c)
    (below : ∀ n u v w p q t t', get? (entriesUnder (fieldsOf a) "properties") n = some u → Layer v →
      Layer w → merge false u v = .ok p → merge false p w = .ok t → merge false v w = .ok q →
      merge false u q = .ok t' → t = t')
    (hab : merge false a b = .ok ab) (hm : merge false ab c = .ok m) (hbc : merge false b c = .ok bc)
    (hm' : merge false a bc = .ok m') : m = m' := by
  have lab := layer_of_merge ha hb hab
  have lbc := layer_of_merge hb hc hbc
  have flags : (isFalse ab || isFalse c) = (isFalse a || isFalse bc) := by
    rw [isFalse_of_merge_layers ha hb hab, isFalse_of_merge_layers hb hc hbc, Bool.or_assoc]
  rcases laid_of_merge lab hc hm with ⟨hf, rfl⟩ | ⟨hf, t, rfl, ht⟩
  · rcases laid_of_merge ha lbc hm' with ⟨-, rfl⟩ | ⟨hf', -⟩
    · rfl
    · rw [flags, hf'] at hf
      cases hf
  · rcases laid_of_merge ha lbc hm' with ⟨hf', -⟩ | ⟨hf', t', rfl, ht'⟩
    · rw [flags, hf'] at hf
      cases hf
    · rcases laid_of_merge ha hb hab with ⟨-, rfl⟩ | ⟨-, r, rfl, hr⟩
      · cases hf
      rcases laid_of_merge hb hc hbc with ⟨-, rfl⟩ | ⟨-, s, rfl, hs⟩
      · rw [Bool.or_eq_false_iff] at hf'
        cases hf'.2
      refine congrArg (Json.obj none)
        (hr.assoc ha.here.distinct hb.here.distinct hc.here.distinct ht hs ht' ?_)
      exact fun n u v w p q t t' hu hv hw => below n u v w p q t t' hu (hb.inner hv) (hc.inner hw)

/-- The order in which three layers are put together does not matter to what they become. -/
theorem eq_of_merge_layers {a b c ab bc m m' : Json} (ha : Layer a) (hb : Layer b) (hc : Layer c)
    (hab : merge false a b = .ok ab) (hm : merge false ab c = .ok m) (hbc : merge false b c = .ok bc)
    (hm' : merge false a bc = .ok m') : m = m' := by
  induction ha generalizing b c ab bc m m' with
  | boolean d => exact merge_assoc_of_below (.boolean d) hb hc (by nofun) hab hm hbc hm'
  | node here inner ih =>
    exact merge_assoc_of_below (.node here inner) hb hc
      (fun n u v w p q t t' hu hv hw => ih n u (Json.mem_of_get? hu) hv hw) hab hm hbc hm'

/-- **Merging is associative on layers.**  Three schemas are booleans or objects that hold, at any depth
under `properties`, nothing but properties, lists of required names, types and keywords without a rule of
their own.  Then they can be merged in either order, none of the merges fails, and both orders end with the
same schema: the same keywords in the same order, the same properties in the same order, the same required
names in the same order. -/
theorem merge_assoc {a b c : Json} (ha : Layer a) (hb : Layer b) (hc : Layer c) :
    ∃ ab bc m, merge false a b = .ok ab ∧ merge false b c = .ok bc ∧
      merge false ab c = .ok m ∧ merge false a bc = .ok m := by
  obtain ⟨ab, hab, lab⟩ := exists_merge_layers ha hb
  obtain ⟨bc, hbc, lbc⟩ := exists_merge_layers hb hc
  obtain ⟨m, hm, -⟩ := exists_merge_layers lab hc
  obtain ⟨m', hm', -⟩ := exists_merge_layers ha lbc
  obtain rfl := eq_of_merge_layers ha hb hc hab hm hbc hm'
  exact ⟨ab, bc, m, hab, hbc, hm, hm'⟩

/-- Names that one, two or three of the schemas have: `s` is kept as it is, `u` and `r` are merged once, and
`p` twice. -/
theorem merge_assoc_patterns :
    let a : Json := .obj none [("title", .str "t"), ("required", .arr none [.str "x", .str "y", .str "x"]),
      ("properties", .obj none [("p", .bool true),
        ("q", .obj none [("required", .arr none [.str "m", .str "m"])]), ("u", .bool true)])]
    let b : Json := .obj none [("type", .str "object"), ("properties", .obj none
      [("r", .obj none [("type", .str "string")]), ("p", .bool true),
        ("u", .obj none [("minimum", .num (.int 1))])])]
    let c : Json := .obj none [("properties", .obj none
      [("q", .obj none [("required", .arr none [.str "n", .str "m"])]), ("r", .bool true), ("s", .bool false),
        ("p", .obj none [("title", .str "v")])]),
      ("required", .arr none [.str "z", .str "y"]), ("title", .str "w")]
    let m : Json := .obj none [("title", .str "w"), ("required", .arr none [.str "x", .str "y", .str "z"]),
      ("properties", .obj none [("p", .obj none [("title", .str "v")]),
        ("q", .obj none [("required", .arr none [.str "m", .str "n"])]),
        ("u", .obj none [("minimum", .num (.int 1))]), ("r", .obj none [("type", .str "string")]),
        ("s", .bool false)]),
      ("type", .str "object")]
    Layer a ∧ Layer b ∧ Layer c ∧ ∃ ab bc, merge false a b = .ok ab ∧ merge false b c = .ok bc ∧
      merge false ab c = .ok m ∧ merge false a bc = .ok m := by
  intro a b c m
  have ha : Layer a := by decide +kernel
  have hb : Layer b := by decide +kernel
  have hc : Layer c := by decide +kernel
  have hm : (merge false a b >>= fun ab => merge false ab c) = .ok m := by decide +kernel
  obtain ⟨ab, bc, m', hab, hbc, habc, habc'⟩ := merge_assoc ha hb hc
  rw [hab, ok_bind] at hm
  cases habc.symm.trans hm
  exact ⟨ha, hb, hc, ab, bc, hab, hbc, hm, habc'⟩

end Schema

end Conform
