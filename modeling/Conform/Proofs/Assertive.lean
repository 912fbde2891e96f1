/-
# Schemas that only assert

A schema may do more than say what a value has to be like: it fills in defaults, chooses among
branches, or stands for another schema.  The schemas here do none of this (`Sober`), so that nothing
is added to a value that they are asked about.  Two sorts of them are compared with the probe.  The
members of `allOf` may be assertive in turn (`Assertive`), as long as no two of them can pin down a
value together; or there is nothing to merge at all, and only types that there are (`Simple`).

Merging makes schemas that are neither.  What survives it is that their members are `Tolerated`,
and that is enough for them to be tame (`tame_tolerated`).
-/
import Conform.Proofs.Conservation
import Conform.Proofs.Reordering

namespace Conform

open Fields (get?)
open Json (Reordered)
open Schema (Everywhere OfMembers Wholly Mergeable partsOf subschemas listedTypes)

namespace Schema

/-! ## 1. Sober schemas -/

/-- Is the value a schema with members, or one that allows all or nothing? -/
def isProperSchema : Json → Bool
  | .obj _ _ => true
  | .bool _ => true
  | _ => false

/-- Is the type given by its name, and not that of null or of booleans? -/
def isSolidType : Json → Bool
  | .str name => !(["null", "boolean"].contains name)
  | _ => false

theorem exists_of_isSolidType {t : Json} (h : isSolidType t = true) :
    ∃ name, t = .str name ∧ name ∉ ["null", "boolean"] := by
  cases t with
  | str name => exact ⟨name, rfl, by simpa [isSolidType] using h⟩
  | _ => cases h

/-- The keywords that fill something in, choose among branches or lead elsewhere. -/
abbrev stirring : List String := ["default", "const", "if", "then", "else", "oneOf", "$ref"]

/-- **A schema that only asserts**: well-formed, with nothing to fill in, to choose or to look up, and
no type that a missing value could become a value of. -/
structure Sober (fields : Fields) : Prop where
  lacks : ∀ k ∈ stirring, get? fields k = none
  types : ∀ t ∈ declaredTypes (.obj none fields), isSolidType t = true
  tables : ∀ k ∈ ["properties", "patternProperties", "dependentSchemas"],
    (get? fields k).all Json.isObject = true
  additional : (get? fields "additionalProperties").all isProperSchema = true

instance : DecidablePred Sober := fun fields =>
  decidable_of_iff
    ((∀ k ∈ stirring, get? fields k = none) ∧
      (∀ t ∈ declaredTypes (.obj none fields), isSolidType t = true) ∧
      (∀ k ∈ ["properties", "patternProperties", "dependentSchemas"],
        (get? fields k).all Json.isObject = true) ∧
      (get? fields "additionalProperties").all isProperSchema = true)
    ⟨fun ⟨h₁, h₂, h₃, h₄⟩ => ⟨h₁, h₂, h₃, h₄⟩, fun ⟨h₁, h₂, h₃, h₄⟩ => ⟨h₁, h₂, h₃, h₄⟩⟩

namespace Sober

variable {fields fields' : Fields}

/-- Keywords may be left out, and the types narrowed. -/
theorem of_get? (h : Sober fields)
    (hsub : ∀ k, k ≠ "type" → get? fields' k = none ∨ get? fields' k = get? fields k)
    (htypes : ∀ t ∈ declaredTypes (.obj none fields'), isSolidType t = true) : Sober fields' where
  lacks k hk := by
    have hne : k ≠ "type" := by rintro rfl; simp [stirring] at hk
    rcases hsub k hne with hn | he
    · exact hn
    · exact he.trans (h.lacks k hk)
  types := htypes
  tables k hk := by
    have hne : k ≠ "type" := by rintro rfl; simp at hk
    rcases hsub k hne with hn | he
    · rw [hn]; rfl
    · rw [he]; exact h.tables k hk
  additional := by
    rcases hsub "additionalProperties" (by simp) with hn | he
    · rw [hn]; rfl
    · rw [he]; exact h.additional

/-- The types of a schema without some keywords are those that it had. -/
theorem types_without (h : Sober fields) {keys : List String} (hk : "type" ∉ keys) :
    ∀ t ∈ declaredTypes (.obj none (Fields.without fields keys)), isSolidType t = true := by
  intro t ht
  rw [declaredTypes, Fields.get?_without, if_neg hk] at ht
  exact h.types t ht

theorem types_restrict (h : Sober fields) {kind : Kind}
    (hk : Json.listsName (declaredTypes (.obj none fields)) kind.name = true) :
    ∀ t ∈ declaredTypes (.obj none (Schema.restrict fields (.str kind.name))),
      isSolidType t = true := by
  intro t ht
  obtain rfl : t = .str kind.name := by simpa [Schema.restrict, declaredTypes] using ht
  exact h.types _ (Json.listsName_iff.1 hk)

end Sober

/-- What is left of a schema without some keywords. -/
theorem get?_without_cases (fields : Fields) (keys : List String) (k : String) :
    get? (Fields.without fields keys) k = none ∨
      get? (Fields.without fields keys) k = get? fields k := by
  rw [Fields.get?_without]
  split
  · exact .inl rfl
  · exact .inr rfl

/-- What is left of a schema reduced to a type. -/
theorem get?_restrict_cases {fields : Fields} {type : Json} {k : String} (hne : k ≠ "type") :
    get? (Schema.restrict fields type) k = none ∨
      get? (Schema.restrict fields type) k = get? fields k := by
  simp only [Schema.restrict, Fields.get?_put, if_neg hne]
  rw [Fields.get?_filter_name fun name => (baseKeywords ++ keywordsOfType type).contains name]
  split
  · exact .inr rfl
  · exact .inl rfl

/-- What a keyword holds in a schema reduced to a type it held before. -/
theorem get?_of_restrict {fields : Fields} {type x : Json} {k : String} (hne : k ≠ "type")
    (h : get? (Schema.restrict fields type) k = some x) : get? fields k = some x := by
  rcases get?_restrict_cases hne with hn | he
  · cases hn.symm.trans h
  · exact he.symm.trans h

/-! ## 2. Assertive schemas -/

/-- Are all required names declared, where any properties are? -/
def declaresRequired (fields : Fields) : Bool :=
  match get? fields "properties", get? fields "required" with
  | some (.obj _ properties), some names => (names.entries?.getD []).all fun
    | .str s => Fields.has properties s
    | _ => false
  | _, _ => true

/-- Keywords may be left out: no required name is undeclared then. -/
theorem declaresRequired_of_get? {fields fields' : Fields} (h : declaresRequired fields = true)
    (hsub : ∀ k, k ≠ "type" → get? fields' k = none ∨ get? fields' k = get? fields k) :
    declaresRequired fields' = true := by
  unfold declaresRequired at h ⊢
  rcases hsub "properties" (by simp) with hn | he
  · rw [hn]
  · rw [he]
    rcases hsub "required" (by simp) with hn' | he'
    · rw [hn']
      split
      · next h => cases h
      · rfl
    · rw [he']
      exact h

/-- **A sober schema whose members of `allOf` may be assertive in turn**: no value is pinned down, and no
required names are left undeclared beside declared properties. -/
structure Assertive (fields : Fields) : Prop extends Sober fields where
  unpinned : pinned? fields = none
  required : declaresRequired fields = true

instance : DecidablePred Assertive := fun fields =>
  decidable_of_iff (Sober fields ∧ pinned? fields = none ∧ declaresRequired fields = true)
    ⟨fun ⟨h₁, h₂, h₃⟩ => ⟨h₁, h₂, h₃⟩, fun ⟨h₁, h₂, h₃⟩ => ⟨h₁, h₂, h₃⟩⟩

namespace Assertive

variable {fields fields' : Fields}

theorem of_get? (h : Assertive fields)
    (hsub : ∀ k, k ≠ "type" → get? fields' k = none ∨ get? fields' k = get? fields k)
    (htypes : ∀ t ∈ declaredTypes (.obj none fields'), isSolidType t = true) :
    Assertive fields' where
  toSober := h.toSober.of_get? hsub htypes
  unpinned := by
    have hu := h.unpinned
    have hc : get? fields' "const" = none := by
      rcases hsub "const" (by simp) with hn | he
      · exact hn
      · exact he.trans (h.lacks "const" (by simp [stirring]))
    rw [pinned?, h.lacks "const" (by simp [stirring])] at hu
    rw [pinned?, hc]
    rcases hsub "enum" (by simp) with hn | he
    · rw [hn]
    · rw [he]
      exact hu
  required := declaresRequired_of_get? h.required hsub

theorem without (h : Assertive fields) {keys : List String} (hk : "type" ∉ keys) :
    Assertive (Fields.without fields keys) :=
  h.of_get? (fun k _ => get?_without_cases fields keys k) (h.types_without hk)

theorem restrict (h : Assertive fields) {kind : Kind}
    (hk : Json.listsName (declaredTypes (.obj none fields)) kind.name = true) :
    Assertive (Schema.restrict fields (.str kind.name)) :=
  h.of_get? (fun _ hne => get?_restrict_cases hne) (h.types_restrict hk)

end Assertive

/-! ## 3. Simple schemas -/

/-- Do the types, if there is just one, name a kind of values? -/
def nameKind : List Json → Bool
  | [.str name] => (Kind.ofName? name).isSome
  | _ => true

/-- **A sober schema that merges nothing**: it has no `allOf`, and its type, if it is only one, is a type
that there is. -/
structure Simple (fields : Fields) : Prop extends Sober fields where
  alone : get? fields "allOf" = none
  known : nameKind (declaredTypes (.obj none fields)) = true

instance : DecidablePred Simple := fun fields =>
  decidable_of_iff
    (Sober fields ∧ get? fields "allOf" = none ∧
      nameKind (declaredTypes (.obj none fields)) = true)
    ⟨fun ⟨h₁, h₂, h₃⟩ => ⟨h₁, h₂, h₃⟩, fun ⟨h₁, h₂, h₃⟩ => ⟨h₁, h₂, h₃⟩⟩

namespace Simple

variable {fields fields' : Fields}

theorem of_get? (h : Simple fields)
    (hsub : ∀ k, k ≠ "type" → get? fields' k = none ∨ get? fields' k = get? fields k)
    (htypes : ∀ t ∈ declaredTypes (.obj none fields'), isSolidType t = true)
    (hknown : nameKind (declaredTypes (.obj none fields')) = true) : Simple fields' where
  toSober := h.toSober.of_get? hsub htypes
  alone := by
    rcases hsub "allOf" (by simp) with hn | he
    · exact hn
    · exact he.trans h.alone
  known := hknown

theorem without (h : Simple fields) {keys : List String} (hk : "type" ∉ keys) :
    Simple (Fields.without fields keys) := by
  refine h.of_get? (fun k _ => get?_without_cases fields keys k) (h.types_without hk) ?_
  rw [declaredTypes, Fields.get?_without, if_neg hk]
  exact h.known

theorem restrict (h : Simple fields) {kind : Kind}
    (hk : Json.listsName (declaredTypes (.obj none fields)) kind.name = true) :
    Simple (Schema.restrict fields (.str kind.name)) := by
  refine h.of_get? (fun _ hne => get?_restrict_cases hne) (h.types_restrict hk) ?_
  have hd : declaredTypes (.obj none (Schema.restrict fields (.str kind.name))) =
      [.str kind.name] := by simp [Schema.restrict, declaredTypes]
  rw [hd]
  cases kind <;> rfl

end Simple

/-! ## 4. Schemas merged on the way -/

/-- The keyword is not one of those that an assertive schema lacks, the types are solid, and the
members of `allOf` are assertive. -/
structure Tolerated (k : String) (x : Json) : Prop where
  lacked : k ∉ stirring
  types : k = "type" → ∀ t ∈ listedTypes x, isSolidType t = true
  members : k = "allOf" → ∀ s ∈ partsOf "allOf" x, Wholly Assertive s

/-- What is tolerated, and pins no value down. -/
structure Unpinning (k : String) (x : Json) : Prop where
  tolerated : Tolerated k x
  several : k = "enum" → ∀ tag y, x ≠ .arr tag [y]

variable {k : String} {x y : Json} {fields : Fields}

theorem pinned?_of_unpinning (h : OfMembers Unpinning fields) : pinned? fields = none := by
  have hc : get? fields "const" = none := by
    cases hc : get? fields "const" with
    | none => rfl
    | some x => exact absurd (by simp) (h _ _ (Json.mem_of_get? hc)).tolerated.lacked
  unfold pinned?
  split
  · next hx => rw [hc] at hx; cases hx
  · next hx => exact absurd rfl ((h _ _ (Json.mem_of_get? hx)).several rfl _ _)
  · rfl

/-- **The members of an assertive schema pin nothing down.** -/
theorem Wholly.unpinning {s : Json} (h : Wholly Assertive s) :
    Everywhere (OfMembers Unpinning) s := by
  refine h.ofMembers fun tag fields h k x hk => ⟨⟨fun hl => ?_, ?_, ?_⟩, ?_⟩
  · rw [h.here.lacks k hl] at hk
    cases hk
  · rintro rfl t ht
    exact h.here.types t (declaredTypes_eq hk ▸ ht)
  · rintro rfl t ht
    exact h.part hk ht
  · rintro rfl tag y rfl
    have hu := h.here.unpinned
    rw [pinned?, h.here.lacks "const" (by simp), hk] at hu
    cases hu

/-- The members of a simple schema are tolerated. -/
theorem Wholly.tolerated {s : Json} (h : Wholly Simple s) : Everywhere (OfMembers Tolerated) s := by
  refine h.ofMembers fun tag fields h k x hk => ⟨fun hl => ?_, ?_, ?_⟩
  · rw [h.here.lacks k hl] at hk
    cases hk
  · rintro rfl t ht
    exact h.here.types t (declaredTypes_eq hk ▸ ht)
  · rintro rfl t ht
    rw [h.here.alone] at hk
    cases hk

section Types

variable {P : Json → Prop} {z : Json} (hn : ∀ t, P t → ∃ name, t = .str name)

include hn

/-- What holds of all types of a schema, each given by its name, and of whole numbers holds of those that
it has in common with another schema. -/
theorem listedTypes_intersect (hi : P (.str "integer")) (hx : ∀ t ∈ listedTypes x, P t)
    (h : intersectTypes x y = .ok z) : ∀ t ∈ listedTypes z, P t := by
  intro t ht
  rcases intersectTypes_eq_ok h with ⟨types, rfl, hmem⟩ | hmem | rfl
  · exact hx t (hmem t ht)
  · obtain ⟨name, rfl⟩ := hn z (hx z hmem)
    exact List.mem_singleton.1 ht ▸ hx _ hmem
  · exact List.mem_singleton.1 ht ▸ hi

/-- What holds of all types of two schemas holds of all types of the two together. -/
theorem listedTypes_unite (hx : ∀ t ∈ listedTypes x, P t) (hy : ∀ t ∈ listedTypes y, P t) :
    ∀ t ∈ listedTypes (Json.unite x y), P t := by
  intro t ht
  rcases unite_cases x y with ⟨_, _, _, _, rfl, -, -⟩ | ⟨_, xs, _, ys, rfl, rfl, h⟩ | h
  · obtain ⟨name, hname⟩ := hn _ (hx _ (List.mem_singleton_self _))
    cases hname
  · rw [h] at ht
    exact (List.mem_append.1 (mem_of_mem_distinct ht)).elim (hx t) (hy t)
  · exact hy t (h ▸ ht)

end Types

theorem mergeable_tolerated : Mergeable Tolerated Unpinning where
  weaken h _ k x hm := (h k x hm).tolerated
  blend := by
    intro conjunction a b k z ha hb hb' hz
    have left : ∀ {k x}, get? a k = some x → Tolerated k x := fun h => ha _ _ (Json.mem_of_get? h)
    have right : ∀ {k x}, get? b k = some x → Tolerated k x := fun h => hb _ _ (Json.mem_of_get? h)
    cases hz with
    | types hx _ h =>
      refine ⟨(left hx).lacked, fun _ => ?_, nofun⟩
      exact listedTypes_intersect (fun _ ht => (exists_of_isSolidType ht).imp fun _ h => h.1) rfl
        ((left hx).types rfl) h
    | enumeration hx _ _ _ => exact ⟨(left hx).lacked, nofun, nofun⟩
    | constant _ hy =>
      rw [pinned?_of_unpinning hb'] at hy
      cases hy
    | required => exact ⟨by simp, nofun, nofun⟩
    | properties hx => exact ⟨(left hx).lacked, nofun, nofun⟩
    | united hk hx _ =>
      refine ⟨(left hx).lacked, ?_, ?_⟩ <;> rintro rfl <;> simp at hk
    | merged hk hx _ _ _ =>
      refine ⟨(left hx).lacked, ?_, ?_⟩ <;> rintro rfl <;> simp at hk
    | composed hk hx hy hl hr =>
      refine ⟨(left hx).lacked, ?_, ?_⟩
      · rintro rfl
        simp at hk
      · rintro rfl s hs
        rcases List.mem_append.1 (mem_of_mem_distinctOccurrences hs) with hs | hs
        · rcases mem_entries hl hs with ⟨tag, rfl⟩ | ⟨text, rfl⟩
          · exact (left hx).members rfl s hs
          · exact ⟨.plain rfl, Json.proper_str _⟩
        · rcases mem_entries hr hs with ⟨tag, rfl⟩ | ⟨text, rfl⟩
          · exact (right hy).members rfl s hs
          · exact ⟨.plain rfl, Json.proper_str _⟩
  unite := by
    intro k x y hx hy
    refine ⟨hx.lacked, ?_, ?_⟩
    · rintro rfl
      exact listedTypes_unite (fun _ ht => (exists_of_isSolidType ht).imp fun _ h => h.1) (hx.types rfl)
        (hy.types rfl)
    · rintro rfl s hs
      rcases unite_cases x y with ⟨_, _, _, _, -, -, h⟩ | ⟨_, xs, _, ys, rfl, rfl, h⟩ | h
      · rw [h] at hs
        cases hs
      · rw [h] at hs
        rcases List.mem_append.1 (mem_of_mem_distinct hs) with hs | hs
        · exact hx.members rfl s hs
        · exact hy.members rfl s hs
      · exact hy.members rfl s (h ▸ hs)

end Schema

namespace Resolve

open Schema (Assertive Simple Tolerated Unpinning stirring)

/-- **Assertive schemas and all that are merged of them are tame**, so that nothing is added to a value
on the way. -/
theorem tame_tolerated {setting : Probe.Setting} (ha : setting.options.accessor = .direct) :
    Tame False setting Tolerated Unpinning where
  accessor := ha
  mergeable := Schema.mergeable_tolerated
  steady := by
    refine .inr ⟨fun _ h => h.lacked (by simp), fun _ h => h.lacked (by simp), fun x h name hn => ?_⟩
    refine Bool.eq_false_iff.2 fun hl => ?_
    obtain ⟨_, he, hs⟩ := Schema.exists_of_isSolidType (h.types rfl _ (Json.listsName_iff.1 hl))
    cases he
    exact hs hn
  chosen := .inl fun _ h => h.lacked (by simp)
  narrowed x name h hl := by
    refine ⟨by simp, fun _ t ht => ?_, nofun⟩
    exact List.mem_singleton.1 ht ▸ h.types rfl _ (Json.listsName_iff.1 hl)
  parts k hk x h s hs _ := by
    simp only [List.mem_cons, List.not_mem_nil, or_false] at hk
    rcases hk with rfl | rfl | rfl | rfl
    · exact absurd (by simp) h.lacked
    · exact absurd (by simp) h.lacked
    · exact (h.members rfl s hs).unpinning
    · exact absurd (by simp) h.lacked
  referred := .inl fun _ h => h.lacked (by simp)

/-- An assertive schema is good. -/
theorem good_of_assertive {s : Json} (h : Wholly Assertive s) : Good Tolerated s :=
  ⟨Schema.mergeable_tolerated.everywhere_weaken h.unpinning, h.proper⟩

/-- A simple schema is good. -/
theorem good_of_simple {s : Json} (h : Wholly Simple s) : Good Tolerated s :=
  ⟨h.tolerated, h.proper⟩

/-- What is kept where nothing grows is there, and only its members may be in another order. -/
theorem Kept.reordered {x : Json} {w : Option Json} (h : Kept False (some x) w) (hx : x.Proper) :
    ∃ y, w = some y ∧ Reordered x y := by
  obtain ⟨y, rfl, hxy⟩ := h.extends?.resolve_left fun hn => hn.1
  exact ⟨y, rfl, hxy, hx, h.proper y rfl⟩

/-- **Members that extend others without adding to any** are those in another order. -/
theorem Preserved.reordered {tag tag' : Tag} {start members : Fields}
    (h : Preserved False start members) (hs : (Json.obj tag start).Proper) :
    Reordered (.obj tag start) (.obj tag' members) := by
  have hk : Kept False (some (.obj tag start)) (some (.obj tag' members)) := h.kept hs.distinct
  obtain ⟨_, he, hr⟩ := hk.reordered hs
  cases he
  exact hr

/-- A value in another order can be taken along as well. -/
theorem Sound.reordered {x y : Json} (hx : Sound False x) (hr : Reordered x y) : Sound False y :=
  ⟨hr.proper', .inr (hr.alike.nullFree hr.proper' (hx.plain.resolve_left id))⟩

/-- Members in another order extend what they were. -/
theorem Preserved.of_reordered {tag tag' : Tag} {start members : Fields}
    (hs : Sound False (.obj tag start)) (hr : Reordered (.obj tag start) (.obj tag' members)) :
    Preserved False start members where
  distinct := hr.proper'.distinct
  sound _ _ hk := (hs.reordered hr).of_get? hk
  extends? k := by
    have hk := hr.get? k
    revert hk
    cases get? start k <;> cases get? members k <;> rintro ⟨⟩
    · exact .inr rfl
    · next hxy => exact hxy.alike.some

end Resolve

end Conform
