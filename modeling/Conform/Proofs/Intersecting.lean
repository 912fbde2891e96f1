/-
# What types in common admit

Two declarations of types are intersected by their names, and whole numbers are the only thing that two
different names have in common.  So there is a rule of its own for them, for declarations without a common
name: where one names numbers and the other whole numbers, whole numbers are left.

Hence what is left admits exactly what both declarations admit (`fits_meet_iff`), with one exception.  If
the declarations do have a name in common, that rule is passed over, and the whole numbers that the one
admits as numbers and the other as whole numbers go lost (`Divides`).  No such thing happens where nothing
is left: then no value is of a type in both (`meet_eq_nil_iff`).
-/
import Conform.Proofs.Merging

namespace Conform

/-! ## 1. The types of a value -/

namespace Kind

variable {kind : Kind} {kinds left right : List Kind} {value : Json}

/-- A kind as the type of that name. -/
def type (kind : Kind) : Json := .str kind.name

theorem name_injective : Function.Injective name := by
  intro kind kind' h
  cases kind <;> cases kind' <;> first | rfl | exact absurd h (by decide)

/-- **The kinds of a value**: the one that it is of when all are offered, and for whole numbers that of
whole numbers, too. -/
theorem fits_iff : kind.fits value = true ↔
    kind = ofValue value ∨ kind = .integer ∧ value.isInteger = true := by
  cases kind <;> cases value <;> simp [fits, ofValue, Json.isNumber, Json.isInteger]

/-- Every kind has a value. -/
theorem exists_fits (kind : Kind) : ∃ value, kind.fits value = true := by
  cases kind with
  | null => exact ⟨.null, rfl⟩
  | array => exact ⟨.arr none [], rfl⟩
  | object => exact ⟨.obj none [], rfl⟩
  | boolean => exact ⟨.bool true, rfl⟩
  | string => exact ⟨.str "", rfl⟩
  | number | integer => exact ⟨.num (.int 0), rfl⟩

/-- The types of some kinds list the names of those kinds. -/
theorem listsName_types : Json.listsName (kinds.map type) kind.name = true ↔ kind ∈ kinds := by
  exact Json.listsName_iff.trans
    (List.mem_map_of_injective (f := type) (a := kind) fun _ _ he => name_injective (Json.str.inj he))

/-- Types are the same name only if they are of one kind. -/
theorem looselyEqual_type {other : Kind} :
    Json.looselyEqual kind.type other.type = true ↔ kind = other := by
  rw [type, type, Json.looselyEqual, beq_iff_eq]
  exact name_injective.eq_iff

/-- A type is among others if its kind is. -/
theorem isAmong_types : Json.isAmong kind.type (kinds.map type) = true ↔ kind ∈ kinds := by
  rw [Json.isAmong, List.any_map, List.any_eq_true]
  constructor
  · rintro ⟨other, hm, he⟩
    exact looselyEqual_type.1 he ▸ hm
  · exact fun hm => ⟨kind, hm, looselyEqual_type.2 rfl⟩

/-! ## 2. Kinds in common -/

/-- Is one side about numbers and the other about whole numbers? -/
def meetsInIntegers (left right : List Kind) : Prop :=
  .number ∈ left ∧ .integer ∈ right ∨ .integer ∈ left ∧ .number ∈ right

instance : Decidable (meetsInIntegers left right) :=
  inferInstanceAs (Decidable (_ ∨ _))

/-- **The kinds that two lists come to**: those that both name, or else whole numbers. -/
def meet (left right : List Kind) : List Kind :=
  let common := left.filter (· ∈ right)
  if common = [] ∧ meetsInIntegers left right then [.integer] else common

/-- **Whole numbers come between the two**: one side admits them as numbers only, the other as whole numbers
only, and the sides have some other kind in common. -/
structure Divides (left right : List Kind) : Prop where
  across : meetsInIntegers left right
  number : ¬(.number ∈ left ∧ .number ∈ right)
  integer : ¬(.integer ∈ left ∧ .integer ∈ right)
  common : ∃ kind ∈ left, kind ∈ right

/-- Is the value of one of the kinds? -/
def Among (kinds : List Kind) (value : Json) : Prop := ∃ kind ∈ kinds, kind.fits value = true

/-- A value is of one of the kinds by the kind that it is of, or as a whole number. -/
theorem among_iff : Among kinds value ↔
    ofValue value ∈ kinds ∨ .integer ∈ kinds ∧ value.isInteger = true := by
  simp only [Among, fits_iff]
  constructor
  · rintro ⟨kind, hm, rfl | ⟨rfl, hv⟩⟩
    · exact .inl hm
    · exact .inr ⟨hm, hv⟩
  · rintro (hm | ⟨hm, hv⟩)
    · exact ⟨_, hm, .inl rfl⟩
    · exact ⟨_, hm, .inr ⟨rfl, hv⟩⟩

/-- A whole number is a number. -/
theorem ofValue_of_isInteger (h : value.isInteger = true) : ofValue value = .number := by
  cases value with
  | num n => rfl
  | _ => cases h

theorem among_of_not_isInteger (hv : value.isInteger = false) :
    Among kinds value ↔ ofValue value ∈ kinds := by
  rw [among_iff, hv]
  simp

theorem among_of_isInteger (hv : value.isInteger = true) :
    Among kinds value ↔ .number ∈ kinds ∨ .integer ∈ kinds := by
  rw [among_iff, ofValue_of_isInteger hv]
  simp [hv]

/-- Where there are kinds in common, these are what is left. -/
theorem meet_of_common (h : ∃ kind ∈ left, kind ∈ right) : meet left right = left.filter (· ∈ right) := by
  obtain ⟨kind, hl, hr⟩ := h
  rw [meet, if_neg]
  rintro ⟨none, -⟩
  exact List.filter_eq_nil_iff.1 none kind hl (decide_eq_true hr)

/-- Where there are none, it is whole numbers or nothing. -/
theorem meet_of_none (h : ∀ kind ∈ left, kind ∉ right) :
    meet left right = if meetsInIntegers left right then [.integer] else [] := by
  have none : left.filter (· ∈ right) = [] :=
    List.filter_eq_nil_iff.2 fun kind hl => by simpa using h kind hl
  simp only [meet, none, true_and]

/-- **What two lists of kinds come to** admits what both admit, but for the whole numbers that come between
the two. -/
theorem among_meet_iff : Among (meet left right) value ↔
    Among left value ∧ Among right value ∧ ¬(value.isInteger = true ∧ Divides left right) := by
  have divides : Divides left right ↔ meetsInIntegers left right ∧
      ¬(.number ∈ left ∧ .number ∈ right) ∧ ¬(.integer ∈ left ∧ .integer ∈ right) ∧
        ∃ kind ∈ left, kind ∈ right :=
    ⟨fun h => ⟨h.1, h.2, h.3, h.4⟩, fun h => ⟨h.1, h.2.1, h.2.2.1, h.2.2.2⟩⟩
  by_cases common : ∃ kind ∈ left, kind ∈ right
  · rw [meet_of_common common]
    cases hv : value.isInteger with
    | false => simp [among_of_not_isInteger hv]
    | true =>
      simp only [among_of_isInteger hv, List.mem_filter, decide_eq_true_eq, divides, common,
        meetsInIntegers]
      tauto
  · have apart : ∀ kind ∈ left, kind ∉ right := fun kind hl hr => common ⟨kind, hl, hr⟩
    rw [meet_of_none apart]
    cases hv : value.isInteger with
    | false =>
      have other : ofValue value ≠ .integer := by cases value <;> nofun
      have lone := apart (ofValue value)
      have nothing : ofValue value ∉ if meetsInIntegers left right then [Kind.integer] else [] := by
        split <;> simp [other]
      simp only [among_of_not_isInteger hv, iff_false_intro nothing, false_iff]
      exact fun h => lone h.1 h.2.1
    | true =>
      have number := apart .number
      have integer := apart .integer
      simp only [among_of_isInteger hv, divides, common]
      by_cases across : meetsInIntegers left right
      · rw [if_pos across]
        simp only [meetsInIntegers] at across
        simp
        tauto
      · rw [if_neg across]
        simp only [meetsInIntegers] at across
        simp
        tauto

/-- **Nothing is left only where no value is of a kind on both sides.** -/
theorem meet_eq_nil_iff :
    meet left right = [] ↔ ∀ value, ¬(Among left value ∧ Among right value) := by
  constructor
  · intro none value ⟨hl, hr⟩
    have nothing : ¬Among (meet left right) value := by simp [none, Among]
    -- a whole number that comes between the two leaves some other kind
    have divided : Divides left right := by
      by_contra undivided
      exact nothing (among_meet_iff.2 ⟨hl, hr, fun h => undivided h.2⟩)
    obtain ⟨kind, hkl, hkr⟩ := divided.common
    rw [meet_of_common divided.common] at none
    exact List.filter_eq_nil_iff.1 none kind hkl (decide_eq_true hkr)
  · intro none
    by_contra left_over
    obtain ⟨kind, hk⟩ := List.exists_mem_of_ne_nil _ left_over
    obtain ⟨value, hv⟩ := exists_fits kind
    obtain ⟨hl, hr, -⟩ := among_meet_iff.1 ⟨kind, hk, hv⟩
    exact none value ⟨hl, hr⟩

end Kind

namespace Schema

/-! ## 3. Declarations -/

/-- **A declaration of types**: the name of a kind, or a list of names. -/
inductive Declares : Json → List Kind → Prop
  | single (kind : Kind) : Declares kind.type [kind]
  | several (tag : Tag) (kinds : List Kind) : Declares (.arr tag (kinds.map Kind.type)) kinds

/-- Is the value of one of the types that are declared? -/
def OfTypes (declaration value : Json) : Prop :=
  (Kind.firstFit (listedTypes declaration) value).isSome = true

instance {declaration value : Json} : Decidable (OfTypes declaration value) :=
  inferInstanceAs (Decidable (_ = true))

variable {a b : Json} {kinds left right : List Kind} {value : Json}

theorem Declares.listedTypes_eq (h : Declares a kinds) : listedTypes a = kinds.map Kind.type := by
  cases h <;> rfl

/-- A value is of the types that are declared if it is of one of the kinds. -/
theorem Declares.ofTypes_iff (h : Declares a kinds) : OfTypes a value ↔ Kind.Among kinds value := by
  have every : ∀ kind : Kind, kind ∈ Kind.all := by
    intro kind
    cases kind <;> simp [Kind.all]
  simp only [OfTypes, Kind.firstFit, List.find?_isSome, h.listedTypes_eq, Bool.and_eq_true,
    Kind.listsName_types, Kind.Among, every, true_and]

theorem filter_isAmong_types (left right : List Kind) :
    (left.map Kind.type).filter (fun type => Json.isAmong type (right.map Kind.type)) =
      (left.filter (· ∈ right)).map Kind.type := by
  rw [List.filter_map]
  congr 1
  refine List.filter_congr fun kind _ => ?_
  rw [Function.comp_apply, Bool.eq_iff_iff, Kind.isAmong_types, decide_eq_true_iff]

/-- Whole numbers stand for numbers if nothing else is in common. -/
theorem meet_types (left right : List Kind) :
    (if ((left.filter (· ∈ right)).map Kind.type).isEmpty &&
        ((Json.listsName (left.map Kind.type) "number" &&
          Json.listsName (right.map Kind.type) "integer") ||
          (Json.listsName (left.map Kind.type) "integer" &&
            Json.listsName (right.map Kind.type) "number")) then [Json.str "integer"]
      else (left.filter (· ∈ right)).map Kind.type) = (Kind.meet left right).map Kind.type := by
  have across : ((Json.listsName (left.map Kind.type) "number" &&
      Json.listsName (right.map Kind.type) "integer") ||
      (Json.listsName (left.map Kind.type) "integer" &&
        Json.listsName (right.map Kind.type) "number")) = true ↔ Kind.meetsInIntegers left right := by
    simp only [Bool.or_eq_true, Bool.and_eq_true]
    rw [show "number" = Kind.number.name from rfl, show "integer" = Kind.integer.name from rfl]
    simp only [Kind.listsName_types, Kind.meetsInIntegers]
  simp only [Kind.meet, Bool.and_eq_true, across, List.isEmpty_iff, List.map_eq_nil_iff]
  split <;> rfl

/-- **Types in common are those of the kinds that two declarations come to**, and there are none if there
are no such kinds. -/
theorem intersectTypes_declared (ha : Declares a left) (hb : Declares b right) :
    (Kind.meet left right = [] ∧ intersectTypes a b =
        .error (.conflict (left.map Kind.type) (right.map Kind.type))) ∨
      Kind.meet left right ≠ [] ∧
        ∃ t, intersectTypes a b = .ok t ∧ Declares t (Kind.meet left right) := by
  generalize answered : intersectTypes a b = answer
  unfold intersectTypes at answered
  extract_lets typesOf types types' shared listed left_over at answered
  have lists : typesOf = listedTypes := funext fun x => by cases x <;> rfl
  have here : types = left.map Kind.type := by simp only [types, lists, ha.listedTypes_eq]
  have there : types' = right.map Kind.type := by simp only [types', lists, hb.listedTypes_eq]
  -- the types that are left, before they are written as one or as several
  have rest : left_over = (Kind.meet left right).map Kind.type := by
    simp only [left_over, shared, listed, here, there, filter_isAmong_types, meet_types]
  rw [rest, here, there] at answered
  subst answered
  cases hm : Kind.meet left right with
  | nil => exact .inl ⟨rfl, rfl⟩
  | cons kind rest =>
    refine .inr ⟨List.cons_ne_nil _ _, ?_⟩
    cases rest with
    | nil => exact ⟨_, rfl, .single kind⟩
    | cons kind' rest => exact ⟨_, rfl, .several none (kind :: kind' :: rest)⟩

/-- **The intersection of two declarations of types.**  What is left admits exactly the values that both
admit, but for whole numbers that come between them, and it is a conflict exactly where there is no value
that both admit. -/
theorem ofTypes_intersectTypes_iff (ha : Declares a left) (hb : Declares b right) :
    (∀ t, intersectTypes a b = .ok t → ∀ value, OfTypes t value ↔ OfTypes a value ∧ OfTypes b value ∧
        ¬(value.isInteger = true ∧ Kind.Divides left right)) ∧
      ((∃ l r, intersectTypes a b = .error (.conflict l r)) ↔
        ∀ value, ¬(OfTypes a value ∧ OfTypes b value)) ∧
      ∀ fault, intersectTypes a b = .error fault → ∃ l r, fault = .conflict l r := by
  simp only [ha.ofTypes_iff, hb.ofTypes_iff, ← Kind.meet_eq_nil_iff]
  rcases intersectTypes_declared ha hb with ⟨none, he⟩ | ⟨some, t, he, ht⟩
  · rw [he]
    refine ⟨nofun, iff_of_true ⟨_, _, rfl⟩ none, ?_⟩
    rintro _ ⟨⟩
    exact ⟨_, _, rfl⟩
  · rw [he]
    refine ⟨?_, iff_of_false nofun some, nofun⟩
    rintro _ ⟨⟩ value
    rw [ht.ofTypes_iff, Kind.among_meet_iff]

/-- Texts and numbers against texts and whole numbers: only texts are left. -/
theorem ofTypes_intersectTypes_iff_divided :
    let a : Json := .arr none [.str "number", .str "string"]
    let b : Json := .arr none [.str "integer", .str "string"]
    Declares a [.number, .string] ∧ Declares b [.integer, .string] ∧
      intersectTypes a b = .ok (.str "string") ∧
      ∀ value, OfTypes (.str "string") value ↔ OfTypes a value ∧ OfTypes b value ∧
        ¬(value.isInteger = true ∧ Kind.Divides [.number, .string] [.integer, .string]) := by
  intro a b
  have ha : Declares a [.number, .string] := .several none [.number, .string]
  have hb : Declares b [.integer, .string] := .several none [.integer, .string]
  have left_over : intersectTypes a b = .ok (.str "string") := rfl
  exact ⟨ha, hb, left_over, (ofTypes_intersectTypes_iff ha hb).1 _ left_over⟩

/-- **Whole numbers go lost** where one side admits them as numbers, the other as whole numbers, and both
name another type: a whole number is of a type on both sides, and of none of those that are left. -/
theorem intersectTypes_loses_integers :
    ¬∀ (a b : Json) (left right : List Kind), Declares a left → Declares b right →
      ∀ t, intersectTypes a b = .ok t → ∀ value, OfTypes t value ↔ OfTypes a value ∧ OfTypes b value := by
  intro exact_
  have left_over : intersectTypes (.arr none [.str "number", .str "string"])
      (.arr none [.str "integer", .str "string"]) = .ok (.str "string") := rfl
  have one := exact_ _ _ _ _ (.several none [.number, .string]) (.several none [.integer, .string]) _
    left_over (.num (.int 1))
  revert one
  decide

end Schema

end Conform
