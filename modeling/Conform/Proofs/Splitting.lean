/-
# What splitting off properties changes

A condition that describes properties is evaluated in two parts: each property by itself, behind a look
at its bounds, and then the rest of the condition, from which the properties have been taken away.  Where
every property is there, and is no null, this should come to the same as probing the whole condition.
One half holds: what meets the condition is valid for it.  The other half fails in two places, and
`meets_iff_issues` states exactly what is missing.

* **The rest has forgotten the properties.**  A schema for names that match a pattern, or for further
  members, is for members that are not declared.  In the rest nothing is declared any more, so these
  schemas are held against the properties as well (`Unopposed`).
* **A bound is looked at twice.**  The first look asks whether the number is within the bound, the probe
  whether it is beyond it.  A number that stands in no order to others is neither (`Comparable`).

All other keywords read the same on both ways: most do not look at properties at all, and whether a
required property is missing depends on its schema for nulls only.
-/
import Conform.Proofs.Dispatch

namespace Conform

open Fields (get?)
open Schema (Formed fieldsOf)

/-! ## 1. Numbers within bounds -/

namespace Number

variable {m n : Number}

/-- Of two values that can be compared, one that is not above the other is below it or equal to it. -/
theorem Value.lt_or_eq_of_not_lt {v w : Value} (hv : v ≠ .undefined) (hw : w ≠ .undefined)
    (h : w.lt v = false) : (v.lt w || v.eq w) = true := by
  cases v <;> cases w
  case exact.exact a b =>
    have le : a ≤ b := Rat.not_lt.1 (of_decide_eq_false h)
    rcases Rat.le_iff_lt_or_eq.1 le with below | rfl
    · exact Bool.or_eq_true_iff.2 (.inl (decide_eq_true below))
    · exact Bool.or_eq_true_iff.2 (.inr (beq_self_eq_true _))
  all_goals simp_all [Value.lt, Value.eq]

/-- Of two numbers that can be compared, one that is not above the other is at most the other. -/
theorem le_of_not_lt (hm : m.value ≠ .undefined) (hn : n.value ≠ .undefined) (h : n.lt m = false) :
    m.le n = true :=
  Value.lt_or_eq_of_not_lt hm hn h

/-- What stands in no order is at most nothing. -/
theorem defined_of_le (h : m.le n = true) : m.value ≠ .undefined ∧ n.value ≠ .undefined := by
  unfold le at h
  cases hvm : m.value <;> cases hvn : n.value <;> simp_all [Value.lt, Value.eq]

end Number

namespace Probe

/-- The value is a number that can be compared. -/
def Ordered : Json → Prop
  | .num n => n.value ≠ .undefined
  | _ => False

/-- The keywords at which a condition looks before it probes a property. -/
abbrev boundKeywords : List String := ["minimum", "maximum"]

/-- **The bounds that a condition gives can be compared with the value.** -/
def Comparable (x condition : Json) : Prop :=
  ∀ k ∈ boundKeywords, ∀ limit, get? (fieldsOf condition) k = some limit → Ordered limit ∧ Ordered x

section Bounds

variable {setting : Setting} {terms : Schema.Terms} {x condition : Json} {tag : Tag} {fields : Fields}
  {path : Path} {kind : Kind} {m n : Number}

/-- A bound is not violated where nothing is said against the number, exclusive as it may be. -/
theorem unviolated {exclusive : Option Json} (weak : Number → Bool) {strict : Number → Bool}
    {reason reason' : Json → Reason}
    (hw : ∀ limit, weak limit = true → strict limit = true)
    (h : boundIssue (effectiveBounds (some (.num m)) exclusive).1 weak reason path = [])
    (h' : boundIssue (effectiveBounds (some (.num m)) exclusive).2 strict reason' path = []) :
    weak m = false := by
  refine Bool.eq_false_iff.2 fun beyond => ?_
  rcases effectiveBounds_cases (some (.num m)) exclusive with he | ⟨_, -, ⟨⟩, he⟩
  · rw [he] at h
    simp [boundIssue, beyond] at h
  · rw [he] at h'
    simp [boundIssue, hw m beyond] at h'

/-- **A number with nothing against it is beyond no bound.** -/
theorem unviolated_of_numberIssues (h : numberIssues kind (.num n) fields path = []) :
    (∀ m, get? fields "minimum" = some (.num m) → n.lt m = false) ∧
      ∀ m, get? fields "maximum" = some (.num m) → m.lt n = false := by
  simp only [numberIssues, List.append_eq_nil_iff] at h
  obtain ⟨⟨⟨⟨⟨-, low⟩, high⟩, above⟩, below⟩, -⟩ := h
  have weaker : ∀ a b : Number, a.lt b = true → a.le b = true := fun a b hab => by
    rw [Number.le, ← Number.lt, hab, Bool.true_or]
  constructor
  · intro m hm
    rw [hm] at low above
    exact unviolated n.lt (fun limit => weaker n limit) low above
  · intro m hm
    rw [hm] at high below
    exact unviolated (fun limit => limit.lt n) (fun limit => weaker limit n) high below

/-- The types that a well-formed schema declares are texts. -/
theorem exists_declaredTypes (formed : Formed terms (.obj tag fields)) :
    ∃ types : List String, Schema.declaredTypes (.obj tag fields) = types.map .str := by
  have listed : ∀ xs : List Json, (∀ y ∈ xs, Schema.isText y = true) →
      ∃ types : List String, xs = types.map .str := by
    intro xs texts
    induction xs with
    | nil => exact ⟨[], rfl⟩
    | cons y rest ih =>
      obtain ⟨s, rfl⟩ := Schema.isText_iff.1 (texts y (List.mem_cons_self ..))
      obtain ⟨types, rfl⟩ := ih fun z hz => texts z (List.mem_cons_of_mem _ hz)
      exact ⟨s :: types, rfl⟩
  exact listed _ fun _ hm => isText_of_mem_declaredTypes formed hm

/-- **A number that a well-formed schema admits is beyond none of its bounds.** -/
theorem unviolated_of_issues (formed : Formed terms (.obj tag fields))
    (h : issues setting (.num n) (.obj tag fields) path = .ok []) :
    (∀ m, get? fields "minimum" = some (.num m) → n.lt m = false) ∧
      ∀ m, get? fields "maximum" = some (.num m) → m.lt n = false := by
  obtain ⟨types, declared⟩ := exists_declaredTypes formed
  obtain ⟨type, -, kind, -, passes⟩ := (typeIssues_declared_iff declared).1 (issues_obj_iff_general.1 h).2
  have numeric : kind = .number ∨ kind = .integer := by
    rcases kind_of_kindIssues passes with rfl | ⟨rfl, -⟩
    · exact .inl rfl
    · exact .inr rfl
  rcases numeric with rfl | rfl <;> exact unviolated_of_numberIssues (Except.ok.inj passes)

/-- The bounds of a well-formed schema are numbers. -/
theorem exists_bound (formed : Formed terms (.obj tag fields)) {k : String} (hk : k ∈ boundKeywords)
    {limit : Json} (hl : get? fields k = some limit) : ∃ m, limit = .num m := by
  have shape : Schema.Shape.ofKeyword k = .number := by
    simp only [List.mem_cons, List.not_mem_nil, or_false] at hk
    rcases hk with rfl | rfl <;> rfl
  have numeric := isNumber_of_limit formed shape hl
  cases limit with
  | num m => exact ⟨m, rfl⟩
  | _ => cases numeric

/-- One bound of a property that is looked at before it is probed. -/
theorem withinBound_iff (formed : Formed terms (.obj tag fields)) {k : String} (hk : k ∈ boundKeywords)
    {allowed : Number → Number → Bool} :
    (match get? fields k with
      | some bound => withinBound x bound allowed
      | none => .ok true) = .ok true ↔
    ∀ m, get? fields k = some (.num m) → ∃ n, x = .num n ∧ allowed n m = true := by
  cases hb : get? fields k with
  | none => simp
  | some bound =>
    obtain ⟨m, rfl⟩ := exists_bound formed hk hb
    cases x <;> simp [withinBound, limitOf, Json.quantity?, ok_bind]

theorem withinBounds_obj_iff (formed : Formed terms (.obj tag fields)) :
    withinBounds x (.obj tag fields) = .ok true ↔
      (∀ m, get? fields "minimum" = some (.num m) → ∃ n, x = .num n ∧ m.le n = true) ∧
      ∀ m, get? fields "maximum" = some (.num m) → ∃ n, x = .num n ∧ n.le m = true := by
  rw [← withinBound_iff formed (k := "minimum") (by simp),
    ← withinBound_iff formed (k := "maximum") (by simp), withinBounds]
  cases get? fields "minimum" with
  | none => exact (and_iff_right rfl).symm
  | some bound =>
    dsimp only
    rw [bind_eq_ok]
    constructor
    · rintro ⟨low, hlow, h⟩
      cases low with
      | true => exact ⟨hlow, h⟩
      | false => cases h
    · rintro ⟨hlow, hhigh⟩
      exact ⟨true, hlow, hhigh⟩

/-- **Looking at the bounds first excludes what cannot be compared with them**, and nothing else. -/
theorem withinBounds_and_issues_iff (formed : Formed terms condition) :
    withinBounds x condition = .ok true ∧ issues setting x condition path = .ok [] ↔
      issues setting x condition path = .ok [] ∧ Comparable x condition := by
  cases formed with
  | boolean b =>
    exact ⟨fun h => ⟨h.2, nofun⟩, fun h => ⟨rfl, h.1⟩⟩
  | @node tag fields fits inner =>
    have formed : Formed terms (.obj tag fields) := .node fits inner
    rw [and_comm, withinBounds_obj_iff formed]
    refine and_congr_right fun admitted => ?_
    constructor
    · rintro ⟨low, high⟩ k hk limit hl
      obtain ⟨m, rfl⟩ := exists_bound formed hk hl
      simp only [List.mem_cons, List.not_mem_nil, or_false] at hk
      rcases hk with rfl | rfl
      · obtain ⟨n, rfl, hle⟩ := low m hl
        exact Number.defined_of_le hle
      · obtain ⟨n, rfl, hle⟩ := high m hl
        exact (Number.defined_of_le hle).symm
    · intro comparable
      have compared : ∀ k ∈ boundKeywords, ∀ m, get? fields k = some (.num m) →
          ∃ n, x = .num n ∧ m.value ≠ .undefined ∧ n.value ≠ .undefined := by
        intro k hk m hm
        obtain ⟨limit_ordered, ordered⟩ := comparable k hk _ hm
        cases x with
        | num n => exact ⟨n, rfl, limit_ordered, ordered⟩
        | _ => cases ordered
      constructor
      · intro m hm
        obtain ⟨n, rfl, hdm, hdn⟩ := compared "minimum" (by simp) m hm
        exact ⟨n, rfl, Number.le_of_not_lt hdm hdn ((unviolated_of_issues formed admitted).1 m hm)⟩
      · intro m hm
        obtain ⟨n, rfl, hdm, hdn⟩ := compared "maximum" (by simp) m hm
        exact ⟨n, rfl, Number.le_of_not_lt hdn hdm ((unviolated_of_issues formed admitted).2 m hm)⟩

end Bounds
/-! ## 2. Members that are not declared -/

section Members

variable {setting : Setting} {terms : Schema.Terms} {x : Json} {tag vtag : Tag}
  {fields fields' members : Fields} {path : Path} {name : String}

/-- **The schemas for names have nothing against a member**: neither one under a pattern that is found in
the name nor, if there is none, the one for further members. -/
structure Unopposed (setting : Setting) (fields : Fields) (path : Path) (name : String) (x : Json) : Prop where
  matched : ∀ pattern schema, (pattern, schema) ∈ entriesUnder fields "patternProperties" →
    setting.options.engine.search (.str pattern) (.str name) = .ok true →
    issues setting x schema (path ++ [name]) = .ok []
  further : ∀ additional, get? fields "additionalProperties" = some additional →
    (∀ pattern ∈ namesUnder fields "patternProperties",
      setting.options.engine.search (.str pattern) (.str name) = .ok false) →
    issues setting x additional (path ++ [name]) = .ok []

theorem Unopposed.congr (h : ∀ k ∈ ["patternProperties", "additionalProperties"], get? fields' k = get? fields k)
    (unopposed : Unopposed setting fields path name x) : Unopposed setting fields' path name x := by
  have patterns : entriesUnder fields' "patternProperties" = entriesUnder fields "patternProperties" := by
    rw [entriesUnder, entriesUnder, memberTable, memberTable, h _ (by simp)]
  refine ⟨fun pattern schema hm => unopposed.matched pattern schema (patterns ▸ hm), fun additional ha hp => ?_⟩
  rw [namesUnder, patterns] at hp
  exact unopposed.further additional (h "additionalProperties" (by simp) ▸ ha) hp

section Formed

variable (formed : Formed terms (.obj tag fields))

include formed

/-- The tables of a well-formed schema are objects. -/
theorem all_isObject : ∀ k ∈ tableKeywords, (get? fields k).all Json.isObject = true := by
  intro k hk
  cases hx : get? fields k with
  | none => rfl
  | some x =>
    have holds := formed.get? hx
    simp only [List.mem_cons, List.not_mem_nil, or_false] at hk
    rcases hk with rfl | rfl | rfl
    · obtain ⟨_, _, rfl, -⟩ := holds.table rfl
      rfl
    · obtain ⟨_, _, rfl, -⟩ := holds.patternTable
      rfl
    · obtain ⟨_, _, rfl, -⟩ := holds.table rfl
      rfl

variable (reads : setting.options.engine.Reads terms.patterns)

include reads

/-- A pattern of a well-formed schema can be looked for in any name. -/
theorem exists_search {pattern : String} (hm : pattern ∈ namesUnder fields "patternProperties")
    (name : String) : ∃ fits, setting.options.engine.search (.str pattern) (.str name) = .ok fits := by
  obtain ⟨_, table, ht, patterns⟩ := exists_patternTable formed
  obtain ⟨⟨_, schema⟩, hp, rfl⟩ := List.mem_map.1 hm
  rw [entriesUnder, ht] at hp
  exact reads (patterns _ schema hp).1 name

theorem patternIssues_iff {properties : Fields} {member : String × Json} (hm : member ∈ members) :
    patternIssues setting vtag members fields path (inside setting (.obj vtag members)) properties
        member hm = .ok [] ↔
      (Fields.has properties member.1 = false → ∀ pattern schema,
        (pattern, schema) ∈ entriesUnder fields "patternProperties" →
        setting.options.engine.search (.str pattern) (.str member.1) = .ok true →
        issues setting member.2 schema (path ++ [member.1]) = .ok []) := by
  have table := membersOf_memberTable (all_isObject formed "patternProperties" (by simp))
  unfold patternIssues
  cases Fields.has properties member.1 with
  | true => simp
  | false =>
    simp only [Bool.false_eq_true, if_false, table, ok_bind, gather_eq_nil_iff, Prod.forall,
      forall_const]
    refine forall_congr' fun pattern => forall_congr' fun schema => forall_congr' fun hp => ?_
    obtain ⟨fits, hf⟩ := exists_search formed reads (Fields.mem_names_of_mem hp) member.1
    cases fits with
    | true => simp [hf, ok_bind]
    | false => simp [hf, ok_bind]

theorem additionalIssues_iff {additional : Json} (ha : get? fields "additionalProperties" = some additional)
    {member : String × Json} (hm : member ∈ members) :
    additionalIssues setting vtag members fields path (inside setting (.obj vtag members)) additional member
        hm = .ok [] ↔
      (member.1 ∉ namesUnder fields "properties" →
        (∀ pattern ∈ namesUnder fields "patternProperties",
          setting.options.engine.search (.str pattern) (.str member.1) = .ok false) →
        issues setting member.2 additional (path ++ [member.1]) = .ok []) := by
  obtain ⟨uncovered, hu, covered⟩ := isAdditional_of_answered (all_isObject formed)
    fun _ pattern hp => exists_search formed reads hp member.1
  rw [← and_imp, ← covered]
  cases uncovered with
  | true =>
    have itself : Reference.expand setting.options.source setting.root additional =
        .ok (some (.node additional)) := expand_of_formed ((formed.get? ha).schema rfl)
    exact (issues_of_additional hm ha hu itself).trans (by simp)
  | false => simp [additionalIssues, hu, ok_bind]

/-- **What is said of members by their names** is said of those that are not declared. -/
theorem unopposed_iff :
    (∀ member hm, patternIssues setting vtag members fields path (inside setting (.obj vtag members))
        (entriesUnder fields "properties") member hm = .ok []) ∧
      allAdditionalIssues setting vtag members fields path (inside setting (.obj vtag members)) = .ok [] ↔
    ∀ member ∈ members, member.1 ∉ namesUnder fields "properties" →
      Unopposed setting fields path member.1 member.2 := by
  have undeclared_iff : ∀ name, Fields.has (entriesUnder fields "properties") name = false ↔
      name ∉ namesUnder fields "properties" := fun name => by
    rw [Fields.has_eq_false_iff, Fields.get?_eq_none_iff, namesUnder]
  have additional_iff :
      allAdditionalIssues setting vtag members fields path (inside setting (.obj vtag members)) = .ok [] ↔
      ∀ additional, get? fields "additionalProperties" = some additional → ∀ member hm,
        additionalIssues setting vtag members fields path (inside setting (.obj vtag members)) additional
          member hm = .ok [] := by
    unfold allAdditionalIssues
    split
    · next ha => simp [ha]
    · next additional ha => simp [ha, gather_eq_nil_iff]
  rw [additional_iff]
  constructor
  · rintro ⟨patterned, additional⟩ member hm undeclared
    exact ⟨(patternIssues_iff formed reads hm).1 (patterned member hm) ((undeclared_iff _).2 undeclared),
      fun a ha => (additionalIssues_iff formed reads ha hm).1 (additional a ha member hm) undeclared⟩
  · intro unopposed
    refine ⟨fun member hm => (patternIssues_iff formed reads hm).2 fun undeclared => ?_,
      fun a ha member hm => (additionalIssues_iff formed reads ha hm).2 fun undeclared => ?_⟩
    · exact (unopposed member hm ((undeclared_iff _).1 undeclared)).matched
    · exact (unopposed member hm undeclared).further a ha

/-- What there is to find no issue in an object as a whole, its members aside: a part for each keyword. -/
structure WholeValid (setting : Setting) (vtag : Tag) (members fields : Fields) (path : Path) : Prop where
  size : memberCountIssues members.length fields path = .ok []
  required : requiredIssues setting.options.accessor (.obj vtag members) fields path = .ok []
  dependent : dependentIssues setting.options.accessor (.obj vtag members) fields path = .ok []
  names : nameIssues (nameValues members) fields path
    (fun name _ schema place => issues setting name schema place) = .ok []
  schemas : dependentSchemaIssues setting vtag members fields path
    (narrower setting (.obj vtag members) fields) = .ok []

/-- **Nothing is said against an object** as a whole, nor against its declared members, nor against the
others. -/
theorem objectIssues_iff_of_formed :
    objectIssues setting vtag members fields path (inside setting (.obj vtag members))
        (narrower setting (.obj vtag members) fields) = .ok [] ↔
      WholeValid setting vtag members fields path ∧
      (∀ name condition, (name, condition) ∈ entriesUnder fields "properties" →
        propertyIssues setting vtag members path (inside setting (.obj vtag members)) name condition =
          .ok []) ∧
      ∀ member ∈ members, member.1 ∉ namesUnder fields "properties" →
        Unopposed setting fields path member.1 member.2 := by
  have table := membersOf_memberTable (all_isObject formed "properties" (by simp))
  rw [objectIssues_iff, ← unopposed_iff formed reads]
  constructor
  · rintro ⟨properties, valid⟩
    obtain rfl : entriesUnder fields "properties" = properties := by
      have found := valid.table
      rw [table] at found
      exact Except.ok.inj found
    exact ⟨⟨valid.size, valid.required, valid.dependent, valid.names, valid.schemas⟩, valid.declared,
      valid.patterned, valid.additional⟩
  · rintro ⟨whole, declared, patterned, additional⟩
    exact ⟨_, whole.size, whole.required, whole.dependent, table, declared, patterned, additional,
      whole.names, whole.schemas⟩

end Formed

end Members

/-! ## 3. The rest of a condition -/

section Rest

variable {setting : Setting} {terms : Schema.Terms} {tag ptag vtag : Tag}
  {fields properties members : Fields} {path : Path}

/-- What is left of a schema without its properties. -/
abbrev restOf (fields : Fields) : Fields := Fields.erase fields "properties"

theorem get?_restOf {k : String} (hk : k ≠ "properties") : get? (restOf fields) k = get? fields k := by
  rw [Fields.get?_erase, if_neg hk]

/-- In the rest nothing is declared. -/
theorem memberTable_restOf : memberTable (restOf fields) "properties" = .obj none [] := by
  rw [memberTable, Fields.get?_erase, if_pos rfl]
  rfl

/-- **Every property is there**, and is no null. -/
def AllPresent (accessor : Accessor) (value : Json) (properties : Fields) : Prop :=
  ∀ name condition, (name, condition) ∈ properties →
    ∃ x, accessor.read value (.str name) = .ok (some x) ∧ x ≠ .null

/-- **Required properties** are missing from the rest if they are from the whole: what is no null is there,
whatever its schema says about nulls. -/
theorem requiredIssues_restOf {accessor : Accessor} {value : Json}
    (table : get? fields "properties" = some (.obj ptag properties))
    (present : AllPresent accessor value properties) :
    requiredIssues accessor value (restOf fields) path = requiredIssues accessor value fields path := by
  have declared : memberTable fields "properties" = .obj ptag properties := by
    rw [memberTable, table]
    rfl
  unfold requiredIssues
  rw [get?_restOf (by decide), memberTable_restOf, declared]
  refine bind_congr_of_ok fun names _ => congrArg _ (funext fun name => funext fun _ => ?_)
  refine bind_congr_of_ok fun found hf => ?_
  cases name with
  | str s =>
    have same : Schema.isAbsent found ((get? properties s).getD .null) =
        Schema.isAbsent found ((get? [] s).getD .null) := by
      cases hp : get? properties s with
      | none => rfl
      | some condition =>
        obtain ⟨x, hx, hn⟩ := present s condition (Json.mem_of_get? hp)
        rw [hf] at hx
        cases hx
        rw [isAbsent_some hn, isAbsent_some hn]
    simp only [propertySchema, ok_bind, same]
  | _ => rfl

/-- The keywords about an object as a whole say the same of it. -/
theorem wholeValid_restOf (table : get? fields "properties" = some (.obj ptag properties))
    (present : AllPresent setting.options.accessor (.obj vtag members) properties) :
    WholeValid setting vtag members (restOf fields) path ↔ WholeValid setting vtag members fields path := by
  have same {k : String} (hk : k ≠ "properties") : get? (restOf fields) k = get? fields k := get?_restOf hk
  have size : memberCountIssues members.length (restOf fields) path =
      memberCountIssues members.length fields path := by
    simp only [memberCountIssues, limitIssue, same (k := "minProperties") (by decide),
      same (k := "maxProperties") (by decide)]
  have dependent : dependentIssues setting.options.accessor (.obj vtag members) (restOf fields) path =
      dependentIssues setting.options.accessor (.obj vtag members) fields path := by
    simp only [dependentIssues, memberTable, same (k := "dependentRequired") (by decide)]
  have names : nameIssues (nameValues members) (restOf fields) path
        (fun name _ schema place => issues setting name schema place) =
      nameIssues (nameValues members) fields path
        fun name _ schema place => issues setting name schema place := by
    simp only [nameIssues, same (k := "propertyNames") (by decide)]
  have schemas := @dependentSchemaIssues_of_keywords setting vtag fields (restOf fields) path members
    (same (by decide))
  constructor
  · rintro ⟨h₁, h₂, h₃, h₄, h₅⟩
    exact ⟨size ▸ h₁, requiredIssues_restOf table present ▸ h₂, dependent ▸ h₃, names ▸ h₄, schemas ▸ h₅⟩
  · rintro ⟨h₁, h₂, h₃, h₄, h₅⟩
    refine ⟨size.trans h₁, (requiredIssues_restOf table present).trans h₂, dependent.trans h₃,
      names.trans h₄, schemas.trans h₅⟩

/-- A property that is there and no null has the issues of its value. -/
theorem propertyIssues_of_present {name : String} {condition x : Json}
    (hx : setting.options.accessor.read (.obj vtag members) (.str name) = .ok (some x)) (hn : x ≠ .null) :
    propertyIssues setting vtag members path (inside setting (.obj vtag members)) name condition =
      issues setting x condition (path ++ [name]) := by
  rw [propertyIssues_of_some hx, isAbsent_some hn]
  rfl

/-- The properties, each by itself, have nothing against them. -/
def EachValid (setting : Setting) (value : Json) (properties : Fields) (path : Path) : Prop :=
  ∀ name condition, (name, condition) ∈ properties → ∀ x,
    setting.options.accessor.read value (.str name) = .ok (some x) →
      issues setting x condition (path ++ [name]) = .ok []

/-- The schemas for names have nothing against the properties either. -/
def EachUnopposed (setting : Setting) (members properties fields : Fields) (path : Path) : Prop :=
  ∀ member ∈ members, member.1 ∈ Fields.names properties → Unopposed setting fields path member.1 member.2

/-- **An object by itself**: the whole has nothing against it, nor have the schemas for names against its
properties, exactly if the properties are valid and the rest has nothing against it. -/
theorem objectIssues_restOf (formed : Formed terms (.obj tag fields))
    (reads : setting.options.engine.Reads terms.patterns)
    (table : get? fields "properties" = some (.obj ptag properties))
    (present : AllPresent setting.options.accessor (.obj vtag members) properties) :
    objectIssues setting vtag members fields path (inside setting (.obj vtag members))
        (narrower setting (.obj vtag members) fields) = .ok [] ∧
      EachUnopposed setting members properties fields path ↔
    EachValid setting (.obj vtag members) properties path ∧
      objectIssues setting vtag members (restOf fields) path (inside setting (.obj vtag members))
        (narrower setting (.obj vtag members) (restOf fields)) = .ok [] := by
  have formed_rest : Formed terms (.obj none (restOf fields)) := formed.erase
  have named : entriesUnder fields "properties" = properties := by
    rw [entriesUnder, memberTable, table]
    rfl
  have unnamed : entriesUnder (restOf fields) "properties" = [] := by
    rw [entriesUnder, memberTable_restOf]
    rfl
  have unopposed_rest {name x} : Unopposed setting (restOf fields) path name x ↔
      Unopposed setting fields path name x := by
    have same : ∀ k ∈ ["patternProperties", "additionalProperties"],
        get? (restOf fields) k = get? fields k :=
      fun k hk => get?_restOf (by rintro rfl; simp at hk)
    exact ⟨.congr fun k hk => (same k hk).symm, .congr same⟩
  have declared : (∀ name condition, (name, condition) ∈ properties →
        propertyIssues setting vtag members path (inside setting (.obj vtag members)) name condition =
          .ok []) ↔ EachValid setting (.obj vtag members) properties path := by
    refine forall_congr' fun name => forall_congr' fun condition => forall_congr' fun hm => ?_
    obtain ⟨x, hx, hn⟩ := present name condition hm
    rw [propertyIssues_of_present hx hn]
    simp [hx]
  rw [objectIssues_iff_of_formed formed reads, objectIssues_iff_of_formed formed_rest reads,
    wholeValid_restOf table present, namesUnder, namesUnder, named, unnamed, declared]
  constructor
  · rintro ⟨⟨whole, valid, others⟩, unopposed⟩
    refine ⟨valid, whole, fun _ _ hm => absurd hm List.not_mem_nil, fun member hm _ => unopposed_rest.2 ?_⟩
    by_cases hd : member.1 ∈ Fields.names properties
    · exact unopposed member hm hd
    · exact others member hm hd
  · rintro ⟨valid, whole, -, unopposed⟩
    have unopposed : ∀ member ∈ members, Unopposed setting fields path member.1 member.2 :=
      fun member hm => unopposed_rest.1 (unopposed member hm List.not_mem_nil)
    exact ⟨⟨whole, valid, fun member hm _ => unopposed member hm⟩, fun member hm _ => unopposed member hm⟩

/-- The schema leaves room for objects by its type. -/
def TakesObjects (fields : Fields) : Prop :=
  Schema.declaredTypes (.obj none fields) = [] ∨ .str "object" ∈ Schema.declaredTypes (.obj none fields)

/-- **A well-formed schema has nothing against an object** if it has nothing against any value like it, leaves
room for objects, and its keywords about objects have nothing against it. -/
theorem issues_object_iff (formed : Formed terms (.obj tag fields)) :
    issues setting (.obj vtag members) (.obj tag fields) path = .ok [] ↔
      GeneralValid setting (.obj vtag members) fields path ∧ TakesObjects fields ∧
      objectIssues setting vtag members fields path (inside setting (.obj vtag members))
        (narrower setting (.obj vtag members) fields) = .ok [] := by
  obtain ⟨types, declared⟩ := exists_declaredTypes formed
  have untagged : Schema.declaredTypes (.obj none fields) = types.map .str := declared
  rw [issues_obj_iff_general, typeIssues_declared_iff declared, TakesObjects, untagged]
  refine and_congr_right fun _ => ?_
  simp only [List.map_eq_nil_iff, List.mem_map, Json.str.injEq, exists_eq_right]
  constructor
  · rintro ⟨type, hm, kind, hkind, hk⟩
    obtain rfl := Kind.name_of_ofName? hkind
    rcases kind_of_kindIssues hk with rfl | ⟨-, hv⟩
    · refine ⟨?_, hk⟩
      split at hm
      · next none_declared => exact .inl none_declared
      · exact .inr hm
    · cases hv
  · rintro ⟨takes, hk⟩
    refine ⟨"object", ?_, .object, rfl, hk⟩
    split
    · exact List.mem_singleton_self _
    · next some_declared => exact takes.resolve_left some_declared

/-- A property holds if it is there, within its bounds and valid. -/
theorem propertyHolds_iff {name : String} {condition : Json} :
    propertyHolds setting.options.accessor vtag members path (inside setting (.obj vtag members)) name
        condition = .ok true ↔
      ∃ x, setting.options.accessor.read (.obj vtag members) (.str name) = .ok (some x) ∧
        withinBounds x condition = .ok true ∧ issues setting x condition (path ++ [name]) = .ok [] := by
  unfold propertyHolds
  split
  · next h => simp [h]
  · next h => simp [h]
  · next x h =>
    simp only [h, Except.ok.injEq, Option.some.injEq, exists_eq_left', bind_eq_ok]
    constructor
    · rintro ⟨within, hw, h⟩
      cases within with
      | true => exact ⟨hw, valid_eq_true_iff.1 h⟩
      | false => cases h
    · rintro ⟨hw, hv⟩
      exact ⟨true, hw, valid_eq_true_iff.2 hv⟩

/-- **A condition that describes properties is met** if they hold, each by itself, and the rest has nothing
against the object. -/
theorem meets_iff (table : get? fields "properties" = some (.obj ptag properties)) :
    meets setting (some (.obj vtag members)) (.obj tag fields) path = .ok true ↔
      (∀ name condition, (name, condition) ∈ properties →
        propertyHolds setting.options.accessor vtag members path (inside setting (.obj vtag members)) name
          condition = .ok true) ∧
      issues setting (.obj vtag members) (.obj none (restOf fields)) path = .ok [] := by
  have each : forall? properties (fun entry _ => propertyHolds setting.options.accessor vtag members path
        (inside setting (.obj vtag members)) entry.1 entry.2) = .ok true ↔
      ∀ name condition, (name, condition) ∈ properties →
        propertyHolds setting.options.accessor vtag members path (inside setting (.obj vtag members)) name
          condition = .ok true := by
    rw [forall?_eq_true_iff]
    exact Prod.forall
  rw [← each]
  simp only [meets, conditionHolds, table, bind_eq_ok]
  constructor
  · rintro ⟨held, hh, h⟩
    cases held with
    | false => cases h
    | true =>
      refine ⟨hh, ?_⟩
      simp only [Bool.not_true, Bool.false_eq_true, if_false] at h
      split at h
      · next empty =>
        rw [restOf, List.isEmpty_iff.1 empty]
        exact issues_of_nil
      · exact valid_eq_true_iff.1 h
  · rintro ⟨hh, h⟩
    refine ⟨true, hh, ?_⟩
    simp only [Bool.not_true, Bool.false_eq_true, if_false]
    split
    · rfl
    · exact valid_eq_true_iff.2 h

/-- **What is missing for splitting off properties to change nothing**: the bounds can be compared with
them, and the schemas for names have nothing against them. -/
theorem meets_iff_issues (formed : Formed terms (.obj tag fields))
    (reads : setting.options.engine.Reads terms.patterns)
    (table : get? fields "properties" = some (.obj ptag properties))
    (present : AllPresent setting.options.accessor (.obj vtag members) properties) :
    meets setting (some (.obj vtag members)) (.obj tag fields) path = .ok true ↔
      issues setting (.obj vtag members) (.obj tag fields) path = .ok [] ∧
      (∀ name condition, (name, condition) ∈ properties → ∀ x,
        setting.options.accessor.read (.obj vtag members) (.str name) = .ok (some x) →
          Comparable x condition) ∧
      EachUnopposed setting members properties fields path := by
  have formed_rest : Formed terms (.obj none (restOf fields)) := formed.erase
  have general : GeneralValid setting (.obj vtag members) (restOf fields) path ↔
      GeneralValid setting (.obj vtag members) fields path := by
    have same : ∀ k ∈ generalKeywords, get? (restOf fields) k = get? fields k :=
      fun k hk => get?_restOf (by rintro rfl; exact absurd hk (by decide))
    exact ⟨.congr fun k hk => (same k hk).symm, .congr same⟩
  have takes : TakesObjects (restOf fields) ↔ TakesObjects fields := by
    have same : get? (restOf fields) "type" = get? fields "type" := get?_restOf (by decide)
    simp only [TakesObjects, Schema.declaredTypes, same]
  have formed_condition : ∀ name condition, (name, condition) ∈ properties → Formed terms condition := by
    obtain ⟨_, _, ⟨⟩, formed⟩ := (formed.get? table).table rfl
    exact formed
  have held : (∀ name condition, (name, condition) ∈ properties →
        propertyHolds setting.options.accessor vtag members path (inside setting (.obj vtag members)) name
          condition = .ok true) ↔
      EachValid setting (.obj vtag members) properties path ∧
      ∀ name condition, (name, condition) ∈ properties → ∀ x,
        setting.options.accessor.read (.obj vtag members) (.str name) = .ok (some x) →
          Comparable x condition := by
    have both {x : Json} {name : String} {condition : Json} (hm : (name, condition) ∈ properties) :
        withinBounds x condition = .ok true ∧ issues setting x condition (path ++ [name]) = .ok [] ↔
          issues setting x condition (path ++ [name]) = .ok [] ∧ Comparable x condition :=
      withinBounds_and_issues_iff (formed_condition name condition hm)
    constructor
    · intro holds
      have read : ∀ name condition, (name, condition) ∈ properties → ∀ x,
          setting.options.accessor.read (.obj vtag members) (.str name) = .ok (some x) →
          issues setting x condition (path ++ [name]) = .ok [] ∧ Comparable x condition := by
        intro name condition hm x hx
        obtain ⟨y, hy, h⟩ := propertyHolds_iff.1 (holds name condition hm)
        obtain rfl : x = y := Option.some.inj (Except.ok.inj (hx.symm.trans hy))
        exact (both hm).1 h
      exact ⟨fun name condition hm x hx => (read name condition hm x hx).1,
        fun name condition hm x hx => (read name condition hm x hx).2⟩
    · rintro ⟨valid, comparable⟩ name condition hm
      obtain ⟨x, hx, -⟩ := present name condition hm
      refine propertyHolds_iff.2 ⟨x, hx, (both hm).2 ?_⟩
      exact ⟨valid name condition hm x hx, comparable name condition hm x hx⟩
  rw [meets_iff table, held, issues_object_iff formed, issues_object_iff formed_rest, general, takes]
  have split : _ ∧ EachUnopposed setting members properties fields path ↔ _ :=
    objectIssues_restOf formed reads table present
  tauto

end Rest

end Probe

open Probe (Comparable Unopposed)

/-- **What it takes for a condition to be met by what is valid for it.**  A well-formed condition, whose
patterns the engine reads, describes properties, all of which are there in an object and are no nulls.  Then
the object meets the condition
exactly if it is valid for it, the bounds of every property can be compared with it, and the schemas for
names that match a pattern or for further members have nothing against the properties.  The first of the
two demands is about numbers that stand in no order, as long as every property with bounds is a number;
the second one is not made of declared members where the condition is probed as a whole. -/
theorem split_condition_iff {session : Session} {terms : Schema.Terms} {tag ptag vtag : Tag}
    {fields properties members : Fields} {path : Option Path}
    (formed : Formed terms (.obj tag fields)) (reads : session.options.engine.Reads terms.patterns)
    (described : get? fields "properties" = some (.obj ptag properties))
    (present : ∀ name condition, (name, condition) ∈ properties → ∃ x,
      session.options.accessor.read (.obj vtag members) (.str name) = .ok (some x) ∧ x ≠ .null) :
    session.meets (some (.obj vtag members)) (.obj tag fields) path = .ok true ↔
      session.validate (some (.obj vtag members)) (.obj tag fields) path = .ok [] ∧
      (∀ name condition, (name, condition) ∈ properties → ∀ x,
        session.options.accessor.read (.obj vtag members) (.str name) = .ok (some x) →
          Comparable x condition) ∧
      ∀ member ∈ members, member.1 ∈ Fields.names properties →
        Unopposed session.setting fields (path.getD session.options.currentPath) member.1 member.2 :=
  Probe.meets_iff_issues formed reads described present

/-- The schema for further members admits the properties as well. -/
theorem split_condition_iff_lenient :
    let condition : Json := .obj none [
      ("required", .arr none [.str "extra"]),
      ("properties", .obj none [
        ("size", .obj none [("minimum", .num (.int 2)), ("type", .str "integer")]),
        ("kind", .obj none [("const", .str "a")])]),
      ("patternProperties", .obj none [("^k", .obj none [("maxLength", .num (.int 3))])]),
      ("additionalProperties", .obj none [("not", .obj none [("const", .num (.int 0))])])]
    let value : Json := .obj none [("kind", .str "a"), ("size", .num (.int 3)), ("extra", .str "more")]
    (Session.start .default condition).meets (some value) condition none = .ok true ∧
      validateValue (some value) condition .default = .ok [] := by
  intro condition value
  have formed : Formed ⟨fun _ => true, Pattern.isPattern⟩ condition := by decide +kernel
  have present : ∀ name schema, (name, schema) ∈
      [("size", Json.obj none [("minimum", .num (.int 2)), ("type", .str "integer")]),
        ("kind", .obj none [("const", .str "a")])] → ∃ x,
      (Session.start .default condition).options.accessor.read value (.str name) = .ok (some x) ∧
        x ≠ .null := by
    intro name schema hm
    simp only [List.mem_cons, Prod.mk.injEq, List.not_mem_nil, or_false] at hm
    rcases hm with ⟨rfl, -⟩ | ⟨rfl, -⟩
    · exact ⟨.num (.int 3), by decide, nofun⟩
    · exact ⟨.str "a", by decide, nofun⟩
  have met : (Session.start .default condition).meets (some value) condition none = .ok true := by
    decide +kernel
  exact ⟨met, ((split_condition_iff formed Pattern.Engine.reads_standard rfl present).1 met).1⟩

/-- A declared property is a further one for the rest of the condition, which forbids it. -/
example :
    let condition : Json := .obj none [
      ("properties", .obj none [("a", .obj none [])]), ("additionalProperties", .bool false)]
    let value : Json := .obj none [("a", .num (.int 1))]
    (Session.start .default condition).meets (some value) condition none = .ok false ∧
      validateValue (some value) condition .default = .ok [] := by
  decide +kernel

/-- What is no number is neither within a bound nor beyond it. -/
example :
    let condition : Json := .obj none [("properties", .obj none [("a", .obj none [("minimum", .num (.int 5))])])]
    let value : Json := .obj none [("a", .num (.float .nan))]
    (Session.start .default condition).meets (some value) condition none = .ok false ∧
      validateValue (some value) condition .default = .ok [] := by
  decide +kernel

end Conform
