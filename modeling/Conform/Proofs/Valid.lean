/-
# When a value has no issues

The probe puts its issues together from many parts, and there are none exactly if no part has any.
That is said here once for each place where parts are put together: for the keywords about any value
(`issues_obj_iff`), for the type (`typeIssues_iff`), for an object (`objectIssues_iff`) and for a list
(`arrayIssues_iff`).

What a schema says about a value by its type depends on one kind and on the members that remain for
it.  `Decides` singles these out; the probe and the resolution agree on them.
-/
import Conform.Proofs.Endings
import Conform.Proofs.Members

namespace Conform.Probe

open Fields (get?)

variable {setting : Setting} {value : Json} {tag : Tag} {fields : Fields} {path : Path}

/-! ## 1. Keywords about any value -/

/-- The probe of whatever is smaller than the value. -/
abbrev inside (setting : Setting) (value : Json) : SmallerProbe value :=
  fun x _ schema place => issues setting x schema place

/-- The probe of the value against whatever is smaller than the schema. -/
abbrev narrower (setting : Setting) (value : Json) (fields : Fields) : NarrowerProbe fields :=
  fun schema _ place => issues setting value schema place

theorem issues_obj : issues setting value (.obj tag fields) path =
    memberIssues setting value tag fields path (inside setting value)
      (narrower setting value fields) := by
  rw [issues_eq, schemaIssues]

@[simp] theorem issues_true : issues setting value (.bool true) path = .ok [] := by
  rw [issues_eq, schemaIssues]

@[simp] theorem issues_null : issues setting value .null path = .ok [] := by
  rw [issues_eq, schemaIssues]

@[simp] theorem issues_false :
    issues setting value (.bool false) path = .ok [⟨.forbidden, path⟩] := by
  rw [issues_eq, schemaIssues]

/-- A value is not the constant, or it is looked for in the enumeration, or it is not pinned down. -/
theorem pinIssues_cases (value : Json) (fields : Fields) :
    (∃ expected, get? fields "const" = some expected ∧
      ∀ path, pinIssues value fields path = .ok [⟨.notConstant expected, path⟩]) ∨
    (∃ options, get? fields "enum" = some options ∧ ∀ path, pinIssues value fields path = do
      let options ← entriesOf options
      .ok (if options.any (Json.same value) then [] else [⟨.notEnumerated options, path⟩])) ∨
    ∀ path, pinIssues value fields path = .ok [] := by
  simp only [pinIssues]
  cases hconst : get? fields "const" with
  | none =>
    cases henum : get? fields "enum" with
    | none => exact .inr (.inr fun _ => rfl)
    | some options => exact .inr (.inl ⟨options, rfl, fun _ => rfl⟩)
  | some expected =>
    cases same : Json.same value expected with
    | false => exact .inl ⟨expected, rfl, fun _ => by simp [same]⟩
    | true =>
      cases henum : get? fields "enum" with
      | none => exact .inr (.inr fun _ => by simp [same])
      | some options => exact .inr (.inl ⟨options, rfl, fun _ => by simp [same]⟩)

/-- **A schema with members has nothing against a value** if none of its keywords has. -/
theorem issues_obj_iff : issues setting value (.obj tag fields) path = .ok [] ↔
    pinIssues value fields path = .ok [] ∧
    conditionalIssues setting value fields path (inside setting value)
      (narrower setting value fields) = .ok [] ∧
    allOfIssues fields path (narrower setting value fields) = .ok [] ∧
    anyOfIssues fields path (narrower setting value fields) = .ok [] ∧
    oneOfIssues fields path (narrower setting value fields) = .ok [] ∧
    notIssues fields path (narrower setting value fields) = .ok [] ∧
    typeIssues setting value tag fields path (inside setting value)
      (narrower setting value fields) = .ok [] := by
  rw [issues_obj, memberIssues, bind_eq_ok]
  constructor
  · rintro ⟨pinned, hp, h⟩
    cases pinned with
    | cons issue rest => cases h
    | nil =>
      simp only [List.isEmpty_nil, Bool.not_true, Bool.false_eq_true, if_false, bind_eq_ok,
        Except.ok.injEq, List.append_eq_nil_iff] at h
      obtain ⟨_, hc, _, ha, _, hy, _, ho, _, hn, _, ht, ⟨⟨⟨⟨rfl, rfl⟩, rfl⟩, rfl⟩, rfl⟩, rfl⟩ := h
      exact ⟨hp, hc, ha, hy, ho, hn, ht⟩
  · rintro ⟨hp, hc, ha, hy, ho, hn, ht⟩
    refine ⟨[], hp, ?_⟩
    simp only [List.isEmpty_nil, Bool.not_true, Bool.false_eq_true, if_false, bind_eq_ok]
    exact ⟨[], hc, [], ha, [], hy, [], ho, [], hn, [], ht, rfl⟩

/-! ### Compositions -/

/-- The branches of a composing keyword: none where it is missing, and otherwise the entries of its
value, if it has any. -/
theorem branches_cases (fields : Fields) (k : String) :
    (get? fields k = none ∧ branches fields k = .ok none) ∨ ∃ x, get? fields k = some x ∧
      ((∃ fault, entriesOf x = .error fault ∧ branches fields k = .error fault) ∨
        ∃ xs h, entriesOf x = .ok xs ∧ branches fields k = .ok (some ⟨xs, h⟩)) := by
  unfold branches
  split
  · next hk => exact .inl ⟨hk, rfl⟩
  · next x hk =>
    refine .inr ⟨x, hk, ?_⟩
    split
    · next hx => exact .inl ⟨_, by simp [entriesOf, hx], rfl⟩
    · next xs hx =>
      have smaller : ∀ y ∈ xs, y.size < Json.sizeFields fields := fun _ hy =>
        Nat.lt_of_le_of_lt (Json.size_le_of_mem_entries hx hy) (Json.size_lt_sizeFields_of_get? hk)
      exact .inr ⟨xs, smaller, by simp [entriesOf, hx], rfl⟩

/-- A composing keyword that is missing has no branches. -/
theorem branches_of_none {k : String} (h : get? fields k = none) : branches fields k = .ok none := by
  rcases branches_cases fields k with ⟨-, hb⟩ | ⟨x, hx, -⟩
  · exact hb
  · rw [h] at hx
    cases hx

/-- Nothing by `allOf`: every branch admits the value. -/
theorem allOfIssues_iff : allOfIssues fields path (narrower setting value fields) = .ok [] ↔
    ∀ x, get? fields "allOf" = some x → ∃ xs, entriesOf x = .ok xs ∧
      ∀ s ∈ xs, issues setting value s path = .ok [] := by
  rcases branches_cases fields "allOf" with ⟨hk, hb⟩ | ⟨x, hk, ⟨_, he, hb⟩ | ⟨xs, h, he, hb⟩⟩
  · simp [allOfIssues, hb, hk, ok_bind]
  · simp [allOfIssues, hb, hk, he, error_bind]
  · simp [allOfIssues, hb, hk, he, ok_bind, gather_eq_nil_iff]

/-- Nothing by `anyOf`: a branch admits the value, and those before it can be asked. -/
theorem anyOfIssues_iff : anyOfIssues fields path (narrower setting value fields) = .ok [] ↔
    ∀ x, get? fields "anyOf" = some x → ∃ xs, entriesOf x = .ok xs ∧
      exists? xs (fun s _ => valid (issues setting value s path)) = .ok true := by
  have decided : ∀ {found : Check Bool},
      (do let found ← found; .ok (if found then [] else [⟨.noneOfAny, path⟩])) =
        (Except.ok [] : Check (List Issue)) ↔ found = .ok true := by
    rintro (fault | _ | _) <;> simp [ok_bind, error_bind]
  rcases branches_cases fields "anyOf" with ⟨hk, hb⟩ | ⟨x, hk, ⟨_, he, hb⟩ | ⟨xs, h, he, hb⟩⟩
  · simp [anyOfIssues, hb, hk, ok_bind]
  · simp [anyOfIssues, hb, hk, he, error_bind]
  · simp [anyOfIssues, hb, hk, he, ok_bind, decided]

/-- Nothing by `not`: the negated schema does not admit the value. -/
theorem notIssues_iff : notIssues fields path (narrower setting value fields) = .ok [] ↔
    ∀ s, get? fields "not" = some s → ∃ found, issues setting value s path = .ok found ∧
      found ≠ [] := by
  unfold notIssues
  split
  · next h => simp [h]
  · next s h =>
    simp only [h, Option.some.injEq, forall_eq']
    change (valid (issues setting value s path) >>= _) = _ ↔ _
    cases issues setting value s path with
    | error fault => simp [valid, Except.map, error_bind]
    | ok found => cases found <;> simp [valid, Except.map, ok_bind]

/-- Nothing by a condition: it is decided, and the branch that it chooses admits the value. -/
theorem conditionalIssues_iff : conditionalIssues setting value fields path (inside setting value)
      (narrower setting value fields) = .ok [] ↔
    ∀ condition, get? fields "if" = some condition → ∃ met,
      meets setting (some value) condition path = .ok met ∧
      ∀ branch, get? fields (if met then "then" else "else") = some branch →
        issues setting value branch path = .ok [] := by
  unfold conditionalIssues
  split
  · next h => simp [h]
  · next condition h =>
    simp only [h, Option.some.injEq, forall_eq']
    change (meets setting (some value) condition path >>= _) = _ ↔ _
    cases meets setting (some value) condition path with
    | error fault => simp [error_bind]
    | ok met =>
      simp only [ok_bind, Except.ok.injEq, exists_eq_left']
      split
      · next h' => simp [h']
      · next h' => simp [h']
      · next h' => simp [h']

/-- Nothing by `oneOf`: all branches can be asked, and one of them admits the value. -/
theorem oneOfIssues_iff : oneOfIssues fields path (narrower setting value fields) = .ok [] ↔
    ∀ x, get? fields "oneOf" = some x → ∃ xs, entriesOf x = .ok xs ∧
      count xs (fun s _ => valid (issues setting value s path)) = .ok 1 := by
  have decided : ∀ {passing : Check Nat},
      (do let passing ← passing; .ok (if passing = 1 then [] else [⟨.notExactlyOne, path⟩])) =
        (Except.ok [] : Check (List Issue)) ↔ passing = .ok 1 := by
    rintro (fault | n) <;> simp [ok_bind, error_bind]
  rcases branches_cases fields "oneOf" with ⟨hk, hb⟩ | ⟨x, hk, ⟨_, he, hb⟩ | ⟨xs, h, he, hb⟩⟩
  · simp [oneOfIssues, hb, hk, ok_bind]
  · simp [oneOfIssues, hb, hk, he, error_bind]
  · simp [oneOfIssues, hb, hk, he, ok_bind, decided]

section Missing

variable {inner : SmallerProbe value} {again : NarrowerProbe fields}

/-! Nothing by a keyword that is missing. -/

theorem conditionalIssues_of_none (h : get? fields "if" = none) :
    conditionalIssues setting value fields path inner again = .ok [] := by
  unfold conditionalIssues
  split
  · rfl
  · next h' => rw [h] at h'; cases h'

theorem allOfIssues_of_none (h : get? fields "allOf" = none) :
    allOfIssues fields path again = .ok [] := by
  rw [allOfIssues, branches_of_none h, ok_bind]

theorem anyOfIssues_of_none (h : get? fields "anyOf" = none) :
    anyOfIssues fields path again = .ok [] := by
  rw [anyOfIssues, branches_of_none h, ok_bind]

theorem oneOfIssues_of_none (h : get? fields "oneOf" = none) :
    oneOfIssues fields path again = .ok [] := by
  rw [oneOfIssues, branches_of_none h, ok_bind]

theorem notIssues_of_none (h : get? fields "not" = none) :
    notIssues fields path again = .ok [] := by
  unfold notIssues
  split
  · rfl
  · next h' => rw [h] at h'; cases h'

end Missing

/-- What there is to find no issue by the keywords about any value, the type aside: a part for each. -/
structure GeneralValid (setting : Setting) (value : Json) (fields : Fields) (path : Path) : Prop where
  pinned : pinIssues value fields path = .ok []
  conditional : conditionalIssues setting value fields path (inside setting value)
    (narrower setting value fields) = .ok []
  all : allOfIssues fields path (narrower setting value fields) = .ok []
  any : anyOfIssues fields path (narrower setting value fields) = .ok []
  one : oneOfIssues fields path (narrower setting value fields) = .ok []
  negated : notIssues fields path (narrower setting value fields) = .ok []

/-- **The type has its say beside the other keywords about any value**, and after them. -/
theorem issues_obj_iff_general : issues setting value (.obj tag fields) path = .ok [] ↔
    GeneralValid setting value fields path ∧
      typeIssues setting value tag fields path (inside setting value)
        (narrower setting value fields) = .ok [] := by
  rw [issues_obj_iff]
  constructor
  · rintro ⟨pinned, conditional, all, any, one, negated, typed⟩
    exact ⟨⟨pinned, conditional, all, any, one, negated⟩, typed⟩
  · rintro ⟨⟨pinned, conditional, all, any, one, negated⟩, typed⟩
    exact ⟨pinned, conditional, all, any, one, negated, typed⟩

/-- The keywords about any value, the type aside, that the probe reads. -/
def generalKeywords : List String := "const" :: "enum" :: Schema.compositeKeywords

/-- What they say does not depend on the other members. -/
theorem GeneralValid.congr {fields' : Fields} (h : ∀ k ∈ generalKeywords, get? fields' k = get? fields k)
    (valid : GeneralValid setting value fields path) : GeneralValid setting value fields' path := by
  have same : ∀ k ∈ ["const", "enum", "if", "then", "else", "not", "allOf", "anyOf", "oneOf"],
      get? fields' k = get? fields k := h
  refine ⟨?_, conditionalIssues_iff.2 ?_, allOfIssues_iff.2 ?_, anyOfIssues_iff.2 ?_,
    oneOfIssues_iff.2 ?_, notIssues_iff.2 ?_⟩
  · have pinned := valid.pinned
    simp only [pinIssues, same "const" (by simp), same "enum" (by simp)] at pinned ⊢
    exact pinned
  · rw [same "if" (by simp)]
    intro condition hc
    obtain ⟨met, hm, branch⟩ := conditionalIssues_iff.1 valid.conditional condition hc
    refine ⟨met, hm, ?_⟩
    rwa [same (if met then "then" else "else") (by cases met <;> simp)]
  · rw [same "allOf" (by simp)]
    exact allOfIssues_iff.1 valid.all
  · rw [same "anyOf" (by simp)]
    exact anyOfIssues_iff.1 valid.any
  · rw [same "oneOf" (by simp)]
    exact oneOfIssues_iff.1 valid.one
  · rw [same "not" (by simp)]
    exact notIssues_iff.1 valid.negated

/-- Without compositions there are only constants, enumerations and types to a schema. -/
theorem issues_of_uncomposed (h : ∀ k ∈ Schema.compositeKeywords, get? fields k = none) :
    issues setting value (.obj tag fields) path = (do
      let pinned ← pinIssues value fields path
      if !pinned.isEmpty then .ok pinned
      else
        typeIssues setting value tag fields path (inside setting value)
          (narrower setting value fields)) := by
  have last : ∀ check : Check (List Issue), (do let found ← check; .ok found) = check := by
    rintro (fault | found) <;> rfl
  rw [issues_obj, memberIssues, conditionalIssues_of_none (h _ (by decide)),
    allOfIssues_of_none (h _ (by decide)), anyOfIssues_of_none (h _ (by decide)),
    oneOfIssues_of_none (h _ (by decide)), notIssues_of_none (h _ (by decide))]
  simp [ok_bind, last]

/-! ## 2. Types -/

end Conform.Probe

namespace Conform.Schema

/-- **The kind that decides about a value**, and the members of the schema that remain for it. -/
inductive Decides (fields : Fields) (value : Json) : Kind → Fields → Prop
  | inferred {kind : Kind} (h : declaredTypes (.obj none fields) = [])
      (hk : inferKind fields (some value) = some kind) : Decides fields value kind fields
  | single {kind : Kind} {s : String} (h : declaredTypes (.obj none fields) = [.str s])
      (hk : Kind.ofName? s = some kind) : Decides fields value kind fields
  | several {kind : Kind} {a b : Json} {rest : List Json}
      (h : declaredTypes (.obj none fields) = a :: b :: rest)
      (hk : Kind.firstFit (declaredTypes (.obj none fields)) value = some kind) :
      Decides fields value kind (restrict fields (.str kind.name))

/-- The schema says nothing about the value by its type. -/
def Silent (fields : Fields) (value : Json) : Prop :=
  declaredTypes (.obj none fields) = [] ∧ inferKind fields (some value) = none

namespace Decides

variable {fields remaining remaining' : Fields} {value : Json} {kind kind' : Kind}

theorem not_silent (h : Decides fields value kind remaining) : ¬Silent fields value := by
  rintro ⟨hd, hi⟩
  cases h with
  | inferred h hk => simp [hi] at hk
  | single h | several h => simp [hd] at h

theorem unique (h : Decides fields value kind remaining)
    (h' : Decides fields value kind' remaining') : kind' = kind ∧ remaining' = remaining := by
  cases h with
  | inferred h hk =>
    cases h' with
    | inferred h' hk' => simp_all
    | single h' | several h' => simp [h] at h'
  | single h hk =>
    cases h' with
    | single h' hk' => simp_all
    | inferred h' | several h' => simp [h] at h'
  | several h hk =>
    cases h' with
    | several h' hk' => simp_all
    | inferred h' | single h' => simp [h] at h'

/-- Where a kind decides, what holds of one that decides holds of it. -/
theorem iff {P : Kind → Fields → Prop} (h : Decides fields value kind remaining) :
    (Silent fields value ∨ ∃ kind remaining, Decides fields value kind remaining ∧
      P kind remaining) ↔ P kind remaining := by
  refine ⟨?_, fun hp => .inr ⟨kind, remaining, h, hp⟩⟩
  rintro (hs | ⟨kind', remaining', h', hp⟩)
  · exact absurd hs h.not_silent
  · obtain ⟨rfl, rfl⟩ := h.unique h'
    exact hp

/-- No kind decides by a single type that is not the name of one. -/
theorem not_of_unknown {type : Json} (hd : declaredTypes (.obj none fields) = [type])
    (hu : ∀ s kind, type = .str s → Kind.ofName? s ≠ some kind) :
    ¬Decides fields value kind remaining := by
  intro h
  cases h with
  | single h hk => exact hu _ _ (List.cons.inj (hd.symm.trans h)).1 hk
  | inferred h | several h => simp [hd] at h

/-- No kind decides by several types of which none fits the value. -/
theorem not_of_unfit {a b : Json} {rest : List Json}
    (hd : declaredTypes (.obj none fields) = a :: b :: rest)
    (hf : Kind.firstFit (declaredTypes (.obj none fields)) value = none) :
    ¬Decides fields value kind remaining := by
  intro h
  cases h with
  | several h hk =>
    rw [hf] at hk
    cases hk
  | inferred h | single h => simp [hd] at h

end Decides

end Conform.Schema

namespace Conform.Probe

open Fields (get?)
open Schema (Decides Silent)

variable {setting : Setting} {value : Json} {tag : Tag} {fields : Fields} {path : Path}

section Parts

variable {inner : SmallerProbe value} {again : NarrowerProbe fields}

theorem typeIssues_of_nil (h : Schema.declaredTypes (.obj tag fields) = []) :
    typeIssues setting value tag fields path inner again =
      match Schema.inferKind fields (some value) with
      | none => .ok []
      | some kind => kindIssues setting kind value fields path inner again := by
  unfold typeIssues
  split
  · rfl
  · next h' => rw [h] at h'; cases h'
  · next h' => rw [h] at h'; cases h'

theorem typeIssues_of_single {type : Json} (h : Schema.declaredTypes (.obj tag fields) = [type]) :
    typeIssues setting value tag fields path inner again =
      match type with
      | .str s =>
        match Kind.ofName? s with
        | some kind => kindIssues setting kind value fields path inner again
        | none => .ok [⟨.unknownType s, path⟩]
      | type => .ok [⟨.unknownType type.plain, path⟩] := by
  unfold typeIssues
  split
  · next h' => rw [h] at h'; cases h'
  · next h' => rw [h] at h'; cases h'; rfl
  · next h' => rw [h] at h'; cases h'

theorem typeIssues_of_several {a b : Json} {rest : List Json}
    (h : Schema.declaredTypes (.obj tag fields) = a :: b :: rest) :
    ∃ hs : ∀ kind : Kind, Json.sizeFields (Schema.restrict fields (.str kind.name)) ≤
        Json.sizeFields fields,
      typeIssues setting value tag fields path inner again =
        match Kind.firstFit (Schema.declaredTypes (.obj tag fields)) value with
        | none => do
          let names ← typeNames (Schema.declaredTypes (.obj tag fields))
          .ok [⟨.wrongTypes names, path⟩]
        | some kind =>
          kindIssues setting kind value (Schema.restrict fields (.str kind.name)) path inner
            fun schema h place => again schema (Nat.lt_of_lt_of_le h (hs kind)) place := by
  refine ⟨fun kind => ?_, ?_⟩
  · obtain ⟨old, ho⟩ := Schema.type_of_declaredTypes h
    exact Schema.sizeFields_restrict_le ho (Json.size_pos old)
  · unfold typeIssues
    split
    · next h' => rw [h] at h'; cases h'
    · next h' => rw [h] at h'; cases h'
    · rfl

end Parts

/-- Nothing is asked for by a schema without members. -/
theorem issues_of_nil : issues setting value (.obj tag []) path = .ok [] := by
  refine issues_obj_iff.2 ⟨rfl, conditionalIssues_of_none rfl, allOfIssues_iff.2 nofun,
    anyOfIssues_iff.2 nofun, oneOfIssues_of_none rfl, notIssues_iff.2 nofun, ?_⟩
  rw [typeIssues_of_nil rfl]
  cases value <;> rfl

/-- A schema reduced to a type keeps the keywords about values of it. -/
theorem get?_restrict_of_mem {kind kind' : Kind} {fields : Fields} {k : String}
    (hk : k ∈ Schema.keywordsOf kind) (hkind : Schema.keywordsOf kind' = Schema.keywordsOf kind) :
    get? (Schema.restrict fields (.str kind'.name)) k = get? fields k := by
  have hne : k ≠ "type" := by
    rintro rfl
    cases kind <;> revert hk <;> decide
  have named : Schema.keywordsOfType (.str kind'.name) = Schema.keywordsOf kind' := by
    cases kind' <;> rfl
  rw [Schema.restrict, Fields.get?_put, if_neg hne,
    Fields.get?_filter_name fun name =>
      (Schema.baseKeywords ++ Schema.keywordsOfType (.str kind'.name)).contains name]
  have allowed : (Schema.baseKeywords ++ Schema.keywordsOfType (.str kind'.name)).contains k = true := by
    rw [named, hkind, List.contains_iff_mem]
    exact List.mem_append_right _ hk
  rw [if_pos allowed]

/-- **No issues by type**: nothing is said, or nothing is said against the value by the kind that
decides. -/
theorem typeIssues_iff : typeIssues setting value tag fields path (inside setting value)
      (narrower setting value fields) = .ok [] ↔
    Silent fields value ∨ ∃ kind remaining, Decides fields value kind remaining ∧
      kindIssues setting kind value remaining path (inside setting value)
        (narrower setting value remaining) = .ok [] := by
  have by_kind : ∀ {kind remaining}, Decides fields value kind remaining →
      (kindIssues setting kind value remaining path (inside setting value)
        (narrower setting value remaining) = .ok [] ↔
      Silent fields value ∨ ∃ kind remaining, Decides fields value kind remaining ∧
        kindIssues setting kind value remaining path (inside setting value)
          (narrower setting value remaining) = .ok []) := fun hd =>
    (hd.iff (P := fun kind remaining => kindIssues setting kind value remaining path
      (inside setting value) (narrower setting value remaining) = .ok [])).symm
  -- where no kind decides and the schema is not silent, issues have to be there
  have undecided : ∀ {checked : Check (List Issue)}, checked ≠ .ok [] → ¬Silent fields value →
      (∀ {kind remaining}, ¬Decides fields value kind remaining) →
      (checked = .ok [] ↔
      Silent fields value ∨ ∃ kind remaining, Decides fields value kind remaining ∧
        kindIssues setting kind value remaining path (inside setting value)
          (narrower setting value remaining) = .ok []) := by
    intro checked hc hs hd
    refine iff_of_false hc ?_
    rintro (h | ⟨kind, remaining, h, _⟩)
    · exact hs h
    · exact hd h
  unfold typeIssues
  split
  · next h =>
    replace h : Schema.declaredTypes (.obj none fields) = [] := h
    split
    · next hk => exact ⟨fun _ => .inl ⟨h, hk⟩, fun _ => rfl⟩
    · next kind hk => exact by_kind (.inferred h hk)
  · next type h =>
    replace h : Schema.declaredTypes (.obj none fields) = [type] := h
    have not_silent : ¬Silent fields value := fun hs => by simp [hs.1] at h
    cases type with
    | str s =>
      cases hk : Kind.ofName? s with
      | some kind =>
        simp only [hk]
        exact by_kind (.single h hk)
      | none =>
        simp only [hk]
        refine undecided (by simp) not_silent (Decides.not_of_unknown h ?_)
        rintro s' kind ⟨⟩
        simp [hk]
    | _ => exact undecided (by simp) not_silent (Decides.not_of_unknown h nofun)
  · next a b rest h =>
    replace h : Schema.declaredTypes (.obj none fields) = a :: b :: rest := h
    have not_silent : ¬Silent fields value := fun hs => by simp [hs.1] at h
    split
    · next hk =>
      refine undecided ?_ not_silent (Decides.not_of_unfit h hk)
      cases typeNames (Schema.declaredTypes (.obj tag fields)) with
      | ok names => simp [ok_bind]
      | error fault => exact nofun
    · next kind hk => exact by_kind (.several h hk)

/-- **A null for which a schema has no room has issues.** -/
theorem issues_of_null {schema : Json} (h : Schema.allowsNull schema = false) :
    issues setting .null schema path ≠ .ok [] := by
  cases schema with
  | obj tag fields =>
    intro hi
    obtain ⟨-, -, -, -, -, -, ht⟩ := issues_obj_iff.1 hi
    have declared : Schema.declaredTypes (.obj none fields) ≠ [] ∧
        Json.listsName (Schema.declaredTypes (.obj none fields)) "null" = false := by
      simpa [Schema.allowsNull, Schema.declaredTypes] using h
    rcases typeIssues_iff.1 ht with hs | ⟨kind, remaining, hd, hk⟩
    · exact declared.1 hs.1
    · have hkind : kind ≠ .null := by
        rintro rfl
        cases hd with
        | inferred h' => exact declared.1 h'
        | single h' hk' =>
          have hs := List.find?_some hk'
          simp [h', Json.listsName, Kind.name] at declared hs
          exact declared hs.symm
        | several h' hk' =>
          have hs := List.find?_some hk'
          simp [Kind.name, declared.2] at hs
      cases kind <;> simp [kindIssues, numberIssues, stringIssues, Kind.fits] at hk hkind
  | _ => simp [Schema.allowsNull, Schema.declaredTypes] at h

/-! ## 3. Objects -/

section Parts

variable {value table : Fields} {inner : SmallerProbe (.obj tag value)} {again : NarrowerProbe fields}
  {name : String} {schema x : Json}

/-- A property that cannot be read ends the probe. -/
theorem propertyIssues_of_error {fault : Fault}
    (h : setting.options.accessor.read (.obj tag value) (.str name) = .error fault) :
    propertyIssues setting tag value path inner name schema = .error fault := by
  unfold propertyIssues
  split
  · next h' => rw [h] at h'; cases h'; rfl
  · next h' => rw [h] at h'; cases h'
  · next h' => rw [h] at h'; cases h'

/-- A property that is not there has no issues. -/
theorem propertyIssues_of_none
    (h : setting.options.accessor.read (.obj tag value) (.str name) = .ok none) :
    propertyIssues setting tag value path inner name schema = .ok [] := by
  unfold propertyIssues
  split
  · next h' => rw [h] at h'; cases h'
  · rfl
  · next h' => rw [h] at h'; cases h'

/-- A property that is there has the issues of its value, unless it counts as missing. -/
theorem propertyIssues_of_some
    (h : setting.options.accessor.read (.obj tag value) (.str name) = .ok (some x)) :
    propertyIssues setting tag value path inner name schema =
      if Schema.isAbsent (some x) schema then .ok []
      else inner x (Accessor.size_lt_of_read h) schema (path ++ [name]) := by
  unfold propertyIssues
  split
  · next h' => rw [h] at h'; cases h'
  · next h' => rw [h] at h'; cases h'
  · next h' => rw [h] at h'; cases h'; rfl

/-- A member that nothing covers has no issues if the schema for such members, which leads on to no other,
has none. -/
theorem additionalIssues_of_admitted {additional : Json} {uncovered : Bool} {member : String × Json}
    (hm : member ∈ value) (hu : isAdditional setting.options.engine member.1 fields = .ok uncovered)
    (hx : Reference.expand setting.options.source setting.root additional = .ok (some (.node additional)))
    (hi : uncovered = true → Schema.isFalse additional = false ∧
      inner member.2 (Json.size_lt_of_mem_fields tag hm) additional (path ++ [member.1]) = .ok []) :
    additionalIssues setting tag value fields path inner additional member hm = .ok [] := by
  simp only [additionalIssues, hu, ok_bind]
  cases uncovered with
  | false => rfl
  | true =>
    obtain ⟨hfalse, hi⟩ := hi rfl
    simp only [Bool.not_true, Bool.false_eq_true, if_false, hfalse, hx, ok_bind]
    exact hi

theorem dependentSchemaIssues_of_none (h : get? fields "dependentSchemas" = none) :
    dependentSchemaIssues setting tag value fields path again = .ok [] := by
  unfold dependentSchemaIssues
  split
  · rfl
  · next h' => rw [h] at h'; cases h'

theorem dependentSchemaIssues_of_error {fault : Fault} (h : get? fields "dependentSchemas" = some x)
    (ht : membersOf x = .error fault) :
    dependentSchemaIssues setting tag value fields path again = .error fault := by
  unfold dependentSchemaIssues
  split
  · next h' => rw [h] at h'; cases h'
  · next h' =>
    rw [h] at h'
    cases h'
    split
    · next ht' => rw [ht] at ht'; cases ht'; rfl
    · next ht' => rw [ht] at ht'; cases ht'

/-- The schemas whose trigger is there are asked about the object. -/
theorem dependentSchemaIssues_of_some (h : get? fields "dependentSchemas" = some x)
    (ht : membersOf x = .ok table) :
    dependentSchemaIssues setting tag value fields path again =
      gather table (fun entry hm => do
        match ← setting.options.accessor.read (.obj tag value) (.str entry.1) with
          | none => .ok []
          | some _ => again entry.2 (Nat.lt_trans (size_lt_of_membersOf ht hm)
              (Json.size_lt_sizeFields_of_get? h)) path) := by
  unfold dependentSchemaIssues
  split
  · next h' => rw [h] at h'; cases h'
  · next h' =>
    rw [h] at h'
    cases h'
    split
    · next ht' => rw [ht] at ht'; cases ht'
    · next ht' => rw [ht] at ht'; cases ht'; rfl

end Parts

/-- What there is to find no issue in an object: a part for each keyword. -/
structure ObjectValid (setting : Setting) (tag : Tag) (value fields : Fields) (path : Path)
    (again : NarrowerProbe fields) (properties : Fields) : Prop where
  size : memberCountIssues value.length fields path = .ok []
  required : requiredIssues setting.options.accessor (.obj tag value) fields path = .ok []
  dependent : dependentIssues setting.options.accessor (.obj tag value) fields path = .ok []
  table : membersOf (memberTable fields "properties") = .ok properties
  declared : ∀ name schema, (name, schema) ∈ properties →
    propertyIssues setting tag value path (inside setting (.obj tag value)) name schema = .ok []
  patterned : ∀ member h, patternIssues setting tag value fields path
    (inside setting (.obj tag value)) properties member h = .ok []
  additional : allAdditionalIssues setting tag value fields path
    (inside setting (.obj tag value)) = .ok []
  names : nameIssues (nameValues value) fields path
    (fun name _ schema place => issues setting name schema place) = .ok []
  schemas : dependentSchemaIssues setting tag value fields path again = .ok []

theorem objectIssues_iff {value : Fields} {again : NarrowerProbe fields} :
    objectIssues setting tag value fields path (inside setting (.obj tag value)) again = .ok [] ↔
      ∃ properties, ObjectValid setting tag value fields path again properties := by
  simp only [objectIssues, bind_eq_ok, Except.ok.injEq, List.append_eq_nil_iff]
  constructor
  · rintro ⟨_, hs, _, hr, _, hd, properties, ht, _, hp, _, hm, _, ha, _, hn, _, hx,
      ⟨⟨⟨⟨⟨⟨⟨rfl, rfl⟩, rfl⟩, rfl⟩, rfl⟩, rfl⟩, rfl⟩, rfl⟩⟩
    exact ⟨properties, hs, hr, hd, ht, fun name schema => gather_eq_nil_iff.1 hp (name, schema),
      gather_eq_nil_iff.1 hm, ha, hn, hx⟩
  · rintro ⟨properties, hs, hr, hd, ht, hp, hm, ha, hn, hx⟩
    exact ⟨[], hs, [], hr, [], hd, properties, ht, [], gather_eq_nil_iff.2 fun x => hp x.1 x.2,
      [], gather_eq_nil_iff.2 hm, [], ha, [], hn, [], hx, by simp⟩

/-! ## 4. Lists -/

theorem gatherFrom_eq_nil_iff {α : Type} {i : Nat} {xs : List α}
    {f : Nat → (x : α) → x ∈ xs → Check (List Issue)} :
    gatherFrom i xs f = .ok [] ↔ ∀ entry ∈ xs.zipIdx i, ∀ h, f entry.2 entry.1 h = .ok [] := by
  induction xs generalizing i with
  | nil => simp [gatherFrom]
  | cons x xs ih =>
    simp only [gatherFrom, bind_eq_ok, Except.ok.injEq, List.append_eq_nil_iff, List.zipIdx_cons]
    constructor
    · rintro ⟨_, hx, _, hxs, rfl, rfl⟩ entry hm h
      rcases List.mem_cons.1 hm with rfl | hm
      · exact hx
      · exact ih.1 hxs entry hm (List.fst_mem_of_mem_zipIdx hm)
    · intro h
      refine ⟨[], h (x, i) (List.mem_cons_self ..) _, [], ih.2 fun entry hm hx => ?_, rfl, rfl⟩
      exact h entry (List.mem_cons_of_mem _ hm) _

/-- The schemas of positions depend on the keywords about arrays only. -/
theorem itemSchema_congr {f f' : Fields} (h : ∀ k ∈ Schema.arrayKeywords, get? f' k = get? f k)
    (i : Nat) : itemSchema f' i = itemSchema f i := by
  simp only [itemSchema, tupleSchema, h "items" (by simp [Schema.arrayKeywords]),
    h "prefixItems" (by simp [Schema.arrayKeywords]),
    h "additionalItems" (by simp [Schema.arrayKeywords])]

theorem arrayIssues_iff {items : List Json} {probe : ItemProbe items} :
    arrayIssues items fields path probe = .ok [] ↔
      listIssues items fields path probe = .ok [] ∧ ∀ entry ∈ items.zipIdx, ∀ h,
        itemIssues fields path entry.2 (probe entry.1 h) = .ok [] := by
  simp only [arrayIssues, bind_eq_ok, Except.ok.injEq, List.append_eq_nil_iff]
  constructor
  · rintro ⟨_, hw, _, he, rfl, rfl⟩
    exact ⟨hw, gatherFrom_eq_nil_iff.1 he⟩
  · rintro ⟨hw, he⟩
    exact ⟨[], hw, [], gatherFrom_eq_nil_iff.2 he, rfl, rfl⟩

end Conform.Probe
