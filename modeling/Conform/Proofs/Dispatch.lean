/-
# A type only chooses what is checked

The probe looks at one kind of value for each schema: the one that the schema declares, the first of
several declared ones that fits, or the one that the value is of.  Choosing takes two shortcuts.  Behind
several types the schema is reduced to the keywords about the chosen one; without a type nothing is
looked at unless there is a keyword about the kind of the value.  Neither shortcut shows.

* **A kind reads its own keywords** and no others (`kindIssues_of_keywords`).  So what is left out by
  reducing a schema would not have been read, and where none of the keywords is there the kind has nothing
  against its values (`kindIssues_of_lacking`).
* **The choice among several types is no restriction.**  The kinds overlap in one place only: a whole
  number is also a number.  What a whole number has to satisfy, it has to satisfy as a number
  (`number_of_integer`), so it does not matter which of the two is tried first.

A schema with another type is another document.  That makes no difference to a schema without references
(`issues_eq_of_formed`); elsewhere references go on pointing into the document of the session.
-/
import Conform.Proofs.Descent
import Conform.Proofs.Entailment
import Conform.Proofs.Faultless
import Conform.Proofs.Filling
import Conform.Proofs.Leading

namespace Conform

open Fields (get?)

namespace Probe

variable {setting : Setting} {value : Json} {tag : Tag} {fields fields' : Fields} {path : Path}

/-! ## 1. The keywords that a kind reads -/

section Keywords

theorem numberIssues_of_keywords {kind : Kind}
    (h : ∀ k ∈ Schema.numberKeywords, get? fields' k = get? fields k) :
    numberIssues kind value fields' path = numberIssues kind value fields path := by
  simp only [numberIssues, h "minimum" (by simp [Schema.numberKeywords]),
    h "exclusiveMinimum" (by simp [Schema.numberKeywords]),
    h "maximum" (by simp [Schema.numberKeywords]),
    h "exclusiveMaximum" (by simp [Schema.numberKeywords]),
    h "multipleOf" (by simp [Schema.numberKeywords])]

theorem stringIssues_of_keywords {segmenter : Segmenter} {engine : Pattern.Engine}
    (h : ∀ k ∈ Schema.stringKeywords, get? fields' k = get? fields k) :
    stringIssues segmenter engine value fields' path =
      stringIssues segmenter engine value fields path := by
  have least : Fields.has fields' "minLength" = Fields.has fields "minLength" :=
    congrArg Option.isSome (h _ (by simp [Schema.stringKeywords]))
  have most : Fields.has fields' "maxLength" = Fields.has fields "maxLength" :=
    congrArg Option.isSome (h _ (by simp [Schema.stringKeywords]))
  cases value with
  | str s =>
    simp only [stringIssues, lengthIssues, least, most, formatIssues, limitIssue,
      h "minLength" (by simp [Schema.stringKeywords]),
      h "maxLength" (by simp [Schema.stringKeywords]),
      h "pattern" (by simp [Schema.stringKeywords]),
      h "format" (by simp [Schema.stringKeywords])]
  | _ => rfl

theorem arrayIssues_of_keywords {items : List Json} {probe : ItemProbe items}
    (h : ∀ k ∈ Schema.arrayKeywords, get? fields' k = get? fields k) :
    arrayIssues items fields' path probe = arrayIssues items fields path probe := by
  simp only [arrayIssues, listIssues, containsIssues, limitIssue, itemIssues, itemSchema_congr h,
    h "minItems" (by simp [Schema.arrayKeywords]),
    h "maxItems" (by simp [Schema.arrayKeywords]),
    h "uniqueItems" (by simp [Schema.arrayKeywords]),
    h "contains" (by simp [Schema.arrayKeywords]),
    h "minContains" (by simp [Schema.arrayKeywords]),
    h "maxContains" (by simp [Schema.arrayKeywords])]

variable {members : Fields}

theorem dependentSchemaIssues_of_keywords
    (same : get? fields' "dependentSchemas" = get? fields "dependentSchemas") :
    dependentSchemaIssues setting tag members fields' path
        (narrower setting (.obj tag members) fields') =
      dependentSchemaIssues setting tag members fields path
        (narrower setting (.obj tag members) fields) := by
  cases hk : get? fields "dependentSchemas" with
  | none => rw [dependentSchemaIssues_of_none hk, dependentSchemaIssues_of_none (same.trans hk)]
  | some x =>
    cases ht : membersOf x with
    | error fault =>
      rw [dependentSchemaIssues_of_error hk ht, dependentSchemaIssues_of_error (same.trans hk) ht]
    | ok table =>
      rw [dependentSchemaIssues_of_some hk ht, dependentSchemaIssues_of_some (same.trans hk) ht]

theorem objectIssues_of_keywords (h : ∀ k ∈ Schema.objectKeywords, get? fields' k = get? fields k) :
    objectIssues setting tag members fields' path (inside setting (.obj tag members))
        (narrower setting (.obj tag members) fields') =
      objectIssues setting tag members fields path (inside setting (.obj tag members))
        (narrower setting (.obj tag members) fields) := by
  have dependent := @dependentSchemaIssues_of_keywords setting tag fields fields' path members
    (h "dependentSchemas" (by simp [Schema.objectKeywords]))
  simp only [objectIssues, dependent, memberCountIssues, limitIssue,
    requiredIssues, dependentIssues, patternIssues, allAdditionalIssues, additionalIssues,
    isAdditional, nameIssues, memberTable,
    h "minProperties" (by simp [Schema.objectKeywords]),
    h "maxProperties" (by simp [Schema.objectKeywords]),
    h "required" (by simp [Schema.objectKeywords]),
    h "properties" (by simp [Schema.objectKeywords]),
    h "patternProperties" (by simp [Schema.objectKeywords]),
    h "additionalProperties" (by simp [Schema.objectKeywords]),
    h "dependentRequired" (by simp [Schema.objectKeywords]),
    h "propertyNames" (by simp [Schema.objectKeywords])]

end Keywords

/-- **A kind reads its own keywords**, and no others. -/
theorem kindIssues_of_keywords {kind : Kind}
    (h : ∀ k ∈ Schema.keywordsOf kind, get? fields' k = get? fields k) :
    kindIssues setting kind value fields' path (inside setting value) (narrower setting value fields') =
      kindIssues setting kind value fields path (inside setting value)
        (narrower setting value fields) := by
  cases kind with
  | null | boolean => rfl
  | number | integer => exact congrArg Except.ok (numberIssues_of_keywords h)
  | string => exact stringIssues_of_keywords h
  | array =>
    cases value with
    | arr tag items => exact arrayIssues_of_keywords h
    | _ => rfl
  | object =>
    cases value with
    | obj tag members => exact objectIssues_of_keywords h
    | _ => rfl

/-- Without any keyword the kind of a value has nothing against it. -/
theorem kindIssues_of_nil : kindIssues setting (Kind.ofValue value) value [] path
    (inside setting value) (narrower setting value []) = .ok [] := by
  cases value with
  | null | bool => rfl
  | num n => rfl
  | str s => rfl
  | arr tag items =>
    have whole : listIssues items [] path
        (fun x h schema place => inside setting (.arr tag items) x (Json.size_lt_of_mem_items tag h)
          schema place) = .ok [] := rfl
    exact arrayIssues_iff.2 ⟨whole, fun _ _ _ => rfl⟩
  | obj tag members =>
    refine objectIssues_iff.2 ⟨[], ⟨rfl, rfl, rfl, rfl, nofun, fun _ _ => rfl, rfl, rfl, ?_⟩⟩
    exact dependentSchemaIssues_of_none rfl

/-- **Where none of its keywords is there**, the kind of a value has nothing against it. -/
theorem kindIssues_of_lacking
    (h : (Schema.keywordsOf (Kind.ofValue value)).any (Fields.has fields) = false) :
    kindIssues setting (Kind.ofValue value) value fields path (inside setting value)
      (narrower setting value fields) = .ok [] := by
  rw [List.any_eq_false] at h
  have lacking : ∀ k ∈ Schema.keywordsOf (Kind.ofValue value), get? fields k = get? [] k := by
    intro k hk
    rw [Fields.get?_nil, ← Fields.has_eq_false_iff]
    exact Bool.not_eq_true _ ▸ h k hk
  rw [kindIssues_of_keywords lacking, kindIssues_of_nil]

/-! ## 2. Kinds that overlap -/

/-- **What is admitted as a whole number is admitted as a number.** -/
theorem number_of_integer {inner : SmallerProbe value} {again : NarrowerProbe fields}
    (h : kindIssues setting .integer value fields path inner again = .ok []) :
    kindIssues setting .number value fields path inner again = .ok [] := by
  have bounded := Except.ok.inj h
  cases value with
  | num n =>
    refine congrArg Except.ok ?_
    simp only [numberIssues, List.append_eq_nil_iff] at bounded ⊢
    obtain ⟨⟨⟨⟨⟨-, low⟩, high⟩, above⟩, below⟩, multiple⟩ := bounded
    exact ⟨⟨⟨⟨⟨rfl, low⟩, high⟩, above⟩, below⟩, multiple⟩
  | _ => cases bounded

end Probe

namespace Kind

variable {kind : Kind} {value : Json}

/-- The kind of a value is the first that fits, whole numbers not being set apart. -/
theorem find?_fits (value : Json) :
    [null, array, object, boolean, string, number].find? (fun kind => kind.fits value) =
      some (ofValue value) := by
  cases value <;> rfl

theorem ofName?_name (kind : Kind) : ofName? kind.name = some kind := by
  cases kind <;> rfl

theorem name_of_ofName? {s : String} (h : ofName? s = some kind) : kind.name = s := by
  simpa using List.find?_some h

/-- **Some listed kind fits first** if one fits: that kind itself, or numbers before whole numbers. -/
theorem firstFit_of_fits {types : List Json} (hm : Json.listsName types kind.name = true)
    (hf : kind.fits value = true) : ∃ first, firstFit types value = some first ∧
      (first = kind ∨ kind = .integer ∧ first = .number) := by
  have found : (firstFit types value).isSome = true :=
    List.find?_isSome.2 ⟨kind, by cases kind <;> simp [all], by rw [hm, hf]; rfl⟩
  obtain ⟨first, hfirst⟩ := Option.isSome_iff_exists.1 found
  refine ⟨first, hfirst, ?_⟩
  have fits : first.fits value = true := by
    have passed := List.find?_some hfirst
    simp only [Bool.and_eq_true] at passed
    exact passed.2
  -- of the kinds of one value only numbers and whole numbers differ, and numbers are tried before
  have before : kind = .number → first ≠ .integer := by
    rintro rfl rfl
    simp [firstFit, all, hm, hf] at hfirst
  cases kind <;> cases first <;> cases value <;> simp_all [Kind.fits, Json.isNumber, Json.isInteger]

end Kind

namespace Probe

variable {setting : Setting} {value : Json} {tag : Tag} {fields : Fields} {path : Path}

/-! ## 3. Declared types -/

/-- What there is to find nothing in a value as one of a type: the type is one, and its kind has nothing
against the value. -/
def PassesAs (setting : Setting) (value : Json) (fields : Fields) (path : Path) (type : String) : Prop :=
  ∃ kind, Kind.ofName? type = some kind ∧
    kindIssues setting kind value fields path (inside setting value)
      (narrower setting value fields) = .ok []

/-- The type itself is no keyword that a kind reads. -/
theorem PassesAs.congr {fields' : Fields} {type : String} (h : ∀ k, k ≠ "type" → get? fields' k = get? fields k)
    (passes : PassesAs setting value fields path type) : PassesAs setting value fields' path type := by
  obtain ⟨kind, hkind, hk⟩ := passes
  refine ⟨kind, hkind, ?_⟩
  have untyped : ∀ k ∈ Schema.keywordsOf kind, k ≠ "type" := by
    cases kind <;> decide
  rw [kindIssues_of_keywords fun k hm => h k (untyped k hm), hk]

/-- Under one type a value passes as one of that type. -/
theorem typeIssues_single_iff {type : String} (h : Schema.declaredTypes (.obj tag fields) = [.str type]) :
    typeIssues setting value tag fields path (inside setting value) (narrower setting value fields) =
      .ok [] ↔ PassesAs setting value fields path type := by
  rw [typeIssues_of_single h]
  simp only [PassesAs]
  cases Kind.ofName? type with
  | none => simp
  | some kind => simp

/-- **Under several types a value passes as one of them.** -/
theorem typeIssues_several_iff {types : List String} {a b : Json} {rest : List Json}
    (h : Schema.declaredTypes (.obj tag fields) = types.map .str) (several : types.map .str = a :: b :: rest) :
    typeIssues setting value tag fields path (inside setting value) (narrower setting value fields) =
      .ok [] ↔ ∃ type ∈ types, PassesAs setting value fields path type := by
  obtain ⟨_, reduced⟩ := @typeIssues_of_several setting value tag fields path (inside setting value)
    (narrower setting value fields) a b rest (h.trans several)
  have restricted : ∀ kind : Kind, kindIssues setting kind value (Schema.restrict fields (.str kind.name)) path
        (inside setting value) (narrower setting value (Schema.restrict fields (.str kind.name))) =
      kindIssues setting kind value fields path (inside setting value) (narrower setting value fields) :=
    fun kind => kindIssues_of_keywords fun _ hk => get?_restrict_of_mem hk rfl
  rw [reduced, h]
  constructor
  · intro passes
    cases hfirst : Kind.firstFit (types.map .str) value with
    | none =>
      rw [hfirst] at passes
      obtain ⟨names, -, passes⟩ := bind_eq_ok.1 passes
      cases passes
    | some kind =>
      rw [hfirst] at passes
      have chosen := List.find?_some hfirst
      simp only [Bool.and_eq_true] at chosen
      obtain ⟨_, hm, ⟨⟩⟩ := List.mem_map.1 (Json.listsName_iff.1 chosen.1)
      exact ⟨kind.name, hm, kind, Kind.ofName?_name kind, (restricted kind).symm.trans passes⟩
  · rintro ⟨type, hm, kind, hkind, hk⟩
    obtain rfl := Kind.name_of_ofName? hkind
    have listed : Json.listsName (types.map .str) kind.name = true :=
      Json.listsName_iff.2 (List.mem_map_of_mem hm)
    obtain ⟨first, hfirst, rfl | ⟨rfl, rfl⟩⟩ := Kind.firstFit_of_fits listed (fits_of_kindIssues hk)
    · rw [hfirst]
      exact (restricted first).trans hk
    · rw [hfirst]
      exact (restricted .number).trans (number_of_integer hk)

/-- **Without a type a value passes as one of its own kind.** -/
theorem typeIssues_untyped_iff (h : Schema.declaredTypes (.obj tag fields) = []) :
    typeIssues setting value tag fields path (inside setting value) (narrower setting value fields) =
      .ok [] ↔ PassesAs setting value fields path (Kind.ofValue value).name := by
  rw [typeIssues_of_nil h, PassesAs, Kind.ofName?_name]
  simp only [Option.some.injEq, exists_eq_left']
  cases spoken : (Schema.keywordsOf (Kind.ofValue value)).any (Fields.has fields) with
  | true => simp only [Schema.inferKind, spoken, if_true]
  | false =>
    simp only [Schema.inferKind, spoken, Bool.false_eq_true, if_false, true_iff]
    exact kindIssues_of_lacking spoken

/-- **What a value passes as**: its own kind where no type is declared, and otherwise one of the types. -/
theorem typeIssues_declared_iff {types : List String}
    (h : Schema.declaredTypes (.obj tag fields) = types.map .str) :
    typeIssues setting value tag fields path (inside setting value) (narrower setting value fields) =
      .ok [] ↔ ∃ type ∈ if types = [] then [(Kind.ofValue value).name] else types,
        PassesAs setting value fields path type := by
  cases types with
  | nil => simp only [typeIssues_untyped_iff h, if_true, List.mem_singleton, exists_eq_left]
  | cons first rest =>
    rw [if_neg (List.cons_ne_nil first rest)]
    cases rest with
    | nil => simp only [typeIssues_single_iff h, List.mem_singleton, exists_eq_left]
    | cons second rest => exact typeIssues_several_iff h rfl

/-! ### Schemas with a type put in -/

theorem get?_put_type {type : Json} (k : String) (hk : k ≠ "type") :
    get? (Fields.put fields "type" type) k = get? fields k := by
  rw [Fields.get?_put, if_neg hk]

theorem generalValid_put_type {type : Json} :
    GeneralValid setting value (Fields.put fields "type" type) path ↔
      GeneralValid setting value fields path := by
  have untyped : ∀ k ∈ generalKeywords, k ≠ "type" := by decide
  exact ⟨.congr fun k hk => (get?_put_type k (untyped k hk)).symm,
    .congr fun k hk => get?_put_type k (untyped k hk)⟩

theorem passesAs_put_type {type : Json} {name : String} :
    PassesAs setting value (Fields.put fields "type" type) path name ↔
      PassesAs setting value fields path name :=
  ⟨.congr fun k hk => (get?_put_type k hk).symm, .congr get?_put_type⟩

/-- Under a type that is put in, a value is admitted by the rest of the schema and as one of the type. -/
theorem issues_put_type_iff {type : String} :
    issues setting value (.obj tag (Fields.put fields "type" (.str type))) path = .ok [] ↔
      GeneralValid setting value fields path ∧ PassesAs setting value fields path type := by
  have declared : Schema.declaredTypes (.obj tag (Fields.put fields "type" (.str type))) = [.str type] := by
    simp only [Schema.declaredTypes, Fields.get?_put, if_true]
  rw [issues_obj_iff_general, generalValid_put_type, typeIssues_single_iff declared, passesAs_put_type]

/-- **Under several types that are put in**, a value is admitted as one of them. -/
theorem issues_put_types_iff {types : List String} (ltag : Tag) (h : types ≠ []) :
    issues setting value (.obj tag (Fields.put fields "type" (.arr ltag (types.map .str)))) path = .ok [] ↔
      ∃ type ∈ types, issues setting value (.obj tag (Fields.put fields "type" (.str type))) path =
        .ok [] := by
  have declared : Schema.declaredTypes (.obj tag (Fields.put fields "type" (.arr ltag (types.map .str)))) =
      types.map .str := by
    simp only [Schema.declaredTypes, Fields.get?_put, if_true]
  simp only [issues_put_type_iff, exists_and_left, and_left_comm (b := GeneralValid _ _ _ _)]
  rw [issues_obj_iff_general, generalValid_put_type, typeIssues_declared_iff declared, if_neg h]
  simp only [passesAs_put_type]

/-- **Without a type** a value is admitted as one of its own kind. -/
theorem issues_untyped_iff (h : get? fields "type" = none) :
    issues setting value (.obj tag fields) path = .ok [] ↔
      issues setting value (.obj tag (Fields.put fields "type" (.str (Kind.ofValue value).name))) path =
        .ok [] := by
  have undeclared : Schema.declaredTypes (.obj tag fields) = [] := by
    simp only [Schema.declaredTypes, h]
  rw [issues_put_type_iff, issues_obj_iff_general, typeIssues_untyped_iff undeclared]

/-! ## 4. Documents -/

section Documents

open Schema (Formed)

variable {terms : Schema.Terms} {s t x : Json} {options : Options} {root root' : Json}

/-- **The probe of a well-formed schema comes to well-formed schemas only.** -/
theorem comprises_formed : Comprises setting (Formed terms) where
  part h hk hs := (h.get? hk).inner _ hs
  entry {tag fields k x entries s} composing h hk he hs := by
    have shape : Schema.Shape.ofKeyword k = .schemas := by
      simp only [List.mem_cons, List.not_mem_nil, or_false] at composing
      rcases composing with rfl | rfl | rfl <;> rfl
    obtain ⟨_, items, rfl, formed⟩ := (h.get? hk).schemas shape
    cases he
    exact formed s hs
  beside h := h.erase
  expanded h ha he := by
    have formed := (h.get? ha).schema rfl
    rw [expand_of_formed formed] at he
    cases he
    exact formed

/-- **A well-formed schema says the same in every document.** -/
theorem issues_eq_of_formed (root root' : Json) (h : Formed terms s) :
    issues ⟨options, root⟩ value s = issues ⟨options, root'⟩ value s := by
  have alike : ExpandAlike Eq options root root' (Formed terms) := fun h ha => by
    have formed := (h.get? ha).schema rfl
    rw [expand_of_formed formed, expand_of_formed formed]
    exact .same _
  exact issues_eq_of_expansions alike (fun h => h.restrict) (fun _ _ _ _ hst => hst ▸ rfl) comprises_formed h

end Documents

end Probe

open Schema (Formed)

/-- **A type only chooses what is checked.**  A value is valid under several types exactly if it is valid
under one of them alone, and under no type exactly if it is valid under its own, which is the first of
null, array, object, boolean, string and number that fits.  That is so in a session, for every schema with
members and whatever the document of the session is; and it is so where a well-formed schema with its
type is the document itself.  Neither leaving out the keywords of other types nor looking for a keyword
before anything is checked lets an issue pass or adds one. -/
theorem type_only_chooses (tag : Tag) (fields : Fields) (value : Json) :
    let typed (type : Json) : Json := .obj tag (Fields.put fields "type" type)
    let onlyChooses (admits : Json → Prop) : Prop :=
      (∀ (ltag : Tag) (types : List String), types ≠ [] →
        (admits (typed (.arr ltag (types.map .str))) ↔ ∃ type ∈ types, admits (typed (.str type)))) ∧
      (get? fields "type" = none → ∃ kind : Kind,
        [.null, .array, .object, .boolean, .string, .number].find? (fun kind => kind.fits value) =
          some kind ∧ (admits (.obj tag fields) ↔ admits (typed (.str kind.name))))
    (∀ (session : Session) (path : Option Path),
      onlyChooses fun schema => session.validate (some value) schema path = .ok []) ∧
    ∀ (options : Options) (terms : Schema.Terms), Formed terms (.obj tag fields) →
      onlyChooses fun schema => validateValue (some value) schema options = .ok [] := by
  intro typed onlyChooses
  have within (setting : Probe.Setting) (path : Path) :
      onlyChooses fun schema => Probe.issues setting value schema path = .ok [] := by
    refine ⟨fun ltag types h => Probe.issues_put_types_iff ltag h, fun h => ?_⟩
    exact ⟨Kind.ofValue value, Kind.find?_fits value, Probe.issues_untyped_iff h⟩
  refine ⟨fun session path => within session.setting _, fun options terms formed => ?_⟩
  have retyped (type : Json) (h : (Schema.Shape.type).fits terms type = true) :
      Formed terms (typed type) := by
    refine formed.of_subset fun k x hx => ?_
    rcases Fields.mem_put hx with ⟨rfl, rfl⟩ | hx
    · exact .inr (.of_shape rfl h nofun)
    · exact .inl hx
  -- all the schemas are read in one document, that of the schema as it stands
  have read {schema : Json} (h : Formed terms schema) :
      validateValue (some value) schema options =
        Probe.issues ⟨options, .obj tag fields⟩ value schema options.currentPath :=
    congrFun (Probe.issues_eq_of_formed _ _ h) _
  obtain ⟨several, untyped⟩ := within ⟨options, .obj tag fields⟩ options.currentPath
  refine ⟨fun ltag types h => ?_, fun h => ?_⟩
  · have listed : (Schema.Shape.type).fits terms (.arr ltag (types.map .str)) = true := by
      simp [Schema.Shape.fits, Schema.isText, Schema.isTextList]
    simp only [read (retyped _ listed), fun type => read (retyped (.str type) rfl)]
    exact several ltag types h
  · obtain ⟨kind, hkind, alike⟩ := untyped h
    refine ⟨kind, hkind, ?_⟩
    simp only [read formed, read (retyped (.str kind.name) rfl)]
    exact alike

/-- A whole number passes among texts and objects, of which the schema speaks as well. -/
theorem type_only_chooses_whole_number :
    let fields : Fields := [("minLength", .num (.int 9)), ("multipleOf", .num (.int 2)),
      ("additionalProperties", .bool false), ("not", .obj none [("maximum", .num (.int 3))])]
    let typed (type : Json) : Json := .obj none (Fields.put fields "type" type)
    validateValue (some (.num (.int 4)))
        (typed (.arr none [.str "object", .str "integer", .str "string"])) .default = .ok [] ∧
      validateValue (some (.num (.int 4))) (.obj none fields) .default = .ok [] := by
  intro fields typed
  have formed : Formed ⟨fun _ => false, fun _ => false⟩ (.obj none fields) := by decide +kernel
  obtain ⟨several, untyped⟩ := (type_only_chooses none fields (.num (.int 4))).2 .default _ formed
  constructor
  · have whole : validateValue (some (.num (.int 4))) (typed (.str "integer")) .default = .ok [] := by
      decide +kernel
    exact (several none ["object", "integer", "string"] (by simp)).2 ⟨"integer", by simp, whole⟩
  · obtain ⟨kind, hkind, alike⟩ := untyped rfl
    obtain rfl : Kind.number = kind := Option.some.inj hkind
    exact alike.2 (by decide +kernel)

end Conform
