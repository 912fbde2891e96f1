/-
# Schemas that ask for no less than others

Where a branch is merged into a schema, the branch itself is not looked at any more: what it asks for
has to be asked for by the merged schema.  `Entails s' s` says that of two schemas: whatever the probe
has nothing against under `s'`, it has nothing against under `s`.

The two may stand in different documents.  For a schema without references that makes no difference
(`issues_eq_of_elementary`), so that it entails itself (`Entails.refl`).  For schemas with members
`Upheld` lists what the members of the one have to say for the members of the other to be heard, one
part for lists and one for objects, and `entails_of_upheld` is the one place where the probe is opened.
-/
import Conform.Proofs.Leading

namespace Conform

open Fields (get?)
open Schema (schemasIn compositeKeywords)

namespace Schema

/-! ## 1. Elementary schemas -/

/-- The value is true or false, or a schema of whose members something holds, as of those of all schemas
inside it. -/
inductive Deeply (P : Fields → Prop) : Json → Prop
  | boolean (b : Bool) : Deeply P (.bool b)
  | node {tag : Tag} {fields : Fields} (here : P fields)
      (inner : ∀ k x, (k, x) ∈ fields → ∀ s ∈ schemasIn k x, Deeply P s) :
      Deeply P (.obj tag fields)

/-- Does the test pass at the schema and at all schemas inside it, down to a depth? -/
def deeply (p : Fields → Bool) : (depth : Nat) → Json → Bool
  | _, .bool _ => true
  | depth + 1, .obj _ fields =>
    p fields && fields.all fun field => (schemasIn field.1 field.2).all (deeply p depth)
  | _, _ => false

theorem deeply_iff {P : Fields → Prop} [DecidablePred P] {depth : Nat} {s : Json}
    (hs : s.size ≤ depth) : deeply (fun fields => decide (P fields)) depth s = true ↔ Deeply P s := by
  induction depth generalizing s with
  | zero => exact absurd (Json.size_pos s) (Nat.not_lt.2 hs)
  | succ depth ih =>
    cases s with
    | obj tag fields =>
      have below : ∀ k x, (k, x) ∈ fields → ∀ t ∈ schemasIn k x, t.size ≤ depth :=
        fun k x hx t ht => Nat.le_of_lt_succ (Nat.lt_of_lt_of_le (Nat.lt_of_le_of_lt
          (Place.size_le_of_mem_schemas ht) (Json.size_lt_of_mem_fields tag hx)) hs)
      simp only [deeply, List.all_eq_true, Bool.and_eq_true, Prod.forall, decide_eq_true_iff]
      constructor
      · rintro ⟨here, inner⟩
        exact .node here fun k x hx t ht => (ih (below k x hx t ht)).1 (inner k x hx t ht)
      · rintro ⟨⟩
        next here inner =>
          exact ⟨here, fun k x hx t ht => (ih (below k x hx t ht)).2 (inner k x hx t ht)⟩
    | bool b => exact iff_of_true rfl (.boolean b)
    | _ => exact iff_of_false Bool.false_ne_true nofun

instance {P : Fields → Prop} [DecidablePred P] : DecidablePred (Deeply P) := fun _ =>
  decidable_of_iff _ (deeply_iff (Nat.le_refl _))

/-- **A schema without references and compositions**, at any depth. -/
abbrev Elementary (s : Json) : Prop :=
  Deeply (fun fields => ∀ k ∈ "$ref" :: compositeKeywords, get? fields k = none) s

namespace Elementary

variable {tag tag' : Tag} {fields : Fields} {k : String} {x s : Json}

theorem lacks (h : Elementary (.obj tag fields)) (hk : k ∈ "$ref" :: compositeKeywords) :
    get? fields k = none := by
  cases h with
  | node here _ => exact here k hk

theorem part (h : Elementary (.obj tag fields)) (hk : get? fields k = some x)
    (hs : s ∈ schemasIn k x) : Elementary s := by
  cases h with
  | node _ inner => exact inner k x (Json.mem_of_get? hk) s hs

/-- What a keyword for a schema holds. -/
theorem schema (h : Elementary (.obj tag fields)) (hk : get? fields k = some x)
    (hs : Shape.ofKeyword k = .schema) : Elementary x :=
  h.part hk (by rw [schemasIn, hs]; exact List.mem_singleton_self x)

/-- The schemas of a table. -/
theorem table {entries : Fields} {j : String}
    (h : Elementary (.obj tag fields)) (hk : get? fields k = some (.obj tag' entries))
    (hp : (Shape.ofKeyword k).place = .table) (hs : (j, s) ∈ entries) : Elementary s :=
  h.part hk (by rw [schemasIn, hp]; exact List.mem_map.2 ⟨_, hs, rfl⟩)

theorem item (h : Elementary (.obj tag fields)) {i : Nat}
    (hs : Probe.itemSchema fields i = some s) : Elementary s := by
  obtain ⟨k, x, hk, hp⟩ := exists_of_itemSchema hs
  exact h.part hk (mem_schemasIn_of_mem_partsOf hp)

/-- Leaving members out and setting a type keeps a schema elementary. -/
theorem of_subset {fields' : Fields} (h : Elementary (.obj tag fields))
    (hsub : ∀ k x, (k, x) ∈ fields' → (k, x) ∈ fields ∨ k = "type") : Elementary (.obj tag' fields') := by
  cases h with
  | node here inner =>
    refine .node (fun k hk => ?_) fun k x hx s hs => ?_
    · refine Option.eq_none_iff_forall_ne_some.2 fun x hx => ?_
      rcases hsub k x (Json.mem_of_get? hx) with hm | rfl
      · exact Fields.get?_eq_none_iff.1 (here k hk) (Fields.mem_names_of_mem hm)
      · simp [compositeKeywords] at hk
    · rcases hsub k x hx with hx | rfl
      · exact inner k x hx s hs
      · cases hs

theorem restrict {name : String} (h : Elementary (.obj tag fields)) :
    Elementary (.obj tag' (Schema.restrict fields (.str name))) :=
  h.of_subset fun _ _ hm => (mem_restrict hm).imp_right And.left

theorem erase {key : String} (h : Elementary (.obj tag fields)) :
    Elementary (.obj tag' (Fields.erase fields key)) :=
  h.of_subset fun _ _ hm => .inl (Fields.mem_of_mem_erase hm)

end Elementary

end Schema

namespace Probe

open Schema (Elementary)

variable {options : Options} {root root' x s : Json} {tag : Tag} {fields : Fields} {path : Path}

/-- A schema without references stands for itself. -/
theorem expand_of_elementary {source : Reference.Source} (h : Elementary s) :
    Reference.expand source root s = .ok (some (.node s)) := by
  cases s with
  | obj tag fields => simp only [Reference.expand, h.lacks (List.mem_cons_self ..)]
  | bool b => rfl
  | _ => cases h

/-- The entries of a keyword's table are those of an object. -/
theorem exists_of_mem_memberTable {k : String} {table : Fields} {entry : String × Json}
    (ht : membersOf (memberTable fields k) = .ok table) (hm : entry ∈ table) :
    ∃ tag, get? fields k = some (.obj tag table) := by
  unfold memberTable at ht
  cases hk : get? fields k with
  | none =>
    rw [hk] at ht
    cases ht
    cases hm
  | some x =>
    rw [hk] at ht
    cases x with
    | obj tag entries =>
      cases ht
      exact ⟨tag, rfl⟩
    | _ => cases ht

/-! ### The document does not matter -/

/-- The probe of an elementary schema comes to elementary schemas only. -/
theorem comprises_elementary {setting : Setting} : Comprises setting Elementary where
  part h hk hs := h.part hk hs
  entry composing h hk _ _ := by
    have composite : ∀ k ∈ ["allOf", "anyOf", "oneOf"], k ∈ "$ref" :: compositeKeywords := by decide
    exact absurd ((h.lacks (composite _ composing)).symm.trans hk) nofun
  beside h := h.erase
  expanded h ha he := by
    have elementary := h.schema ha rfl
    rw [expand_of_elementary elementary] at he
    cases he
    exact elementary

/-- **A schema without references says the same in every document.** -/
theorem issues_eq_of_elementary (h : Elementary s) :
    issues ⟨options, root⟩ x s path = issues ⟨options, root'⟩ x s path := by
  have alike : ExpandAlike Eq options root root' Elementary := fun h ha => by
    have elementary := h.schema ha rfl
    rw [expand_of_elementary elementary, expand_of_elementary elementary]
    exact .same _
  exact congrFun (issues_eq_of_expansions alike (fun h => h.restrict) (fun _ _ _ _ hst => hst ▸ rfl)
    comprises_elementary h) path

/-! ## 2. Entailment -/

/-- **Whatever has no issues under the first schema has none under the second**, each of which is read in
a document of its own. -/
def Entails (options : Options) (root root' s' s : Json) : Prop :=
  ∀ x path, x.NullFree → issues ⟨options, root⟩ x s' path = .ok [] →
    issues ⟨options, root'⟩ x s path = .ok []

namespace Entails

variable {s' : Json}

/-- A schema without references asks for what it asks for. -/
theorem refl (h : Elementary s) : Entails options root root' s s := by
  intro x path _ hx
  exact (issues_eq_of_elementary h).trans hx

theorem to_true : Entails options root root' s' (.bool true) := fun _ _ _ _ => issues_true

theorem of_false : Entails options root root' (.bool false) s := by
  intro x path _ hx
  rw [issues_false] at hx
  cases hx

end Entails

/-- Of some keywords, what the second schema says is said by the first as well. -/
def Kept (keys : List String) (r b : Fields) : Prop :=
  ∀ k ∈ keys, ∀ y, get? b k = some y → get? r k = some y

/-- What the schemas of a table ask for is asked for by schemas under the same names. -/
def TableUpheld (E : Json → Json → Prop) (f g : Fields) : Prop :=
  ∀ n v, (n, v) ∈ g → ∃ w, (n, w) ∈ f ∧ E w v

/-- **What a schema says about lists is said by another one.** -/
structure ArrayUpheld (E : Json → Json → Prop) (r b : Fields) : Prop where
  kept : Kept ["minItems", "maxItems", "uniqueItems", "contains", "minContains", "maxContains"] r b
  /-- One item at least is asked for if nothing else is said. -/
  least : get? b "contains" ≠ none → get? b "minContains" = none →
    ∀ m, get? r "minContains" = some m → isUnder 0 m = .ok true
  positions : ∀ i s, itemSchema b i = some s → ∃ s', itemSchema r i = some s' ∧ E s' s

/-- The entries of a keyword's table. -/
def entriesUnder (fields : Fields) (k : String) : Fields := Schema.fieldsOf (memberTable fields k)

/-- The names in a keyword's table. -/
def namesUnder (fields : Fields) (k : String) : List String := Fields.names (entriesUnder fields k)

/-- The keywords for tables of schemas. -/
abbrev tableKeywords : List String := ["properties", "patternProperties", "dependentSchemas"]

/-- The names that a schema requires. -/
def requiredNames (fields : Fields) : List Json :=
  ((get? fields "required").bind Json.entries?).getD []

/-- A list of texts can be walked through. -/
theorem entriesOf_required (h : (get? fields "required").all Schema.isTextList = true) :
    entriesOf ((get? fields "required").getD (.arr none [])) = .ok (requiredNames fields) ∧
      ∀ n ∈ requiredNames fields, Schema.isText n = true := by
  unfold requiredNames
  cases hk : get? fields "required" with
  | none => exact ⟨rfl, nofun⟩
  | some y =>
    rw [hk] at h
    obtain ⟨tag, items, rfl, texts⟩ := Schema.isTextList_iff.1 h
    exact ⟨rfl, texts⟩

/-- **What a schema says about objects is said by another one.** -/
structure ObjectUpheld (options : Options) (root : Json) (E : Json → Json → Prop) (r b : Fields) :
    Prop where
  kept : Kept ["minProperties", "maxProperties", "dependentRequired", "propertyNames"] r b
  texts : (get? b "required").all Schema.isTextList = true
  required : ∀ n ∈ Json.distinct (requiredNames b), n ∈ Json.distinct (requiredNames r)
  objects : ∀ k ∈ tableKeywords,
    (get? r k).all Json.isObject = true ∧ (get? b k).all Json.isObject = true
  tables : ∀ k ∈ tableKeywords, TableUpheld E (entriesUnder r k) (entriesUnder b k)
  /-- No pattern is meant for a name that only the first schema declares. -/
  aside : ∀ n ∈ namesUnder r "properties", n ∉ namesUnder b "properties" →
    ∀ p ∈ namesUnder b "patternProperties", options.engine.search (.str p) (.str n) = .ok false
  /-- Names that the first schema covers are covered by the second. -/
  additional : ∀ s, get? b "additionalProperties" = some s → s = .bool true ∨
    (namesUnder r "properties" ⊆ namesUnder b "properties" ∧
      namesUnder r "patternProperties" ⊆ namesUnder b "patternProperties" ∧
      ∃ s', get? r "additionalProperties" = some s' ∧ E s' s ∧
        Reference.expand options.source root s' = .ok (some (.node s')))

/-! ### Bounds and sizes -/

section Parts

variable {r b : Fields} {keys : List String}

theorem limitIssue_of_kept (h : Kept keys r b) {k : String} (hk : k ∈ keys)
    {missed : Json → Check Bool} {reason : Json → Reason}
    (hr : limitIssue r k missed reason path = .ok []) :
    limitIssue b k missed reason path = .ok [] := by
  unfold limitIssue at hr ⊢
  cases hb : get? b k with
  | none => rfl
  | some limit => simpa only [h k hk limit hb] using hr

theorem memberCountIssues_of_kept {n : Nat}
    (h : Kept ["minProperties", "maxProperties", "dependentRequired", "propertyNames"] r b)
    (hr : memberCountIssues n r path = .ok []) : memberCountIssues n b path = .ok [] := by
  simp only [memberCountIssues, bind_eq_ok, Except.ok.injEq, List.append_eq_nil_iff] at hr ⊢
  obtain ⟨_, hfew, _, hmany, rfl, rfl⟩ := hr
  exact ⟨[], limitIssue_of_kept h (by simp) hfew, [], limitIssue_of_kept h (by simp) hmany, rfl, rfl⟩

theorem stringIssues_of_kept {segmenter : Segmenter} {engine : Pattern.Engine}
    (h : Kept Schema.stringKeywords r b) (hr : stringIssues segmenter engine x r path = .ok []) :
    stringIssues segmenter engine x b path = .ok [] := by
  cases x with
  | str s =>
    simp only [stringIssues, bind_eq_ok, Except.ok.injEq, List.append_eq_nil_iff] at hr ⊢
    obtain ⟨_, hlength, _, hpattern, _, hformat, ⟨rfl, rfl⟩, rfl⟩ := hr
    refine ⟨[], ?_, [], limitIssue_of_kept h (by simp [Schema.stringKeywords]) hpattern, [], ?_,
      ⟨rfl, rfl⟩, rfl⟩
    · unfold lengthIssues at hlength ⊢
      split
      · next hb =>
        have counted : (Fields.has r "minLength" || Fields.has r "maxLength") = true := by
          simp only [Fields.has, Bool.or_eq_true, Option.isSome_iff_exists] at hb ⊢
          rcases hb with ⟨y, hy⟩ | ⟨y, hy⟩
          · exact .inl ⟨y, h _ (by simp [Schema.stringKeywords]) y hy⟩
          · exact .inr ⟨y, h _ (by simp [Schema.stringKeywords]) y hy⟩
        simp only [counted, if_true, bind_eq_ok, Except.ok.injEq,
          List.append_eq_nil_iff] at hlength ⊢
        obtain ⟨n, hn, _, hshort, _, hlong, rfl, rfl⟩ := hlength
        exact ⟨n, hn, [], limitIssue_of_kept h (by simp [Schema.stringKeywords]) hshort, [],
          limitIssue_of_kept h (by simp [Schema.stringKeywords]) hlong, rfl, rfl⟩
      · rfl
    · unfold formatIssues at hformat ⊢
      cases hb : get? b "format" with
      | none => rfl
      | some format =>
        simpa only [h _ (by simp [Schema.stringKeywords]) format hb] using hformat
  | _ => simp [stringIssues] at hr

/-- Either a bound and its exclusive counterpart are taken as they are, or the bound is exclusive. -/
theorem effectiveBounds_cases (bound exclusive : Option Json) :
    effectiveBounds bound exclusive = (bound, exclusive) ∨
      ∃ m, exclusive = some (.bool true) ∧ bound = some m ∧
        effectiveBounds bound exclusive = (none, some m) := by
  unfold effectiveBounds
  split
  · exact .inl rfl
  · next m _ => exact .inr ⟨m, rfl, rfl, rfl⟩
  · exact .inl rfl

/-- A bound and its exclusive counterpart are kept, even if what makes a bound exclusive, or the bound
that is made so, comes from elsewhere. -/
theorem boundIssues_of_kept {bound bound' exclusive exclusive' : Option Json}
    {weak strict : Number → Bool} {reason reason' : Json → Reason}
    (hb : ∀ m, bound' = some m → bound = some m)
    (he : ∀ e, exclusive' = some e → exclusive = some e)
    (hw : ∀ limit, weak limit = true → strict limit = true)
    (h : boundIssue (effectiveBounds bound exclusive).1 weak reason path = [])
    (h' : boundIssue (effectiveBounds bound exclusive).2 strict reason' path = []) :
    boundIssue (effectiveBounds bound' exclusive').1 weak reason path = [] ∧
      boundIssue (effectiveBounds bound' exclusive').2 strict reason' path = [] := by
  rcases effectiveBounds_cases bound' exclusive' with hb' | ⟨m, rfl, rfl, hb'⟩
  · rw [hb']
    rcases effectiveBounds_cases bound exclusive with hr | ⟨m, rfl, rfl, hr⟩
    · rw [hr] at h h'
      constructor
      · cases bound' with
        | none => rfl
        | some m => exact hb m rfl ▸ h
      · cases exclusive' with
        | none => rfl
        | some e => exact he e rfl ▸ h'
    · -- the bound is exclusive in the first schema, which asks for more
      rw [hr] at h'
      constructor
      · cases bound' with
        | none => rfl
        | some m' =>
          cases hb m' rfl
          cases m with
          | num limit =>
            have within : ¬weak limit = true := fun hv => by simp [boundIssue, hw limit hv] at h'
            simp [boundIssue, within]
          | _ => rfl
      · cases exclusive' with
        | none => rfl
        | some e =>
          cases he e rfl
          rfl
  · rw [hb m rfl, he _ rfl] at h h'
    exact ⟨h, h'⟩

theorem numberIssues_of_kept {kind kind' : Kind} (hk : kind = .integer → kind' = .integer)
    (h : Kept Schema.numberKeywords r b) (hr : numberIssues kind' x r path = []) :
    numberIssues kind x b path = [] := by
  have kept : ∀ k ∈ Schema.numberKeywords, ∀ y, get? b k = some y → get? r k = some y := h
  cases x with
  | num n =>
    simp only [numberIssues, List.append_eq_nil_iff] at hr ⊢
    obtain ⟨⟨⟨⟨⟨hi, hmin⟩, hmax⟩, habove⟩, hbelow⟩, hmultiple⟩ := hr
    have strict : ∀ {u v : Number}, u.lt v = true → u.le v = true := fun h => by
      simp only [Number.lt] at h
      simp [Number.le, h]
    obtain ⟨hmin, habove⟩ := boundIssues_of_kept (kept _ (by simp [Schema.numberKeywords]))
      (kept _ (by simp [Schema.numberKeywords])) (fun _ => strict) hmin habove
    obtain ⟨hmax, hbelow⟩ := boundIssues_of_kept (kept _ (by simp [Schema.numberKeywords]))
      (kept _ (by simp [Schema.numberKeywords])) (fun _ => strict) hmax hbelow
    refine ⟨⟨⟨⟨⟨?_, hmin⟩, hmax⟩, habove⟩, hbelow⟩, ?_⟩
    · simp only [ite_eq_right_iff, List.cons_ne_nil, imp_false, not_and] at hi ⊢
      exact fun hint => hi (hk hint)
    · cases hb : get? b "multipleOf" with
      | none => rfl
      | some d => exact kept _ (by simp [Schema.numberKeywords]) d hb ▸ hmultiple
  | _ => simp [numberIssues] at hr

/-! ### Lists -/

/-- Where the least number is positive, there is one item at least. -/
theorem isUnder_one {found : Nat} {m : Json} (hm : isUnder 0 m = .ok true)
    (h : isUnder found m = .ok false) : isUnder found (.num (.int 1)) = .ok false := by
  have some_found : found ≠ 0 := by
    rintro rfl
    rw [hm] at h
    cases h
  have positive : ¬((found : Int) : Rat) < ((1 : Int) : Rat) := by
    rw [Rat.intCast_lt_intCast]
    omega
  have compared : (Number.int found).lt (.int 1) = decide (((found : Int) : Rat) < ((1 : Int) : Rat)) :=
    rfl
  simp only [isUnder, limitOf, Json.quantity?, ok_bind, compared, decide_eq_false positive]

theorem containsIssues_of_upheld {items : List Json} {E : Json → Json → Prop}
    (h : ArrayUpheld E r b) (he : Elementary (.obj tag b))
    (hr : containsIssues items r path (fun x _ s place => issues ⟨options, root⟩ x s place) = .ok []) :
    containsIssues items b path (fun x _ s place => issues ⟨options, root'⟩ x s place) = .ok [] := by
  cases hb : get? b "contains" with
  | none => simp only [containsIssues, hb]
  | some schema =>
    have hrs := h.kept _ (by simp) schema hb
    have same : (fun i x (_ : x ∈ items) =>
          valid (issues ⟨options, root'⟩ x schema (itemPath path i))) =
        fun i x _ => valid (issues ⟨options, root⟩ x schema (itemPath path i)) := by
      funext i x _
      rw [issues_eq_of_elementary (he.schema hb rfl)]
    simp only [containsIssues, hrs, hb, same, bind_eq_ok, Except.ok.injEq,
      List.append_eq_nil_iff] at hr ⊢
    obtain ⟨found, hf, few, hfew, _, hmany, hnil, rfl⟩ := hr
    obtain rfl : few = false := by
      cases few with
      | false => rfl
      | true => simp at hnil
    refine ⟨found, hf, false, ?_, [], limitIssue_of_kept h.kept (by simp) hmany, rfl, rfl⟩
    cases hb' : get? b "minContains" with
    | some m => rwa [h.kept _ (by simp) m hb'] at hfew
    | none =>
      cases hr' : get? r "minContains" with
      | none => rwa [hr'] at hfew
      | some m =>
        rw [hr'] at hfew
        exact isUnder_one (h.least (by simp [hb]) hb' m hr') hfew

/-- Nothing by an item: the schema of its position admits it. -/
theorem itemIssues_iff {i : Nat} {f : Fields} :
    itemIssues f path i (fun s place => issues ⟨options, root⟩ x s place) = .ok [] ↔
      ∀ s, itemSchema f i = some s → issues ⟨options, root⟩ x s (itemPath path i) = .ok [] := by
  unfold itemIssues
  split
  · next h => simp [h]
  · next h => simp [h]
  · next h => simp [h]
  · next h => simp [h]

theorem arrayIssues_of_upheld {items : List Json}
    (h : ArrayUpheld (Entails options root root') r b) (he : Elementary (.obj tag b))
    (hn : ∀ x ∈ items, x.NullFree)
    (hr : arrayIssues items r path (fun x _ s place => issues ⟨options, root⟩ x s place) = .ok []) :
    arrayIssues items b path (fun x _ s place => issues ⟨options, root'⟩ x s place) = .ok [] := by
  rw [arrayIssues_iff] at hr ⊢
  obtain ⟨hwhole, heach⟩ := hr
  constructor
  · simp only [listIssues, bind_eq_ok, Except.ok.injEq, List.append_eq_nil_iff] at hwhole ⊢
    obtain ⟨_, hfew, _, hmany, _, hcontained, ⟨⟨rfl, rfl⟩, hunique⟩, rfl⟩ := hwhole
    refine ⟨[], limitIssue_of_kept h.kept (by simp) hfew, [],
      limitIssue_of_kept h.kept (by simp) hmany, [], containsIssues_of_upheld h he hcontained,
      ⟨⟨rfl, rfl⟩, ?_⟩, rfl⟩
    cases hb : get? b "uniqueItems" with
    | none => rfl
    | some y => simpa only [h.kept _ (by simp) y hb] using hunique
  · rintro ⟨x, i⟩ hm hx
    refine itemIssues_iff.2 fun s hs => ?_
    obtain ⟨s', hs', entails⟩ := h.positions i s hs
    exact entails x _ (hn x hx) (itemIssues_iff.1 (heach (x, i) hm hx) s' hs')

/-! ### Objects -/

theorem memberTable_eq {k : String} (h : (get? b k).all Json.isObject = true) :
    ∃ tag, memberTable b k = .obj tag (entriesUnder b k) := by
  unfold entriesUnder memberTable
  cases hk : get? b k with
  | none => exact ⟨none, rfl⟩
  | some x =>
    rw [hk] at h
    cases x with
    | obj tag fields => exact ⟨tag, rfl⟩
    | _ => cases h

theorem membersOf_memberTable {k : String} (h : (get? b k).all Json.isObject = true) :
    membersOf (memberTable b k) = .ok (entriesUnder b k) := by
  obtain ⟨tag, ht⟩ := memberTable_eq h
  rw [ht, membersOf]

/-- A search that does not stop finds nothing exactly if nothing passes. -/
theorem exists?_of_answered {α : Type} {xs : List α} {f : (x : α) → x ∈ xs → Check Bool}
    (h : ∀ x hx, ∃ passes, f x hx = .ok passes) :
    ∃ found, exists? xs f = .ok found ∧ (found = false ↔ ∀ x hx, f x hx = .ok false) := by
  induction xs with
  | nil => exact ⟨false, rfl, by simp⟩
  | cons x xs ih =>
    obtain ⟨passes, hx⟩ := h x (List.mem_cons_self ..)
    obtain ⟨found, hf, hiff⟩ := ih fun y hy => h y (List.mem_cons_of_mem _ hy)
    cases passes with
    | true =>
      refine ⟨true, by simp [exists?, hx, ok_bind], ?_⟩
      simp only [Bool.true_eq_false, false_iff, not_forall]
      exact ⟨x, List.mem_cons_self .., by simp [hx]⟩
    | false =>
      refine ⟨found, by simp [exists?, hx, ok_bind, hf], hiff.trans ?_⟩
      constructor
      · intro hall y hy
        rcases List.mem_cons.1 hy with rfl | hm
        · exact hx
        · exact hall y hm
      · exact fun hall y hy => hall y (List.mem_cons_of_mem _ hy)

/-- **What it takes for a name to be covered by nothing**, if the patterns can be searched for in it. -/
theorem isAdditional_of_answered {engine : Pattern.Engine} {n : String}
    (ho : ∀ k ∈ tableKeywords, (get? b k).all Json.isObject = true)
    (h : n ∉ namesUnder b "properties" → ∀ p ∈ namesUnder b "patternProperties",
      ∃ fits, engine.search (.str p) (.str n) = .ok fits) :
    ∃ uncovered, isAdditional engine n b = .ok uncovered ∧
      (uncovered = true ↔ n ∉ namesUnder b "properties" ∧
        ∀ p ∈ namesUnder b "patternProperties", engine.search (.str p) (.str n) = .ok false) := by
  obtain ⟨_, hp⟩ := memberTable_eq (ho "properties" (by simp))
  obtain ⟨_, hq⟩ := memberTable_eq (ho "patternProperties" (by simp))
  rw [isAdditional, hp, hq, isNamedIn, ok_bind]
  cases hd : Fields.has (entriesUnder b "properties") n with
  | true =>
    refine ⟨false, rfl, ?_⟩
    simp [namesUnder, Fields.has_iff.1 hd]
  | false =>
    have undeclared : n ∉ namesUnder b "properties" :=
      Fields.get?_eq_none_iff.1 (Fields.has_eq_false_iff.1 hd)
    have searched : ∀ p ∈ nameValues (entriesUnder b "patternProperties"),
        ∃ fits, engine.search p (.str n) = .ok fits := by
      intro p hm
      obtain ⟨entry, he, rfl⟩ := List.mem_map.1 hm
      exact h undeclared entry.1 (List.mem_map.2 ⟨entry, he, rfl⟩)
    obtain ⟨found, hf, hiff⟩ := exists?_of_answered searched
    refine ⟨!found, ?_, ?_⟩
    · have patterns : ∀ {tag : Tag} {f : Fields}, entriesOf (.obj tag f) = .ok (nameValues f) := rfl
      simp only [Bool.false_eq_true, if_false, patterns, ok_bind, hf]
    · simp only [Bool.not_eq_true', undeclared, not_false_eq_true, true_and, hiff]
      constructor
      · intro hall p hm
        obtain ⟨entry, he, rfl⟩ := List.mem_map.1 hm
        exact hall _ (List.mem_map.2 ⟨entry, he, rfl⟩)
      · intro hall p hm
        obtain ⟨entry, he, rfl⟩ := List.mem_map.1 hm
        exact hall entry.1 (List.mem_map.2 ⟨entry, he, rfl⟩)

/-- A value that is no null is not absent. -/
theorem isAbsent_some {schema : Json} (h : x ≠ .null) : Schema.isAbsent (some x) schema = false := by
  cases x <;> first | rfl | exact absurd rfl h

section Objects

variable {tag' : Tag} {value : Fields}
  (h : ObjectUpheld options root (Entails options root root') r b)
  (ha : options.accessor = .direct) (hn : (Json.obj tag' value).NullFree)

include ha in
theorem read_direct (name : String) :
    options.accessor.read (.obj tag' value) (.str name) = .ok (get? value name) := by
  rw [ha]
  rfl

/-- A member that nothing covers is admitted by the schema for further members. -/
theorem issues_of_additional {f : Fields} {additional : Json} {member : String × Json}
    (hm : member ∈ value) (hk : get? f "additionalProperties" = some additional)
    (hu : isAdditional options.engine member.1 f = .ok true)
    (he : Reference.expand options.source root additional = .ok (some (.node additional))) :
    additionalIssues ⟨options, root⟩ tag' value f path (inside ⟨options, root⟩ (.obj tag' value))
        additional member hm = .ok [] ↔
      issues ⟨options, root⟩ member.2 additional (path ++ [member.1]) = .ok [] := by
  simp only [additionalIssues, hu, ok_bind, Bool.not_true, Bool.false_eq_true, if_false]
  split
  · next hf =>
    obtain rfl : additional = .bool false := by
      unfold Schema.isFalse at hf
      split at hf
      · rfl
      · cases hf
    simp
  · rw [he]
    rfl

include h hn

/-- The patterns can be searched for in the name of a member, unless it is declared, and a schema under a
pattern that is found in it admits the member. -/
theorem searched_of_upheld {member : String × Json} (hm : member ∈ value)
    (hd : member.1 ∉ namesUnder b "properties")
    (hr : patternIssues ⟨options, root⟩ tag' value r path (inside ⟨options, root⟩ (.obj tag' value))
      (entriesUnder r "properties") member hm = .ok []) :
    ∀ p v, (p, v) ∈ entriesUnder b "patternProperties" →
      ∃ fits, options.engine.search (.str p) (.str member.1) = .ok fits ∧ (fits = true →
        issues ⟨options, root'⟩ member.2 v (path ++ [member.1]) = .ok []) := by
  intro p v hp
  cases hf : Fields.has (entriesUnder r "properties") member.1 with
  | true =>
    refine ⟨false, h.aside _ (Fields.has_iff.1 hf) hd p (Fields.mem_names_of_mem hp), nofun⟩
  | false =>
    obtain ⟨w, hw, entails⟩ := h.tables "patternProperties" (by simp) p v hp
    rw [patternIssues, hf, membersOf_memberTable (h.objects _ (by simp)).1] at hr
    simp only [Bool.false_eq_true, if_false, ok_bind, gather_eq_nil_iff, bind_eq_ok] at hr
    obtain ⟨fits, hfits, hr⟩ := hr (p, w) hw
    refine ⟨fits, hfits, ?_⟩
    rintro rfl
    exact entails _ _ (hn.of_mem_fields hm) (by simpa using hr)

theorem patternIssues_of_upheld {member : String × Json} (hm : member ∈ value)
    (hr : patternIssues ⟨options, root⟩ tag' value r path (inside ⟨options, root⟩ (.obj tag' value))
      (entriesUnder r "properties") member hm = .ok []) :
    patternIssues ⟨options, root'⟩ tag' value b path (inside ⟨options, root'⟩ (.obj tag' value))
      (entriesUnder b "properties") member hm = .ok [] := by
  unfold patternIssues
  split
  · rfl
  · next hd =>
    have undeclared : member.1 ∉ namesUnder b "properties" := fun hm => hd (Fields.has_iff.2 hm)
    rw [membersOf_memberTable (h.objects _ (by simp)).2, ok_bind]
    refine gather_eq_nil_iff.2 fun entry hp => ?_
    obtain ⟨fits, hfits, hvalid⟩ := searched_of_upheld h hn hm undeclared hr entry.1 entry.2 hp
    simp only [hfits, ok_bind]
    split
    · next hf => exact hvalid hf
    · rfl

theorem additionalIssues_of_upheld (he : Elementary (.obj tag b))
    (hp : ∀ member hm, patternIssues ⟨options, root⟩ tag' value r path
      (inside ⟨options, root⟩ (.obj tag' value)) (entriesUnder r "properties") member hm = .ok [])
    (hr : allAdditionalIssues ⟨options, root⟩ tag' value r path
      (inside ⟨options, root⟩ (.obj tag' value)) = .ok []) :
    allAdditionalIssues ⟨options, root'⟩ tag' value b path
      (inside ⟨options, root'⟩ (.obj tag' value)) = .ok [] := by
  unfold allAdditionalIssues
  split
  · rfl
  · next additional hk =>
    refine gather_eq_nil_iff.2 fun member hm => ?_
    have searched : member.1 ∉ namesUnder b "properties" → ∀ p ∈ namesUnder b "patternProperties",
        ∃ fits, options.engine.search (.str p) (.str member.1) = .ok fits := by
      intro hd p hn'
      obtain ⟨entry, hentry, rfl⟩ := List.mem_map.1 hn'
      obtain ⟨fits, hfits, -⟩ :=
        searched_of_upheld h hn hm hd (hp member hm) entry.1 entry.2 hentry
      exact ⟨fits, hfits⟩
    obtain ⟨uncovered, hu, hiff⟩ := isAdditional_of_answered (fun k hk => (h.objects k hk).2) searched
    cases uncovered with
    | false => simp [additionalIssues, hu, ok_bind]
    | true =>
      obtain ⟨undeclared, unmatched⟩ := hiff.1 rfl
      refine (issues_of_additional hm hk hu (expand_of_elementary (he.schema hk rfl))).2 ?_
      rcases h.additional additional hk with rfl | ⟨declared, patterns, above, hk', entails, hexp⟩
      · exact issues_true
      · -- what the second schema does not cover the first does not cover either
        have unmatched' : ∀ p ∈ namesUnder r "patternProperties",
            options.engine.search (.str p) (.str member.1) = .ok false :=
          fun p hp => unmatched p (patterns hp)
        obtain ⟨uncovered, hu', hiff'⟩ := isAdditional_of_answered
          (fun k hk => (h.objects k hk).1) fun _ p hp => ⟨false, unmatched' p hp⟩
        obtain rfl := hiff'.2 ⟨fun hd => undeclared (declared hd), unmatched'⟩
        simp only [allAdditionalIssues, hk', gather_eq_nil_iff] at hr
        exact entails _ _ (hn.of_mem_fields hm)
          ((issues_of_additional hm hk' hu' hexp).1 (hr member hm))

include ha

theorem requiredIssues_of_upheld
    (hr : requiredIssues options.accessor (.obj tag' value) r path = .ok []) :
    requiredIssues options.accessor (.obj tag' value) b path = .ok [] := by
  have listed := entriesOf_required h.texts
  have those : ∀ names, entriesOf ((get? r "required").getD (.arr none [])) = .ok names →
      names = requiredNames r := by
    intro names hnames
    unfold requiredNames
    cases hk : get? r "required" with
    | none =>
      rw [hk] at hnames
      cases hnames
      rfl
    | some y =>
      rw [hk] at hnames
      simp only [entriesOf, Option.getD_some] at hnames
      cases hy : y.entries? with
      | none => simp [hy] at hnames
      | some items => simpa [hy, eq_comm] using hnames
  obtain ⟨_, hp⟩ := memberTable_eq (h.objects "properties" (by simp)).2
  obtain ⟨_, hp'⟩ := memberTable_eq (h.objects "properties" (by simp)).1
  simp only [requiredIssues, bind_eq_ok, gather_eq_nil_iff] at hr ⊢
  obtain ⟨names, hnames, hr⟩ := hr
  obtain rfl := those names hnames
  refine ⟨_, listed.1, fun n hm => ?_⟩
  obtain ⟨name, rfl⟩ := Schema.isText_iff.1 (listed.2 n (Schema.mem_of_mem_distinct hm))
  obtain ⟨found, hf, schema, -, hfound⟩ := hr _ (h.required _ hm)
  refine ⟨found, hf, _, by rw [hp]; rfl, ?_⟩
  rw [read_direct ha] at hf
  cases hf
  cases hx : get? value name with
  | none => simp [hx, Schema.isAbsent] at hfound
  | some x => simp [isAbsent_some (hn.of_get? hx).here]

theorem propertyIssues_of_upheld {n : String} {v : Json}
    (hm : (n, v) ∈ entriesUnder b "properties")
    (hr : ∀ n w, (n, w) ∈ entriesUnder r "properties" → propertyIssues ⟨options, root⟩ tag' value path
      (inside ⟨options, root⟩ (.obj tag' value)) n w = .ok []) :
    propertyIssues ⟨options, root'⟩ tag' value path
      (inside ⟨options, root'⟩ (.obj tag' value)) n v = .ok [] := by
  obtain ⟨w, hw, entails⟩ := h.tables "properties" (by simp) n v hm
  have valid := hr n w hw
  cases hx : get? value n with
  | none => exact propertyIssues_of_none ((read_direct ha n).trans (congrArg _ hx))
  | some x =>
    have hread : options.accessor.read (.obj tag' value) (.str n) = .ok (some x) :=
      (read_direct ha n).trans (congrArg Except.ok hx)
    have present := (hn.of_get? hx).here
    rw [propertyIssues_of_some hread, isAbsent_some present] at valid ⊢
    exact entails x _ (hn.of_get? hx) valid

theorem dependentSchemaIssues_of_upheld
    (hr : dependentSchemaIssues ⟨options, root⟩ tag' value r path
      (narrower ⟨options, root⟩ (.obj tag' value) r) = .ok []) :
    dependentSchemaIssues ⟨options, root'⟩ tag' value b path
      (narrower ⟨options, root'⟩ (.obj tag' value) b) = .ok [] := by
  have upheld := h.tables "dependentSchemas" (by simp)
  cases hk : get? b "dependentSchemas" with
  | none => exact dependentSchemaIssues_of_none hk
  | some x =>
    have table := membersOf_memberTable (h.objects "dependentSchemas" (by simp)).2
    have hx : membersOf x = .ok (entriesUnder b "dependentSchemas") := by
      simpa [memberTable, hk] using table
    rw [dependentSchemaIssues_of_some hk hx]
    refine gather_eq_nil_iff.2 fun entry hm => ?_
    obtain ⟨trigger, v⟩ := entry
    obtain ⟨w, hw, entails⟩ := upheld trigger v hm
    obtain ⟨_, hk'⟩ := exists_of_mem_memberTable
      (membersOf_memberTable (h.objects "dependentSchemas" (by simp)).1) hw
    rw [dependentSchemaIssues_of_some hk' rfl] at hr
    have valid := gather_eq_nil_iff.1 hr (trigger, w) hw
    simp only [read_direct ha, ok_bind] at valid ⊢
    cases hf : get? value trigger with
    | none => rfl
    | some y =>
      rw [hf] at valid
      exact entails _ _ hn valid

/-- **An object that has no issues under the first schema has none under the second.** -/
theorem objectIssues_of_upheld (he : Elementary (.obj tag b))
    (hr : objectIssues ⟨options, root⟩ tag' value r path (inside ⟨options, root⟩ (.obj tag' value))
      (narrower ⟨options, root⟩ (.obj tag' value) r) = .ok []) :
    objectIssues ⟨options, root'⟩ tag' value b path (inside ⟨options, root'⟩ (.obj tag' value))
      (narrower ⟨options, root'⟩ (.obj tag' value) b) = .ok [] := by
  obtain ⟨properties, valid⟩ := objectIssues_iff.1 hr
  have table := membersOf_memberTable (h.objects "properties" (by simp)).1
  obtain rfl : properties = entriesUnder r "properties" := by
    rw [valid.table] at table
    exact Except.ok.inj table
  refine objectIssues_iff.2 ⟨entriesUnder b "properties", ?_⟩
  constructor
  · exact memberCountIssues_of_kept h.kept valid.size
  · exact requiredIssues_of_upheld h ha hn valid.required
  · have dependent := valid.dependent
    unfold dependentIssues at dependent ⊢
    cases hk : get? b "dependentRequired" with
    | none => simp [memberTable, hk, membersOf, ok_bind, gather]
    | some y => simpa only [memberTable, hk, h.kept _ (by simp) y hk] using dependent
  · exact membersOf_memberTable (h.objects "properties" (by simp)).2
  · exact fun n v hm => propertyIssues_of_upheld h ha hn hm valid.declared
  · exact fun member hm => patternIssues_of_upheld h hn hm (valid.patterned member hm)
  · exact additionalIssues_of_upheld h hn he valid.patterned valid.additional
  · have names := valid.names
    unfold nameIssues at names ⊢
    split
    · rfl
    · next s hk =>
      simp only [h.kept _ (by simp) s hk, gather_eq_nil_iff] at names ⊢
      intro name hm
      exact (issues_eq_of_elementary (he.schema hk rfl)).trans (names name hm)
  · exact dependentSchemaIssues_of_upheld h ha hn valid.schemas

end Objects

/-! ## 3. Schemas with members -/

/-- What a schema says about values of a kind is said by another one. -/
def UpheldFor (options : Options) (root : Json) (E : Json → Json → Prop) (kind : Kind)
    (r b : Fields) : Prop :=
  match kind with
  | .null | .boolean => True
  | .string => Kept Schema.stringKeywords r b
  | .number | .integer => Kept Schema.numberKeywords r b
  | .array => ArrayUpheld E r b
  | .object => ObjectUpheld options root E r b

/-- **What a schema says about any value is said by another one.** -/
structure Upheld (options : Options) (root : Json) (E : Json → Json → Prop) (r b : Fields) : Prop where
  types : Kept ["type"] r b
  values : ∀ y, get? b "enum" = some y → ∃ z, get? r "enum" = some z ∧
    ∀ listed, entriesOf z = .ok listed → ∃ allowed, entriesOf y = .ok allowed ∧ listed ⊆ allowed
  there : ∀ kind, ∀ k ∈ Schema.keywordsOf kind, Fields.has b k = true → Fields.has r k = true
  typed : ∀ kind, UpheldFor options root E kind r b

section Narrowed

variable {E : Json → Json → Prop} {r' b' : Fields}

theorem Kept.congr {keys' : List String} (h : Kept keys r b) (hkeys : ∀ k ∈ keys, k ∈ keys')
    (hr : ∀ k ∈ keys', get? r' k = get? r k) (hb : ∀ k ∈ keys', get? b' k = get? b k) :
    Kept keys r' b' := by
  intro k hk y hy
  rw [hr k (hkeys k hk)]
  exact h k hk y (hb k (hkeys k hk) ▸ hy)

theorem ArrayUpheld.congr (h : ArrayUpheld E r b)
    (hr : ∀ k ∈ Schema.arrayKeywords, get? r' k = get? r k)
    (hb : ∀ k ∈ Schema.arrayKeywords, get? b' k = get? b k) : ArrayUpheld E r' b' where
  kept := h.kept.congr (by decide) hr hb
  least := by
    rw [hb "contains" (by simp [Schema.arrayKeywords]),
      hb "minContains" (by simp [Schema.arrayKeywords]),
      hr "minContains" (by simp [Schema.arrayKeywords])]
    exact h.least
  positions i := by
    rw [itemSchema_congr hb, itemSchema_congr hr]
    exact h.positions i

theorem ObjectUpheld.congr (h : ObjectUpheld options root E r b)
    (hr : ∀ k ∈ Schema.objectKeywords, get? r' k = get? r k)
    (hb : ∀ k ∈ Schema.objectKeywords, get? b' k = get? b k) :
    ObjectUpheld options root E r' b' := by
  have under : ∀ {f f' : Fields}, (∀ k ∈ Schema.objectKeywords, get? f' k = get? f k) →
      ∀ k ∈ tableKeywords, get? f' k = get? f k ∧ entriesUnder f' k = entriesUnder f k := by
    intro f f' hf k hk
    have same := hf k ((by decide : ∀ k ∈ tableKeywords, k ∈ Schema.objectKeywords) k hk)
    exact ⟨same, by simp only [entriesUnder, memberTable, same]⟩
  have properties_r := (under hr "properties" (by simp)).2
  have properties_b := (under hb "properties" (by simp)).2
  have patterns_r := (under hr "patternProperties" (by simp)).2
  have patterns_b := (under hb "patternProperties" (by simp)).2
  constructor
  · exact h.kept.congr (by decide) hr hb
  · rw [hb _ (by simp [Schema.objectKeywords])]
    exact h.texts
  · rw [requiredNames, requiredNames, hb _ (by simp [Schema.objectKeywords]),
      hr _ (by simp [Schema.objectKeywords])]
    exact h.required
  · intro k hk
    rw [(under hr k hk).1, (under hb k hk).1]
    exact h.objects k hk
  · intro k hk
    rw [(under hr k hk).2, (under hb k hk).2]
    exact h.tables k hk
  · simp only [namesUnder, properties_r, properties_b, patterns_b]
    exact h.aside
  · simp only [namesUnder, properties_r, properties_b, patterns_r, patterns_b]
    rw [hb "additionalProperties" (by simp [Schema.objectKeywords]),
      hr "additionalProperties" (by simp [Schema.objectKeywords])]
    exact h.additional

/-- Only the keywords about values of the kind matter. -/
theorem UpheldFor.congr {kind : Kind} (h : UpheldFor options root E kind r b)
    (hr : ∀ k ∈ Schema.keywordsOf kind, get? r' k = get? r k)
    (hb : ∀ k ∈ Schema.keywordsOf kind, get? b' k = get? b k) :
    UpheldFor options root E kind r' b' := by
  cases kind with
  | null | boolean => trivial
  | string | number | integer => exact Kept.congr h (fun _ => id) hr hb
  | array => exact ArrayUpheld.congr h hr hb
  | object => exact ObjectUpheld.congr h hr hb

end Narrowed

/-- The kind of a value that a kind has nothing against. -/
theorem kind_of_kindIssues {setting : Setting} {kind : Kind} {inner : SmallerProbe x}
    {again : NarrowerProbe fields} (h : kindIssues setting kind x fields path inner again = .ok []) :
    kind = Kind.ofValue x ∨ kind = .integer ∧ Kind.ofValue x = .number := by
  cases kind <;> cases x <;>
    simp_all [kindIssues, numberIssues, stringIssues, Kind.fits, Kind.ofValue]

/-- **A value that has no issues by its kind has none by what the second schema says about it.** -/
theorem kindIssues_of_upheld {kind kind' : Kind}
    (h : UpheldFor options root (Entails options root root') kind r b)
    (he : Elementary (.obj tag b)) (ha : options.accessor = .direct) (hn : x.NullFree)
    (hk : kind' = kind ∨ kind' = .integer ∧ kind = .number)
    (hr : kindIssues ⟨options, root⟩ kind' x r path (inside ⟨options, root⟩ x)
      (narrower ⟨options, root⟩ x r) = .ok []) :
    kindIssues ⟨options, root'⟩ kind x b path (inside ⟨options, root'⟩ x)
      (narrower ⟨options, root'⟩ x b) = .ok [] := by
  rcases hk with rfl | ⟨rfl, rfl⟩
  · cases kind' with
    | null | boolean => exact hr
    | string => exact stringIssues_of_kept h hr
    | number | integer =>
      exact congrArg Except.ok (numberIssues_of_kept (fun hi => hi) h (Except.ok.inj hr))
    | array =>
      cases x with
      | arr _ items => exact arrayIssues_of_upheld h he (fun _ hx => hn.of_mem_items hx) hr
      | _ => exact hr
    | object =>
      cases x with
      | obj _ value => exact objectIssues_of_upheld h ha hn he hr
      | _ => exact hr
  · exact congrArg Except.ok (numberIssues_of_kept nofun h (Except.ok.inj hr))

/-- The kind that decides about a value in the second schema decides in the first as well, or a kind of
which its values are. -/
theorem typeIssues_of_upheld {tag' : Tag}
    (h : Upheld options root (Entails options root root') r b)
    (he : Elementary (.obj tag b)) (ha : options.accessor = .direct) (hn : x.NullFree)
    (hr : typeIssues ⟨options, root⟩ x tag' r path (inside ⟨options, root⟩ x)
      (narrower ⟨options, root⟩ x r) = .ok []) :
    typeIssues ⟨options, root'⟩ x tag b path (inside ⟨options, root'⟩ x)
      (narrower ⟨options, root'⟩ x b) = .ok [] := by
  have declared : Schema.declaredTypes (.obj none b) ≠ [] →
      Schema.declaredTypes (.obj none r) = Schema.declaredTypes (.obj none b) := by
    intro hd
    obtain ⟨type, ht⟩ := List.exists_mem_of_ne_nil _ hd
    obtain ⟨t, hk, hb⟩ := Schema.exists_type_of_mem_declaredTypes ht
    rw [hb, Schema.declaredTypes_eq (h.types "type" (by simp) t hk)]
  have valid := typeIssues_iff.1 hr
  refine typeIssues_iff.2 ?_
  cases hd : Schema.declaredTypes (.obj none b) with
  | cons type rest =>
    have hdr := declared (by simp [hd])
    rcases valid with hs | ⟨kind, remaining, hdec, hk⟩
    · rw [hs.1, hd] at hdr
      cases hdr
    · right
      cases hdec with
      | inferred h' =>
        rw [h', hd] at hdr
        cases hdr
      | single h' hkind =>
        refine ⟨kind, b, .single (hdr ▸ h') hkind, ?_⟩
        exact kindIssues_of_upheld (h.typed kind) he ha hn (.inl rfl) hk
      | several h' hkind =>
        refine ⟨kind, _, .several (hdr ▸ h') (hdr ▸ hkind), ?_⟩
        have restricted : Elementary (.obj tag (Schema.restrict b (.str kind.name))) := he.restrict
        have typed : UpheldFor options root (Entails options root root') kind
            (Schema.restrict r (.str kind.name)) (Schema.restrict b (.str kind.name)) :=
          (h.typed kind).congr (fun _ hk => get?_restrict_of_mem hk rfl)
            fun _ hk => get?_restrict_of_mem hk rfl
        exact kindIssues_of_upheld typed restricted ha hn (.inl rfl) hk
  | nil =>
    cases hi : Schema.inferKind b (some x) with
    | none => exact .inl ⟨hd, hi⟩
    | some kind =>
      refine .inr ⟨kind, b, .inferred hd hi, ?_⟩
      -- one of the keywords about values of this kind is there
      have inferred : kind = Kind.ofValue x ∧ (Schema.keywordsOf kind).any (Fields.has r) = true := by
        simp only [Schema.inferKind, Option.ite_none_right_eq_some, Option.some.injEq] at hi
        obtain ⟨hany, rfl⟩ := hi
        obtain ⟨k, hk, hb⟩ := List.any_eq_true.1 hany
        exact ⟨rfl, List.any_eq_true.2 ⟨k, hk, h.there _ k hk hb⟩⟩
      obtain ⟨rfl, hany⟩ := inferred
      rcases valid with hs | ⟨kind', remaining, hdec, hk⟩
      · have hsilent := hs.2
        simp [Schema.inferKind, hany] at hsilent
      · have kinds : kind' = Kind.ofValue x ∨ kind' = .integer ∧ Kind.ofValue x = .number :=
          kind_of_kindIssues hk
        have keywords : Schema.keywordsOf kind' = Schema.keywordsOf (Kind.ofValue x) := by
          rcases kinds with rfl | ⟨rfl, hv⟩
          · rfl
          · rw [hv]
            rfl
        refine kindIssues_of_upheld ?_ he ha hn kinds hk
        cases hdec with
        | inferred | single => exact h.typed _
        | several =>
          exact (h.typed _).congr (fun k hk => get?_restrict_of_mem hk keywords) fun _ _ => rfl

/-- **A schema with members entails another one** whose members are upheld by its own. -/
theorem entails_of_upheld {tag' : Tag} (h : Upheld options root (Entails options root root') r b)
    (he : Elementary (.obj tag b)) (hc : get? b "const" = none) (ha : options.accessor = .direct) :
    Entails options root root' (.obj tag' r) (.obj tag b) := by
  intro x path hn hr
  obtain ⟨hpin, -, -, -, -, -, htype⟩ := issues_obj_iff.1 hr
  rw [issues_of_uncomposed fun k hk => he.lacks (List.mem_cons_of_mem _ hk), bind_eq_ok]
  refine ⟨[], ?_, typeIssues_of_upheld h he ha hn htype⟩
  unfold pinIssues at hpin ⊢
  simp only [hc]
  cases hb : get? b "enum" with
  | none => rfl
  | some y =>
    obtain ⟨z, hz, covered⟩ := h.values y hb
    have enumerated : (do
        let listed ← entriesOf z
        .ok (if listed.any (Json.same x) then [] else [⟨.notEnumerated listed, path⟩]) :
          Check (List Issue)) = .ok [] := by
      simp only [hz] at hpin
      split at hpin
      · split at hpin
        · exact hpin
        · cases hpin
      · exact hpin
    simp only [bind_eq_ok, Except.ok.injEq, ite_eq_left_iff, reduceCtorEq, imp_false,
      not_not] at enumerated
    obtain ⟨listed, hlisted, among⟩ := enumerated
    obtain ⟨allowed, hallowed, hsub⟩ := covered listed hlisted
    have among' : allowed.any (Json.same x) = true :=
      List.any_eq_true.2 ((List.any_eq_true.1 among).imp fun v hv => ⟨hsub hv.1, hv.2⟩)
    simp only [hallowed, ok_bind, among', if_true]

end Parts

end Probe

end Conform
