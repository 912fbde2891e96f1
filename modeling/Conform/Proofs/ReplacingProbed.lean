/-
# Probing where nulls are replaced

A value has the same issues by a schema and by what stands for it with nulls replaced by true
(`mirrors_issues?`), and it meets the same conditions (`mirrors_meets`).  Every function of the probe gets
one lemma: if whatever is inside the value, and whatever is smaller than the schema, is probed alike
(`ProbedAlike`), its answers are the same.  The recursion is closed on the value first, then on the schema.

A null and a true are probed alike wherever the probe is asked about them.  Only additional members are
looked at before: there a null is taken for a reference that leads nowhere, and cannot be read as one.
So the documents that references point into have to agree about where these lead (`LedAlike`).
-/
import Conform.Proofs.Valid
import Conform.Proofs.ReplacingMerged

namespace Conform

open Fields (get? Aligned)
open Schema

/-! ## 1. References -/

namespace Reference

/-- What one node stands for is what the other does, with nulls replaced. -/
inductive NodeReplaced (manner : Manner) (use : Use) : Node → Node → Prop
  | node {x y : Json} (h : Replaced manner use x y) : NodeReplaced manner use (.node x) (.node y)
  | endOfList {items : List Json} : NodeReplaced manner use (.endOfList items) (.endOfList items)

/-- What two references lead to, which may be nothing. -/
inductive FoundReplaced (manner : Manner) (use : Use) : Option Node → Option Node → Prop
  | nothing : FoundReplaced manner use none none
  | found {node node' : Node} (h : NodeReplaced manner use node node') :
      FoundReplaced manner use (some node) (some node')

/-- **References lead to schemas that stand for each other** in two documents, and to null in both if they do
in the first. -/
def LedAlike (manner : Manner) (source : Source) (root root' : Json) : Prop :=
  ∀ ref, manner.referred ref →
    Mirrors manner
      (fun node node' => NodeReplaced manner .resolved node node' ∧ (node = .node .null → node' = .node .null))
      (source.lookup (.str ref) root) (source.lookup (.str ref) root')

variable {manner : Manner} {use : Use} {source : Source} {root root' x y : Json} {node node' : Node}

theorem resolved_loosens (hu : use ≠ .united) : (Use.resolved).Loosens use := by
  cases use with
  | probed => exact .probed
  | resolved => exact .refl
  | united => exact absurd rfl hu

/-- What stands beside a reference is merged into what it leads to, if there is any. -/
theorem mirrors_merged {f g : Fields} (hu : use ≠ .united)
    (siblings : MembersReplaced manner .resolved f g) (hxy : Replaced manner .resolved x y)
    (hn : FoundReplaced manner use (some node) (some node')) :
    Mirrors manner (FoundReplaced manner use)
      (if g.isEmpty then .ok (some node) else do
        let merged ← Schema.merge false x (.obj none f)
        .ok (some (.node merged)))
      (if g.isEmpty then .ok (some node') else do
        let merged ← Schema.merge false y (.obj none g)
        .ok (some (.node merged))) := by
  refine .ite (.answer hn) ?_
  refine (mirrors_merge hxy (replaced_obj siblings)).bind fun z z' hz => ?_
  exact .answer (.found (.node (hz.loosen (resolved_loosens hu))))

/-- A schema with a reference is merged, so what stands beside it is related as if it were resolved. -/
theorem at_eq_resolved {tag : Tag} {f : Fields} {ref : Json} (hu : use ≠ .united)
    (hr : get? f "$ref" = some ref) : use.at "additionalProperties" (.obj tag f) = .resolved := by
  cases use with
  | probed => exact if_pos ⟨rfl, Fields.mem_names_of_mem (Json.mem_of_get? hr)⟩
  | resolved => rfl
  | united => exact absurd rfl hu

/-- **Schemas for additional members stand for the same**, unless a null was replaced. -/
theorem mirrors_expand (led : LedAlike manner source root root') (hu : use ≠ .united)
    (h : Replaced manner (use.at "additionalProperties" x) x y) (ha : Additional manner x y)
    (hn : x = .null → y = .null) :
    Mirrors manner (FoundReplaced manner use) (expand source root x) (expand source root' y) := by
  have itself := h.loosen (use.loosens_at _ x)
  cases h with
  | @leaf _ x =>
    cases x with
    | obj => contradiction
    | null => exact .answer .nothing
    | _ => exact .answer (.found (.node itself))
  | null => exact nomatch hn rfl
  | @node _ tag f g members =>
    have aligned := members.aligned
    have same : get? f "$ref" = get? g "$ref" := aligned.get?_eq rfl (by decide)
    cases hr : get? f "$ref" with
    | none =>
      simp only [expand, ← same, hr]
      exact .answer (.found (.node itself))
    | some ref =>
      obtain ⟨s, rfl, hs⟩ := ha.referring ref (Json.mem_of_get? hr)
      rw [at_eq_resolved hu hr] at aligned
      have siblings : MembersReplaced manner .resolved (Fields.erase f "$ref") (Fields.erase g "$ref") :=
        Aligned.erase aligned _
      simp only [expand, ← same, hr, siblings.isEmpty_eq]
      refine (led s hs).bind fun target target' ht => ?_
      obtain ⟨related, hnull⟩ := ht
      cases related with
      | endOfList => exact mirrors_merged hu siblings (.node .nil) (.found .endOfList)
      | @node u v huv =>
        have beside := mirrors_merged hu siblings huv (.found (.node (huv.loosen (resolved_loosens hu))))
        cases huv with
        | @leaf _ u =>
          cases u with
          | obj => contradiction
          | null => exact .answer .nothing
          | _ => exact beside
        | null => exact nomatch hnull rfl
        | node => exact beside

end Reference

namespace Probe

/-! ## 2. Walks -/

section Walks

variable {manner : Manner} {α β : Type} {R : α → β → Prop} {xs : List α} {ys : List β}

theorem mirrors_gather (h : List.Forall₂ R xs ys) {f : (x : α) → x ∈ xs → Check (List Issue)}
    {g : (y : β) → y ∈ ys → Check (List Issue)}
    (hfg : ∀ x y hx hy, R x y → Mirrors manner Eq (f x hx) (g y hy)) :
    Mirrors manner Eq (gather xs f) (gather ys g) := by
  induction h with
  | nil => exact .answer rfl
  | cons first _ ih =>
    refine (hfg _ _ _ _ first).then_ fun here => ?_
    exact (ih fun x y hx hy => hfg x y _ _).then_ fun later => .answer rfl

theorem mirrors_gatherFrom {i : Nat} {f : Nat → (x : α) → x ∈ xs → Check (List Issue)}
    {g : Nat → (x : α) → x ∈ xs → Check (List Issue)}
    (hfg : ∀ i x hx, Mirrors manner Eq (f i x hx) (g i x hx)) :
    Mirrors manner Eq (gatherFrom i xs f) (gatherFrom i xs g) := by
  induction xs generalizing i with
  | nil => exact .answer rfl
  | cons x xs ih =>
    refine (hfg _ _ _).then_ fun here => ?_
    exact (ih fun i x hx => hfg i x _).then_ fun later => .answer rfl

theorem mirrors_exists? (h : List.Forall₂ R xs ys) {f : (x : α) → x ∈ xs → Check Bool}
    {g : (y : β) → y ∈ ys → Check Bool}
    (hfg : ∀ x y hx hy, R x y → Mirrors manner Eq (f x hx) (g y hy)) :
    Mirrors manner Eq (exists? xs f) (exists? ys g) := by
  induction h with
  | nil => exact .answer rfl
  | cons first _ ih =>
    refine (hfg _ _ _ _ first).then_ fun found => .ite (.answer rfl) ?_
    exact ih fun x y hx hy => hfg x y _ _

theorem mirrors_forall? (h : List.Forall₂ R xs ys) {f : (x : α) → x ∈ xs → Check Bool}
    {g : (y : β) → y ∈ ys → Check Bool}
    (hfg : ∀ x y hx hy, R x y → Mirrors manner Eq (f x hx) (g y hy)) :
    Mirrors manner Eq (forall? xs f) (forall? ys g) := by
  induction h with
  | nil => exact .answer rfl
  | cons first _ ih =>
    refine (hfg _ _ _ _ first).then_ fun holds => .ite ?_ (.answer rfl)
    exact ih fun x y hx hy => hfg x y _ _

theorem mirrors_count (h : List.Forall₂ R xs ys) {f : (x : α) → x ∈ xs → Check Bool}
    {g : (y : β) → y ∈ ys → Check Bool}
    (hfg : ∀ x y hx hy, R x y → Mirrors manner Eq (f x hx) (g y hy)) :
    Mirrors manner Eq (count xs f) (count ys g) := by
  induction h with
  | nil => exact .answer rfl
  | cons first _ ih =>
    refine (hfg _ _ _ _ first).then_ fun here => ?_
    exact (ih fun x y hx hy => hfg x y _ _).then_ fun later => .answer rfl

theorem mirrors_countFrom {i : Nat} {f g : Nat → (x : α) → x ∈ xs → Check Bool}
    (hfg : ∀ i x hx, Mirrors manner Eq (f i x hx) (g i x hx)) :
    Mirrors manner Eq (countFrom i xs f) (countFrom i xs g) := by
  induction xs generalizing i with
  | nil => exact .answer rfl
  | cons x xs ih =>
    refine (hfg _ _ _).then_ fun here => ?_
    exact (ih fun i x hx => hfg i x _).then_ fun later => .answer rfl

theorem mirrors_valid {x y : Check (List Issue)} (h : Mirrors manner Eq x y) :
    Mirrors manner Eq (valid x) (valid y) := by
  cases h with
  | fault => exact .fault
  | answer h => exact .answer (congrArg _ h)
  | unreadable ha => exact .unreadable ha

end Walks

/-- What asks for nothing has no issues. -/
theorem issues_of_isTrivial {setting : Setting} {value : Json} (path : Path) (s : Json)
    (hs : isTrivial s = true) : issues setting value s path = .ok [] := by
  cases s with
  | null => exact issues_null
  | bool b =>
    cases b with
    | true => exact issues_true
    | false => cases hs
  | _ => cases hs

section Thin

variable {probe : Json → Check (List Issue)} (silent : ∀ x, isTrivial x = true → probe x = .ok [])

include silent

/-- What asks for nothing has no issues to gather. -/
theorem gather_filter (xs : List Json) :
    gather (xs.filter (!isTrivial ·)) (fun x _ => probe x) = gather xs fun x _ => probe x := by
  induction xs with
  | nil => rfl
  | cons x xs ih =>
    by_cases hx : isTrivial x = true
    · rw [List.filter_cons_of_neg (by simp [hx]), ih, gather, silent x hx, ok_bind]
      cases gather xs fun x _ => probe x <;> rfl
    · rw [List.filter_cons_of_pos (by simpa using hx), gather, gather, ih]

theorem gather_thin (xs : List Json) :
    gather (thin xs) (fun x _ => probe x) = gather xs fun x _ => probe x := by
  induction xs with
  | nil => rfl
  | cons x xs ih =>
    by_cases hx : isTrivial x = true
    · rw [thin_cons_of_trivial hx, gather, gather, gather_filter silent]
    · rw [thin_cons (Bool.eq_false_iff.2 hx), gather, gather, ih]

/-- Nothing is looked for behind what asks for nothing. -/
theorem exists?_thin (xs : List Json) :
    exists? (thin xs) (fun x _ => valid (probe x)) = exists? xs fun x _ => valid (probe x) := by
  induction xs with
  | nil => rfl
  | cons x xs ih =>
    by_cases hx : isTrivial x = true
    · rw [thin_cons_of_trivial hx]
      simp only [exists?, silent x hx, valid, Except.map, ok_bind, List.isEmpty_nil, if_true]
    · rw [thin_cons (Bool.eq_false_iff.2 hx), exists?, exists?, ih]

end Thin

/-! ## 3. Keywords that hold no schemas -/

section Plain

variable {manner : Manner} {use : Use} {f g : Fields} {path : Path}
  (h : MembersReplaced manner use f g)

include h

theorem limitIssue_eq {k : String} (hk : (Shape.ofKeyword k).place = .nowhere) (hr : k ≠ "required")
    (missed : Json → Check Bool) (reason : Json → Reason) :
    limitIssue f k missed reason path = limitIssue g k missed reason path := by
  rw [limitIssue, limitIssue, h.get?_eq hk hr]

theorem stringIssues_eq (segmenter : Segmenter) (engine : Pattern.Engine) (value : Json) :
    stringIssues segmenter engine value f path = stringIssues segmenter engine value g path := by
  simp only [stringIssues, lengthIssues, formatIssues, h.has_eq,
    limitIssue_eq h (k := "minLength") rfl (by decide),
    limitIssue_eq h (k := "maxLength") rfl (by decide),
    limitIssue_eq h (k := "pattern") rfl (by decide), h.get?_eq (k := "format") rfl (by decide)]

theorem numberIssues_eq (kind : Kind) (value : Json) :
    numberIssues kind value f path = numberIssues kind value g path := by
  simp only [numberIssues, h.get?_eq (k := "minimum") rfl (by decide),
    h.get?_eq (k := "exclusiveMinimum") rfl (by decide), h.get?_eq (k := "maximum") rfl (by decide),
    h.get?_eq (k := "exclusiveMaximum") rfl (by decide), h.get?_eq (k := "multipleOf") rfl (by decide)]

theorem memberCountIssues_eq (n : Nat) : memberCountIssues n f path = memberCountIssues n g path := by
  simp only [memberCountIssues, limitIssue_eq h (k := "minProperties") rfl (by decide),
    limitIssue_eq h (k := "maxProperties") rfl (by decide)]

theorem pinIssues_eq (value : Json) : pinIssues value f path = pinIssues value g path := by
  simp only [pinIssues, h.get?_eq (k := "enum") rfl (by decide),
    h.get?_eq (k := "const") rfl (by decide)]

theorem dependentIssues_eq (accessor : Accessor) (value : Json) :
    dependentIssues accessor value f path = dependentIssues accessor value g path := by
  simp only [dependentIssues, memberTable, h.get?_eq (k := "dependentRequired") rfl (by decide)]

/-- Schemas by name or by pattern, where there need be none. -/
theorem memberTable_replaced {k : String} (hk : (Shape.ofKeyword k).place = .table) :
    ∃ tag f' g', memberTable f k = .obj tag f' ∧ memberTable g k = .obj tag g' ∧
      Aligned (fun _ => Replaced manner (use.below k)) f' g' := by
  rcases h.table hk with ⟨hf, hg⟩ | ⟨tag, f', g', hf, hg, table⟩
  · exact ⟨none, [], [], by rw [memberTable, hf]; rfl, by rw [memberTable, hg]; rfl, .nil⟩
  · exact ⟨tag, f', g', by rw [memberTable, hf]; rfl, by rw [memberTable, hg]; rfl, table⟩

/-- Names and patterns cover the same. -/
theorem isAdditional_eq (engine : Pattern.Engine) (name : String) :
    isAdditional engine name f = isAdditional engine name g := by
  obtain ⟨tag, p, q, hp, hq, properties⟩ := memberTable_replaced h (k := "properties") rfl
  obtain ⟨tag', p', q', hp', hq', patterns⟩ := memberTable_replaced h (k := "patternProperties") rfl
  have same : p'.map (fun field => Json.str field.1) = q'.map fun field => .str field.1 := by
    simpa [Fields.names, Function.comp_def] using congrArg (List.map Json.str) patterns.names_eq
  simp only [isAdditional, hp, hq, hp', hq', isNamedIn, properties.has_eq, entriesOf, Json.entries?, same]

omit h in
/-- The schemas of a property. -/
theorem mirrors_propertySchema {tag tag' : Tag} {p q : Fields} (h : Aligned (fun _ => Replaced manner use) p q)
    (name : Json) :
    Mirrors manner (Replaced manner use) (propertySchema (.obj tag p) name)
      (propertySchema (.obj tag' q) name) := by
  have missing : Replaced manner use .null .null := .leaf rfl
  cases name with
  | str s =>
    rcases h.get? s with ⟨hn, hn'⟩ | ⟨x, y, hx, hy, hxy⟩
    · simp only [propertySchema, hn, hn']
      exact .answer missing
    · simp only [propertySchema, hx, hy]
      exact .answer hxy
  | _ =>
    simp only [propertySchema]
    exact .ite .fault (.answer missing)

theorem mirrors_requiredIssues (accessor : Accessor) (value : Json) :
    Mirrors manner Eq (requiredIssues accessor value f path) (requiredIssues accessor value g path) := by
  obtain ⟨tag, p, q, hp, hq, properties⟩ := memberTable_replaced h (k := "properties") rfl
  have each : ∀ {names names' : List Json}, names = names' → Mirrors manner Eq
      (gather names fun name _ => do
        let found ← accessor.read value name
        let schema ← propertySchema (.obj tag p) name
        .ok (if isAbsent found schema then [missingIssue name path] else []))
      (gather names' fun name _ => do
        let found ← accessor.read value name
        let schema ← propertySchema (.obj tag q) name
        .ok (if isAbsent found schema then [missingIssue name path] else [])) := by
    rintro names _ rfl
    refine mirrors_gather (R := Eq) (List.forall₂_refl names) fun name _ _ _ he => ?_
    subst he
    refine .after _ fun found => (mirrors_propertySchema properties name).bind fun s t hst => .answer ?_
    rw [hst.isAbsent_eq]
  simp only [requiredIssues, hp, hq]
  rcases h.required with ⟨hn, hn'⟩ | ⟨tag, xs, tag', ys, hx, hy, names⟩
  · rw [hn, hn']
    exact .after _ fun names => each rfl
  · simp only [hx, hy, Option.getD_some, entriesOf, Json.entries?, ok_bind]
    exact each names

end Plain

/-- The reference that leads nowhere is the same. -/
theorem deadReference_eq {manner : Manner} {use : Use} {s t : Json} (h : Replaced manner use s t)
    (hn : s = .null → t = .null) : deadReference s = deadReference t := by
  cases h with
  | leaf => rfl
  | null => exact nomatch hn rfl
  | node hfg => simp only [deadReference, hfg.aligned.get?_eq (k := "$ref") rfl (by decide)]

/-! ## 4. Lists and objects -/

/-- **A value is probed alike** by a schema and by what stands for it. -/
def ProbedAlike (manner : Manner) (options : Options) (root root' value s : Json) : Prop :=
  ∀ t path, Replaced manner .probed s t →
    Mirrors manner Eq (issues ⟨options, root⟩ value s path) (issues ⟨options, root'⟩ value t path)

section Values

variable {manner : Manner} {options : Options} {root root' : Json} {f g : Fields} {path : Path}
  (h : MembersReplaced manner .probed f g)

include h

/-- **The keywords about a list as a whole.** -/
theorem mirrors_listIssues (path : Path) (items : List Json)
    (hi : ∀ x ∈ items, ∀ s, ProbedAlike manner options root root' x s) :
    Mirrors manner Eq
      (listIssues items f path fun x _ s place => issues ⟨options, root⟩ x s place)
      (listIssues items g path fun x _ s place => issues ⟨options, root'⟩ x s place) := by
  have contained : Mirrors manner Eq
      (containsIssues items f path fun x _ s place => issues ⟨options, root⟩ x s place)
      (containsIssues items g path fun x _ s place => issues ⟨options, root'⟩ x s place) := by
    rcases h.schema (k := "contains") rfl with ⟨hf, hg⟩ | ⟨s, t, hf, hg, hst⟩
    · simp only [containsIssues, hf, hg]
      exact .answer rfl
    · simp only [containsIssues, hf, hg, h.get?_eq (k := "minContains") rfl (by decide),
        limitIssue_eq h (k := "maxContains") rfl (by decide)]
      refine (mirrors_countFrom fun i x hx => mirrors_valid (hi x hx s t _ hst)).then_ fun found => ?_
      exact .same _
  simp only [listIssues, limitIssue_eq h (k := "minItems") rfl (by decide),
    limitIssue_eq h (k := "maxItems") rfl (by decide), h.get?_eq (k := "uniqueItems") rfl (by decide)]
  exact .after _ fun few => .after _ fun many => contained.then_ fun contained => .answer rfl

theorem mirrors_arrayIssues {items : List Json}
    (hi : ∀ x ∈ items, ∀ s, ProbedAlike manner options root root' x s) :
    Mirrors manner Eq
      (arrayIssues items f path fun x _ s place => issues ⟨options, root⟩ x s place)
      (arrayIssues items g path fun x _ s place => issues ⟨options, root'⟩ x s place) := by
  refine (mirrors_listIssues h path items hi).then_ fun whole => ?_
  refine (mirrors_gatherFrom fun i x hx => ?_).then_ fun each => .answer rfl
  rcases h.itemSchema i with ⟨hf, hg⟩ | ⟨s, t, hf, hg, hst⟩
  · simp only [itemIssues, hf, hg]
    exact .answer rfl
  · simp only [itemIssues, hf, hg]
    have probed := hi x hx s t (itemPath path i) hst
    cases hst with
    | null =>
      simp only [issues_null]
      exact .answer rfl
    | node => exact probed
    | @leaf _ s =>
      split
      · exact .answer rfl
      · exact .answer rfl
      · exact .answer rfl
      · next he =>
        cases he
        exact probed

/-! ### Objects -/

section Objects

variable {tag : Tag} {members : Fields}
  (led : Reference.LedAlike manner options.source root root')
  (hi : ∀ x s, x.size < (Json.obj tag members).size → ProbedAlike manner options root root' x s)

include hi

omit h in
theorem mirrors_propertyIssues (name : String) {s t : Json} (hst : Replaced manner .probed s t) :
    Mirrors manner Eq
      (propertyIssues ⟨options, root⟩ tag members path (inside ⟨options, root⟩ _) name s)
      (propertyIssues ⟨options, root'⟩ tag members path (inside ⟨options, root'⟩ _) name t) := by
  cases hx : options.accessor.read (.obj tag members) (.str name) with
  | error fault =>
    rw [propertyIssues_of_error hx, propertyIssues_of_error hx]
    exact .fault
  | ok found =>
    cases found with
    | none =>
      rw [propertyIssues_of_none hx, propertyIssues_of_none hx]
      exact .answer rfl
    | some x =>
      rw [propertyIssues_of_some hx, propertyIssues_of_some hx, hst.isAbsent_eq]
      exact .ite (.answer rfl) (hi x s (Accessor.size_lt_of_read hx) t _ hst)

theorem mirrors_patternIssues {properties properties' : Fields}
    (covered : Fields.has properties = Fields.has properties') (member : String × Json)
    (hm : member ∈ members) :
    Mirrors manner Eq
      (patternIssues ⟨options, root⟩ tag members f path (inside ⟨options, root⟩ _) properties member hm)
      (patternIssues ⟨options, root'⟩ tag members g path (inside ⟨options, root'⟩ _) properties' member
        hm) := by
  obtain ⟨tag', p, q, hp, hq, patterns⟩ := memberTable_replaced h (k := "patternProperties") rfl
  simp only [patternIssues, covered, hp, hq, membersOf, ok_bind]
  refine .ite (.answer rfl) (mirrors_gather patterns.forall₂ fun a b _ _ hab => ?_)
  obtain ⟨hname, hst⟩ := hab
  rw [hname]
  refine .after _ fun fits => .ite ?_ (.answer rfl)
  exact hi _ _ (Json.size_lt_of_mem_fields tag hm) _ _ hst

include led

theorem mirrors_allAdditionalIssues :
    Mirrors manner Eq
      (allAdditionalIssues ⟨options, root⟩ tag members f path (inside ⟨options, root⟩ _))
      (allAdditionalIssues ⟨options, root'⟩ tag members g path (inside ⟨options, root'⟩ _)) := by
  rcases h.additional with ⟨hf, hg⟩ | ⟨s, t, hf, hg, hst, ha⟩
  · simp only [allAdditionalIssues, hf, hg]
    exact .answer rfl
  simp only [allAdditionalIssues, hf, hg]
  refine mirrors_gather (R := Eq) (List.forall₂_refl members) fun member _ hm _ he => ?_
  subst he
  simp only [additionalIssues, isAdditional_eq h, hst.isFalse_eq]
  refine .after _ fun uncovered => .ite (.answer rfl) (.ite (.answer rfl) ?_)
  by_cases hn : s = .null → t = .null
  · have followed : Use.probed ≠ .united := Use.noConfusion
    refine (Reference.mirrors_expand led followed hst ha hn).bind fun found found' hfound => ?_
    cases hfound with
    | nothing =>
      rw [deadReference_eq hst hn]
      exact .same _
    | found hnode =>
      cases hnode with
      | node hxy => exact hi _ _ (Json.size_lt_of_mem_fields tag hm) _ _ hxy
      | endOfList => exact .fault
  · -- a null was replaced: it is taken for a reference, and cannot be read as one
    obtain ⟨rfl, ht⟩ := Classical.not_imp.1 hn
    exact .unreadable ((ha.replaced rfl).resolve_left ht)

omit hi led in
theorem mirrors_nameIssues {names : List Json}
    (hi : ∀ x ∈ names, ∀ s, ProbedAlike manner options root root' x s) :
    Mirrors manner Eq
      (nameIssues names f path fun x _ s place => issues ⟨options, root⟩ x s place)
      (nameIssues names g path fun x _ s place => issues ⟨options, root'⟩ x s place) := by
  rcases h.schema (k := "propertyNames") rfl with ⟨hf, hg⟩ | ⟨s, t, hf, hg, hst⟩
  · simp only [nameIssues, hf, hg]
    exact .answer rfl
  · simp only [nameIssues, hf, hg]
    refine mirrors_gather (R := Eq) (List.forall₂_refl names) fun name _ hm _ he => ?_
    subst he
    exact hi name hm s t _ hst

variable (hn : ∀ s, s.size < Json.sizeFields f →
  ProbedAlike manner options root root' (.obj tag members) s)

include hn

omit hi led in
theorem mirrors_dependentSchemaIssues :
    Mirrors manner Eq
      (dependentSchemaIssues ⟨options, root⟩ tag members f path
        (narrower ⟨options, root⟩ (.obj tag members) f))
      (dependentSchemaIssues ⟨options, root'⟩ tag members g path
        (narrower ⟨options, root'⟩ (.obj tag members) g)) := by
  rcases h.table (k := "dependentSchemas") rfl with ⟨hf, hg⟩ | ⟨tag', p, q, hf, hg, schemas⟩
  · rw [dependentSchemaIssues_of_none hf, dependentSchemaIssues_of_none hg]
    exact .answer rfl
  · rw [dependentSchemaIssues_of_some hf rfl, dependentSchemaIssues_of_some hg rfl]
    refine mirrors_gather schemas.forall₂ fun a b ha _ hab => ?_
    obtain ⟨hname, hst⟩ := hab
    simp only [hname]
    refine .after _ fun trigger => ?_
    cases trigger with
    | none => exact .answer rfl
    | some _ =>
      have smaller := Nat.lt_trans (Json.size_lt_of_mem_fields tag' ha)
        (Json.size_lt_sizeFields_of_get? hf)
      exact hn _ smaller _ _ hst

/-- **The keywords about objects.** -/
theorem mirrors_objectIssues :
    Mirrors manner Eq
      (objectIssues ⟨options, root⟩ tag members f path (inside ⟨options, root⟩ _)
        (narrower ⟨options, root⟩ (.obj tag members) f))
      (objectIssues ⟨options, root'⟩ tag members g path (inside ⟨options, root'⟩ _)
        (narrower ⟨options, root'⟩ (.obj tag members) g)) := by
  obtain ⟨tag', p, q, hp, hq, properties⟩ := memberTable_replaced h (k := "properties") rfl
  have covered : Fields.has p = Fields.has q := funext fun k => properties.has_eq k
  simp only [objectIssues, memberCountIssues_eq h, dependentIssues_eq h, hp, hq, membersOf, ok_bind]
  refine .after _ fun size => (mirrors_requiredIssues h _ _).then_ fun required => ?_
  refine .after _ fun dependent => ?_
  have declared : Mirrors manner Eq
      (gather p fun x _ => propertyIssues ⟨options, root⟩ tag members path
        (inside ⟨options, root⟩ _) x.1 x.2)
      (gather q fun x _ => propertyIssues ⟨options, root'⟩ tag members path
        (inside ⟨options, root'⟩ _) x.1 x.2) := by
    refine mirrors_gather properties.forall₂ fun a b _ _ hab => ?_
    obtain ⟨hname, hst⟩ := hab
    rw [hname]
    exact mirrors_propertyIssues hi _ hst
  refine declared.then_ fun declared => ?_
  refine Mirrors.then_ (mirrors_gather (R := Eq) (List.forall₂_refl members) fun member _ hm _ he => ?_)
    fun patterned => ?_
  · subst he
    exact mirrors_patternIssues h hi covered member hm
  refine (mirrors_allAdditionalIssues h led hi).then_ fun additional => ?_
  refine (mirrors_nameIssues h fun x hx s => hi x s (size_lt_of_mem_nameValues tag hx)).then_ ?_
  intro names
  exact (mirrors_dependentSchemaIssues h hn).then_ fun schemas => .answer rfl

end Objects

/-! ## 5. Types -/

section Types

variable {value : Json} {tag : Tag} (led : Reference.LedAlike manner options.source root root')
  (hi : ∀ x s, x.size < value.size → ProbedAlike manner options root root' x s)
  (hn : ∀ s, s.size < Json.sizeFields f → ProbedAlike manner options root root' value s)

include led hi hn

theorem mirrors_kindIssues (kind : Kind) :
    Mirrors manner Eq
      (kindIssues ⟨options, root⟩ kind value f path (inside ⟨options, root⟩ value)
        (narrower ⟨options, root⟩ value f))
      (kindIssues ⟨options, root'⟩ kind value g path (inside ⟨options, root'⟩ value)
        (narrower ⟨options, root'⟩ value g)) := by
  cases kind with
  | null => exact .same _
  | boolean => exact .same _
  | number =>
    simp only [kindIssues, numberIssues_eq h]
    exact .answer rfl
  | integer =>
    simp only [kindIssues, numberIssues_eq h]
    exact .answer rfl
  | string =>
    simp only [kindIssues, stringIssues_eq h]
    exact .same _
  | array =>
    cases value with
    | arr tag items => exact mirrors_arrayIssues h fun x hx s => hi x s (Json.size_lt_of_mem_items tag hx)
    | _ => exact .answer rfl
  | object =>
    cases value with
    | obj tag members => exact mirrors_objectIssues h led hi hn
    | _ => exact .answer rfl

theorem mirrors_typeIssues :
    Mirrors manner Eq
      (typeIssues ⟨options, root⟩ value tag f path (inside ⟨options, root⟩ value)
        (narrower ⟨options, root⟩ value f))
      (typeIssues ⟨options, root'⟩ value tag g path (inside ⟨options, root'⟩ value)
        (narrower ⟨options, root'⟩ value g)) := by
  have types := h.declaredTypes_eq tag tag
  cases ht : declaredTypes (.obj tag f) with
  | nil =>
    rw [typeIssues_of_nil ht, typeIssues_of_nil (types ▸ ht), h.inferKind_eq]
    split
    · exact .answer rfl
    · exact mirrors_kindIssues h led hi hn _
  | cons a rest =>
    cases rest with
    | nil =>
      rw [typeIssues_of_single ht, typeIssues_of_single (types ▸ ht)]
      cases a with
      | str s =>
        dsimp only
        split
        · exact mirrors_kindIssues h led hi hn _
        · exact .answer rfl
      | _ => exact .answer rfl
    | cons b rest =>
      obtain ⟨hs, hx⟩ := typeIssues_of_several ht
      obtain ⟨_, hy⟩ := typeIssues_of_several (types ▸ ht)
      rw [hx, hy, types]
      split
      · exact .same _
      · next kind _ =>
        refine mirrors_kindIssues (h.restrict (.str kind.name)) led hi ?_ kind
        exact fun s hlt => hn s (Nat.lt_of_lt_of_le hlt (hs kind))

end Types

end Values

/-! ## 6. Conditions -/

section Conditions

variable {manner : Manner} {options : Options} {root root' value s t : Json} {path : Path}

theorem withinBounds_eq_of_replaced (h : Replaced manner .probed s t) (x : Json) :
    withinBounds x s = withinBounds x t := by
  cases h with
  | leaf | null => rfl
  | node hfg =>
    simp only [withinBounds, hfg.aligned.get?_eq (k := "minimum") rfl (by decide),
      hfg.aligned.get?_eq (k := "maximum") rfl (by decide)]

theorem mirrors_propertyHolds {tag : Tag} {members : Fields}
    (hi : ∀ x s, x.size < (Json.obj tag members).size → ProbedAlike manner options root root' x s)
    (h : Replaced manner .probed s t) (name : String) :
    Mirrors manner Eq
      (propertyHolds options.accessor tag members path (inside ⟨options, root⟩ _) name s)
      (propertyHolds options.accessor tag members path (inside ⟨options, root'⟩ _) name t) := by
  unfold propertyHolds
  split
  · exact .fault
  · exact .answer rfl
  · next x hx =>
    rw [withinBounds_eq_of_replaced h]
    refine .after _ fun within => .ite (.answer rfl) (mirrors_valid ?_)
    exact hi x s (Accessor.size_lt_of_read hx) t _ h

/-- **A value meets a condition and what stands for it alike**, if whatever is smaller is probed alike. -/
theorem mirrors_meets_of (hi : ∀ x s, x.size < value.size → ProbedAlike manner options root root' x s)
    (hn : ∀ s', s'.size ≤ s.size → ProbedAlike manner options root root' value s')
    (h : Replaced manner .probed s t) :
    Mirrors manner Eq (meets ⟨options, root⟩ (some value) s path)
      (meets ⟨options, root'⟩ (some value) t path) := by
  have whole := mirrors_valid (hn s (Nat.le_refl _) t path h)
  cases h with
  | @leaf _ s =>
    cases s with
    | obj => contradiction
    | _ => exact whole
  | null => exact whole
  | @node _ tag f g members =>
    simp only [meets, conditionHolds]
    rcases members.aligned.table (k := "properties") rfl with
      ⟨hf, hg⟩ | ⟨tag', p, q, hf, hg, properties⟩
    · simp only [hf, hg]
      exact whole
    · simp only [hf, hg]
      cases value with
      | obj tag'' value =>
        have held := mirrors_forall? properties.forall₂
          (f := fun a _ => propertyHolds options.accessor tag'' value path (inside ⟨options, root⟩ _) a.1 a.2)
          (g := fun b _ => propertyHolds options.accessor tag'' value path (inside ⟨options, root'⟩ _) b.1 b.2)
          fun a b _ _ hab => by
            rw [hab.1]
            exact mirrors_propertyHolds hi hab.2 _
        refine held.then_ fun held => .ite (.answer rfl) ?_
        have rest := Aligned.erase members.aligned "properties"
        rw [rest.isEmpty_eq]
        refine .ite (.answer rfl) (mirrors_valid (hn _ ?_ _ _ (replaced_obj rest)))
        simp only [Json.size]
        exact Nat.add_le_add_left (Json.sizeFields_filter_le (fun field => field.1 != "properties") f) 2
      | _ => exact .answer rfl

end Conditions

/-! ## 7. Keywords about any value -/

section Opened

variable {setting : Setting} {value : Json} {fields : Fields} {path : Path}

/-! Each of these keywords, with the probe as it is for whatever it asks about. -/

theorem conditionalIssues_eq :
    conditionalIssues setting value fields path (inside setting value) (narrower setting value fields) =
      (match get? fields "if" with
      | none => .ok []
      | some condition => do
        let met ← meets setting (some value) condition path
        match get? fields (if met then "then" else "else") with
        | none => .ok []
        | some branch => issues setting value branch path) := by
  unfold conditionalIssues
  split
  · next h => rw [h]
  · next condition h =>
    conv_rhs => rw [h]
    refine bind_congr fun met => ?_
    split
    · next h' => rw [h']
    · next h' =>
      rw [h']
      exact issues_null.symm
    · next h' => conv_rhs => rw [h']

theorem allOfIssues_eq :
    allOfIssues fields path (narrower setting value fields) =
      (match get? fields "allOf" with
      | none => .ok []
      | some x => do
        let members ← entriesOf x
        gather members fun s _ => issues setting value s path) := by
  rcases branches_cases fields "allOf" with ⟨hk, hb⟩ | ⟨x, hk, ⟨_, he, hb⟩ | ⟨xs, h, he, hb⟩⟩
  · simp only [allOfIssues, hb, hk, ok_bind]
  · simp only [allOfIssues, hb, hk, he, error_bind]
  · simp only [allOfIssues, hb, hk, he, ok_bind]

theorem anyOfIssues_eq :
    anyOfIssues fields path (narrower setting value fields) =
      (match get? fields "anyOf" with
      | none => .ok []
      | some x => do
        let branches ← entriesOf x
        let found ← exists? branches fun s _ => valid (issues setting value s path)
        .ok (if found then [] else [⟨.noneOfAny, path⟩])) := by
  rcases branches_cases fields "anyOf" with ⟨hk, hb⟩ | ⟨x, hk, ⟨_, he, hb⟩ | ⟨xs, h, he, hb⟩⟩
  · simp only [anyOfIssues, hb, hk, ok_bind]
  · simp only [anyOfIssues, hb, hk, he, error_bind]
  · simp only [anyOfIssues, hb, hk, he, ok_bind]

theorem oneOfIssues_eq :
    oneOfIssues fields path (narrower setting value fields) =
      (match get? fields "oneOf" with
      | none => .ok []
      | some x => do
        let branches ← entriesOf x
        let passing ← count branches fun s _ => valid (issues setting value s path)
        .ok (if passing = 1 then [] else [⟨.notExactlyOne, path⟩])) := by
  rcases branches_cases fields "oneOf" with ⟨hk, hb⟩ | ⟨x, hk, ⟨_, he, hb⟩ | ⟨xs, h, he, hb⟩⟩
  · simp only [oneOfIssues, hb, hk, ok_bind]
  · simp only [oneOfIssues, hb, hk, he, error_bind]
  · simp only [oneOfIssues, hb, hk, he, ok_bind]

theorem notIssues_eq :
    notIssues fields path (narrower setting value fields) =
      (match get? fields "not" with
      | none => .ok []
      | some negated => do
        let admitted ← valid (issues setting value negated path)
        .ok (if admitted then [⟨.excluded, path⟩] else [])) := by
  unfold notIssues
  split
  · next h => rw [h]
  · next h => conv_rhs => rw [h]

end Opened

section Keywords

variable {manner : Manner} {options : Options} {root root' value : Json} {f g : Fields} {path : Path}
  (h : MembersReplaced manner .probed f g)
  (hn : ∀ s, s.size < Json.sizeFields f → ProbedAlike manner options root root' value s)

include h hn

omit h in
/-- What a keyword holds in a list is smaller than the schema. -/
theorem ProbedAlike.of_listed {k : String} {tag : Tag} {xs : List Json} {s t : Json}
    (hk : get? f k = some (.arr tag xs)) (hs : s ∈ xs) (hst : Replaced manner .probed s t) :
    Mirrors manner Eq (issues ⟨options, root⟩ value s path) (issues ⟨options, root'⟩ value t path) :=
  hn s (Nat.lt_trans (Json.size_lt_of_mem_items tag hs) (Json.size_lt_sizeFields_of_get? hk)) t path hst

theorem mirrors_allOfIssues : Mirrors manner Eq
    (allOfIssues f path (narrower ⟨options, root⟩ value f))
    (allOfIssues g path (narrower ⟨options, root'⟩ value g)) := by
  rw [allOfIssues_eq, allOfIssues_eq]
  rcases h.composed (k := "allOf") (by simp) with ⟨hf, hg⟩ | ⟨tag, xs, ys, hf, hg, members⟩
  · rw [hf, hg]
    exact .answer rfl
  · simp only [hf, hg, entriesOf, Json.entries?, ok_bind]
    rw [← gather_thin (issues_of_isTrivial path) xs, ← gather_thin (issues_of_isTrivial path) ys]
    exact mirrors_gather members fun s t hs _ hst =>
      ProbedAlike.of_listed hn hf ((thin_sublist xs).subset hs) hst.2

theorem mirrors_anyOfIssues : Mirrors manner Eq
    (anyOfIssues f path (narrower ⟨options, root⟩ value f))
    (anyOfIssues g path (narrower ⟨options, root'⟩ value g)) := by
  rw [anyOfIssues_eq, anyOfIssues_eq]
  rcases h.composed (k := "anyOf") (by simp) with ⟨hf, hg⟩ | ⟨tag, xs, ys, hf, hg, members⟩
  · rw [hf, hg]
    exact .answer rfl
  · simp only [hf, hg, entriesOf, Json.entries?, ok_bind]
    rw [← exists?_thin (issues_of_isTrivial path) xs, ← exists?_thin (issues_of_isTrivial path) ys]
    refine (mirrors_exists? members fun s t hs _ hst => mirrors_valid ?_).then_ fun found => .answer rfl
    exact ProbedAlike.of_listed hn hf ((thin_sublist xs).subset hs) hst.2

theorem mirrors_oneOfIssues : Mirrors manner Eq
    (oneOfIssues f path (narrower ⟨options, root⟩ value f))
    (oneOfIssues g path (narrower ⟨options, root'⟩ value g)) := by
  rw [oneOfIssues_eq, oneOfIssues_eq]
  rcases h.list (k := "oneOf") rfl (by simp) with ⟨hf, hg⟩ | ⟨tag, xs, ys, hf, hg, members⟩
  · rw [hf, hg]
    exact .answer rfl
  · simp only [hf, hg, entriesOf, Json.entries?, ok_bind]
    refine (mirrors_count members fun s t hs _ hst => mirrors_valid ?_).then_ fun passing => .answer rfl
    exact ProbedAlike.of_listed hn hf hs hst.2

theorem mirrors_notIssues : Mirrors manner Eq
    (notIssues f path (narrower ⟨options, root⟩ value f))
    (notIssues g path (narrower ⟨options, root'⟩ value g)) := by
  rw [notIssues_eq, notIssues_eq]
  rcases h.schema (k := "not") rfl with ⟨hf, hg⟩ | ⟨s, t, hf, hg, hst⟩
  · rw [hf, hg]
    exact .answer rfl
  · rw [hf, hg]
    refine (mirrors_valid (hn s (Json.size_lt_sizeFields_of_get? hf) t path hst)).then_ fun admitted => ?_
    exact .answer rfl

variable (led : Reference.LedAlike manner options.source root root')
  (hi : ∀ x s, x.size < value.size → ProbedAlike manner options root root' x s)

include hi

theorem mirrors_conditionalIssues : Mirrors manner Eq
    (conditionalIssues ⟨options, root⟩ value f path (inside ⟨options, root⟩ value)
      (narrower ⟨options, root⟩ value f))
    (conditionalIssues ⟨options, root'⟩ value g path (inside ⟨options, root'⟩ value)
      (narrower ⟨options, root'⟩ value g)) := by
  rw [conditionalIssues_eq, conditionalIssues_eq]
  rcases h.schema (k := "if") rfl with ⟨hf, hg⟩ | ⟨s, t, hf, hg, hst⟩
  · rw [hf, hg]
    exact .answer rfl
  · rw [hf, hg]
    have smaller := fun s' (hs : s'.size ≤ s.size) =>
      hn s' (Nat.lt_of_le_of_lt hs (Json.size_lt_sizeFields_of_get? hf))
    refine (mirrors_meets_of hi smaller hst).then_ fun met => ?_
    have place : (Shape.ofKeyword (if met then "then" else "else")).place = .itself := by
      cases met <;> rfl
    rcases h.schema place with ⟨hf, hg⟩ | ⟨s, t, hf, hg, hst⟩
    · rw [hf, hg]
      exact .answer rfl
    · rw [hf, hg]
      exact hn s (Json.size_lt_sizeFields_of_get? hf) t path hst

include led

theorem mirrors_memberIssues (tag : Tag) : Mirrors manner Eq
    (memberIssues ⟨options, root⟩ value tag f path (inside ⟨options, root⟩ value)
      (narrower ⟨options, root⟩ value f))
    (memberIssues ⟨options, root'⟩ value tag g path (inside ⟨options, root'⟩ value)
      (narrower ⟨options, root'⟩ value g)) := by
  simp only [memberIssues, pinIssues_eq h]
  refine .after _ fun pinned => .ite (.answer rfl) ?_
  refine (mirrors_conditionalIssues h hn hi).then_ fun conditional => ?_
  refine (mirrors_allOfIssues h hn).then_ fun all => ?_
  refine (mirrors_anyOfIssues h hn).then_ fun any => ?_
  refine (mirrors_oneOfIssues h hn).then_ fun one => ?_
  refine (mirrors_notIssues h hn).then_ fun negated => ?_
  exact (mirrors_typeIssues h led hi hn).then_ fun typed => .answer rfl

end Keywords

/-! ## 8. The whole probe -/

section Whole

variable {manner : Manner} {options : Options} {root root' : Json}
  (led : Reference.LedAlike manner options.source root root')

include led

/-- **A value has the same issues by a schema and by what stands for it.** -/
theorem probedAlike (value s : Json) : ProbedAlike manner options root root' value s := by
  induction value using Json.sizeInduction generalizing s with
  | step value ih =>
    induction s using Json.sizeInduction with
    | step s ihs =>
      intro t path hst
      cases hst with
      | leaf ho =>
        cases s with
        | obj => cases ho
        | null =>
          rw [issues_null, issues_null]
          exact .answer rfl
        | bool b =>
          cases b with
          | true =>
            rw [issues_true, issues_true]
            exact .answer rfl
          | false =>
            rw [issues_false, issues_false]
            exact .answer rfl
        | _ =>
          rw [issues_eq, issues_eq, schemaIssues, schemaIssues]
          · exact .fault
          all_goals simp
      | null =>
        rw [issues_null, issues_true]
        exact .answer rfl
      | @node _ tag f g members =>
        rw [issues_obj, issues_obj]
        refine mirrors_memberIssues members.aligned (fun s hs => ihs s ?_) led (fun x s hx => ih x hx s) tag
        simp only [Json.size]
        omega

theorem mirrors_issues? (value : Option Json) {s t : Json} (h : Replaced manner .probed s t) (path : Path) :
    Mirrors manner Eq (issues? ⟨options, root⟩ value s path) (issues? ⟨options, root'⟩ value t path) := by
  cases value with
  | some x => exact probedAlike led x s t path h
  | none =>
    cases h with
    | leaf => exact .same _
    | null | node => exact .answer rfl

/-- **A value meets the same conditions.** -/
theorem mirrors_meets (value : Option Json) {s t : Json} (h : Replaced manner .probed s t) (path : Path) :
    Mirrors manner Eq (meets ⟨options, root⟩ value s path) (meets ⟨options, root'⟩ value t path) := by
  cases value with
  | none => exact .answer rfl
  | some x => exact mirrors_meets_of (fun y s _ => probedAlike led y s) (fun s _ => probedAlike led x s) h

end Whole

end Probe

end Conform
