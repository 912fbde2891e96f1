/-
# The verdict on a value

Values that no reader tells apart (a `Likeness`) have issues both or neither, at whatever path the issues
are reported.  In particular the order of members does not matter.  Two probes `Agree` if both stop with
a fault or both are answered, with answers that are related; for lists of issues that means that both are
empty or neither is (`SameVerdict`).  Agreement passes through sequences of checks and through walks over
lists, even if the lists are matched up in another order.

The schemas may also differ in the keywords that compose them of others, as far as only the type
decides (`SamePlain`).  So what the type says about a value can be carried over from a schema to the
same schema without `anyOf`, say.

Every function of the probe gets one lemma: probed at related places, with probes for what is inside
that agree, it agrees.  `agree_issues_of` closes the recursion, on the value first and then on the schema.
Division alone sees more of a number than its worth, so what the recursion comes to has to be `Tolerant`.
-/
import Conform.Proofs.Reordering
import Conform.Proofs.Descent

namespace Conform.Probe

open Fields (get?)
open Json (Likeness Matched Reordered SameShape)

/-! ## 1. Agreement -/

/-- **Both checks stop with a fault, or both are answered, and the answers are related.** -/
inductive Agree {α β : Type} (R : α → β → Prop) : Check α → Check β → Prop
  | fault {f g : Fault} : Agree R (.error f) (.error g)
  | answer {a : α} {b : β} (h : R a b) : Agree R (.ok a) (.ok b)

/-- Both lists of issues are empty, or neither is. -/
def SameVerdict (a b : List Issue) : Prop := a = [] ↔ b = []

namespace Agree

variable {α β γ δ : Type} {R : α → β → Prop} {S : γ → δ → Prop} {x : Check α} {y : Check β}

theorem refl {R : α → α → Prop} (h : ∀ a, R a a) (x : Check α) : Agree R x x := by
  cases x with
  | error f => exact .fault
  | ok a => exact .answer (h a)

theorem bind (h : Agree R x y) {f : α → Check γ} {g : β → Check δ}
    (hn : ∀ a b, R a b → Agree S (f a) (g b)) : Agree S (x >>= f) (y >>= g) := by
  cases h with
  | fault => exact .fault
  | answer h => exact hn _ _ h

/-- Both stop with a fault, or neither does. -/
theorem error_iff (h : Agree R x y) : (∃ f, x = .error f) ↔ ∃ f, y = .error f := by
  cases h with
  | fault => exact ⟨fun _ => ⟨_, rfl⟩, fun _ => ⟨_, rfl⟩⟩
  | answer => constructor <;> rintro ⟨_, he⟩ <;> cases he

/-- What is answered on the one side is answered on the other. -/
theorem exists_ok {a : α} (h : Agree R (.ok a) y) : ∃ b, y = .ok b ∧ R a b := by
  cases h with
  | answer h => exact ⟨_, rfl, h⟩

theorem exists_ok' {b : β} (h : Agree R x (.ok b)) : ∃ a, x = .ok a ∧ R a b := by
  cases h with
  | answer h => exact ⟨_, rfl, h⟩

end Agree

namespace SameVerdict

variable {a b c d : List Issue}

theorem refl (a : List Issue) : SameVerdict a a := Iff.rfl

theorem append (h : SameVerdict a b) (h' : SameVerdict c d) : SameVerdict (a ++ c) (b ++ d) := by
  simp only [SameVerdict, List.append_eq_nil_iff] at *
  rw [h, h']

theorem isEmpty_eq (h : SameVerdict a b) : a.isEmpty = b.isEmpty := by
  rw [Bool.eq_iff_iff, List.isEmpty_iff, List.isEmpty_iff]
  exact h

/-- An issue on either side, or on neither. -/
theorem of_ite {c : Prop} [Decidable c] {i j : Issue} :
    SameVerdict (if c then [i] else []) (if c then [j] else []) := by
  split <;> simp [SameVerdict]

end SameVerdict

/-- Two probes whose lists of issues are both empty or both not. -/
abbrev Concur (x y : Check (List Issue)) : Prop := Agree SameVerdict x y

namespace Concur

variable {x y x' y' : Check (List Issue)}

theorem nil_iff (h : Concur x y) : x = .ok [] ↔ y = .ok [] := by
  cases h with
  | fault => constructor <;> intro e <;> cases e
  | answer h =>
    rw [Except.ok.injEq, Except.ok.injEq]
    exact h

theorem valid (h : Concur x y) : Agree Eq (valid x) (valid y) := by
  cases h with
  | fault => exact .fault
  | answer h => exact .answer h.isEmpty_eq

/-- A check and a further one whose issues are put together. -/
theorem append (h : Concur x y) (h' : Concur x' y') :
    Concur (do let a ← x; let b ← x'; .ok (a ++ b)) (do let a ← y; let b ← y'; .ok (a ++ b)) :=
  h.bind fun _ _ ha => h'.bind fun _ _ hb => .answer (ha.append hb)

end Concur

section Walks

variable {α β : Type} {xs : List α} {ys : List β}

theorem gather_eq_error_iff {f : (x : α) → x ∈ xs → Check (List Issue)} :
    (∃ fault, gather xs f = .error fault) ↔ ∃ x h fault, f x h = .error fault := by
  induction xs with
  | nil => simp [gather]
  | cons x xs ih =>
    constructor
    · rintro ⟨fault, h⟩
      rw [gather] at h
      cases hx : f x (List.mem_cons_self ..) with
      | error fault' => exact ⟨x, _, fault', hx⟩
      | ok first =>
        rw [hx] at h
        cases hr : gather xs fun y hy => f y (List.mem_cons_of_mem _ hy) with
        | error fault' =>
          obtain ⟨y, hy, fault', he⟩ := ih.1 ⟨fault', hr⟩
          exact ⟨y, _, fault', he⟩
        | ok others =>
          rw [hr] at h
          cases h
    · rintro ⟨y, hy, fault, he⟩
      rw [gather]
      cases hx : f x (List.mem_cons_self ..) with
      | error fault' => exact ⟨fault', rfl⟩
      | ok first =>
        have hm : y ∈ xs := by
          rcases List.mem_cons.1 hy with rfl | hm
          · rw [hx] at he
            cases he
          · exact hm
        obtain ⟨fault', hr⟩ :=
          (ih (f := fun y h => f y (List.mem_cons_of_mem _ h))).2 ⟨y, hm, fault, he⟩
        rw [hr]
        exact ⟨fault', rfl⟩

/-- **Issues gathered from matching lists**: the order does not matter. -/
theorem agree_gather {f : (x : α) → x ∈ xs → Check (List Issue)}
    {g : (y : β) → y ∈ ys → Check (List Issue)}
    (left : ∀ x hx, ∃ y hy, Concur (f x hx) (g y hy))
    (right : ∀ y hy, ∃ x hx, Concur (f x hx) (g y hy)) : Concur (gather xs f) (gather ys g) := by
  have faults : (∃ fault, gather xs f = .error fault) ↔ ∃ fault, gather ys g = .error fault := by
    rw [gather_eq_error_iff, gather_eq_error_iff]
    constructor
    · rintro ⟨x, hx, fault, he⟩
      obtain ⟨y, hy, h⟩ := left x hx
      rw [he] at h
      cases hg : g y hy with
      | error fault' => exact ⟨y, hy, fault', hg⟩
      | ok b =>
        rw [hg] at h
        cases h
    · rintro ⟨y, hy, fault, he⟩
      obtain ⟨x, hx, h⟩ := right y hy
      rw [he] at h
      cases hf : f x hx with
      | error fault' => exact ⟨x, hx, fault', hf⟩
      | ok b =>
        rw [hf] at h
        cases h
  have empties : gather xs f = .ok [] ↔ gather ys g = .ok [] := by
    rw [gather_eq_nil_iff, gather_eq_nil_iff]
    constructor
    · intro h y hy
      obtain ⟨x, hx, hxy⟩ := right y hy
      exact hxy.nil_iff.1 (h x hx)
    · intro h x hx
      obtain ⟨y, hy, hxy⟩ := left x hx
      exact hxy.nil_iff.2 (h y hy)
  cases hf : gather xs f with
  | error fault =>
    obtain ⟨fault', hg⟩ := faults.1 ⟨fault, hf⟩
    rw [hg]
    exact .fault
  | ok a =>
    cases hg : gather ys g with
    | error fault =>
      obtain ⟨fault', he⟩ := faults.2 ⟨fault, hg⟩
      rw [he] at hf
      cases hf
    | ok b =>
      rw [hf, hg, Except.ok.injEq, Except.ok.injEq] at empties
      exact .answer empties

/-- Issues gathered from one list twice. -/
theorem agree_gather_same {f g : (x : α) → x ∈ xs → Check (List Issue)}
    (h : ∀ x hx, Concur (f x hx) (g x hx)) : Concur (gather xs f) (gather xs g) :=
  agree_gather (fun x hx => ⟨x, hx, h x hx⟩) fun x hx => ⟨x, hx, h x hx⟩

theorem agree_gatherFrom {R : α → β → Prop} (hr : List.Forall₂ R xs ys) {i : Nat}
    {f : Nat → (x : α) → x ∈ xs → Check (List Issue)}
    {g : Nat → (y : β) → y ∈ ys → Check (List Issue)}
    (h : ∀ i x hx y hy, R x y → Concur (f i x hx) (g i y hy)) :
    Concur (gatherFrom i xs f) (gatherFrom i ys g) := by
  induction hr generalizing i with
  | nil => exact .answer (.refl _)
  | cons hxy _ ih =>
    exact (h i _ _ _ _ hxy).append (ih fun j x hx y hy hxy => h j x _ y _ hxy)

theorem agree_countFrom {R : α → β → Prop} (hr : List.Forall₂ R xs ys) {i : Nat}
    {f : Nat → (x : α) → x ∈ xs → Check Bool} {g : Nat → (y : β) → y ∈ ys → Check Bool}
    (h : ∀ i x hx y hy, R x y → Agree Eq (f i x hx) (g i y hy)) :
    Agree Eq (countFrom i xs f) (countFrom i ys g) := by
  induction hr generalizing i with
  | nil => exact .answer rfl
  | cons hxy _ ih =>
    rw [countFrom, countFrom]
    refine (h i _ _ _ _ hxy).bind ?_
    rintro a _ rfl
    refine (ih fun j x hx y hy hxy => h j x _ y _ hxy).bind ?_
    rintro n _ rfl
    exact .answer rfl

variable {f g : (x : α) → x ∈ xs → Check Bool}

theorem agree_count (h : ∀ x hx, Agree Eq (f x hx) (g x hx)) :
    Agree Eq (count xs f) (count xs g) := by
  induction xs with
  | nil => exact .answer rfl
  | cons x xs ih =>
    rw [count, count]
    refine (h x _).bind ?_
    rintro a _ rfl
    refine (ih fun y hy => h y _).bind ?_
    rintro n _ rfl
    exact .answer rfl

theorem agree_exists? (h : ∀ x hx, Agree Eq (f x hx) (g x hx)) :
    Agree Eq (exists? xs f) (exists? xs g) := by
  induction xs with
  | nil => exact .answer rfl
  | cons x xs ih =>
    rw [exists?, exists?]
    refine (h x _).bind ?_
    rintro a _ rfl
    split
    · exact .answer rfl
    · exact ih fun y hy => h y _

theorem agree_forall? (h : ∀ x hx, Agree Eq (f x hx) (g x hx)) :
    Agree Eq (forall? xs f) (forall? xs g) := by
  induction xs with
  | nil => exact .answer rfl
  | cons x xs ih =>
    rw [forall?, forall?]
    refine (h x _).bind ?_
    rintro a _ rfl
    split
    · exact ih fun y hy => h y _
    · exact .answer rfl

end Walks

/-! ## 2. Schemas that say the same by their type -/

/-- **The schemas have the same keywords, but for those that compose them of others.** -/
def SamePlain (fields fields' : Fields) : Prop :=
  ∀ k ∉ Schema.compositeKeywords, get? fields k = get? fields' k

namespace SamePlain

variable {fields fields' : Fields}

theorem refl (fields : Fields) : SamePlain fields fields := fun _ _ => rfl

theorem trans {fields'' : Fields} (h : SamePlain fields fields') (h' : SamePlain fields' fields'') :
    SamePlain fields fields'' := fun k hk => (h k hk).trans (h' k hk)

theorem has_eq (h : SamePlain fields fields') {k : String} (hk : k ∉ Schema.compositeKeywords) :
    Fields.has fields k = Fields.has fields' k := by
  rw [Fields.has, Fields.has, h k hk]

/-- A schema without some of the keywords that compose it says the same by its type. -/
theorem without {keys : List String} (h : ∀ k ∈ keys, k ∈ Schema.compositeKeywords) :
    SamePlain fields (Fields.without fields keys) := by
  intro k hk
  rw [Fields.get?_without, if_neg fun hm => hk (h k hm)]

theorem declaredTypes_eq (h : SamePlain fields fields') (tag tag' : Tag) :
    Schema.declaredTypes (.obj tag fields) = Schema.declaredTypes (.obj tag' fields') := by
  rw [Schema.declaredTypes, Schema.declaredTypes, h "type" (by decide)]

theorem inferKind_eq (h : SamePlain fields fields') {x y : Json} (hxy : SameShape x y) :
    Schema.inferKind fields (some x) = Schema.inferKind fields' (some y) := by
  have plain : ∀ kind : Kind, ∀ k ∈ Schema.keywordsOf kind, k ∉ Schema.compositeKeywords := by
    intro kind
    cases kind <;> decide
  have any_eq : (Schema.keywordsOf (Kind.ofValue y)).any (Fields.has fields) =
      (Schema.keywordsOf (Kind.ofValue y)).any (Fields.has fields') := by
    refine Bool.eq_iff_iff.2 ?_
    simp only [List.any_eq_true]
    refine exists_congr fun k => and_congr_right fun hk => ?_
    rw [h.has_eq (plain _ k hk)]
  rw [Schema.inferKind, Schema.inferKind, hxy.ofValue_eq, any_eq]

theorem restrict (h : SamePlain fields fields') (type : Json) :
    SamePlain (Schema.restrict fields type) (Schema.restrict fields' type) := by
  intro k hk
  simp only [Schema.restrict, Fields.get?_put]
  split
  · rfl
  · rw [Fields.get?_filter_name fun name =>
        (Schema.baseKeywords ++ Schema.keywordsOfType type).contains name,
      Fields.get?_filter_name fun name =>
        (Schema.baseKeywords ++ Schema.keywordsOfType type).contains name, h k hk]

theorem memberTable_eq (h : SamePlain fields fields') {k : String}
    (hk : k ∉ Schema.compositeKeywords) : memberTable fields k = memberTable fields' k := by
  rw [memberTable, memberTable, h k hk]

theorem itemSchema_eq (h : SamePlain fields fields') (i : Nat) :
    itemSchema fields i = itemSchema fields' i := by
  simp only [itemSchema, tupleSchema, h "items" (by decide), h "prefixItems" (by decide),
    h "additionalItems" (by decide)]

theorem isAdditional_eq (h : SamePlain fields fields') (engine : Pattern.Engine) (name : String) :
    isAdditional engine name fields = isAdditional engine name fields' := by
  rw [isAdditional, isAdditional, h.memberTable_eq (by decide), h.memberTable_eq (by decide)]

end SamePlain

/-! ## 3. Strings and numbers -/

variable {R : Json → Json → Prop} {setting : Setting} {x y : Json} {fields fields' : Fields} {p q : Path}

theorem agree_limitIssue {k : String} {missed missed' : Json → Check Bool}
    {reason reason' : Json → Reason} (hk : get? fields k = get? fields' k)
    (hm : ∀ limit, missed limit = missed' limit) :
    Concur (limitIssue fields k missed reason p) (limitIssue fields' k missed' reason' q) := by
  unfold limitIssue
  rw [hk]
  cases get? fields' k with
  | none => exact .answer (.refl _)
  | some limit =>
    simp only [hm]
    refine (Agree.refl (fun _ => rfl) _).bind ?_
    rintro miss _ rfl
    exact .answer .of_ite

theorem agree_stringIssues {segmenter : Segmenter} {engine : Pattern.Engine} (h : SameShape x y)
    (hf : SamePlain fields fields') :
    Concur (stringIssues segmenter engine x fields p) (stringIssues segmenter engine y fields' q) := by
  have lengths : ∀ s, Concur (lengthIssues segmenter s fields p)
      (lengthIssues segmenter s fields' q) := by
    intro s
    unfold lengthIssues
    rw [hf.has_eq (by decide), hf.has_eq (by decide)]
    split
    · refine (Agree.refl (fun _ => rfl) _).bind ?_
      rintro n _ rfl
      exact (agree_limitIssue (hf _ (by decide)) fun _ => rfl).append
        (agree_limitIssue (hf _ (by decide)) fun _ => rfl)
    · exact .answer (.refl _)
  have formats : ∀ s, Concur (formatIssues s fields p) (formatIssues s fields' q) := by
    intro s
    unfold formatIssues
    rw [hf _ (by decide)]
    split
    · exact .answer (.refl _)
    · refine (Agree.refl (fun _ => rfl) _).bind ?_
      rintro fits _ rfl
      refine .answer ?_
      cases fits <;> simp [SameVerdict]
  cases h with
  | same =>
    cases x with
    | str s =>
      simp only [stringIssues]
      refine (lengths s).bind fun a b hab => ?_
      refine (agree_limitIssue (hf _ (by decide)) fun _ => rfl).bind fun c d hcd => ?_
      exact (formats s).bind fun _ _ hef => .answer ((hab.append hcd).append hef)
    | _ => exact .answer (by simp [SameVerdict])
  | numbers | lists | objects => exact .answer (by simp [SameVerdict])

theorem sameVerdict_boundIssue {bound : Option Json} {violated : Number → Bool}
    {reason reason' : Json → Reason} :
    SameVerdict (boundIssue bound violated reason p) (boundIssue bound violated reason' q) := by
  unfold boundIssue
  split
  · exact .of_ite
  · exact .refl _

/-- No number is measured by the members: `multipleOf` gives no number to divide by. -/
def Unmeasured (fields : Fields) : Prop := ∀ d, get? fields "multipleOf" ≠ some (.num d)

theorem boundIssue_of_unmeasured (h : Unmeasured fields) {violated : Number → Bool}
    {reason : Json → Reason} : boundIssue (get? fields "multipleOf") violated reason p = [] := by
  unfold boundIssue
  split
  · next d hd => exact absurd hd (h d)
  · rfl

/-- **The members take related numbers for one**: numbers are related to themselves only, or they are not
measured.  Division sees more of a number than its worth, namely the digits that it is written with. -/
def Tolerant (R : Json → Json → Prop) (fields : Fields) : Prop :=
  (∀ m n, R (.num m) (.num n) → m = n) ∨ Unmeasured fields

/-- A schema reduced to a type measures no more than before. -/
theorem Tolerant.restrict (h : Tolerant R fields) (type : Json) :
    Tolerant R (Schema.restrict fields type) := by
  refine h.imp_right fun hu d hd => ?_
  have kept : get? (Schema.restrict fields type) "multipleOf" = get? fields "multipleOf" ∨
      get? (Schema.restrict fields type) "multipleOf" = none := by
    simp only [Schema.restrict, Fields.get?_put]
    rw [if_neg (by decide), Fields.get?_filter_name fun name =>
      (Schema.baseKeywords ++ Schema.keywordsOfType type).contains name]
    split
    · exact .inl rfl
    · exact .inr rfl
  rcases kept with hk | hk <;> rw [hk] at hd
  · exact hu d hd
  · cases hd

/-- **Numbers of one worth are within the same bounds.** -/
theorem sameVerdict_of_akin {kind : Kind} {m n : Number} (h : m.Akin n) (hf : SamePlain fields fields')
    (measured : SameVerdict
      (boundIssue (get? fields "multipleOf") (fun d => !m.isMultipleOf d) .notMultiple p)
      (boundIssue (get? fields "multipleOf") (fun d => !n.isMultipleOf d) .notMultiple q)) :
    SameVerdict (numberIssues kind (.num m) fields p) (numberIssues kind (.num n) fields' q) := by
  have below : ∀ limit, m.lt limit = n.lt limit ∧ m.le limit = n.le limit := by
    intro limit
    simp only [Number.lt, Number.le, h.value, and_self]
  have above : ∀ limit : Number, limit.lt m = limit.lt n ∧ limit.le m = limit.le n := by
    intro limit
    simp only [Number.lt, Number.le, h.value, and_self]
  simp only [numberIssues, ← hf _ (show "minimum" ∉ _ by decide),
    ← hf _ (show "exclusiveMinimum" ∉ _ by decide), ← hf _ (show "maximum" ∉ _ by decide),
    ← hf _ (show "exclusiveMaximum" ∉ _ by decide), ← hf _ (show "multipleOf" ∉ _ by decide),
    fun limit => (below limit).1, fun limit => (below limit).2, fun limit => (above limit).1,
    fun limit => (above limit).2, h.whole]
  exact ((((SameVerdict.of_ite.append sameVerdict_boundIssue).append
    sameVerdict_boundIssue).append sameVerdict_boundIssue).append
    sameVerdict_boundIssue).append measured

theorem sameVerdict_numberIssues {kind : Kind} (h : R x y) (hs : SameShape x y)
    (ht : Tolerant R fields) (hf : SamePlain fields fields') :
    SameVerdict (numberIssues kind x fields p) (numberIssues kind y fields' q) := by
  cases hs with
  | numbers hn =>
    refine sameVerdict_of_akin hn hf ?_
    rcases ht with one | hu
    · cases one _ _ h
      exact sameVerdict_boundIssue
    · rw [boundIssue_of_unmeasured hu, boundIssue_of_unmeasured hu]
      exact .refl _
  | same =>
    cases x with
    | num n => exact sameVerdict_of_akin ⟨rfl, rfl, rfl⟩ hf sameVerdict_boundIssue
    | _ => simp [numberIssues, SameVerdict]
  | lists | objects => simp [numberIssues, SameVerdict]

/-! ## 4. Lists -/

/-- Probes of what is inside two values that agree wherever the insides are related. -/
def InsideAgrees (R : Json → Json → Prop) (inner : SmallerProbe x) (inner' : SmallerProbe y) : Prop :=
  ∀ a b (ha : a.size < x.size) (hb : b.size < y.size) s p q, R a b →
    Concur (inner a ha s p) (inner' b hb s q)

/-- Probes of two values against smaller schemas that agree. -/
def NarrowerAgrees (again : NarrowerProbe fields) (again' : NarrowerProbe fields') : Prop :=
  ∀ s (h : s.size < Json.sizeFields fields) (h' : s.size < Json.sizeFields fields') p q,
    Concur (again s h p) (again' s h' q)

section Lists

variable {xs ys : List Json} {probe : ItemProbe xs} {probe' : ItemProbe ys}

theorem agree_listIssues (L : Likeness R) (hr : List.Forall₂ R xs ys) (hf : SamePlain fields fields')
    (hp : ∀ x hx y hy s p q, R x y → Concur (probe x hx s p) (probe' y hy s q)) :
    Concur (listIssues xs fields p probe) (listIssues ys fields' q probe') := by
  have contained : Concur (containsIssues xs fields p probe) (containsIssues ys fields' q probe') := by
    unfold containsIssues
    rw [hf "contains" (by decide), hf "minContains" (by decide)]
    split
    · exact .answer (.refl _)
    · refine (agree_countFrom hr fun i x hx y hy hxy => (hp x hx y hy _ _ _ hxy).valid).bind ?_
      rintro found _ rfl
      refine (Agree.refl (fun _ => rfl) _).bind ?_
      rintro few _ rfl
      refine (agree_limitIssue (hf _ (by decide)) fun _ => rfl).bind fun _ _ hm => .answer ?_
      refine SameVerdict.append ?_ hm
      cases few <;> simp [SameVerdict]
  unfold listIssues
  rw [hr.length_eq, L.hasRepeats_eq hr, hf "uniqueItems" (by decide)]
  refine (agree_limitIssue (hf _ (by decide)) fun _ => rfl).bind fun _ _ hfew => ?_
  refine (agree_limitIssue (hf _ (by decide)) fun _ => rfl).bind fun _ _ hmany => ?_
  refine contained.bind fun _ _ hc => .answer ?_
  exact ((hfew.append hmany).append .of_ite).append hc

theorem agree_arrayIssues (L : Likeness R) (hr : List.Forall₂ R xs ys) (hf : SamePlain fields fields')
    (hp : ∀ x hx y hy s p q, R x y → Concur (probe x hx s p) (probe' y hy s q)) :
    Concur (arrayIssues xs fields p probe) (arrayIssues ys fields' q probe') := by
  refine (agree_listIssues L hr hf hp).append (agree_gatherFrom hr fun i x hx y hy hxy => ?_)
  unfold itemIssues
  rw [hf.itemSchema_eq]
  split
  · exact .answer (.refl _)
  · exact .answer (.refl _)
  · exact .answer (by simp [SameVerdict])
  · exact hp x hx y hy _ _ _ hxy

end Lists

/-! ## 5. Objects -/

section Objects

variable {tag tag' : Tag} {f g : Fields} {inner : SmallerProbe (.obj tag f)}
  {inner' : SmallerProbe (.obj tag' g)}

theorem agree_read (h : Fields.Paired R f g) (name : Json) :
    Agree (Option.Rel R) (Accessor.direct.read (.obj tag f) name)
      (Accessor.direct.read (.obj tag' g) name) := by
  simp only [Accessor.direct_read, Accessor.readDirect]
  cases name with
  | str s => exact .answer (h.get? s)
  | _ =>
    simp only [Accessor.isContainer]
    first
    | exact .answer .none
    | exact .fault

theorem isAbsent_eq (L : Likeness R) {a b : Option Json} (h : Option.Rel R a b) (schema : Json) :
    Schema.isAbsent a schema = Schema.isAbsent b schema := by
  cases h with
  | none => rfl
  | some h => exact (L.matched h).sameShape.isAbsent_eq schema

theorem agree_requiredIssues (L : Likeness R) (h : Fields.Paired R f g)
    (hf : SamePlain fields fields') :
    Concur (requiredIssues .direct (.obj tag f) fields p)
      (requiredIssues .direct (.obj tag' g) fields' q) := by
  unfold requiredIssues
  rw [hf "required" (by decide), hf.memberTable_eq (by decide)]
  refine (Agree.refl (fun _ => rfl) _).bind ?_
  rintro names _ rfl
  refine agree_gather_same fun name _ => ?_
  refine (agree_read h name).bind fun a b hab => ?_
  refine (Agree.refl (fun _ => rfl) _).bind ?_
  rintro schema _ rfl
  rw [isAbsent_eq L hab]
  exact .answer .of_ite

theorem agree_dependentIssues (h : Fields.Paired R f g)
    (hf : SamePlain fields fields') :
    Concur (dependentIssues .direct (.obj tag f) fields p)
      (dependentIssues .direct (.obj tag' g) fields' q) := by
  unfold dependentIssues
  rw [hf.memberTable_eq (by decide)]
  refine (Agree.refl (fun _ => rfl) _).bind ?_
  rintro table _ rfl
  refine agree_gather_same fun ⟨trigger, names⟩ _ => ?_
  refine (agree_read h _).bind fun a b hab => ?_
  cases hab with
  | none => exact .answer (.refl _)
  | some =>
    refine (Agree.refl (fun _ => rfl) _).bind ?_
    rintro listed _ rfl
    refine agree_gather_same fun name _ => ?_
    refine (agree_read h name).bind fun c d hcd => .answer ?_
    cases hcd <;> simp [SameVerdict]

theorem agree_propertyIssues (L : Likeness R) (ha : setting.options.accessor = .direct)
    (h : Fields.Paired R f g) (hi : InsideAgrees R inner inner') (name : String)
    (schema : Json) :
    Concur (propertyIssues setting tag f p inner name schema)
      (propertyIssues setting tag' g q inner' name schema) := by
  have hread := @agree_read R tag tag' f g h (.str name)
  rw [← ha] at hread
  cases hx : setting.options.accessor.read (.obj tag f) (.str name) with
  | error fault =>
    rw [ha] at hx
    cases hx
  | ok a =>
    rw [hx] at hread
    obtain ⟨b, hy, hab⟩ := hread.exists_ok
    cases hab with
    | none =>
      rw [propertyIssues_of_none hx, propertyIssues_of_none hy]
      exact .answer (.refl _)
    | @some a b hab =>
      rw [propertyIssues_of_some hx, propertyIssues_of_some hy, isAbsent_eq L (.some hab)]
      split
      · exact .answer (.refl _)
      · exact hi a b _ _ schema _ _ hab

theorem agree_patternIssues {k : String} (hf : SamePlain fields fields')
    (hi : InsideAgrees R inner inner') (properties : Fields) (ha : (k, x) ∈ f) (hb : (k, y) ∈ g)
    (hxy : R x y) :
    Concur (patternIssues setting tag f fields p inner properties (k, x) ha)
      (patternIssues setting tag' g fields' q inner' properties (k, y) hb) := by
  unfold patternIssues
  rw [hf.memberTable_eq (by decide)]
  split
  · exact .answer (.refl _)
  · refine (Agree.refl (fun _ => rfl) _).bind ?_
    rintro patterns _ rfl
    refine agree_gather_same fun ⟨pattern, schema⟩ _ => ?_
    refine (Agree.refl (fun _ => rfl) _).bind ?_
    rintro fits _ rfl
    split
    · exact hi x y _ _ schema _ _ hxy
    · exact .answer (.refl _)

theorem agree_additionalIssues {k : String} (hf : SamePlain fields fields')
    (hi : InsideAgrees R inner inner') (additional : Json) (ha : (k, x) ∈ f) (hb : (k, y) ∈ g)
    (hxy : R x y) :
    Concur (additionalIssues setting tag f fields p inner additional (k, x) ha)
      (additionalIssues setting tag' g fields' q inner' additional (k, y) hb) := by
  unfold additionalIssues
  rw [hf.isAdditional_eq]
  refine (Agree.refl (fun _ => rfl) _).bind ?_
  rintro uncovered _ rfl
  split
  · exact .answer (.refl _)
  · split
    · exact .answer (by simp [SameVerdict])
    · refine (Agree.refl (fun _ => rfl) _).bind ?_
      rintro target _ rfl
      cases target with
      | none =>
        refine (Agree.refl (fun _ => rfl) _).bind ?_
        rintro reason _ rfl
        exact .answer (by simp [SameVerdict])
      | some node =>
        cases node with
        | node schema => exact hi x y _ _ schema _ _ hxy
        | endOfList items => exact .fault

/-- Issues of all members, gathered from either object. -/
theorem agree_members (h : Fields.Paired R f g)
    {probe : (member : String × Json) → member ∈ f → Check (List Issue)}
    {probe' : (member : String × Json) → member ∈ g → Check (List Issue)}
    (hp : ∀ k x y ha hb, R x y → Concur (probe (k, x) ha) (probe' (k, y) hb)) :
    Concur (gather f probe) (gather g probe') := by
  refine agree_gather (fun ⟨k, x⟩ hx => ?_) fun ⟨k, y⟩ hy => ?_
  · obtain ⟨y, hy, hxy⟩ := h.exists_mem hx
    exact ⟨(k, y), hy, hp k x y hx hy hxy⟩
  · obtain ⟨x, hx, hxy⟩ := h.exists_mem' hy
    exact ⟨(k, x), hx, hp k x y hx hy hxy⟩

theorem agree_nameIssues (h : Fields.Paired R f g) (hf : SamePlain fields fields')
    {probe : NameProbe (nameValues f)} {probe' : NameProbe (nameValues g)}
    (hp : ∀ k ha hb s p q, Concur (probe (.str k) ha s p) (probe' (.str k) hb s q)) :
    Concur (nameIssues (nameValues f) fields p probe)
      (nameIssues (nameValues g) fields' q probe') := by
  have mem_nameValues : ∀ {f : Fields} {k : String},
      Json.str k ∈ nameValues f ↔ k ∈ Fields.names f := by
    intro f k
    simp [nameValues, Fields.names]
  unfold nameIssues
  rw [hf "propertyNames" (by decide)]
  split
  · exact .answer (.refl _)
  · refine agree_gather (fun name hx => ?_) fun name hy => ?_
    · obtain ⟨m, -, rfl⟩ := List.mem_map.1 hx
      have hy := mem_nameValues.2 (h.mem_names_iff.1 (mem_nameValues.1 hx))
      exact ⟨_, hy, hp m.1 hx hy _ _ _⟩
    · obtain ⟨m, -, rfl⟩ := List.mem_map.1 hy
      have hx := mem_nameValues.2 (h.mem_names_iff.2 (mem_nameValues.1 hy))
      exact ⟨_, hx, hp m.1 hx hy _ _ _⟩

theorem agree_dependentSchemaIssues (ha : setting.options.accessor = .direct)
    (h : Fields.Paired R f g) (hf : SamePlain fields fields')
    {again : NarrowerProbe fields} {again' : NarrowerProbe fields'}
    (hn : NarrowerAgrees again again') :
    Concur (dependentSchemaIssues setting tag f fields p again)
      (dependentSchemaIssues setting tag' g fields' q again') := by
  have hkeyword := hf "dependentSchemas" (by decide)
  cases hx : get? fields "dependentSchemas" with
  | none =>
    rw [dependentSchemaIssues_of_none hx, dependentSchemaIssues_of_none (hkeyword ▸ hx)]
    exact .answer (.refl _)
  | some z =>
    cases ht : membersOf z with
    | error fault =>
      rw [dependentSchemaIssues_of_error hx ht, dependentSchemaIssues_of_error (hkeyword ▸ hx) ht]
      exact .fault
    | ok table =>
      rw [dependentSchemaIssues_of_some hx ht, dependentSchemaIssues_of_some (hkeyword ▸ hx) ht, ha]
      refine agree_gather_same fun entry hm => ?_
      refine (agree_read h _).bind fun a b hab => ?_
      cases hab with
      | none => exact .answer (.refl _)
      | some => exact hn entry.2 _ _ _ _

theorem agree_objectIssues (L : Likeness R) (ha : setting.options.accessor = .direct)
    (h : Fields.Paired R f g) (hf : SamePlain fields fields')
    (hi : InsideAgrees R inner inner') {again : NarrowerProbe fields}
    {again' : NarrowerProbe fields'} (hn : NarrowerAgrees again again') :
    Concur (objectIssues setting tag f fields p inner again)
      (objectIssues setting tag' g fields' q inner' again') := by
  have size : Concur (memberCountIssues f.length fields p)
      (memberCountIssues g.length fields' q) := by
    unfold memberCountIssues
    rw [h.length_eq]
    exact (agree_limitIssue (hf _ (by decide)) fun _ => rfl).append
      (agree_limitIssue (hf _ (by decide)) fun _ => rfl)
  have additional : Concur (allAdditionalIssues setting tag f fields p inner)
      (allAdditionalIssues setting tag' g fields' q inner') := by
    unfold allAdditionalIssues
    rw [hf "additionalProperties" (by decide)]
    split
    · exact .answer (.refl _)
    · exact agree_members h fun k x y hx hy hxy => agree_additionalIssues hf hi _ hx hy hxy
  unfold objectIssues
  rw [ha, hf.memberTable_eq (by decide)]
  refine size.bind fun _ _ h₁ => ?_
  refine (agree_requiredIssues L h hf).bind fun _ _ h₂ => ?_
  refine (agree_dependentIssues h hf).bind fun _ _ h₃ => ?_
  refine (Agree.refl (fun _ => rfl) _).bind ?_
  rintro properties _ rfl
  refine (agree_gather_same fun (m : String × Json) _ =>
    agree_propertyIssues L ha h hi m.1 m.2).bind
    fun _ _ h₄ => ?_
  refine (agree_members h fun k x y hx hy hxy =>
    agree_patternIssues hf hi properties hx hy hxy).bind fun _ _ h₅ => ?_
  refine additional.bind fun _ _ h₆ => ?_
  refine (agree_nameIssues h hf fun k hx hy s p q =>
    hi _ _ _ _ s p q (L.text k)).bind fun _ _ h₇ => ?_
  refine (agree_dependentSchemaIssues ha h hf hn).bind fun _ _ h₈ => .answer ?_
  exact ((((((h₁.append h₂).append h₃).append h₄).append h₅).append h₆).append h₇).append h₈

end Objects

/-! ## 6. Types -/

section Types

variable {inner : SmallerProbe x} {inner' : SmallerProbe y} {again : NarrowerProbe fields}
  {again' : NarrowerProbe fields'}

theorem agree_kindIssues (L : Likeness R) (ha : setting.options.accessor = .direct) (h : R x y)
    (ht : Tolerant R fields) (hf : SamePlain fields fields') (hi : InsideAgrees R inner inner')
    (hn : NarrowerAgrees again again') (kind : Kind) :
    Concur (kindIssues setting kind x fields p inner again)
      (kindIssues setting kind y fields' q inner' again') := by
  have hs := (L.matched h).sameShape
  have fits : ∀ kind : Kind, SameVerdict (if kind.fits x then [] else [Issue.mk (.wrongKind kind) p])
      (if kind.fits y then [] else [Issue.mk (.wrongKind kind) q]) := by
    intro kind
    rw [hs.fits_eq]
    split <;> simp [SameVerdict]
  cases kind with
  | null => exact .answer (fits .null)
  | boolean => exact .answer (fits .boolean)
  | number => exact .answer (sameVerdict_numberIssues h hs ht hf)
  | integer => exact .answer (sameVerdict_numberIssues h hs ht hf)
  | string => exact agree_stringIssues hs hf
  | array =>
    cases L.matched h with
    | scalar hc =>
      cases x with
      | arr | obj => cases hc
      | _ => exact .answer (by simp [SameVerdict])
    | numbers | objects => exact .answer (by simp [SameVerdict])
    | lists hr => exact agree_arrayIssues L hr hf fun a ha b hb s p q hab => hi a b _ _ s p q hab
  | object =>
    cases L.matched h with
    | scalar hc =>
      cases x with
      | arr | obj => cases hc
      | _ => exact .answer (by simp [SameVerdict])
    | numbers | lists => exact .answer (by simp [SameVerdict])
    | objects hp => exact agree_objectIssues L ha hp hf hi hn

theorem agree_typeIssues {tag tag' : Tag} (L : Likeness R) (ha : setting.options.accessor = .direct)
    (h : R x y) (htol : Tolerant R fields) (hf : SamePlain fields fields')
    (hi : InsideAgrees R inner inner') (hn : NarrowerAgrees again again') :
    Concur (typeIssues setting x tag fields p inner again)
      (typeIssues setting y tag' fields' q inner' again') := by
  have hs := (L.matched h).sameShape
  have htypes := hf.declaredTypes_eq tag tag'
  cases ht : Schema.declaredTypes (.obj tag fields) with
  | nil =>
    rw [typeIssues_of_nil ht, typeIssues_of_nil (htypes ▸ ht), hf.inferKind_eq hs]
    split
    · exact .answer (.refl _)
    · exact agree_kindIssues L ha h htol hf hi hn _
  | cons a rest =>
    cases rest with
    | nil =>
      rw [typeIssues_of_single ht, typeIssues_of_single (htypes ▸ ht)]
      cases a with
      | str s =>
        cases hk : Kind.ofName? s with
        | some kind =>
          simp only [hk]
          exact agree_kindIssues L ha h htol hf hi hn _
        | none =>
          simp only [hk]
          exact .answer (by simp [SameVerdict])
      | _ => exact .answer (by simp [SameVerdict])
    | cons b rest =>
      obtain ⟨_, hx⟩ := typeIssues_of_several ht
      obtain ⟨_, hy⟩ := typeIssues_of_several (htypes ▸ ht)
      rw [hx, hy, ← htypes, hs.firstFit_eq]
      split
      · refine (Agree.refl (fun _ => rfl) _).bind ?_
        rintro names _ rfl
        exact .answer (by simp [SameVerdict])
      · exact agree_kindIssues L ha h (htol.restrict _) (hf.restrict _) hi
          (fun s _ _ p q => hn s _ _ p q) _

end Types

/-! ## 7. Conditions -/

theorem withinBounds_eq (h : SameShape x y) (condition : Json) :
    withinBounds x condition = withinBounds y condition := by
  cases h with
  | same => rfl
  | lists | objects => rfl
  | @numbers m n hn =>
    have low : ∀ limit : Number, limit.le m = limit.le n := by
      intro limit
      simp only [Number.le, hn.value]
    have high : ∀ limit : Number, m.le limit = n.le limit := by
      intro limit
      simp only [Number.le, hn.value]
    simp only [withinBounds, withinBound, low, high]

section Conditions

variable {tag tag' : Tag} {f g : Fields} {name : String} {condition : Json}

theorem propertyHolds_of_none {inner : SmallerProbe (.obj tag f)} (h : get? f name = none) :
    propertyHolds .direct tag f p inner name condition = .ok false := by
  have hread : Accessor.direct.read (.obj tag f) (.str name) = .ok none := congrArg Except.ok h
  unfold propertyHolds
  split
  · next h' => rw [hread] at h'; cases h'
  · rfl
  · next h' => rw [hread] at h'; cases h'

theorem propertyHolds_of_some {inner : SmallerProbe (.obj tag f)} (h : get? f name = some x) :
    propertyHolds .direct tag f p inner name condition = (do
      let within ← withinBounds x condition
      if !within then .ok false
      else valid (inner x (Json.size_lt_of_get? tag h) condition (p ++ [name]))) := by
  have hread : Accessor.direct.read (.obj tag f) (.str name) = .ok (some x) :=
    congrArg Except.ok h
  unfold propertyHolds
  split
  · next h' => rw [hread] at h'; cases h'
  · next h' => rw [hread] at h'; cases h'
  · next h' => rw [hread] at h'; cases h'; rfl

theorem agree_propertyHolds {inner : SmallerProbe (.obj tag f)} {inner' : SmallerProbe (.obj tag' g)}
    (L : Likeness R) (h : Fields.Paired R f g) (hi : InsideAgrees R inner inner') (name : String)
    (condition : Json) :
    Agree Eq (propertyHolds .direct tag f p inner name condition)
      (propertyHolds .direct tag' g q inner' name condition) := by
  have hk := h.get? name
  cases hx : get? f name with
  | none =>
    rw [hx] at hk
    cases hy : get? g name with
    | none =>
      rw [propertyHolds_of_none hx, propertyHolds_of_none hy]
      exact .answer rfl
    | some b =>
      rw [hy] at hk
      cases hk
  | some a =>
    rw [hx] at hk
    cases hy : get? g name with
    | none =>
      rw [hy] at hk
      cases hk
    | some b =>
      rw [hy] at hk
      cases hk with
      | some hab =>
        rw [propertyHolds_of_some hx, propertyHolds_of_some hy, withinBounds_eq (L.matched hab).sameShape]
        refine (Agree.refl (fun _ => rfl) _).bind ?_
        rintro within _ rfl
        split
        · exact .answer rfl
        · exact (hi a b _ _ _ _ _ hab).valid

/-- **Values in another order meet the same conditions.** -/
theorem agree_conditionHolds {inner : SmallerProbe x} {inner' : SmallerProbe y}
    {again again' : NoWiderProbe condition} (L : Likeness R) (h : R x y) (hi : InsideAgrees R inner inner')
    (hn : ∀ s hs hs' p q, Concur (again s hs p) (again' s hs' q)) :
    Agree Eq (conditionHolds .direct x condition p inner again)
      (conditionHolds .direct y condition q inner' again') := by
  cases condition with
  | obj ctag fields =>
    simp only [conditionHolds]
    split
    · next properties hp =>
      cases L.matched h with
      | scalar hc =>
        cases x with
        | arr | obj => cases hc
        | _ => exact .answer rfl
      | numbers | lists => exact .answer rfl
      | objects hm =>
        refine (agree_forall? fun (m : String × Json) _ =>
          agree_propertyHolds L hm hi m.1 m.2).bind ?_
        rintro held _ rfl
        split
        · exact .answer rfl
        · split
          · exact .answer rfl
          · exact (hn _ _ _ _ _).valid
    · exact (hn _ _ _ _ _).valid
  | _ => exact (hn _ _ _ _ _).valid

end Conditions

/-! ## 8. Keywords about any value -/

section Keywords

variable {inner : SmallerProbe x} {inner' : SmallerProbe y} {again again' : NarrowerProbe fields}

theorem agree_pinIssues (L : Likeness R) (h : R x y) :
    Concur (pinIssues x fields p) (pinIssues y fields q) := by
  have same : Json.same x = Json.same y := funext (L.same_eq h)
  have enumerated : ∀ options : Json, Concur
      (do
        let options ← entriesOf options
        .ok (if options.any (Json.same y) then [] else [Issue.mk (.notEnumerated options) p]))
      (do
        let options ← entriesOf options
        .ok (if options.any (Json.same y) then [] else [Issue.mk (.notEnumerated options) q])) := by
    intro options
    refine (Agree.refl (fun _ => rfl) _).bind ?_
    rintro listed _ rfl
    refine .answer ?_
    split <;> simp [SameVerdict]
  simp only [pinIssues, same]
  split
  · split
    · split
      · exact .answer (.refl _)
      · exact enumerated _
    · exact .answer (by simp [SameVerdict])
  · split
    · exact .answer (.refl _)
    · exact enumerated _

theorem agree_conditionalIssues (L : Likeness R) (ha : setting.options.accessor = .direct) (h : R x y)
    (hi : InsideAgrees R inner inner') (hn : NarrowerAgrees again again') :
    Concur (conditionalIssues setting x fields p inner again)
      (conditionalIssues setting y fields q inner' again') := by
  unfold conditionalIssues
  split
  · exact .answer (.refl _)
  · rw [ha]
    refine (agree_conditionHolds L h hi fun s _ _ p q => hn s _ _ p q).bind ?_
    rintro met _ rfl
    split
    · exact .answer (.refl _)
    · exact .answer (.refl _)
    · exact hn _ _ _ _ _

theorem agree_allOfIssues (hn : NarrowerAgrees again again') :
    Concur (allOfIssues fields p again) (allOfIssues fields q again') := by
  unfold allOfIssues
  refine (Agree.refl (fun _ => rfl) _).bind ?_
  rintro found _ rfl
  split
  · exact .answer (.refl _)
  · exact agree_gather_same fun s _ => hn s _ _ _ _

theorem agree_anyOfIssues (hn : NarrowerAgrees again again') :
    Concur (anyOfIssues fields p again) (anyOfIssues fields q again') := by
  unfold anyOfIssues
  refine (Agree.refl (fun _ => rfl) _).bind ?_
  rintro found _ rfl
  split
  · exact .answer (.refl _)
  · refine (agree_exists? fun s _ => (hn s _ _ _ _).valid).bind ?_
    rintro found _ rfl
    refine .answer ?_
    split <;> simp [SameVerdict]

theorem agree_oneOfIssues (hn : NarrowerAgrees again again') :
    Concur (oneOfIssues fields p again) (oneOfIssues fields q again') := by
  unfold oneOfIssues
  refine (Agree.refl (fun _ => rfl) _).bind ?_
  rintro found _ rfl
  split
  · exact .answer (.refl _)
  · refine (agree_count fun s _ => (hn s _ _ _ _).valid).bind ?_
    rintro passing _ rfl
    refine .answer ?_
    split <;> simp [SameVerdict]

theorem agree_notIssues (hn : NarrowerAgrees again again') :
    Concur (notIssues fields p again) (notIssues fields q again') := by
  unfold notIssues
  split
  · exact .answer (.refl _)
  · refine ((hn _ _ _ _ _).valid).bind ?_
    rintro admitted _ rfl
    exact .answer .of_ite

theorem agree_memberIssues {tag : Tag} (L : Likeness R) (ha : setting.options.accessor = .direct)
    (h : R x y) (ht : Tolerant R fields) (hi : InsideAgrees R inner inner')
    (hn : NarrowerAgrees again again') :
    Concur (memberIssues setting x tag fields p inner again)
      (memberIssues setting y tag fields q inner' again') := by
  unfold memberIssues
  refine (agree_pinIssues L h).bind fun a b hab => ?_
  rw [hab.isEmpty_eq]
  split
  · exact .answer hab
  · refine (agree_conditionalIssues L ha h hi hn).bind fun _ _ h₁ => ?_
    refine (agree_allOfIssues hn).bind fun _ _ h₂ => ?_
    refine (agree_anyOfIssues hn).bind fun _ _ h₃ => ?_
    refine (agree_oneOfIssues hn).bind fun _ _ h₄ => ?_
    refine (agree_notIssues hn).bind fun _ _ h₅ => ?_
    refine (agree_typeIssues L ha h ht (.refl fields) hi hn).bind fun _ _ h₆ => .answer ?_
    exact ((((h₁.append h₂).append h₃).append h₄).append h₅).append h₆

end Keywords

/-! ## 9. The whole probe -/

open Classical in
/-- The probe against schemas of which something holds; whatever else is asked, there are no issues. -/
noncomputable def issuesWhere (setting : Setting) (P : Json → Prop) : Answers := fun x s p =>
  if P s then issues setting x s p else .ok []

/-- **Values that are alike have issues both or neither**, at any path, if whatever the probe comes to is
tolerant: `P` holds of the schema at hand and of all that is asked for on the way. -/
theorem agree_issues_of (L : Likeness R) (ha : setting.options.accessor = .direct) {P : Json → Prop}
    (asks : ∀ value s c, P s → c ∈ asked setting value s → P c.2)
    (tolerant : ∀ tag fields, P (.obj tag fields) → Tolerant R fields) (h : R x y) {s : Json}
    (hs : P s) (p q : Path) : Concur (issues setting x s p) (issues setting y s q) := by
  induction x using Json.sizeInduction generalizing y s p q with
  | step x ih =>
    induction s using Json.sizeInduction generalizing p q with
    | step s ihs =>
      -- nothing is asked about schemas of which `P` does not hold
      have stepped : ∀ z, issues setting z s = step setting (issuesWhere setting P) z s := by
        intro z
        rw [issues_eq_step]
        refine step_of_answers fun w t hm => ?_
        funext place
        rw [issuesWhere, if_pos (asks z s (w, t) hs hm)]
      have inside_agrees : InsideAgrees R (x := x) (y := y)
          (fun w _ t place => issuesWhere setting P w t place)
          fun w _ t place => issuesWhere setting P w t place := by
        intro a b hlt _ t p q hab
        simp only [issuesWhere]
        split
        · next ht => exact ih a hlt hab ht p q
        · exact .answer (.refl _)
      rw [stepped, stepped]
      cases s with
      | obj tag fields =>
        refine agree_memberIssues L ha h (tolerant tag fields hs) inside_agrees fun t hlt _ p q => ?_
        simp only [issuesWhere]
        split
        · next ht =>
          refine ihs t ?_ ht p q
          simp only [Json.size]
          omega
        · exact .answer (.refl _)
      | bool b => cases b <;> exact .answer (by simp [SameVerdict])
      | null => exact .answer (.refl _)
      | _ => exact .fault

/-- **Whether a value has issues depends neither on the order of its members nor on the path.** -/
theorem agree_issues (ha : setting.options.accessor = .direct) (h : Reordered x y) (s : Json)
    (p q : Path) : Concur (issues setting x s p) (issues setting y s q) :=
  agree_issues_of Reordered.likeness ha (P := fun _ => True) (fun _ _ _ _ _ => trivial)
    (fun _ _ _ => .inl fun _ _ => Reordered.num_eq) h trivial p q

/-- What the type says about a value does not depend on the keywords that compose the schema of
others. -/
theorem typeIssues_iff_of_samePlain {tag tag' : Tag} (ha : setting.options.accessor = .direct)
    (h : Reordered x y) (hf : SamePlain fields fields') :
    typeIssues setting x tag fields p (inside setting x) (narrower setting x fields) = .ok [] ↔
      typeIssues setting y tag' fields' q (inside setting y) (narrower setting y fields') =
        .ok [] :=
  (agree_typeIssues Reordered.likeness ha h (.inl fun _ _ => Reordered.num_eq) hf
    (fun _ _ _ _ s p q hab => agree_issues ha hab s p q) fun s _ _ p q => agree_issues ha h s p q).nil_iff

/-- What `anyOf` says does not depend on anything else in the schema. -/
theorem anyOfIssues_iff_of_get? (ha : setting.options.accessor = .direct) (h : Reordered x y)
    (hk : get? fields "anyOf" = get? fields' "anyOf") :
    anyOfIssues fields p (narrower setting x fields) = .ok [] ↔
      anyOfIssues fields' q (narrower setting y fields') = .ok [] := by
  rw [anyOfIssues_iff, anyOfIssues_iff, hk]
  refine forall_congr' fun z => imp_congr_right fun _ => exists_congr fun xs =>
    and_congr_right fun _ => ?_
  have hxs : Agree Eq (exists? xs fun s _ => valid (issues setting x s p))
      (exists? xs fun s _ => valid (issues setting y s q)) :=
    agree_exists? fun s _ => (agree_issues ha h s p q).valid
  constructor <;> intro ht <;> rw [ht] at hxs
  · obtain ⟨_, he, rfl⟩ := hxs.exists_ok
    exact he
  · obtain ⟨_, he, rfl⟩ := hxs.exists_ok'
    exact he

/-- What `not` says does not depend on anything else in the schema. -/
theorem notIssues_iff_of_get? (ha : setting.options.accessor = .direct) (h : Reordered x y)
    (hk : get? fields "not" = get? fields' "not") :
    notIssues fields p (narrower setting x fields) = .ok [] ↔
      notIssues fields' q (narrower setting y fields') = .ok [] := by
  rw [notIssues_iff, notIssues_iff, hk]
  refine forall_congr' fun s => imp_congr_right fun _ => ?_
  have hs := agree_issues ha h s p q
  constructor <;> rintro ⟨found, he, hne⟩ <;> rw [he] at hs
  · obtain ⟨found', he', hv⟩ := hs.exists_ok
    exact ⟨found', he', fun hn => hne (hv.2 hn)⟩
  · obtain ⟨found', he', hv⟩ := hs.exists_ok'
    exact ⟨found', he', fun hn => hne (hv.1 hn)⟩

/-- A value without issues has none at any path, and in no order of its members. -/
theorem issues_iff_of_reordered (ha : setting.options.accessor = .direct) (h : Reordered x y)
    {s : Json} : issues setting x s p = .ok [] ↔ issues setting y s q = .ok [] :=
  (agree_issues ha h s p q).nil_iff

end Conform.Probe
