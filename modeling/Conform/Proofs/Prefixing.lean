/-
# The probe says where it stands, and nothing else of it

The path that the probe is given is only ever extended and put into issues and faults.  So the issues of
a value below a place are those that it has by itself, each found below the place, and a fault is the
same fault, met below the place (`lists_issues`).  Whether a condition is met has nothing to do with the
path (`shifted_meets`).

Two checks are `Shifted` if both stop with the same fault, that of the one met below the place, or both
are answered, with answers that are related in some way; lists of issues have to be the same with all
paths below the place (`Issue.AllBelow`).  The options may name different starting paths, too: the probe
looks at none.
-/
import Conform.Proofs.Ordinary
import Conform.Proofs.Valid

namespace Conform

/-! ## 1. Lists of issues -/

/-- The issues are the others, found below the place. -/
def Issue.AllBelow (place : Path) (a b : List Issue) : Prop := a = b.map (Issue.below place)

namespace Issue.AllBelow

variable {place q q' : Path} {a b c d : List Issue}

theorem nil : AllBelow place [] [] := rfl

theorem append (h : AllBelow place a b) (h' : AllBelow place c d) :
    AllBelow place (a ++ c) (b ++ d) := by
  rw [AllBelow, List.map_append, ← h, ← h']

theorem single (hq : q' = place ++ q) (reason : Reason) :
    AllBelow place [⟨reason, q'⟩] [⟨reason, q⟩] := by
  subst hq
  rfl

theorem isEmpty_eq (h : AllBelow place a b) : a.isEmpty = b.isEmpty := by
  rw [h, List.isEmpty_map]

theorem ite {p : Prop} [Decidable p] (h : AllBelow place a b) (h' : AllBelow place c d) :
    AllBelow place (if p then a else c) (if p then b else d) := by
  split
  · exact h
  · exact h'

end Issue.AllBelow

/-- A path below the place, extended. -/
theorem path_append {place q q' : Path} (hq : q' = place ++ q) (extension : Path) :
    q' ++ extension = place ++ (q ++ extension) := by
  rw [hq, List.append_assoc]

open Issue (AllBelow)
open Fields (get?)

/-! ## 2. Checks -/

/-- **The first check is the second, made below the place**: the fault is the same, met below the place, or
the answers are related.  The fault is never that types have nothing in common: a conflict does not
get out of the conjunction in which it arises. -/
inductive Shifted {α β : Type} (place : Path) (R : α → β → Prop) :
    Except Fault α → Except Fault β → Prop
  | fault {fault : Fault} (h : ∀ left right, fault ≠ .conflict left right) :
    Shifted place R (.error (fault.below place)) (.error fault)
  | answer {a : α} {b : β} (h : R a b) : Shifted place R (.ok a) (.ok b)

/-- Two checks whose issues are the same but for the place. -/
abbrev Lists (place : Path) (x y : Except Fault (List Issue)) : Prop :=
  Shifted place (AllBelow place) x y

namespace Shifted

variable {α β γ δ : Type} {place : Path} {R : α → β → Prop} {S : γ → δ → Prop}
  {x : Except Fault α} {y : Except Fault β}

theorem bind (h : Shifted place R x y) {f : α → Except Fault γ} {g : β → Except Fault δ}
    (hn : ∀ a b, R a b → Shifted place S (f a) (g b)) : Shifted place S (x >>= f) (y >>= g) := by
  cases h with
  | fault hf => exact .fault hf
  | answer h => exact hn _ _ h

theorem mono {R' : α → β → Prop} (h : Shifted place R x y) (hR : ∀ a b, R a b → R' a b) :
    Shifted place R' x y := by
  cases h with
  | fault hf => exact .fault hf
  | answer h => exact .answer (hR _ _ h)

/-- No conflict gets out of what is compared. -/
theorem ne_conflict (h : Shifted place R x y) (left right : List Json) :
    y ≠ .error (.conflict left right) := by
  cases h with
  | fault hf => exact fun e => hf left right (Except.error.inj e)
  | answer _ => nofun

/-- What is no schema, met below the place. -/
theorem invalidNode (shown : String) (q : Path) :
    Shifted place R (.error (.invalidNode shown (place ++ q))) (.error (.invalidNode shown q)) := by
  have shifted : Shifted place R (.error ((Fault.invalidNode shown q).below place))
      (.error (.invalidNode shown q)) := .fault nofun
  exact shifted

/-- An ordinary fault, at either place. -/
theorem error {fault : Fault} (h : fault.Ordinary) :
    Shifted place R (.error fault) (.error fault) := by
  have no_conflict : ∀ left right, fault ≠ .conflict left right := by
    rintro left right rfl
    exact h
  have shifted : Shifted place R (.error (fault.below place)) (.error fault) := .fault no_conflict
  rwa [h.below_eq place] at shifted

/-- A check that ends with ordinary faults only, at either place. -/
theorem same {check : Except Fault α} (h : Ordinary check) : Shifted place Eq check check := by
  cases check with
  | error fault => exact error (h fault rfl)
  | ok a => exact .answer rfl

/-- A check that ends with ordinary faults only, and what comes after it. -/
theorem after {check : Except Fault α} (h : Ordinary check) {f : α → Except Fault γ}
    {g : α → Except Fault δ} (hn : ∀ a, Shifted place S (f a) (g a)) :
    Shifted place S (check >>= f) (check >>= g) :=
  (same h).bind fun a _ e => e ▸ hn a

theorem ite {p : Prop} [Decidable p] {x' : Except Fault α} {y' : Except Fault β}
    (h : Shifted place R x y) (h' : Shifted place R x' y') :
    Shifted place R (if p then x else x') (if p then y else y') := by
  split
  · exact h
  · exact h'

end Shifted

namespace Probe

variable {α : Type} {xs : List α} {place : Path} {x y : Check (List Issue)}

theorem Lists.valid (h : Lists place x y) : Shifted place Eq (valid x) (valid y) := by
  cases h with
  | fault hf => exact .fault hf
  | answer h => exact .answer h.isEmpty_eq

theorem Lists.nil : Lists place (.ok []) (.ok []) := .answer .nil

/-! ## 3. Walks -/

section Walks

theorem lists_gather {f g : (x : α) → x ∈ xs → Check (List Issue)}
    (h : ∀ x hx, Lists place (f x hx) (g x hx)) : Lists place (gather xs f) (gather xs g) := by
  induction xs with
  | nil => exact Lists.nil
  | cons x xs ih =>
    refine (h _ _).bind fun _ _ first => ?_
    exact (ih fun y hy => h y _).bind fun _ _ others => .answer (first.append others)

theorem lists_gatherFrom {i : Nat} {f g : Nat → (x : α) → x ∈ xs → Check (List Issue)}
    (h : ∀ i x hx, Lists place (f i x hx) (g i x hx)) :
    Lists place (gatherFrom i xs f) (gatherFrom i xs g) := by
  induction xs generalizing i with
  | nil => exact Lists.nil
  | cons x xs ih =>
    refine (h _ _ _).bind fun _ _ first => ?_
    exact (ih fun i y hy => h i y _).bind fun _ _ others => .answer (first.append others)

variable {f g : (x : α) → x ∈ xs → Check Bool}

theorem shifted_exists? (h : ∀ x hx, Shifted place Eq (f x hx) (g x hx)) :
    Shifted place Eq (exists? xs f) (exists? xs g) := by
  induction xs with
  | nil => exact .answer rfl
  | cons x xs ih =>
    refine (h _ _).bind ?_
    rintro found _ rfl
    exact .ite (.answer rfl) (ih fun y hy => h y _)

theorem shifted_forall? (h : ∀ x hx, Shifted place Eq (f x hx) (g x hx)) :
    Shifted place Eq (forall? xs f) (forall? xs g) := by
  induction xs with
  | nil => exact .answer rfl
  | cons x xs ih =>
    refine (h _ _).bind ?_
    rintro holds _ rfl
    exact .ite (ih fun y hy => h y _) (.answer rfl)

theorem shifted_count (h : ∀ x hx, Shifted place Eq (f x hx) (g x hx)) :
    Shifted place Eq (count xs f) (count xs g) := by
  induction xs with
  | nil => exact .answer rfl
  | cons x xs ih =>
    refine (h _ _).bind ?_
    rintro first _ rfl
    refine (ih fun y hy => h y _).bind ?_
    rintro others _ rfl
    exact .answer rfl

theorem shifted_countFrom {i : Nat} {f g : Nat → (x : α) → x ∈ xs → Check Bool}
    (h : ∀ i x hx, Shifted place Eq (f i x hx) (g i x hx)) :
    Shifted place Eq (countFrom i xs f) (countFrom i xs g) := by
  induction xs generalizing i with
  | nil => exact .answer rfl
  | cons x xs ih =>
    refine (h _ _ _).bind ?_
    rintro first _ rfl
    refine (ih fun i y hy => h i y _).bind ?_
    rintro others _ rfl
    exact .answer rfl

end Walks

/-! ## 4. Strings, numbers and lists -/

variable {value : Json} {fields : Fields} {q q' : Path}

theorem lists_limitIssue {k : String} {missed : Json → Check Bool} {reason : Json → Reason}
    (hq : q' = place ++ q) (hm : ∀ limit, Ordinary (missed limit)) :
    Lists place (limitIssue fields k missed reason q') (limitIssue fields k missed reason q) := by
  unfold limitIssue
  split
  · exact Lists.nil
  · exact .after (hm _) fun _ => .answer (.ite (.single hq _) .nil)

theorem lists_stringIssues {segmenter : Segmenter} {engine : Pattern.Engine} (hq : q' = place ++ q) :
    Lists place (stringIssues segmenter engine value fields q')
      (stringIssues segmenter engine value fields q) := by
  have lengths : ∀ s, Lists place (lengthIssues segmenter s fields q')
      (lengthIssues segmenter s fields q) := by
    intro s
    refine .ite (.after ordinary_length fun n => ?_) Lists.nil
    refine (lists_limitIssue hq fun _ => ordinary_isUnder).bind fun _ _ short => ?_
    exact (lists_limitIssue hq fun _ => ordinary_isOver).bind fun _ _ long =>
      .answer (short.append long)
  have formats : ∀ s, Lists place (formatIssues s fields q') (formatIssues s fields q) := by
    intro s
    unfold formatIssues
    split
    · exact Lists.nil
    · exact .after Schema.ordinary_hasFormat fun _ => .answer (.ite .nil (.single hq _))
  unfold stringIssues
  split
  · refine (lengths _).bind fun _ _ length => ?_
    refine (lists_limitIssue hq fun _ => ordinary_map ordinary_search _).bind
      fun _ _ pattern => ?_
    exact (formats _).bind fun _ _ format => .answer ((length.append pattern).append format)
  · exact .answer (.single hq _)

theorem allBelow_numberIssues {kind : Kind} (hq : q' = place ++ q) :
    AllBelow place (numberIssues kind value fields q') (numberIssues kind value fields q) := by
  have bounds : ∀ bound violated reason, AllBelow place (boundIssue bound violated reason q')
      (boundIssue bound violated reason q) := by
    intro bound violated reason
    unfold boundIssue
    split
    · exact .ite (.single hq _) .nil
    · exact .nil
  cases value with
  | num n =>
    exact (((((AllBelow.ite (.single hq _) .nil).append (bounds _ _ _)).append
      (bounds _ _ _)).append (bounds _ _ _)).append (bounds _ _ _)).append (bounds _ _ _)
  | _ => exact .single hq _

section Lists

variable {items : List Json} {probe probe' : ItemProbe items}
  (hp : ∀ x hx s {q q' : Path}, q' = place ++ q → Lists place (probe x hx s q') (probe' x hx s q))

include hp

theorem lists_listIssues (hq : q' = place ++ q) :
    Lists place (listIssues items fields q' probe) (listIssues items fields q probe') := by
  have contained : Lists place (containsIssues items fields q' probe)
      (containsIssues items fields q probe') := by
    unfold containsIssues
    split
    · exact Lists.nil
    · refine (shifted_countFrom fun i x hx => Lists.valid (hp x hx _ (path_append hq _))).bind ?_
      rintro found _ rfl
      refine .after ordinary_isUnder fun few => ?_
      refine (lists_limitIssue (path_append hq _) fun _ => ordinary_isOver).bind fun _ _ many => ?_
      refine .answer (AllBelow.append (.ite ?_ .nil) many)
      split <;> exact .single (path_append hq _) _
  refine (lists_limitIssue hq fun _ => ordinary_isUnder).bind fun _ _ few => ?_
  refine (lists_limitIssue hq fun _ => ordinary_isOver).bind fun _ _ many => ?_
  refine contained.bind fun _ _ contained => .answer ?_
  exact ((few.append many).append (.ite (.single hq _) .nil)).append contained

theorem lists_arrayIssues (hq : q' = place ++ q) :
    Lists place (arrayIssues items fields q' probe) (arrayIssues items fields q probe') := by
  refine (lists_listIssues hp hq).bind fun _ _ whole => ?_
  refine (lists_gatherFrom fun i x hx => ?_).bind fun _ _ each => .answer (whole.append each)
  unfold itemIssues
  split
  · exact Lists.nil
  · exact Lists.nil
  · exact .answer (.single (path_append hq _) _)
  · exact hp x hx _ (path_append hq _)

end Lists

/-! ## 5. Objects -/

/-- Probes of what is inside a value that are the same but for the place. -/
def InsideShifted (place : Path) (inner inner' : SmallerProbe value) : Prop :=
  ∀ x h s {q q' : Path}, q' = place ++ q → Lists place (inner x h s q') (inner' x h s q)

/-- Probes of a value against smaller schemas that are the same but for the place. -/
def NarrowerShifted (place : Path) (again again' : NarrowerProbe fields) : Prop :=
  ∀ s h {q q' : Path}, q' = place ++ q → Lists place (again s h q') (again' s h q)

/-- The setting of a probe with another starting path, at which the probe does not look. -/
def Setting.at (setting : Setting) (start : Path) : Setting :=
  { setting with options := { setting.options with currentPath := start } }

theorem lists_memberCountIssues {n : Nat} (hq : q' = place ++ q) :
    Lists place (memberCountIssues n fields q') (memberCountIssues n fields q) := by
  refine (lists_limitIssue hq fun _ => ordinary_isUnder).bind fun _ _ few => ?_
  exact (lists_limitIssue hq fun _ => ordinary_isOver).bind fun _ _ many =>
    .answer (few.append many)

theorem below_missingIssue (hq : q' = place ++ q) (name : Json) :
    missingIssue name q' = (missingIssue name q).below place := by
  rw [missingIssue, missingIssue, Issue.below, path_append hq]

theorem lists_dependentIssues {accessor : Accessor} (hq : q' = place ++ q) :
    Lists place (dependentIssues accessor value fields q')
      (dependentIssues accessor value fields q) := by
  refine .after ordinary_membersOf fun table => lists_gather fun entry _ => ?_
  refine .after ordinary_read fun trigger => ?_
  cases trigger with
  | none => exact Lists.nil
  | some _ =>
    refine .after ordinary_entriesOf fun names => lists_gather fun name _ => ?_
    refine .after ordinary_read fun found => .answer (.ite .nil ?_)
    rw [below_missingIssue hq]
    exact rfl

theorem lists_requiredIssues {accessor : Accessor} (hq : q' = place ++ q) :
    Lists place (requiredIssues accessor value fields q')
      (requiredIssues accessor value fields q) := by
  refine .after ordinary_entriesOf fun names => lists_gather fun name _ => ?_
  refine .after ordinary_read fun found => .after ordinary_propertySchema fun schema => ?_
  refine .answer (.ite ?_ .nil)
  rw [below_missingIssue hq]
  exact rfl

theorem lists_nameIssues {names : List Json} {probe probe' : NameProbe names}
    (hp : ∀ x hx s {q q' : Path}, q' = place ++ q → Lists place (probe x hx s q') (probe' x hx s q))
    (hq : q' = place ++ q) :
    Lists place (nameIssues names fields q' probe) (nameIssues names fields q probe') := by
  unfold nameIssues
  split
  · exact Lists.nil
  · exact lists_gather fun name h => hp name h _ (path_append hq _)

section Objects

variable {setting : Setting} {start : Path} {tag : Tag} {members : Fields}
  {inner inner' : SmallerProbe (.obj tag members)} (hi : InsideShifted place inner inner')
  (hq : q' = place ++ q)

include hi hq

theorem lists_propertyIssues (name : String) (schema : Json) :
    Lists place (propertyIssues (setting.at start) tag members q' inner name schema)
      (propertyIssues setting tag members q inner' name schema) := by
  have same : (setting.at start).options.accessor.read (.obj tag members) (.str name) =
      setting.options.accessor.read (.obj tag members) (.str name) := rfl
  cases h : setting.options.accessor.read (.obj tag members) (.str name) with
  | error fault =>
    rw [propertyIssues_of_error h, propertyIssues_of_error (same.trans h)]
    exact .error (ordinary_read _ h)
  | ok found =>
    cases found with
    | none =>
      rw [propertyIssues_of_none h, propertyIssues_of_none (same.trans h)]
      exact Lists.nil
    | some x =>
      rw [propertyIssues_of_some h, propertyIssues_of_some (same.trans h)]
      exact .ite Lists.nil (hi _ _ _ (path_append hq _))

theorem lists_patternIssues (properties : Fields) (member : String × Json) (hm : member ∈ members) :
    Lists place (patternIssues (setting.at start) tag members fields q' inner properties member hm)
      (patternIssues setting tag members fields q inner' properties member hm) := by
  refine .ite Lists.nil (.after ordinary_membersOf fun patterns => lists_gather fun entry _ => ?_)
  exact .after ordinary_search fun fits => .ite (hi _ _ _ (path_append hq _)) Lists.nil

theorem lists_additionalIssues (additional : Json) (member : String × Json) (hm : member ∈ members) :
    Lists place (additionalIssues (setting.at start) tag members fields q' inner additional member hm)
      (additionalIssues setting tag members fields q inner' additional member hm) := by
  have below := path_append hq [member.1]
  refine .after ordinary_isAdditional fun uncovered => .ite Lists.nil ?_
  refine .ite (.answer (.single below _)) (.after ordinary_expand fun target => ?_)
  cases target with
  | none => exact .after ordinary_deadReference fun _ => .answer (.single below _)
  | some node =>
    cases node with
    | node schema => exact hi _ _ _ below
    | endOfList items =>
      rw [below]
      exact .invalidNode _ _

theorem lists_objectIssues {again again' : NarrowerProbe fields}
    (hn : NarrowerShifted place again again') :
    Lists place (objectIssues (setting.at start) tag members fields q' inner again)
      (objectIssues setting tag members fields q inner' again') := by
  have additional : Lists place
      (allAdditionalIssues (setting.at start) tag members fields q' inner)
      (allAdditionalIssues setting tag members fields q inner') := by
    unfold allAdditionalIssues
    split
    · exact Lists.nil
    · exact lists_gather fun member hm => lists_additionalIssues hi hq _ member hm
  have schemas : Lists place
      (dependentSchemaIssues (setting.at start) tag members fields q' again)
      (dependentSchemaIssues setting tag members fields q again') := by
    cases hx : get? fields "dependentSchemas" with
    | none =>
      rw [dependentSchemaIssues_of_none hx, dependentSchemaIssues_of_none hx]
      exact Lists.nil
    | some x =>
      cases ht : membersOf x with
      | error fault =>
        rw [dependentSchemaIssues_of_error hx ht, dependentSchemaIssues_of_error hx ht]
        exact .error (ordinary_membersOf _ ht)
      | ok table =>
        rw [dependentSchemaIssues_of_some hx ht, dependentSchemaIssues_of_some hx ht]
        refine lists_gather fun entry _ => .after ordinary_read fun trigger => ?_
        cases trigger with
        | none => exact Lists.nil
        | some _ => exact hn _ _ hq
  refine (lists_memberCountIssues hq).bind fun _ _ h₁ => ?_
  refine (lists_requiredIssues hq).bind fun _ _ h₂ => ?_
  refine (lists_dependentIssues hq).bind fun _ _ h₃ => ?_
  refine .after ordinary_membersOf fun properties => ?_
  refine (lists_gather fun (m : String × Json) _ => lists_propertyIssues hi hq m.1 m.2).bind
    fun _ _ h₄ => ?_
  refine (lists_gather fun m hm => lists_patternIssues hi hq properties m hm).bind
    fun _ _ h₅ => ?_
  refine additional.bind fun _ _ h₆ => ?_
  refine (lists_nameIssues (fun x hx s _ _ hq =>
    hi x (size_lt_of_mem_nameValues tag hx) s hq) hq).bind fun _ _ h₇ => ?_
  refine schemas.bind fun _ _ h₈ => .answer ?_
  exact ((((((h₁.append h₂).append h₃).append h₄).append h₅).append h₆).append h₇).append h₈

end Objects

/-! ## 6. Types and conditions -/

section Types

variable {setting : Setting} {start : Path} {tag : Tag} {inner inner' : SmallerProbe value}
  {again again' : NarrowerProbe fields}

theorem lists_kindIssues (hi : InsideShifted place inner inner')
    (hn : NarrowerShifted place again again') (hq : q' = place ++ q) (kind : Kind) :
    Lists place (kindIssues (setting.at start) kind value fields q' inner again)
      (kindIssues setting kind value fields q inner' again') := by
  cases kind with
  | null => exact .answer (.ite .nil (.single hq _))
  | boolean => exact .answer (.ite .nil (.single hq _))
  | number => exact .answer (allBelow_numberIssues hq)
  | integer => exact .answer (allBelow_numberIssues hq)
  | string => exact lists_stringIssues hq
  | array =>
    cases value with
    | arr tag items => exact lists_arrayIssues (fun x hx s _ _ hq => hi _ _ _ hq) hq
    | _ => exact .answer (.single hq _)
  | object =>
    cases value with
    | obj tag members => exact lists_objectIssues hi hq hn
    | _ => exact .answer (.single hq _)

theorem lists_typeIssues (hi : InsideShifted place inner inner')
    (hn : NarrowerShifted place again again') (hq : q' = place ++ q) :
    Lists place (typeIssues (setting.at start) value tag fields q' inner again)
      (typeIssues setting value tag fields q inner' again') := by
  cases ht : Schema.declaredTypes (.obj tag fields) with
  | nil =>
    rw [typeIssues_of_nil ht, typeIssues_of_nil ht]
    split
    · exact Lists.nil
    · exact lists_kindIssues hi hn hq _
  | cons a rest =>
    cases rest with
    | nil =>
      rw [typeIssues_of_single ht, typeIssues_of_single ht]
      split
      · split
        · exact lists_kindIssues hi hn hq _
        · exact .answer (.single hq _)
      · exact .answer (.single hq _)
    | cons b rest =>
      obtain ⟨_, hx⟩ := typeIssues_of_several ht
      obtain ⟨_, hy⟩ := typeIssues_of_several ht
      rw [hx, hy]
      split
      · exact .after ordinary_typeNames fun names => .answer (.single hq _)
      · refine lists_kindIssues hi ?_ hq _
        exact fun s _ _ _ hq => hn s _ hq

end Types

theorem shifted_conditionHolds {accessor : Accessor} {condition : Json}
    {inner inner' : SmallerProbe value} {again again' : NoWiderProbe condition}
    (hi : InsideShifted place inner inner')
    (hn : ∀ s h {q q' : Path}, q' = place ++ q → Lists place (again s h q') (again' s h q))
    (hq : q' = place ++ q) :
    Shifted place Eq (conditionHolds accessor value condition q' inner again)
      (conditionHolds accessor value condition q inner' again') := by
  have property : ∀ {tag members} {inner inner' : SmallerProbe (.obj tag members)},
      InsideShifted place inner inner' → ∀ name schema,
      Shifted place Eq (propertyHolds accessor tag members q' inner name schema)
        (propertyHolds accessor tag members q inner' name schema) := by
    intro tag members inner inner' hi name schema
    unfold propertyHolds
    split
    · next h => exact .error (ordinary_read _ h)
    · exact .answer rfl
    · refine .after ordinary_withinBounds fun within => .ite (.answer rfl) ?_
      exact Lists.valid (hi _ _ _ (path_append hq _))
  cases condition with
  | obj ctag fields =>
    simp only [conditionHolds]
    split
    · cases value with
      | obj tag members =>
        refine (shifted_forall? fun (m : String × Json) _ => property hi m.1 m.2).bind ?_
        rintro held _ rfl
        exact .ite (.answer rfl) (.ite (.answer rfl) (Lists.valid (hn _ _ hq)))
      | _ => exact .answer rfl
    · exact Lists.valid (hn _ _ hq)
  | _ => exact Lists.valid (hn _ _ hq)

/-! ## 7. Keywords about any value -/

section Keywords

variable {setting : Setting} {start : Path} {tag : Tag} {inner inner' : SmallerProbe value}
  {again again' : NarrowerProbe fields} (hi : InsideShifted place inner inner')
  (hn : NarrowerShifted place again again') (hq : q' = place ++ q)

include hq

theorem lists_pinIssues : Lists place (pinIssues value fields q') (pinIssues value fields q) := by
  rcases pinIssues_cases value fields with ⟨expected, -, hp⟩ | ⟨options, -, hp⟩ | hp
  · rw [hp, hp]
    exact .answer (.single hq _)
  · rw [hp, hp]
    exact .after ordinary_entriesOf fun options => .answer (.ite .nil (.single hq _))
  · rw [hp, hp]
    exact Lists.nil

include hn

theorem lists_allOfIssues : Lists place (allOfIssues fields q' again) (allOfIssues fields q again') := by
  refine .after ordinary_branches fun found => ?_
  cases found with
  | none => exact Lists.nil
  | some xs => exact lists_gather fun s _ => hn s _ hq

theorem lists_anyOfIssues : Lists place (anyOfIssues fields q' again) (anyOfIssues fields q again') := by
  refine .after ordinary_branches fun found => ?_
  cases found with
  | none => exact Lists.nil
  | some xs =>
    refine (shifted_exists? fun s _ => Lists.valid (hn s _ hq)).bind ?_
    rintro found _ rfl
    exact .answer (.ite .nil (.single hq _))

theorem lists_oneOfIssues : Lists place (oneOfIssues fields q' again) (oneOfIssues fields q again') := by
  refine .after ordinary_branches fun found => ?_
  cases found with
  | none => exact Lists.nil
  | some xs =>
    refine (shifted_count fun s _ => Lists.valid (hn s _ hq)).bind ?_
    rintro passing _ rfl
    exact .answer (.ite .nil (.single hq _))

theorem lists_notIssues : Lists place (notIssues fields q' again) (notIssues fields q again') := by
  unfold notIssues
  split
  · exact Lists.nil
  · refine (Lists.valid (hn _ _ hq)).bind ?_
    rintro admitted _ rfl
    exact .answer (.ite (.single hq _) .nil)

include hi

theorem lists_conditionalIssues :
    Lists place (conditionalIssues (setting.at start) value fields q' inner again)
      (conditionalIssues setting value fields q inner' again') := by
  unfold conditionalIssues
  split
  · exact Lists.nil
  · refine (shifted_conditionHolds hi (fun s _ _ _ hq => hn s _ hq) hq).bind ?_
    rintro met _ rfl
    split
    · exact Lists.nil
    · exact Lists.nil
    · exact hn _ _ hq

theorem lists_memberIssues :
    Lists place (memberIssues (setting.at start) value tag fields q' inner again)
      (memberIssues setting value tag fields q inner' again') := by
  unfold memberIssues
  refine (lists_pinIssues hq).bind fun pinned pinned' h => ?_
  rw [h.isEmpty_eq]
  refine .ite (.answer h) ?_
  refine (lists_conditionalIssues hi hn hq).bind fun _ _ h₁ => ?_
  refine (lists_allOfIssues hn hq).bind fun _ _ h₂ => ?_
  refine (lists_anyOfIssues hn hq).bind fun _ _ h₃ => ?_
  refine (lists_oneOfIssues hn hq).bind fun _ _ h₄ => ?_
  refine (lists_notIssues hn hq).bind fun _ _ h₅ => ?_
  refine (lists_typeIssues hi hn hq).bind fun _ _ h₆ => .answer ?_
  exact ((((h₁.append h₂).append h₃).append h₄).append h₅).append h₆

end Keywords

/-! ## 8. The whole probe -/

/-- **The issues of a value below a place are its issues, found below the place.** -/
theorem lists_issues (setting : Setting) (start : Path) (value s : Json) (hq : q' = place ++ q) :
    Lists place (issues (setting.at start) value s q') (issues setting value s q) := by
  induction value using Json.sizeInduction generalizing s q q' with
  | step value ih =>
    have inside_shifted : InsideShifted place (inside (setting.at start) value)
        (inside setting value) := fun x h s _ _ hq => ih x h s hq
    induction s using Json.sizeInduction generalizing q q' with
    | step s ihs =>
      cases s with
      | obj tag fields =>
        rw [issues_obj, issues_obj]
        refine lists_memberIssues inside_shifted (fun s hs _ _ hq => ihs s ?_ hq) hq
        simp only [Json.size]
        omega
      | null =>
        rw [issues_null, issues_null]
        exact Lists.nil
      | bool b =>
        cases b with
        | true =>
          rw [issues_true, issues_true]
          exact Lists.nil
        | false =>
          rw [issues_false, issues_false]
          exact .answer (.single hq _)
      | _ =>
        rw [issues_eq, issues_eq, schemaIssues, schemaIssues, hq]
        · exact .invalidNode _ _
        all_goals simp

theorem lists_issues? (setting : Setting) (start : Path) (value : Option Json) (s : Json)
    (hq : q' = place ++ q) :
    Lists place (issues? (setting.at start) value s q') (issues? setting value s q) := by
  cases value with
  | some x => exact lists_issues setting start x s hq
  | none =>
    cases s with
    | null | bool | obj => exact Lists.nil
    | _ =>
      rw [hq]
      exact .invalidNode _ _

/-- **Whether a condition is met does not depend on the path.** -/
theorem shifted_meets (setting : Setting) (start : Path) (value : Option Json) (condition : Json)
    (hq : q' = place ++ q) :
    Shifted place Eq (meets (setting.at start) value condition q')
      (meets setting value condition q) := by
  cases value with
  | none => exact .answer rfl
  | some x =>
    exact shifted_conditionHolds (fun y _ s _ _ hq => lists_issues setting start y s hq)
      (fun s _ _ _ hq => lists_issues setting start x s hq) hq

end Probe

end Conform
