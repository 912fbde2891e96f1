/-
# Issues are found where they are said to be

An issue names a place.  `Leads` says which value stands there: names of members and decimal indices lead
from a value to what is inside it.  Not every issue is about something that is there, though.  A missing
property is looked for where it is not, and the issues of how many items satisfy a schema and of how a
member is called are put under the keyword that says so.  `Addresses` lists these cases, and it is carried
from what is inside a value to the value, one step of the path at a time.

The proof follows the probe.  Every check extends the path that it is given by the name under which it
reads, or by the index, and goes on with what it has read there (`Located.member`, `Located.item`); all
others leave the path as it is.  So nothing has to be known about the schema: whatever stands in it, and
whatever its references lead to, is held against the value at hand.
-/
import Conform.Proofs.Deciding
import Conform.Proofs.Endings
import Conform.Proofs.Valid
import Conform.Session

namespace Conform

open Fields (get?)

/-! ## 1. Places in a value -/

open Json (Leads)

/-- **The path addresses a place of the value**: something that is there, a property that the reason says is
missing, or an array or an object and the keyword that is about it. -/
inductive Addresses : Json → Path → Reason → Prop
  | node {value x : Json} {path : Path} {reason : Reason} (leads : Leads value path x) :
      Addresses value path reason
  | missing {value : Json} (place : Path) {tag : Tag} {fields : Fields} {name : String}
      (leads : Leads value place (.obj tag fields)) (absent : get? fields name = none) :
      Addresses value (place ++ [name]) (.missing name)
  | contained {value : Json} (place : Path) {tag : Tag} {items : List Json} {reason : Reason}
      (leads : Leads value place (.arr tag items)) : Addresses value (place ++ ["contains"]) reason
  | named {value : Json} (place : Path) {tag : Tag} {fields : Fields} {reason : Reason}
      (leads : Leads value place (.obj tag fields)) :
      Addresses value (place ++ ["propertyNames"]) reason

namespace Addresses

variable {x : Json} {path : Path} {reason : Reason} {tag : Tag}

/-- What is addressed in a member is addressed in the object. -/
theorem member {fields : Fields} {name : String} (found : get? fields name = some x)
    (h : Addresses x path reason) : Addresses (.obj tag fields) (name :: path) reason := by
  cases h with
  | node leads => exact .node (.member found leads)
  | missing place leads absent => exact .missing (name :: place) (.member found leads) absent
  | contained place leads => exact .contained (name :: place) (.member found leads)
  | named place leads => exact .named (name :: place) (.member found leads)

/-- What is addressed in an item is addressed in the array. -/
theorem item {items : List Json} {i : Nat} (found : items[i]? = some x) (h : Addresses x path reason) :
    Addresses (.arr tag items) (Nat.repr i :: path) reason := by
  cases h with
  | node leads => exact .node (.item found leads)
  | missing place leads absent => exact .missing (Nat.repr i :: place) (.item found leads) absent
  | contained place leads => exact .contained (Nat.repr i :: place) (.item found leads)
  | named place leads => exact .named (Nat.repr i :: place) (.item found leads)

/-- In a text there is nothing but the text. -/
theorem path_of_str {s : String} (h : Addresses (.str s) path reason) : path = [] := by
  cases h with
  | node leads | missing _ leads | contained _ leads | named _ leads => cases leads <;> rfl

end Addresses

/-- **The issue is located in the value**, which itself is found at the path. -/
def Located (value : Json) (path : Path) (issue : Issue) : Prop :=
  ∃ inner, issue.path = path ++ inner ∧ Addresses value inner issue.reason

namespace Located

variable {x value : Json} {path : Path} {issue : Issue} {tag : Tag}

/-- An issue of the value itself. -/
theorem here (h : issue.path = path) : Located value path issue :=
  ⟨[], by rw [h, List.append_nil], .node (.here value)⟩

theorem member {fields : Fields} {name : String} (found : get? fields name = some x)
    (h : Located x (path ++ [name]) issue) : Located (.obj tag fields) path issue := by
  obtain ⟨inner, hp, addresses⟩ := h
  exact ⟨name :: inner, by rw [hp, List.append_assoc, List.singleton_append], addresses.member found⟩

theorem item {items : List Json} {i : Nat} (found : items[i]? = some x)
    (h : Located x (path ++ [Nat.repr i]) issue) : Located (.arr tag items) path issue := by
  obtain ⟨inner, hp, addresses⟩ := h
  exact ⟨Nat.repr i :: inner, by rw [hp, List.append_assoc, List.singleton_append], addresses.item found⟩

/-- An issue of a name is put under the keyword about names. -/
theorem name {fields : Fields} {s : String} (h : Located (.str s) (path ++ ["propertyNames"]) issue) :
    Located (.obj tag fields) path issue := by
  obtain ⟨inner, hp, addresses⟩ := h
  obtain rfl := addresses.path_of_str
  exact ⟨["propertyNames"], by rw [hp, List.append_nil], .named [] (.here _)⟩

/-- **A missing property** is not there, or it counts as missing where it is. -/
theorem missing {fields : Fields} (name : Json) :
    Located (.obj tag fields) path (Probe.missingIssue name path) := by
  refine ⟨[name.plain], rfl, ?_⟩
  cases found : get? fields name.plain with
  | none => exact .missing [] (.here _) found
  | some x => exact .node (.member found (.here x))

end Located

namespace Probe

/-! ## 2. What a check finds -/

/-- An issue that is only there under a condition: what holds of it holds of whatever is there. -/
theorem forall_mem_when {P : Issue → Prop} {issue : Issue} {p : Prop} [Decidable p] (h : P issue) :
    ∀ other ∈ (if p then [issue] else []), P other := by
  split
  · exact List.forall_mem_singleton.2 h
  · exact nofun

/-- **Whatever issues the check ends with**, something holds of all of them. -/
def Finds (P : Issue → Prop) (check : Check (List Issue)) : Prop :=
  ∀ found, check = .ok found → ∀ issue ∈ found, P issue

namespace Finds

variable {P Q : Issue → Prop} {α : Type} {xs : List α}

theorem answer {found : List Issue} (h : ∀ issue ∈ found, P issue) : Finds P (.ok found) := by
  rintro _ ⟨⟩
  exact h

theorem nil : Finds P (.ok []) := .answer nofun

theorem single {issue : Issue} (h : P issue) : Finds P (.ok [issue]) :=
  .answer (List.forall_mem_singleton.2 h)

theorem noted {issue : Issue} {p : Prop} [Decidable p] (h : P issue) :
    Finds P (.ok (if p then [issue] else [])) := .answer (forall_mem_when h)

theorem waived {issue : Issue} {p : Prop} [Decidable p] (h : P issue) :
    Finds P (.ok (if p then [] else [issue])) := by
  split
  · exact .nil
  · exact .single h

theorem error {fault : Fault} : Finds P (.error fault) := nofun

theorem mono {check : Check (List Issue)} (h : Finds P check) (hQ : ∀ issue, P issue → Q issue) :
    Finds Q check := fun found hf issue hm => hQ issue (h found hf issue hm)

/-- A check after a check, of whose answer nothing is known. -/
theorem after {check : Check α} {next : α → Check (List Issue)}
    (h : ∀ a, check = .ok a → Finds P (next a)) : Finds P (check >>= next) := by
  intro found hf
  obtain ⟨a, ha, hf⟩ := bind_eq_ok.1 hf
  exact h a ha found hf

/-- Issues found first, and the rest of the check. -/
theorem bind {check : Check (List Issue)} {next : List Issue → Check (List Issue)} (h : Finds P check)
    (hn : ∀ found, (∀ issue ∈ found, P issue) → Finds P (next found)) : Finds P (check >>= next) :=
  .after fun found hf => hn found (h found hf)

theorem ite {p : Prop} [Decidable p] {check check' : Check (List Issue)} (h : p → Finds P check)
    (h' : ¬p → Finds P check') : Finds P (if p then check else check') := by
  split
  · next hp => exact h hp
  · next hp => exact h' hp

theorem gather {f : (x : α) → x ∈ xs → Check (List Issue)} (h : ∀ x hx, Finds P (f x hx)) :
    Finds P (gather xs f) := by
  induction xs with
  | nil => exact .nil
  | cons x xs ih =>
    refine (h x _).bind fun first hfirst => ?_
    exact (ih fun y hy => h y _).bind fun others hothers =>
      .answer (List.forall_mem_append.2 ⟨hfirst, hothers⟩)

theorem gatherFrom {i : Nat} {f : Nat → (x : α) → x ∈ xs → Check (List Issue)}
    (h : ∀ x j hx, (x, j) ∈ xs.zipIdx i → Finds P (f j x hx)) : Finds P (gatherFrom i xs f) := by
  induction xs generalizing i with
  | nil => exact .nil
  | cons x xs ih =>
    refine (h x i _ (by simp)).bind fun first hfirst => ?_
    refine (ih fun y j hy hm => h y j _ ?_).bind fun others hothers =>
      .answer (List.forall_mem_append.2 ⟨hfirst, hothers⟩)
    rw [List.zipIdx_cons]
    exact List.mem_cons_of_mem _ hm

end Finds

/-! ## 3. Checks of the value itself -/

/-- Does the reason say that a property is missing? -/
def isMissing : Reason → Bool
  | .missing _ => true
  | _ => false

/-- Does the reason say that a value is not the one that is asked for, or that there has to be one? -/
def isWaivable : Reason → Bool
  | .notConstant _ => true
  | .notEnumerated _ => true
  | reason => isMissing reason

theorem isMissing_of_isWaivable {reason : Reason} (h : isWaivable reason = false) :
    isMissing reason = false := by
  cases reason with
  | missing => cases h
  | _ => rfl

section Plain

variable {P : Issue → Prop} {value : Json} {fields : Fields} {path : Path}
  (hp : ∀ reason, isWaivable reason = false → P ⟨reason, path⟩)

include hp

theorem finds_limitIssue {k : String} {missed : Json → Check Bool} {reason : Json → Reason}
    (hr : ∀ limit, isWaivable (reason limit) = false) :
    Finds P (limitIssue fields k missed reason path) := by
  unfold limitIssue
  split
  · exact .nil
  · exact .after fun _ _ => .noted (hp _ (hr _))

theorem finds_stringIssues {segmenter : Segmenter} {engine : Pattern.Engine} :
    Finds P (stringIssues segmenter engine value fields path) := by
  have lengths : ∀ s, Finds P (lengthIssues segmenter s fields path) := by
    intro s
    refine .ite (fun _ => .after fun n _ => ?_) fun _ => .nil
    refine (finds_limitIssue hp fun _ => rfl).bind fun short hshort => ?_
    exact (finds_limitIssue hp fun _ => rfl).bind fun long hlong =>
      .answer (List.forall_mem_append.2 ⟨hshort, hlong⟩)
  have formats : ∀ s, Finds P (formatIssues s fields path) := by
    intro s
    unfold formatIssues
    split
    · exact .nil
    · exact .after fun _ _ => .waived (hp _ rfl)
  unfold stringIssues
  split
  · refine (lengths _).bind fun length hlength => ?_
    refine (finds_limitIssue hp fun _ => rfl).bind fun pattern hpattern => ?_
    refine (formats _).bind fun format hformat => .answer ?_
    simp only [List.forall_mem_append, and_assoc]
    exact ⟨hlength, hpattern, hformat⟩
  · exact .single (hp _ rfl)

theorem finds_numberIssues {kind : Kind} : Finds P (.ok (numberIssues kind value fields path)) := by
  have bounds : ∀ {bound violated reason}, (∀ limit, isWaivable (reason limit) = false) →
      ∀ issue ∈ boundIssue bound violated reason path, P issue := by
    intro bound violated reason hr
    unfold boundIssue
    split
    · exact forall_mem_when (hp _ (hr _))
    · exact nofun
  cases value with
  | num n =>
    refine .answer ?_
    simp only [numberIssues, List.forall_mem_append, and_assoc]
    exact ⟨forall_mem_when (hp _ rfl), bounds fun _ => rfl, bounds fun _ => rfl, bounds fun _ => rfl,
      bounds fun _ => rfl, bounds fun _ => rfl⟩
  | _ => exact .single (hp _ rfl)

theorem finds_memberCountIssues {n : Nat} : Finds P (memberCountIssues n fields path) := by
  refine (finds_limitIssue hp fun _ => rfl).bind fun few hfew => ?_
  exact (finds_limitIssue hp fun _ => rfl).bind fun many hmany =>
    .answer (List.forall_mem_append.2 ⟨hfew, hmany⟩)

/-- Only how many items satisfy the schema of `contains` is put below the list. -/
theorem finds_listIssues {items : List Json} {probe : ItemProbe items}
    (hc : ∀ reason, isWaivable reason = false → P ⟨reason, path ++ ["contains"]⟩) :
    Finds P (listIssues items fields path probe) := by
  have contained : Finds P (containsIssues items fields path probe) := by
    unfold containsIssues
    split
    · exact .nil
    · refine .after fun found _ => .after fun few _ => ?_
      refine (finds_limitIssue hc fun _ => rfl).bind fun many hmany =>
        .answer (List.forall_mem_append.2 ⟨forall_mem_when ?_, hmany⟩)
      split <;> exact hc _ rfl
  refine (finds_limitIssue hp fun _ => rfl).bind fun few hfew => ?_
  refine (finds_limitIssue hp fun _ => rfl).bind fun many hmany => ?_
  refine contained.bind fun found hfound => .answer ?_
  simp only [List.forall_mem_append, and_assoc]
  exact ⟨hfew, hmany, forall_mem_when (hp _ rfl), hfound⟩

end Plain

theorem finds_pinIssues {P : Issue → Prop} {value : Json} {fields : Fields} {path : Path}
    (hp : ∀ reason, isMissing reason = false → P ⟨reason, path⟩) :
    Finds P (pinIssues value fields path) := by
  rcases pinIssues_cases value fields with ⟨expected, -, h⟩ | ⟨options, -, h⟩ | h
  · rw [h]
    exact .single (hp _ rfl)
  · rw [h]
    exact .after fun _ _ => .waived (hp _ rfl)
  · rw [h]
    exact .nil

/-! ## 4. Items and members -/

/-- Probes of what is inside a value locate their issues there. -/
def InsideLocates {value : Json} (inner : SmallerProbe value) : Prop :=
  ∀ x h s path, x.Proper → Finds (Located x path) (inner x h s path)

/-- Probes of a value against smaller schemas locate their issues in the value. -/
def NarrowerLocates (value : Json) {fields : Fields} (again : NarrowerProbe fields) : Prop :=
  ∀ s h path, Finds (Located value path) (again s h path)

section Parts

variable {setting : Setting} {fields members : Fields} {path : Path} {tag : Tag}

theorem finds_arrayIssues {items : List Json} {probe : ItemProbe items}
    (h : ∀ x hx s path, Finds (Located x path) (probe x hx s path)) :
    Finds (Located (.arr tag items) path) (arrayIssues items fields path probe) := by
  have whole : Finds (Located (.arr tag items) path) (listIssues items fields path probe) :=
    finds_listIssues (fun _ _ => .here rfl)
      fun _ _ => ⟨["contains"], rfl, .contained [] (.here _)⟩
  refine whole.bind fun _ hwhole => Finds.bind (.gatherFrom fun x i hx hm => ?_) fun _ heach =>
    .answer (List.forall_mem_append.2 ⟨hwhole, heach⟩)
  have there : items[i]? = some x := List.mk_mem_zipIdx_iff_getElem?.1 hm
  unfold itemIssues
  split
  · exact .nil
  · exact .nil
  · exact .single (.item there (.here rfl))
  · exact (h x hx _ _).mono fun _ => .item there

variable {inner : SmallerProbe (.obj tag members)} (ha : setting.options.accessor = .direct)
  (proper : (Json.obj tag members).Proper) (hi : InsideLocates inner)

theorem finds_requiredIssues {accessor : Accessor} :
    Finds (Located (.obj tag members) path) (requiredIssues accessor (.obj tag members) fields path) := by
  refine .after fun names _ => .gather fun name _ => .after fun found _ => .after fun schema _ => ?_
  exact .noted (.missing name)

theorem finds_dependentIssues {accessor : Accessor} :
    Finds (Located (.obj tag members) path) (dependentIssues accessor (.obj tag members) fields path) := by
  refine .after fun table _ => .gather fun entry _ => .after fun trigger _ => ?_
  cases trigger with
  | none => exact .nil
  | some _ =>
    refine .after fun names _ => .gather fun name _ => .after fun found _ => ?_
    exact .waived (.missing name)

include proper hi

/-- The issues of a member are located in the object. -/
theorem finds_member {member : String × Json} (hm : member ∈ members) (schema : Json) :
    Finds (Located (.obj tag members) path)
      (inner member.2 (Json.size_lt_of_mem_fields tag hm) schema (path ++ [member.1])) :=
  (hi _ _ _ _ (proper.of_mem_fields hm)).mono fun _ =>
    .member (Fields.get?_of_mem proper.distinct hm)

include ha in
theorem finds_propertyIssues {name : String} {schema : Json} :
    Finds (Located (.obj tag members) path)
      (propertyIssues setting tag members path inner name schema) := by
  have read : setting.options.accessor.read (.obj tag members) (.str name) = .ok (get? members name) := by
    rw [ha]
    rfl
  cases found : get? members name with
  | none =>
    rw [propertyIssues_of_none (read.trans (congrArg _ found))]
    exact .nil
  | some x =>
    rw [propertyIssues_of_some (read.trans (congrArg _ found))]
    refine .ite (fun _ => .nil) fun _ => ?_
    exact (hi _ _ _ _ (proper.of_get? found)).mono fun _ => .member found

theorem finds_patternIssues {properties : Fields} {member : String × Json} (hm : member ∈ members) :
    Finds (Located (.obj tag members) path)
      (patternIssues setting tag members fields path inner properties member hm) :=
  .ite (fun _ => .nil) fun _ => .after fun _ _ => .gather fun _ _ => .after fun _ _ =>
    .ite (fun _ => finds_member proper hi hm _) fun _ => .nil

theorem finds_additionalIssues {additional : Json} {member : String × Json} (hm : member ∈ members) :
    Finds (Located (.obj tag members) path)
      (additionalIssues setting tag members fields path inner additional member hm) := by
  have there : ∀ reason, Located (.obj tag members) path ⟨reason, path ++ [member.1]⟩ := fun _ =>
    .member (Fields.get?_of_mem proper.distinct hm) (.here rfl)
  refine .after fun uncovered _ => .ite (fun _ => .nil) fun _ => ?_
  refine .ite (fun _ => .single (there _)) fun _ => .after fun target _ => ?_
  cases target with
  | none => exact .after fun _ _ => .single (there _)
  | some node =>
    cases node with
    | node schema => exact finds_member proper hi hm schema
    | endOfList => exact .error

include ha in
/-- **The issues of an object are located in it.** -/
theorem finds_objectIssues {again : NarrowerProbe fields} (hn : NarrowerLocates (.obj tag members) again) :
    Finds (Located (.obj tag members) path)
      (objectIssues setting tag members fields path inner again) := by
  have additional : Finds (Located (.obj tag members) path)
      (allAdditionalIssues setting tag members fields path inner) := by
    unfold allAdditionalIssues
    split
    · exact .nil
    · exact .gather fun member hm => finds_additionalIssues proper hi hm
  have names : Finds (Located (.obj tag members) path)
      (nameIssues (nameValues members) fields path fun name h schema place =>
        inner name (size_lt_of_mem_nameValues tag h) schema place) := by
    unfold nameIssues
    split
    · exact .nil
    · refine .gather fun name hm => ?_
      obtain ⟨member, _, rfl⟩ := List.mem_map.1 hm
      exact (hi _ _ _ _ (Json.proper_str _)).mono fun _ => .name
  have schemas : Finds (Located (.obj tag members) path)
      (dependentSchemaIssues setting tag members fields path again) := by
    unfold dependentSchemaIssues
    split
    · exact .nil
    · split
      · exact .error
      · refine .gather fun entry _ => .after fun trigger _ => ?_
        cases trigger with
        | none => exact .nil
        | some _ => exact hn _ _ _
  refine (finds_memberCountIssues fun _ _ => .here rfl).bind fun _ h₁ => ?_
  refine finds_requiredIssues.bind fun _ h₂ => finds_dependentIssues.bind fun _ h₃ => ?_
  refine .after fun properties _ => ?_
  refine Finds.bind (.gather fun _ _ => finds_propertyIssues ha proper hi) fun _ h₄ => ?_
  refine Finds.bind (.gather fun _ hm => finds_patternIssues proper hi hm) fun _ h₅ => ?_
  refine additional.bind fun _ h₆ => names.bind fun _ h₇ => schemas.bind fun _ h₈ => .answer ?_
  simp only [List.forall_mem_append, and_assoc]
  exact ⟨h₁, h₂, h₃, h₄, h₅, h₆, h₇, h₈⟩

end Parts

/-! ## 5. The whole probe -/

section Compositions

variable {P : Issue → Prop} {value : Json} {fields : Fields} {path : Path} {again : NarrowerProbe fields}
  (hn : ∀ s h, Finds P (again s h path))

include hn

/-- What compositions find is found by the schemas in them, or it is about the value. -/
theorem finds_compositions (hp : ∀ reason, isMissing reason = false → P ⟨reason, path⟩) :
    Finds P (allOfIssues fields path again) ∧ Finds P (anyOfIssues fields path again) ∧
      Finds P (oneOfIssues fields path again) ∧ Finds P (notIssues fields path again) := by
  refine ⟨.after fun found _ => ?_, .after fun found _ => ?_, .after fun found _ => ?_, ?_⟩
  · cases found with
    | none => exact .nil
    | some xs => exact .gather fun s _ => hn _ _
  · cases found with
    | none => exact .nil
    | some xs => exact .after fun _ _ => .waived (hp _ rfl)
  · cases found with
    | none => exact .nil
    | some xs => exact .after fun _ _ => .waived (hp _ rfl)
  · unfold notIssues
    split
    · exact .nil
    · exact .after fun _ _ => .noted (hp _ rfl)

theorem finds_conditionalIssues {setting : Setting} {inner : SmallerProbe value} :
    Finds P (conditionalIssues setting value fields path inner again) := by
  unfold conditionalIssues
  split
  · exact .nil
  · refine .after fun met _ => ?_
    split
    · exact .nil
    · exact .nil
    · exact hn _ _

end Compositions

section Members

variable {P : Issue → Prop} {setting : Setting} {value : Json} {tag : Tag} {fields : Fields} {path : Path}
  {inner : SmallerProbe value} {again : NarrowerProbe fields}
  (hp : ∀ reason, isMissing reason = false → P ⟨reason, path⟩)

include hp

/-- What is found by type is found by a kind, or it is about the value. -/
theorem finds_typeIssues
    (hk : ∀ kind {fields' : Fields} (again' : NarrowerProbe fields'),
      (∀ s h place, ∃ h', again' s h place = again s h' place) →
      Finds P (kindIssues setting kind value fields' path inner again')) :
    Finds P (typeIssues setting value tag fields path inner again) := by
  have same : ∀ s h place, ∃ h', again s h place = again s h' place := fun s h place => ⟨h, rfl⟩
  unfold typeIssues
  split
  · split
    · exact .nil
    · exact hk _ again same
  · split
    · split
      · exact hk _ again same
      · exact .single (hp _ rfl)
    · exact .single (hp _ rfl)
  · split
    · exact .after fun names _ => .single (hp _ rfl)
    · exact hk _ _ fun s h place => ⟨_, rfl⟩

theorem finds_memberIssues (hn : ∀ s h, Finds P (again s h path))
    (ht : Finds P (typeIssues setting value tag fields path inner again)) :
    Finds P (memberIssues setting value tag fields path inner again) := by
  obtain ⟨all, any, one, negated⟩ := finds_compositions hn hp
  refine (finds_pinIssues hp).bind fun _ hpinned => .ite (fun _ => .answer hpinned) fun _ => ?_
  refine (finds_conditionalIssues hn).bind fun _ h₁ => ?_
  refine all.bind fun _ h₂ => any.bind fun _ h₃ => one.bind fun _ h₄ => negated.bind fun _ h₅ => ?_
  refine ht.bind fun _ h₆ => .answer ?_
  simp only [List.forall_mem_append, and_assoc]
  exact ⟨h₁, h₂, h₃, h₄, h₅, h₆⟩

end Members

section Whole

variable {setting : Setting} {value : Json} {tag : Tag} {fields : Fields} {path : Path}
  {inner : SmallerProbe value} {again : NarrowerProbe fields}
  (ha : setting.options.accessor = .direct) (proper : value.Proper) (hi : InsideLocates inner)
  (hn : NarrowerLocates value again)

include ha proper hi hn

theorem finds_kindIssues (kind : Kind) :
    Finds (Located value path) (kindIssues setting kind value fields path inner again) := by
  cases kind with
  | null | boolean => exact .waived (.here rfl)
  | number | integer => exact finds_numberIssues fun _ _ => .here rfl
  | string => exact finds_stringIssues fun _ _ => .here rfl
  | array =>
    cases value with
    | arr tag items => exact finds_arrayIssues fun x hx s place => hi _ _ _ _ (proper.of_mem_items hx)
    | _ => exact .single (.here rfl)
  | object =>
    cases value with
    | obj tag members => exact finds_objectIssues ha proper hi hn
    | _ => exact .single (.here rfl)

end Whole

/-- **All issues of a value are located in it**, whatever the schema and wherever the value is. -/
theorem located_issues (setting : Setting) {value : Json} (ha : setting.options.accessor = .direct)
    (proper : value.Proper) (s : Json) (path : Path) :
    Finds (Located value path) (issues setting value s path) := by
  induction value using Json.sizeInduction generalizing s path with
  | step value ih =>
    have inside_locates : InsideLocates (inside setting value) :=
      fun x h s place hx => ih x h hx s place
    induction s using Json.sizeInduction generalizing path with
    | step s ihs =>
      cases s with
      | obj tag fields =>
        have narrower_locates : NarrowerLocates value (narrower setting value fields) := by
          intro s h place
          refine ihs s ?_ place
          simp only [Json.size]
          omega
        have kinds : ∀ kind {fields' : Fields} (again' : NarrowerProbe fields'),
            (∀ s h place, ∃ h', again' s h place = narrower setting value fields s h' place) →
            Finds (Located value path)
              (kindIssues setting kind value fields' path (inside setting value) again') := by
          intro kind fields' again' same
          refine finds_kindIssues ha proper inside_locates (fun s h place => ?_) kind
          obtain ⟨h', e⟩ := same s h place
          exact e ▸ narrower_locates s h' place
        have here : ∀ reason, isMissing reason = false → Located value path ⟨reason, path⟩ :=
          fun _ _ => .here rfl
        rw [issues_obj]
        exact finds_memberIssues here (fun s h => narrower_locates s h path)
          (finds_typeIssues here kinds)
      | null =>
        rw [issues_null]
        exact .nil
      | bool b =>
        cases b with
        | true =>
          rw [issues_true]
          exact .nil
        | false =>
          rw [issues_false]
          exact .single (.here rfl)
      | _ =>
        rw [issues_eq, schemaIssues]
        · exact .error
        all_goals simp

end Probe

/-- **Every issue addresses the value that is probed.**  Where the path of an issue starts at the root, it
leads to something in the value; or else its last name is put to the path of an object or an array in the
value, and it is the name of a property that is not there and that the message names, or one of the
keywords `contains` and `propertyNames`.  That is so for every schema, well formed or not, and whatever
its references lead to. -/
theorem issues_address_value {value : Option Json} {schema : Json} {options : Options} {found : List Issue}
    (direct : options.accessor = .direct) (from_root : options.currentPath = [])
    (proper : ∀ root, value = some root → root.Proper)
    (h : validateValue value schema options = .ok found) :
    ∀ issue ∈ found, ∃ root, value = some root ∧
      ((∃ node, Leads root issue.path node) ∨
        ∃ place last container, issue.path = place ++ [last] ∧ Leads root place container ∧
          ((∃ tag fields, container = .obj tag fields ∧ get? fields last = none ∧
              issue.message = "Missing required property: " ++ last) ∨
            (last = "contains" ∧ ∃ tag items, container = .arr tag items) ∨
            (last = "propertyNames" ∧ ∃ tag fields, container = .obj tag fields))) := by
  intro issue hm
  cases value with
  | none =>
    have nothing : found = [] := by
      cases schema <;> cases h <;> rfl
    rw [nothing] at hm
    cases hm
  | some root =>
    refine ⟨root, rfl, ?_⟩
    obtain ⟨inner, hp, addresses⟩ :=
      Probe.located_issues ⟨options, schema⟩ direct (proper root rfl) schema _ found h issue hm
    replace hp : issue.path = inner := by
      rw [hp]
      show options.currentPath ++ inner = inner
      rw [from_root, List.nil_append]
    obtain ⟨reason, path⟩ := issue
    obtain rfl : path = inner := hp
    cases addresses with
    | node leads => exact .inl ⟨_, leads⟩
    | missing place leads absent => exact .inr ⟨_, _, _, rfl, leads, .inl ⟨_, _, rfl, absent, rfl⟩⟩
    | contained place leads => exact .inr ⟨_, _, _, rfl, leads, .inr (.inl ⟨rfl, _, _, rfl⟩)⟩
    | named place leads => exact .inr ⟨_, _, _, rfl, leads, .inr (.inr ⟨rfl, _, _, rfl⟩)⟩

/-- A schema of itself for further members: each kind of place is addressed, and all but one of them one
member down. -/
theorem issues_address_value_nested :
    let schema : Json := .obj none [
      ("required", .arr none [.str "size"]),
      ("propertyNames", .obj none [("maxLength", .num (.int 4))]),
      ("properties", .obj none [("list", .obj none [
        ("contains", .obj none [("type", .str "string")]),
        ("allOf", .arr none [.obj none [("items", .obj none [("maximum", .num (.int 2))])]])])]),
      ("additionalProperties", .obj none [("$ref", .str "#")])]
    let value : Json := .obj none [
      ("inner", .obj none [("list", .arr none [.num (.int 1), .num (.int 3)])]), ("size", .null)]
    let found : List Issue := [⟨.missing "size", ["inner", "size"]⟩,
      ⟨.above (.num (.int 2)), ["inner", "list", "1"]⟩, ⟨.containsNone, ["inner", "list", "contains"]⟩,
      ⟨.tooLong (.num (.int 4)), ["propertyNames"]⟩]
    validateValue (some value) schema .default = .ok found ∧
      ∀ issue ∈ found, (∃ node, Leads value issue.path node) ∨
        ∃ place last container, issue.path = place ++ [last] ∧ Leads value place container ∧
          ((∃ tag fields, container = .obj tag fields ∧ get? fields last = none ∧
              issue.message = "Missing required property: " ++ last) ∨
            (last = "contains" ∧ ∃ tag items, container = .arr tag items) ∨
            (last = "propertyNames" ∧ ∃ tag fields, container = .obj tag fields)) := by
  intro schema value found
  have probed : validateValue (some value) schema .default = .ok found := by decide +kernel
  have proper : ∀ root, some value = some root → root.Proper := by
    rintro _ ⟨⟩
    decide +kernel
  refine ⟨probed, fun issue hm => ?_⟩
  obtain ⟨root, hroot, addressed⟩ := issues_address_value rfl rfl proper probed issue hm
  obtain rfl : value = root := Option.some.inj hroot
  exact addressed

end Conform
