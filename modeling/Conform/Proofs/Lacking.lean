/-
# What is reported missing was not supplied

A resolution that fails may say of a property that it is missing.  Following the path of such an issue from
the value one comes to something that is not there: a null, or an object without the next name
(`Unsupplied`).  So no property that is present is reported missing.

Not that the object which lacks the property need be one of the value.  Patterns and schemas that depend
on members resolve what has been built so far, and a missing object may have been built by then from what
stands in for its members: the path ends above it.  What is built extends the value (`Json.Extends`), so
whatever is not there in the end was not there before (`Unsupplied.of_extends`).

There is one thing about which nothing is said.  A member whose resolution failed is not built, and schemas
that depend on members find it gone.  But then its own issues are there as well: where an issue is
`Overlooked` another one stands at the member or below it.

The invariant of the stages of an object is `Standing`: every issue so far is explained, and every member is
built or has an issue to show for it.
-/
import Conform.Proofs.Addressing
import Conform.Proofs.Filling
import Conform.Proofs.Totality

namespace Conform

open Fields (get?)
open Json (Extends Extends? Leads)

/-! ## 1. What is not supplied -/

/-- **Following the path one comes to something that is not there**: a null, or an object without the next
name. -/
inductive Unsupplied : Json → Path → Prop
  | null {path : Path} : Unsupplied .null path
  | absent {tag : Tag} {fields : Fields} {name : String} {rest : Path}
      (absent : get? fields name = none) : Unsupplied (.obj tag fields) (name :: rest)
  | member {tag : Tag} {fields : Fields} {name : String} {x : Json} {rest : Path}
      (found : get? fields name = some x) (next : Unsupplied x rest) :
      Unsupplied (.obj tag fields) (name :: rest)
  | item {tag : Tag} {items : List Json} {i : Nat} {x : Json} {rest : Path}
      (found : items[i]? = some x) (next : Unsupplied x rest) :
      Unsupplied (.arr tag items) (Nat.repr i :: rest)

/-- The same of a value that may be missing, in which nothing is there. -/
def Unsupplied? : Option Json → Path → Prop
  | none, _ => True
  | some x, path => Unsupplied x path

namespace Unsupplied

variable {x y : Json} {tag : Tag} {fields : Fields} {name : String} {path rest : Path}

/-- What is not supplied in a member is not supplied in the object. -/
theorem of_member (h : Unsupplied? (get? fields name) rest) :
    Unsupplied (.obj tag fields) (name :: rest) := by
  cases found : get? fields name with
  | none => exact .absent found
  | some x =>
    rw [found] at h
    exact .member found h

/-- Nothing else is not supplied in an object. -/
theorem of_obj (h : Unsupplied (.obj tag fields) path) :
    ∃ name rest, path = name :: rest ∧ Unsupplied? (get? fields name) rest := by
  cases h with
  | absent absent => exact ⟨_, _, rfl, absent ▸ trivial⟩
  | member found next => exact ⟨_, _, rfl, found ▸ next⟩

/-- **What is not there in the end was not there before**, where nothing was lost. -/
theorem of_extends (h : Unsupplied y path) (proper : x.Proper) (he : Extends True x y) :
    Unsupplied x path := by
  induction h generalizing x with
  | null =>
    by_cases hx : x = .null
    · exact hx ▸ .null
    · obtain ⟨_, ⟨⟩, hne, -⟩ := Json.exists_of_extends? hx he.some
      exact absurd rfl hne
  | @absent tag fields name rest absent =>
    cases x with
    | null => exact .null
    | obj tag' members =>
      obtain ⟨_, _, ⟨⟩, hk⟩ := (Json.extends_obj_iff proper.distinct).1 he
      refine .of_member ?_
      have hname := hk name
      rw [absent] at hname
      cases found : get? members name with
      | none => trivial
      | some z =>
        rw [found] at hname
        obtain ⟨-, rfl⟩ := hname.resolve_right fun ⟨_, hz, _⟩ => nomatch hz
        exact .null
    | arr => obtain ⟨_, _, ⟨⟩, -⟩ := Json.extends_arr_iff.1 he
    | _ => cases he
  | @member tag fields name y rest found next ih =>
    cases x with
    | null => exact .null
    | obj tag' members =>
      obtain ⟨_, _, ⟨⟩, hk⟩ := (Json.extends_obj_iff proper.distinct).1 he
      refine .of_member ?_
      have hname := hk name
      cases there : get? members name with
      | none => trivial
      | some z =>
        rw [there, found] at hname
        exact ih (proper.of_get? there) (Json.extends_of_extends? hname)
    | arr => obtain ⟨_, _, ⟨⟩, -⟩ := Json.extends_arr_iff.1 he
    | _ => cases he
  | @item tag items i y rest found next ih =>
    cases x with
    | null => exact .null
    | arr tag' xs =>
      obtain ⟨_, _, ⟨⟩, all⟩ := Json.extends_arr_iff.1 he
      obtain ⟨hlt, rfl⟩ := List.getElem?_eq_some_iff.1 found
      have hi : i < xs.length := all.length_eq ▸ hlt
      have there : xs[i]? = some xs[i] := List.getElem?_eq_getElem hi
      exact .item there (ih (proper.of_mem_items (List.getElem_mem hi)) (all.get hi hlt))
    | obj =>
      obtain ⟨_, _, ⟨⟩, -⟩ := (Json.extends_obj_iff proper.distinct).1 he
    | _ => cases he

end Unsupplied

/-- The same of values that may be missing. -/
theorem Unsupplied?.of_extends {a b : Option Json} {path : Path} (h : Unsupplied? b path)
    (proper : ∀ x, a = some x → x.Proper) (he : Extends? True a b) : Unsupplied? a path := by
  cases a with
  | none => trivial
  | some x =>
    rcases he with ⟨-, rfl⟩ | ⟨y, rfl, he⟩
    · exact .null
    · exact Unsupplied.of_extends h (proper x rfl) he

/-! ## 2. Issues that are explained -/

/-- **Another issue stands on the way**: at a property that counts, or below it. -/
def Overlooked (counts : String → Prop) (path inner : Path) (issues : List Issue) (issue : Issue) :
    Prop :=
  ∃ before name after, inner = before ++ name :: after ∧ counts name ∧
    ∃ other ∈ issues, other ≠ issue ∧ path ++ before ++ [name] <+: other.path

/-- **The issue is explained**: it is about something in the value, which is found at the path, and if it
says that a property is missing that one is not supplied, unless another issue stands on the way. -/
def Explained (counts : String → Prop) (path : Path) (value : Option Json) (issues : List Issue)
    (issue : Issue) : Prop :=
  ∃ inner, issue.path = path ++ inner ∧ (Probe.isMissing issue.reason = true →
    Unsupplied? value inner ∨ Overlooked counts path inner issues issue)

/-- The issue is at or below the place, and it says of nothing that it is missing. -/
def Innocent (path : Path) (issue : Issue) : Prop :=
  path <+: issue.path ∧ Probe.isMissing issue.reason = false

section Explained

variable {counts : String → Prop} {path : Path} {value : Option Json} {issues issues' : List Issue}
  {issue : Issue} {key : String}

theorem Overlooked.mono {inner : Path} (h : Overlooked counts path inner issues issue)
    (hsub : issues ⊆ issues') : Overlooked counts path inner issues' issue := by
  obtain ⟨before, name, after, hi, hc, other, hm, hne, hp⟩ := h
  exact ⟨before, name, after, hi, hc, other, hsub hm, hne, hp⟩

theorem Explained.mono (h : Explained counts path value issues issue) (hsub : issues ⊆ issues') :
    Explained counts path value issues' issue := by
  obtain ⟨inner, hp, h⟩ := h
  exact ⟨inner, hp, fun hm => (h hm).imp_right fun h => h.mono hsub⟩

theorem Innocent.here {reason : Reason} (h : Probe.isMissing reason = false) :
    Innocent path ⟨reason, path⟩ := ⟨List.prefix_refl _, h⟩

theorem Innocent.of_unwaivable (reason : Reason) (h : Probe.isWaivable reason = false) :
    Innocent path ⟨reason, path⟩ := .here (Probe.isMissing_of_isWaivable h)

/-- Where nothing is said to be missing nothing has to be explained. -/
theorem Innocent.explained (h : Innocent path issue) : Explained counts path value issues issue := by
  obtain ⟨⟨inner, hp⟩, hr⟩ := h
  refine ⟨inner, hp.symm, fun hm => ?_⟩
  rw [hr] at hm
  cases hm

/-- What is explained for another value is so for this one, if nothing is supplied there that is not
supplied here. -/
theorem Explained.of_value {value' : Option Json} (h : Explained counts path value' issues issue)
    (hv : ∀ inner, Unsupplied? value' inner → Unsupplied? value inner) :
    Explained counts path value issues issue := by
  obtain ⟨inner, hp, h⟩ := h
  exact ⟨inner, hp, fun hm => (h hm).imp_left (hv inner)⟩

/-- **What is explained inside a value is explained in the value.** -/
theorem Explained.inside {part : Option Json} (h : Explained counts (path ++ [key]) part issues issue)
    (hpart : ∀ rest, Unsupplied? part rest → Unsupplied? value (key :: rest)) :
    Explained counts path value issues issue := by
  obtain ⟨inner, hp, h⟩ := h
  refine ⟨key :: inner, by rw [hp, List.append_assoc, List.singleton_append], fun hm => ?_⟩
  refine (h hm).imp (hpart inner) ?_
  rintro ⟨before, name, after, rfl, hc, other, hother, hne, hbelow⟩
  refine ⟨key :: before, name, after, rfl, hc, other, hother, hne, ?_⟩
  rwa [List.append_assoc path, List.singleton_append] at hbelow

end Explained

/-! ## 3. Probes of texts -/

namespace Probe

variable {setting : Setting} {s : Json} {text : String} {path : Path}

/-- **Nothing is missing in a text**, whatever it is held against. -/
theorem finds_text : Finds (fun issue => isMissing issue.reason = false)
    (issues setting (.str text) s path) := by
  induction s using Json.sizeInduction generalizing path with
  | step s ih =>
    cases s with
    | obj tag fields =>
      have here : ∀ reason, isMissing reason = false →
          isMissing (Issue.mk reason path).reason = false := fun _ h => h
      rw [issues_obj]
      refine finds_memberIssues here (fun s h => ?_) (finds_typeIssues here fun kind fields' again' _ => ?_)
      · refine ih s ?_
        simp only [Json.size]
        omega
      · cases kind with
        | null | boolean => exact .waived rfl
        | number | integer => exact finds_numberIssues fun _ => isMissing_of_isWaivable
        | string =>
          rw [kindIssues]
          exact finds_stringIssues fun _ => isMissing_of_isWaivable
        | array | object => exact .single rfl
    | null =>
      rw [issues_null]
      exact .nil
    | bool b =>
      cases b with
      | true =>
        rw [issues_true]
        exact .nil
      | false =>
        rw [issues_false]
        exact .single rfl
    | _ =>
      rw [issues_eq, schemaIssues]
      · exact .error
      all_goals simp

end Probe

/-! ## 4. Schemas -/

namespace Schema

/-- The keywords by which a schema fills in, is composed of others, or leads to another one. -/
def artfulKeywords : List String := "default" :: "const" :: windingKeywords

/-- **A schema without any of them.** -/
def Artless (fields : Fields) : Prop := ∀ k ∈ artfulKeywords, get? fields k = none

instance : DecidablePred Artless := fun fields =>
  inferInstanceAs (Decidable (∀ k ∈ artfulKeywords, get? fields k = none))

/-- **The property is declared beside schemas that depend on members**, in the schema or in one below
it. -/
inductive DeclaredBeside : Json → String → Prop
  | here {tag ptag : Tag} {fields properties : Fields} {name : String} {x : Json}
      (depends : get? fields "dependentSchemas" = some x)
      (declares : get? fields "properties" = some (.obj ptag properties))
      (declared : name ∈ Fields.names properties) : DeclaredBeside (.obj tag fields) name
  | inner {tag : Tag} {fields : Fields} {s : Json} {name : String} (hs : s ∈ subschemas fields)
      (declared : DeclaredBeside s name) : DeclaredBeside (.obj tag fields) name

/-- **What is known of all schemas on the way**: they are well-formed and artless, and the properties that
they declare beside dependent schemas count. -/
structure Plainly (terms : Schema.Terms) (counts : String → Prop) (s : Json) : Prop where
  formed : WellFormed terms s
  artless : Everywhere Artless s
  counts : ∀ name, DeclaredBeside s name → counts name

variable {terms : Schema.Terms} {counts : String → Prop} {tag tag' : Tag} {fields : Fields}
  {k : String} {x s : Json}

theorem Artless.winding (h : Artless fields) : ∀ k ∈ windingKeywords, get? fields k = none :=
  fun k hk => h k (List.mem_cons_of_mem _ (List.mem_cons_of_mem _ hk))

theorem Artless.restrict (h : Artless fields) (kind : Kind) :
    Artless (Schema.restrict fields (.str kind.name)) := by
  intro k hk
  have hne : k ≠ "type" := by
    rintro rfl
    revert hk
    decide
  rcases get?_restrict_cases hne with hn | he
  · exact hn
  · exact he.trans (h k hk)

/-- What remains of a schema for a kind declares nothing else. -/
theorem DeclaredBeside.of_restrict {kind : Kind} {name : String}
    (h : DeclaredBeside (.obj tag' (restrict fields (.str kind.name))) name) :
    DeclaredBeside (.obj tag fields) name := by
  cases h with
  | here depends declares declared =>
    exact .here (get?_of_restrict (by simp) depends) (get?_of_restrict (by simp) declares) declared
  | inner hs declared =>
    obtain ⟨k, y, hm, hs⟩ := mem_subschemas.1 hs
    rcases mem_restrict hm with hm | ⟨rfl, -⟩
    · exact .inner (mem_subschemas.2 ⟨k, y, hm, hs⟩) declared
    · cases hs

namespace Plainly

theorem wholly (h : Plainly terms counts s) : Wholly Artless s := ⟨h.artless, h.formed.proper⟩

/-- What is known of a schema is known of those below it. -/
theorem part (h : Plainly terms counts (.obj tag fields)) (hk : get? fields k = some x)
    (hs : s ∈ partsOf k x) : Plainly terms counts s where
  formed := h.formed.inside hk (mem_schemasIn_of_mem_partsOf hs)
  artless := (h.wholly.part hk hs).everywhere
  counts name hd := h.counts name (.inner (mem_subschemas_of_get? hk hs) hd)

theorem restrict (h : Plainly terms counts (.obj tag fields)) (kind : Kind) :
    Plainly terms counts (.obj tag' (Schema.restrict fields (.str kind.name))) where
  formed := h.formed.restrict
  artless := (h.wholly.restrict (h.artless.here.restrict kind)).everywhere
  counts name hd := h.counts name hd.of_restrict

theorem good (h : Plainly terms counts s) : Resolve.Good Lone s :=
  Resolve.good_of_lone (fun h => h.winding) h.wholly

end Plainly

end Schema

open Schema (Plainly Lone windingKeywords isText)

namespace Resolve

variable {terms : Schema.Terms} {counts : String → Prop} {step : Step}

/-! ## 5. Steps -/

/-- **The run explains what it fails with.** -/
def Accounts (counts : String → Prop) (path : Path) (value : Option Json) (run : Run Outcome) : Prop :=
  ∀ issues, run.result = .ok (.failed issues) →
    ∀ issue ∈ issues, Explained counts path value issues issue

namespace Accounts

variable {path : Path} {value : Option Json} {issues : List Issue}

theorem done {w : Option Json} : Accounts counts path value (Resolve.done w) := nofun

theorem fault {fault : Fault} : Accounts counts path value (Run.fault fault) := nofun

/-- Where nothing is said to be missing nothing has to be explained. -/
theorem fail (h : ∀ issue ∈ issues, Innocent path issue) :
    Accounts counts path value (Resolve.fail issues) := by
  intro found hf issue hm
  obtain ⟨-, rfl⟩ := by simpa using fail_result.1 hf
  exact (h issue hm).explained

/-- There is nothing in a missing value. -/
theorem of_none (h : ∀ issue ∈ issues, path <+: issue.path) :
    Accounts counts path none (Resolve.fail issues) := by
  intro found hf issue hm
  obtain ⟨-, rfl⟩ := by simpa using fail_result.1 hf
  obtain ⟨inner, hp⟩ := h issue hm
  exact ⟨inner, hp.symm, fun _ => .inl trivial⟩

theorem after {α : Type} {run : Run α} {next : α → Run Outcome}
    (h : ∀ a, run.result = .ok a → Accounts counts path value (next a)) :
    Accounts counts path value (run >>= next) := by
  intro issues hr
  obtain ⟨a, ha, hr⟩ := Run.bind_result_eq_ok.1 hr
  exact h a ha issues hr

/-- What is explained for a value of which no more is supplied is explained. -/
theorem of_value {value' : Option Json} {run : Run Outcome} (h : Accounts counts path value' run)
    (hv : ∀ inner, Unsupplied? value' inner → Unsupplied? value inner) :
    Accounts counts path value run :=
  fun issues hr issue hm => (h issues hr issue hm).of_value hv

end Accounts

/-- **Resolutions that explain what they fail with.** -/
def Explains (terms : Schema.Terms) (counts : String → Prop) (path : Path) (again : Again) : Prop :=
  ∀ extension s value parent key negated, Plainly terms counts s →
    (∀ x, value = some x → x.Proper) →
    Accounts counts (path ++ extension) value (again extension ⟨.node s, value, parent, key, negated⟩)

/-- A step at a plain schema, whose further resolutions explain what they fail with. -/
structure Candid (terms : Schema.Terms) (counts : String → Prop) (step : Step) : Prop where
  ready : Ready True Lone Lone step
  plainly : Plainly terms counts step.schema
  explains : Explains terms counts step.path step.again

namespace Candid

/-- What the resolution of something inside the value fails with is explained. -/
theorem descend (h : Candid terms counts step) {key : Json} {s : Json} {value : Option Json}
    (hs : Plainly terms counts s) (hv : ∀ x, value = some x → x.Proper) :
    Accounts counts (step.path ++ [key.plain]) value (step.descend key (.node s) value) :=
  h.explains _ s value _ _ _ hs hv

/-- The schemas in the tables of a schema are plain. -/
theorem table (h : Candid terms counts step) {k name : String} {s : Json} {table : Fields}
    (hk : k ∈ ["properties", "patternProperties", "dependentSchemas"])
    (ht : Probe.membersOf (step.tableOrEmpty k) = .ok table) (hm : (name, s) ∈ table) :
    Plainly terms counts s := by
  obtain ⟨tag, hx⟩ := Ready.mem_tableOrEmpty ht hm
  refine h.plainly.part hx ?_
  rw [Schema.partsOf, Schema.Place.ofKeyword, if_pos hk]
  exact List.mem_map.2 ⟨_, hm, rfl⟩

end Candid

/-! ## 6. Objects -/

/-- **What is known of the members built so far**, and of the issues found. -/
structure Sane (counts : String → Prop) (step : Step) (value : Fields) (b : Built) : Prop where
  explained : ∀ issue ∈ b.issues, Explained counts step.path (some (.obj none value)) b.issues issue
  distinct : Fields.Distinct b.members
  proper : ∀ k x, get? b.members k = some x → x.Proper

/-- The member has an issue to show for it. -/
def Blamed (step : Step) (b : Built) (name : String) : Prop :=
  ∃ other ∈ b.issues, step.path ++ [name] <+: other.path

/-- **Every member is built, or it is declared and has an issue to show for it.** -/
structure Standing (counts : String → Prop) (step : Step) (value properties : Fields) (b : Built) :
    Prop extends Sane counts step value b where
  settled : ∀ k, Extends? True (get? value k) (get? b.members k) ∨
    k ∈ Fields.names properties ∧ Blamed step b k

section Members

variable {value properties : Fields} {b b' : Built} {name : String} {found : List Issue}

theorem Blamed.mono (h : Blamed step b name) (hsub : b.issues ⊆ b'.issues) : Blamed step b' name := by
  obtain ⟨other, hm, hp⟩ := h
  exact ⟨other, hsub hm, hp⟩

/-- Further issues that are explained. -/
theorem Sane.report (h : Sane counts step value b)
    (hf : ∀ issue ∈ found, Explained counts step.path (some (.obj none value)) (b.issues ++ found) issue) :
    Sane counts step value (b.report found) where
  explained issue hm := by
    rcases List.mem_append.1 hm with hm | hm
    · exact (h.explained issue hm).mono (List.subset_append_left _ _)
    · exact hf issue hm
  distinct := h.distinct
  proper := h.proper

/-- Setting a member to a proper value. -/
theorem Sane.put (h : Sane counts step value b) {x : Json} (hx : x.Proper) :
    Sane counts step value (b.take name (.resolved (some x))) where
  explained := h.explained
  distinct := h.distinct.put
  proper k y hy := by
    rw [Built.take, Fields.get?_put] at hy
    split at hy
    · cases hy
      exact hx
    · exact h.proper k y hy

theorem Standing.report (h : Standing counts step value properties b)
    (hf : ∀ issue ∈ found, Explained counts step.path (some (.obj none value)) (b.issues ++ found) issue) :
    Standing counts step value properties (b.report found) where
  toSane := h.toSane.report hf
  settled k := (h.settled k).imp_right fun ⟨hk, hb⟩ => ⟨hk, hb.mono (List.subset_append_left _ _)⟩

/-- A property that is missing is explained by what is there in its place. -/
theorem explained_missingIssue {issues : List Issue} (h : Unsupplied? (get? value name) []) :
    Explained counts step.path (some (.obj none value)) issues
      (Probe.missingIssue (.str name) step.path) :=
  ⟨[name], rfl, fun _ => .inl (.of_member h)⟩

/-- What the resolution of a member fails with is explained in the object. -/
theorem explained_member {issues : List Issue} {part : Option Json}
    (hf : ∀ issue ∈ found, Explained counts (step.path ++ [name]) part found issue)
    (hpart : ∀ rest, Unsupplied? part rest → Unsupplied? (get? value name) rest)
    (hsub : found ⊆ issues) :
    ∀ issue ∈ found, Explained counts step.path (some (.obj none value)) issues issue := by
  intro issue hm
  exact ((hf issue hm).mono hsub).inside fun rest h => .of_member (hpart rest h)

/-- **A member that is not declared**, resolved from what has been built. -/
theorem Standing.take (h : Standing counts step value properties b) (hv : (Json.obj none value).Proper)
    (hn : name ∉ Fields.names properties) {outcome : Outcome}
    (hf : ∀ issues, outcome = .failed issues → ∀ issue ∈ issues,
      Explained counts (step.path ++ [name]) (get? b.members name) issues issue)
    (hk : ∀ w, outcome = .resolved w → Kept True (get? b.members name) w) :
    Standing counts step value properties (b.take name outcome) := by
  have extended : Extends? True (get? value name) (get? b.members name) :=
    (h.settled name).resolve_right fun hd => hn hd.1
  cases outcome with
  | failed issues =>
    refine h.report (explained_member (hf issues rfl) (fun rest hu => ?_) (List.subset_append_right _ _))
    exact hu.of_extends (fun x hx => hv.of_get? hx) extended
  | resolved w =>
    cases w with
    | none => exact h
    | some x =>
      have kept := hk _ rfl
      refine ⟨h.toSane.put (kept.proper x rfl), fun k => ?_⟩
      rw [Built.take, Fields.get?_put]
      split
      · next he =>
        subst he
        exact .inl (Json.extends?_trans extended kept.extends?)
      · exact h.settled k

/-- Following a path into what has been built, one comes to something that is not there in the value
either, or past a member with an issue to show for it. -/
theorem Standing.unsupplied (h : Standing counts step value properties b)
    (hv : (Json.obj none value).Proper) {inner : Path}
    (hu : Unsupplied (.obj none b.members) inner) :
    Unsupplied (.obj none value) inner ∨
      ∃ k rest, inner = k :: rest ∧ k ∈ Fields.names properties ∧ Blamed step b k := by
  obtain ⟨k, rest, rfl, hk⟩ := hu.of_obj
  rcases h.settled k with extended | ⟨declared, blamed⟩
  · exact .inl (.of_member (hk.of_extends (fun x hx => hv.of_get? hx) extended))
  · exact .inr ⟨k, rest, rfl, declared, blamed⟩

/-- **A schema that depends on a member**, which resolves all that has been built: what it fails with is
explained in the value, or overlooked for a property that was not built. -/
theorem Standing.follow (h : Standing counts step value properties b)
    (hv : (Json.obj none value).Proper) (hc : ∀ k ∈ Fields.names properties, counts k)
    {outcome : Outcome}
    (hf : ∀ issues, outcome = .failed issues → ∀ issue ∈ issues,
      Explained counts step.path (some (.obj none b.members)) issues issue)
    (hk : ∀ w, outcome = .resolved w → Kept True (some (.obj none b.members)) w) :
    Standing counts step value properties (b.follow outcome) := by
  have before : b.issues ⊆ (b.follow outcome).issues := by
    obtain ⟨more, hm⟩ := b.grows_follow outcome
    exact hm ▸ List.subset_append_left _ _
  cases outcome with
  | failed found =>
    refine h.report fun issue hm => ?_
    obtain ⟨inner, hp, explained⟩ := (hf found rfl issue hm).mono (List.subset_append_right b.issues _)
    by_cases old : issue ∈ b.issues
    · exact (h.explained issue old).mono (List.subset_append_left _ _)
    refine ⟨inner, hp, fun missing => ?_⟩
    rcases explained missing with hu | overlooked
    · refine (h.unsupplied hv hu).imp_right ?_
      rintro ⟨k, rest, rfl, declared, other, hother, hbelow⟩
      refine ⟨[], k, rest, rfl, hc k declared, other, List.mem_append_left _ hother, ?_, ?_⟩
      · exact fun he => old (he ▸ hother)
      · rwa [List.append_nil]
    · exact .inr overlooked
  | resolved w =>
    unfold Built.follow
    split
    · next he => cases he
    · next tag upper he =>
      cases he
      have kept := hk _ rfl
      have proper : (Json.obj tag upper).Proper := kept.proper _ rfl
      obtain ⟨_, _, ⟨⟩, extended⟩ :=
        (Json.extends_obj_iff h.distinct).1 (Json.extends_of_extends? kept.extends?)
      refine ⟨⟨h.explained, h.distinct.union, fun k x hx => ?_⟩, fun k => ?_⟩
      · rw [Fields.get?_union proper.distinct] at hx
        cases hup : get? upper k with
        | some y =>
          rw [hup, Option.some_or, Option.some.injEq] at hx
          exact hx ▸ proper.of_get? hup
        | none =>
          rw [hup, Option.none_or] at hx
          exact h.proper k x hx
      · rw [Fields.get?_union proper.distinct]
        refine (h.settled k).imp_left fun settled => ?_
        cases hup : get? upper k with
        | some y =>
          have hy := extended k
          rw [hup] at hy
          exact Json.extends?_trans settled hy
        | none => simpa using settled
    · exact h

end Members

section Stages

variable {value : Fields} {b b' : Built}

/-- **The declared properties**: each is built from its member, or has an issue to show for it. -/
theorem Candid.properties (h : Candid terms counts step) (hv : (Json.obj none value).Proper)
    {props : Fields} {missing : List Json}
    (hplain : ∀ name s, (name, s) ∈ props → Plainly terms counts s) (hd : Fields.Distinct props)
    (hmissing : ∀ name, Json.listsName missing name = true → Extends? True (get? value name) none)
    (hb : Sane counts step value b) (hnew : ∀ k ∈ Fields.names props, get? b.members k = none)
    (hc : Chain (step.TakesProperty value missing) props b b') :
    Sane counts step value b' ∧ b.issues ⊆ b'.issues ∧
      (∀ k ∈ Fields.names props, Extends? True (get? value k) (get? b'.members k) ∨ Blamed step b' k) ∧
      ∀ k ∉ Fields.names props, get? b'.members k = get? b.members k := by
  induction hc with
  | nil => exact ⟨hb, List.Subset.refl _, fun _ hk => absurd hk List.not_mem_nil, fun _ _ => rfl⟩
  | @cons property rest b t b' first chain ih =>
    obtain ⟨name, s⟩ := property
    obtain ⟨hn, hrest⟩ := Fields.distinct_cons.1 hd
    have hnone : get? b.members name = none := hnew name (List.mem_cons_self ..)
    have before : b.issues ⊆ t.issues := by
      obtain ⟨more, hm⟩ := first.grows
      exact hm ▸ List.subset_append_left _ _
    -- either way the property is settled in `t`
    have settled : Sane counts step value t ∧
        (Extends? True (get? value name) (get? t.members name) ∨ Blamed step t name) := by
      rcases first with ⟨hl, rfl⟩ | ⟨-, found, outcome, hf, ho, rfl⟩
      · exact ⟨hb, .inl (hnone ▸ hmissing name hl)⟩
      · rw [h.ready.readMember_str] at hf
        cases hf
        have plain := hplain name s (List.mem_cons_self ..)
        have proper : ∀ x, get? value name = some x → x.Proper := fun x hx => hv.of_get? hx
        cases outcome with
        | failed issues =>
          have explained := h.descend plain proper issues ho
          refine ⟨hb.report (explained_member explained (fun _ => id)
            (List.subset_append_right _ _)), .inr ?_⟩
          obtain ⟨issue, hm⟩ := List.exists_mem_of_ne_nil issues fun he => by
            subst he
            exact h.ready.honest _ _ ho
          obtain ⟨inner, hp, -⟩ := explained issue hm
          exact ⟨issue, List.mem_append_right _ hm, inner, hp.symm⟩
        | resolved w =>
          have kept : Kept True (get? value name) w :=
            h.ready.descend (fun _ e => by cases e; exact plain.good)
              (fun x hx => ⟨proper x hx, .inl trivial⟩) ho
          cases w with
          | none =>
            refine ⟨hb, .inl ?_⟩
            change Extends? True _ (get? b.members name)
            rw [hnone]
            exact kept.extends?
          | some x =>
            refine ⟨hb.put (kept.proper x rfl), .inl ?_⟩
            rw [Built.take, Fields.get?_put, if_pos rfl]
            exact kept.extends?
    obtain ⟨sane, later, inside, outside⟩ :=
      ih (fun n s hm => hplain n s (List.mem_cons_of_mem _ hm)) hrest settled.1 fun k hk => by
        rw [first.frame k fun e => hn ((show k = name from e) ▸ hk)]
        exact hnew k (List.mem_cons_of_mem _ hk)
    refine ⟨sane, List.Subset.trans before later, fun k hk => ?_, fun k hk => ?_⟩
    · rcases List.mem_cons.1 hk with rfl | hk
      · rw [outside _ hn]
        exact settled.2.imp_right fun blamed => blamed.mono later
      · exact inside k hk
    · rw [outside k fun hr => hk (List.mem_cons_of_mem _ hr)]
      exact first.frame k fun e => hk ((show k = name from e) ▸ List.mem_cons_self ..)


/-- The names that are found absent are among the required ones. -/
theorem subset_of_absentNames {members : Fields} {names missing : List Json}
    (h : step.absentNames members names = .ok missing) : missing ⊆ names := by
  induction names generalizing missing with
  | nil =>
    cases h
    exact List.Subset.refl _
  | cons name rest ih =>
    simp only [Step.absentNames, bind_eq_ok, Except.ok.injEq] at h
    obtain ⟨-, -, -, -, others, ho, rfl⟩ := h
    split
    · exact List.cons_subset_cons name (ih ho)
    · exact List.subset_cons_of_subset name (ih ho)

namespace Candid

variable {required missing : List Json} {properties : Fields}

/-- No property has a default that could stand in for a member. -/
theorem withDefaults_eq (h : Candid terms counts step) {working : Fields}
    (hw : step.withDefaults required value = .ok working) : working = value := by
  refine Ready.withDefaults_eq_of_bare (fun name tag fields hs => ?_) hw
  obtain ⟨table, ht, hm⟩ := Ready.mem_of_propertySchema hs
  exact (h.table (by simp) ht hm).artless.here "default" (List.mem_cons_self ..)

/-- What is listed as absent is not there. -/
theorem absent (h : Candid terms counts step) (hv : (Json.obj none value).Proper)
    (hm : step.absentNames value required = .ok missing) {name : String}
    (hl : Json.listsName missing name = true) : Extends? True (get? value name) none :=
  h.ready.absent_of_listed (fun _ _ hx => ⟨hv.of_get? hx, .inl trivial⟩) hm hl

/-- **At the start** there are the issues of how many members there are and of those that are absent. -/
theorem start (h : Candid terms counts step) (hv : (Json.obj none value).Proper) {size : List Issue}
    (hs : Probe.memberCountIssues value.length step.fields step.path = .ok size)
    (hq : Step.requiredNames step.skips step.fields = .ok required)
    (hm : step.absentNames value required = .ok missing) :
    Sane counts step value ⟨[], size ++ if step.negated then []
      else missing.map fun name => Probe.missingIssue name step.path⟩ where
  explained := by
    intro issue hi
    rcases List.mem_append.1 hi with hi | hi
    · exact (Probe.finds_memberCountIssues Innocent.of_unwaivable _ hs issue hi).explained
    · split at hi
      · cases hi
      · obtain ⟨name, hname, rfl⟩ := List.mem_map.1 hi
        obtain ⟨_, hq', texts⟩ := Step.requiredNames_spec h.plainly.formed.formed step.skips
        cases hq.symm.trans hq'
        obtain ⟨text, rfl⟩ := Schema.isText_iff.1 (texts name (subset_of_absentNames hm hname))
        exact explained_missingIssue (Unsupplied?.of_extends (b := none) trivial
          (fun x hx => hv.of_get? hx) (h.absent hv hm (Json.listsName_iff.2 hname)))
  distinct := List.nodup_nil
  proper _ _ hk := nomatch hk

/-- **Once the other members have followed**, every member is built or has an issue to show for it. -/
theorem declared (h : Candid terms counts step) (hv : (Json.obj none value).Proper)
    (hp : Probe.membersOf (step.tableOrEmpty "properties") = .ok properties)
    (hm : step.absentNames value required = .ok missing) {found : List Issue}
    (hb : Sane counts step value ⟨[], found⟩)
    (hc : Chain (step.TakesProperty value missing) properties ⟨[], found⟩ b) :
    Standing counts step value properties
      ⟨Fields.union b.members (Step.otherMembers properties value), b.issues⟩ := by
  obtain ⟨sane, -, inside, outside⟩ := h.properties hv (fun _ _ hs => h.table (by simp) hp hs)
    (Ready.distinct_of_table h.ready.good.proper hp) (fun _ hl => h.absent hv hm hl) hb
    (fun _ _ => rfl) hc
  have combined : ∀ k, get? (Fields.union b.members (Step.otherMembers properties value)) k =
      if k ∈ Fields.names properties then get? b.members k else get? value k :=
    fun k => Step.get?_union_otherMembers hv.distinct outside
  refine ⟨⟨sane.explained, sane.distinct.union, fun k x hx => ?_⟩, fun k => ?_⟩
  · rw [combined] at hx
    split at hx
    · exact sane.proper k x hx
    · exact hv.of_get? hx
  · rw [combined]
    split
    · next hk => exact (inside k hk).imp_right fun blamed => ⟨hk, blamed⟩
    · exact .inl (Json.extends?_refl fun x hx => hv.of_get? hx)

/-- **Properties that others require** are only said to be missing where they are not there. -/
theorem dependentRequired (h : Candid terms counts step) {found issues : List Issue}
    (hd : step.dependentIssues value = .ok found) :
    ∀ issue ∈ found, Explained counts step.path (some (.obj none value)) issues issue := by
  unfold Step.dependentIssues at hd
  split at hd
  · cases hd
    exact nofun
  obtain ⟨_, table, ht, texts⟩ := Probe.exists_textTable h.plainly.formed.formed
  have reads : ∀ {name : String}, step.setting.options.accessor.read (.obj none value) (.str name) =
      .ok (get? value name) := h.ready.readMember_str
  have finds : Probe.Finds (Explained counts step.path (some (.obj none value)) issues)
      (Probe.dependentIssues step.setting.options.accessor (.obj none value) step.fields step.path) := by
    unfold Probe.dependentIssues
    rw [ht]
    refine .after fun _ hn => .gather fun ⟨trigger, names⟩ hm => .after fun there _ => ?_
    cases hn
    cases there with
    | none => exact .nil
    | some _ =>
      obtain ⟨_, items, rfl, text⟩ := Schema.isTextList_iff.1 (texts trigger names hm)
      refine .after fun _ hn => .gather fun name hm => .after fun other ho => ?_
      cases hn
      obtain ⟨s, rfl⟩ := Schema.isText_iff.1 (text name hm)
      rw [reads] at ho
      cases ho
      cases hs : get? value s with
      | none => exact .single (explained_missingIssue (hs ▸ trivial))
      | some x => exact .nil
  exact finds found hd

/-- **A schema that depends on a member** finds every member built or blamed, and leaves it so. -/
theorem dependent (h : Candid terms counts step) (hv : (Json.obj none value).Proper)
    (hp : Probe.membersOf (step.tableOrEmpty "properties") = .ok properties) {dependents : Fields}
    (hd : Probe.membersOf (step.tableOrEmpty "dependentSchemas") = .ok dependents)
    {d : String × Json} (hm : d ∈ dependents) (ht : step.TakesDependent value d b b')
    (hb : Standing counts step value properties b) : Standing counts step value properties b' := by
  rcases ht with ⟨-, rfl⟩ | ⟨x, outcome, -, ho, rfl⟩
  · exact hb
  have plain : Plainly terms counts d.2 := h.table (by simp) hd hm
  have proper : ∀ y, some (Json.obj none b.members) = some y → y.Proper := by
    rintro _ ⟨⟩
    exact Json.proper_obj hb.distinct fun k x hx => hb.proper k x (Fields.get?_of_mem hb.distinct hx)
  refine hb.follow hv (fun k hk => ?_) ?_ ?_
  · obtain ⟨y, hy⟩ := Fields.exists_get?_of_mem_names hk
    obtain ⟨_, declares⟩ := Ready.mem_tableOrEmpty hp (Json.mem_of_get? hy)
    obtain ⟨_, depends⟩ := Ready.mem_tableOrEmpty hd hm
    exact h.plainly.counts k (.here depends declares hk)
  · rintro issues rfl
    simpa using h.explains [] d.2 _ _ _ _ plain proper issues ho
  · rintro w rfl
    exact h.ready.keeps [] _ w ⟨fun _ e => by cases e; exact plain.good,
      fun y hy => ⟨proper y hy, .inl trivial⟩, .inl trivial⟩ ho

/-- A member that is not declared, resolved by a plain schema. -/
theorem taken (h : Candid terms counts step) (hv : (Json.obj none value).Proper) {name : String}
    (hn : name ∉ Fields.names properties) {s : Json} (hs : Plainly terms counts s)
    {outcome : Outcome}
    (ho : (step.descend (.str name) (.node s) (get? b.members name)).result = .ok outcome)
    (hb : Standing counts step value properties b) :
    Standing counts step value properties (b.take name outcome) := by
  refine hb.take hv hn ?_ ?_
  · rintro issues rfl
    exact h.descend hs (hb.proper name) issues ho
  · rintro w rfl
    exact h.ready.descend (fun _ e => by cases e; exact hs.good)
      (fun x hx => ⟨hb.proper name x hx, .inl trivial⟩) ho

/-- **A name among patterns** is not declared. -/
theorem name (h : Candid terms counts step) (hv : (Json.obj none value).Proper) {name : String}
    (ht : step.TakesName properties name b b') (hb : Standing counts step value properties b) :
    Standing counts step value properties b' := by
  rcases ht with ⟨-, rfl⟩ | ⟨hn, patterns, hp, hc⟩
  · exact hb
  have undeclared : name ∉ Fields.names properties :=
    Fields.get?_eq_none_iff.1 (Fields.has_eq_false_iff.1 hn)
  refine hc.keeps (fun pattern hm u v ht hu => ?_) hb
  rcases ht with ⟨-, rfl⟩ | ⟨-, outcome, ho, rfl⟩
  · exact hu
  · exact h.taken hv undeclared (h.table (by simp) hp hm) ho hu

/-- **An additional member** is not declared either, and its schema stands for itself. -/
theorem additional (h : Candid terms counts step) (hv : (Json.obj none value).Proper)
    (hp : Probe.membersOf (step.tableOrEmpty "properties") = .ok properties)
    (ht : step.TakesAllAdditional value b b') (hb : Standing counts step value properties b) :
    Standing counts step value properties b' := by
  rcases ht with ⟨-, rfl⟩ | ⟨additional, ha, hnull, -, hc⟩
  · exact hb
  have plain : Plainly terms counts additional := h.plainly.part ha (List.mem_singleton_self _)
  have itself : Reference.expand step.setting.options.source step.setting.root additional =
      .ok (some (.node additional)) := Step.expand_of_lone (fun h => h.winding) hnull plain.wholly
  refine hc.keeps (fun name _ u v ht hu => ?_) hb
  rcases ht with ⟨-, rfl⟩ | ⟨-, uncovered, hcov, ht⟩
  · exact hu
  cases uncovered with
  | false => exact ht ▸ hu
  | true =>
    have undeclared : name ∉ Fields.names properties := fun hk => by
      rw [Step.isAdditional_of_declared hp hk] at hcov
      cases hcov
    cases ht with
    | forbidden =>
      exact hu.report (List.forall_mem_singleton.2
        (Innocent.explained ⟨List.prefix_append .., rfl⟩))
    | dead _ hx =>
      rw [itself] at hx
      cases hx
    | resolved _ hx ho =>
      rw [itself] at hx
      cases hx
      exact h.taken hv undeclared plain ho hu

/-- What is found about the names says of nothing that it is missing. -/
theorem names (h : Candid terms counts step) {members : Fields} {found : List Issue}
    (hn : step.builtNameIssues members = .ok found) : ∀ issue ∈ found, Innocent step.path issue := by
  unfold Step.builtNameIssues Probe.nameIssues at hn
  split at hn
  · cases hn
    exact nofun
  refine Probe.Finds.gather (fun name hm issues hf issue hi => ?_) found hn
  obtain ⟨member, -, rfl⟩ := List.mem_map.1 hm
  obtain ⟨inner, hp, -⟩ := Probe.located_issues step.setting h.ready.tame.accessor
    (Json.proper_str _) _ _ _ hf issue hi
  refine ⟨⟨"propertyNames" :: inner, ?_⟩, Probe.finds_text _ hf issue hi⟩
  rw [hp, List.append_assoc, List.singleton_append]

/-- **What an object fails with is explained in it.** -/
theorem members (h : Candid terms counts step) (hv : (Json.obj none value).Proper) :
    Accounts counts step.path (some (.obj none value)) (step.resolveMembers value) := by
  intro issues hr
  obtain ⟨b, hb, ho⟩ := Step.resolveMembers_result.1 hr
  have hi : issues = b.issues := by
    unfold Step.outcomeOf at ho
    split at ho <;> cases ho
    rfl
  subst hi
  cases hb with
  | intro size_eq required_eq working_eq missing_eq properties_eq declares dependent_eq
      dependents_eq follows matches_ adds names_eq =>
    obtain rfl := h.withDefaults_eq working_eq
    have declared := h.declared hv properties_eq missing_eq
      (h.start hv size_eq required_eq missing_eq) declares
    have followed := follows.keeps
      (fun _ hm _ _ ht => h.dependent hv properties_eq dependents_eq hm ht)
      (declared.report (h.dependentRequired dependent_eq))
    have matched := matches_.keeps (fun _ _ _ _ ht => h.name hv ht) followed
    have final := h.additional hv properties_eq adds matched
    exact (final.report fun issue hm => (h.names names_eq issue hm).explained).explained

end Candid

end Stages

/-! ## 7. Lists -/

section Lists

variable {tag : Tag} {entries : List Json} {b b' : Step.BuiltItems}

/-- **An item** is explained in the list: what is said of a null is said of something that is not
supplied. -/
theorem Candid.item (h : Candid terms counts step) (hv : (Json.arr tag entries).Proper) {i : Nat}
    {item : Json} (there : entries[i]? = some item) (ht : step.TakesItem i item b b')
    (hb : ∀ issue ∈ b.issues, Explained counts step.path (some (.arr tag entries)) b.issues issue) :
    ∀ issue ∈ b'.issues, Explained counts step.path (some (.arr tag entries)) b'.issues issue := by
  have inside : ∀ {found : List Issue}, (∀ issue ∈ found,
      Explained counts (step.path ++ [Nat.repr i]) (some item) found issue) →
      ∀ issue ∈ b.issues ++ found,
        Explained counts step.path (some (.arr tag entries)) (b.issues ++ found) issue := by
    intro found hf issue hm
    rcases List.mem_append.1 hm with hm | hm
    · exact (hb issue hm).mono (List.subset_append_left _ _)
    · exact ((hf issue hm).mono (List.subset_append_right _ _)).inside
        fun _ hu => Unsupplied.item there hu
  cases ht with
  | kept => exact hb
  | forbidden =>
    exact inside (List.forall_mem_singleton.2 (Innocent.here rfl).explained)
  | probed hs hnull hi =>
    obtain rfl : item = .null := by
      cases item <;> simp_all [Step.isStrayNull, Kind.fits]
    have proper : Json.Proper .null := Json.proper_atom trivial rfl
    refine inside fun issue hm => ?_
    obtain ⟨inner, hp, -⟩ := Probe.located_issues step.setting h.ready.tame.accessor proper _ _ _ hi
      issue hm
    exact ⟨inner, hp, fun _ => .inl .null⟩
  | @resolved schema outcome hs hbool hnull ho =>
    obtain ⟨k, x, hk, hp⟩ := Schema.exists_of_itemSchema hs
    cases outcome with
    | failed found =>
      refine inside (h.descend (h.plainly.part hk hp) ?_ found ho)
      rintro _ ⟨⟩
      exact hv.of_mem_items (List.mem_of_getElem? there)
    | resolved w => exact hb

/-- **What a list fails with is explained in it.** -/
theorem Candid.items (h : Candid terms counts step) (hv : step.value = some (.arr tag entries)) :
    Accounts counts step.path step.value step.array := by
  intro issues hr
  obtain ⟨whole, hw, ⟨-, hi⟩ | ⟨-, b, hc, ⟨-, hi⟩ | ⟨-, hi⟩⟩⟩ := (Step.array_result hv).1 hr
  · cases hi
    refine fun issue hm => Innocent.explained (Probe.finds_listIssues Innocent.of_unwaivable
      (fun _ hr => ⟨List.prefix_append .., Probe.isMissing_of_isWaivable hr⟩) _ hw issue hm)
  · cases hi
    rw [hv]
    refine hc.keeps (P := fun b : Step.BuiltItems => ∀ issue ∈ b.issues,
      Explained counts step.path (some (.arr tag entries)) b.issues issue) ?_ nofun
    rintro ⟨item, i⟩ hm u v ht hu
    exact h.item (h.ready.value _ hv).proper (List.mk_mem_zipIdx_iff_getElem?.1 hm) ht hu
  · cases hi

end Lists

/-! ## 8. Types -/

namespace Candid

/-- Nothing is there where the value is missing. -/
theorem missing {atRoot : Option Json} :
    Accounts counts step.path none (step.missing atRoot) := by
  refine .after fun required _ => ?_
  split
  · exact .of_none (List.forall_mem_singleton.2 (List.prefix_refl _))
  · exact .done

theorem doneUnless {x : Json} {value : Option Json} {issues : List Issue}
    (h : ∀ issue ∈ issues, Innocent step.path issue) :
    Accounts counts step.path value (Step.doneUnless x issues) := by
  unfold Step.doneUnless
  split
  · exact .done
  · exact .fail h

/-- A failure at the place for a reason that says of nothing that it is missing. -/
theorem failWith {value : Option Json} {reason : Reason} (h : Probe.isMissing reason = false) :
    Accounts counts step.path value (step.failWith reason) :=
  .fail (List.forall_mem_singleton.2 (Innocent.here h))

/-- **What an object fails with is explained**, also if it is built from nothing. -/
theorem object (h : Candid terms counts step) :
    Accounts counts step.path step.value step.object := by
  unfold Step.object
  split
  · next hv =>
    rw [hv]
    refine .after fun required _ => ?_
    split
    · exact .of_none (List.forall_mem_singleton.2 (List.prefix_refl _))
    · refine .after fun outcome ho => ?_
      split
      · intro issues hr
        cases hr
        have proper : (Json.obj none []).Proper := Json.proper_obj List.nodup_nil nofun
        have built : Accounts counts step.path none (step.resolveMembers []) :=
          (h.members proper).of_value fun _ _ => trivial
        exact built issues ho
      · exact .done
  · next tag members hv =>
    have proper := (h.ready.value _ hv).proper
    rw [hv]
    refine (h.members (Json.proper_obj proper.distinct fun k x hm => proper.of_mem_fields hm)).of_value
      fun inner hu => ?_
    obtain ⟨name, rest, rfl, next⟩ := Unsupplied.of_obj hu
    exact Unsupplied.of_member next
  · exact failWith rfl

/-- **What a value of a kind fails with is explained.** -/
theorem ofKind (h : Candid terms counts step) (kind : Kind) :
    Accounts counts step.path step.value (step.ofKind kind) := by
  cases kind with
  | null | boolean =>
    simp only [Step.ofKind, Step.null, Step.boolean]
    split
    · exact .done
    · exact .done
    · exact failWith rfl
  | number | integer =>
    simp only [Step.ofKind, Step.number]
    split
    · next hv =>
      rw [hv]
      exact missing
    · exact doneUnless (Probe.finds_numberIssues Innocent.of_unwaivable _ rfl)
  | string =>
    simp only [Step.ofKind, Step.string]
    split
    · next hv =>
      rw [hv]
      exact missing
    · exact .after fun issues hi =>
        doneUnless (Probe.finds_stringIssues Innocent.of_unwaivable _ hi)
  | array =>
    simp only [Step.ofKind]
    cases hv : step.value with
    | none =>
      simp only [Step.array, hv]
      exact missing
    | some x =>
      cases x with
      | arr tag items => exact hv ▸ h.items hv
      | _ =>
        simp only [Step.array, hv]
        exact failWith rfl
  | object => exact h.object

/-- What remains of the schema for one of its types is plain as well. -/
theorem restrict (h : Candid terms counts step) (kind : Kind) : Candid terms counts
    { step with tag := none, fields := Schema.restrict step.fields (.str kind.name) } where
  ready := ⟨h.ready.tame, (h.plainly.restrict kind).good, h.ready.value, h.ready.inner,
    h.ready.keeps, h.ready.honest⟩
  plainly := h.plainly.restrict kind
  explains := h.explains

/-- **What a value fails with by its type is explained.** -/
theorem typed (h : Candid terms counts step) :
    Accounts counts step.path step.value step.typed := by
  unfold Step.typed
  split
  · split
    · exact .done
    · exact h.ofKind _
  · unfold Step.ofType
    split
    · split
      · exact h.ofKind _
      · exact failWith rfl
    · split
      · exact .fault
      · exact failWith rfl
  · unfold Step.ofTypes
    split
    · next hv =>
      rw [hv]
      exact missing
    · split
      · exact .after fun _ _ => failWith rfl
      · exact (h.restrict _).ofKind _

/-- **What a step fails with is explained.** -/
theorem run (h : Candid terms counts step) : Accounts counts step.path step.value step.run := by
  have hf := h.ready.filled
  have filled : Candid terms counts { step with value := step.filled } :=
    ⟨⟨h.ready.tame, h.ready.good, hf.sound h.ready.value, h.ready.inner_of_kept hf, h.ready.keeps,
      h.ready.honest⟩, h.plainly, h.explains⟩
  have lone : ({ step with value := step.filled } : Step).dispatch =
      ({ step with value := step.filled } : Step).typed :=
    Step.dispatch_of_lone h.plainly.artless.here.winding
  have accounts : Accounts counts step.path step.filled step.run := by
    refine .after fun issues hi => ?_
    split
    · rw [lone]
      exact filled.typed
    · refine .fail ?_
      rw [Run.lift_result] at hi
      unfold Step.pinIssues at hi
      split at hi
      · cases hi
        exact nofun
      · split at hi
        · cases hi
          exact nofun
        · exact Probe.finds_pinIssues (fun _ => Innocent.here) _ hi
  exact accounts.of_value fun inner hu =>
    hu.of_extends (fun x hx => (h.ready.value x hx).proper) hf.extends?

end Candid

/-! ## 9. Resolution -/

/-- **A resolution explains what it fails with.** -/
theorem accounts_resolve (setting : Probe.Setting) (ha : setting.options.accessor = .direct)
    (guard : Guard) {s : Json} {value : Option Json} (parent key : Json) (negated : Bool)
    (hs : Plainly terms counts s) (hv : ∀ x, value = some x → x.Proper) :
    Accounts counts guard.path value (resolve setting guard ⟨.node s, value, parent, key, negated⟩) := by
  rw [resolve]
  split
  · exact .fail (List.forall_mem_singleton.2 (Innocent.here rfl))
  · next deep =>
    have explains : Explains terms counts guard.path fun extension next =>
        resolve setting (guard.enter extension) next :=
      fun extension s value parent key negated hs hv =>
        accounts_resolve setting ha (guard.enter extension) parent key negated hs hv
    unfold resolveStep
    split
    · exact .done
    · exact .done
    · split
      · exact .done
      · exact .fail (List.forall_mem_singleton.2 (Innocent.here rfl))
    · next tag fields hs' =>
      cases hs'
      have candid : Candid terms counts ⟨setting, guard.path, tag, fields, value, parent, key, negated,
          fun extension next => resolve setting (guard.enter extension) next⟩ :=
        ⟨⟨tame_lone ha, hs.good, fun x hx => ⟨hv x hx, .inl trivial⟩, .inl trivial,
          fun _ next w hn h => keeps_resolve (tame_lone ha) _ next w hn h,
          fun _ _ => honest_resolve _ _ _⟩, hs, explains⟩
      exact candid.run
    · exact .fault
    · exact .fault
termination_by guard.rank
decreasing_by exact Guard.rank_enter_lt ‹_› extension

end Resolve

open Resolve (resolveAt wholeRequest)
open Schema (WellFormed Everywhere Artless DeclaredBeside)

/-! ## 10. Properties reported missing -/

/-- Another property of an object that is built if it is missing is required where a member is there. -/
def dependingSchema : Json := .obj none [
  ("properties", .obj none [("o", .obj none [
    ("properties", .obj none [("f", .obj none [("type", .str "boolean")])])])]),
  ("dependentSchemas", .obj none [("t", .obj none [
    ("properties", .obj none [("o", .obj none [("required", .arr none [.str "g"])])])])])]

/-- There is a member on which others depend, and nothing else. -/
def triggering : Json := .obj none [("t", .num (.int 1))]

/-- Following the path one comes to an object without the property, or with a null in its place. -/
def Lacks (value : Json) (place : Path) (name : String) : Prop :=
  ∃ tag fields, Leads value place (.obj tag fields) ∧ get? fields name ∈ [none, some .null]

/-- A declared property is required where a member is there. -/
def requiringSchema : Json := .obj none [("properties", .obj none [("w", .obj none [
  ("properties", .obj none [("o", .obj none [("type", .str "number")])]),
  ("dependentSchemas", .obj none [("t", .obj none [("required", .arr none [.str "o"])])])])])]

/-- There is such a member beside a property of another type. -/
def misplacedText : Json := .obj none [("w", .obj none [("o", .str "x"), ("t", .num (.int 1))])]

end Conform
