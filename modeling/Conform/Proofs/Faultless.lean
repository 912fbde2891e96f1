/-
# Well-formed schemas cause no faults

Work on a value stops with a fault where something in a schema, in the options or in a request makes
no sense.  At a well-formed schema with working options nothing of that happens, with one exception:
the format of addresses admits digits whose value is not known, and asking for it then stops the work.

Merging (Section 1) may end in a conflict of types, but only in a conjunction, and whoever merges in a
conjunction reports the conflict as an issue.  The probe (Section 2) and the resolution (Section 3)
are gone through function by function: each stops only with an excused fault, if what it asks for
does.  What they ask for are well-formed schemas again, whatever has been merged by then.  A failure
without an issue, which would be a fault as well, cannot occur (`honest_resolve`).
-/
import Conform.Proofs.Failures
import Conform.Proofs.Lossless
import Conform.Proofs.Ordinary
import Conform.Proofs.Wellformed

namespace Conform

open Fields (get?)
open Schema (Formed Holds Shape WellFormed isText isTextList isTextList_iff)

/-! ## 1. Merging -/

namespace Schema

section Merges

variable {conjunction : Bool} {terms : Schema.Terms} {tag tag' : Tag} {a b r : Fields}
  {x y : Json} {k : String}

variable (ha : Formed terms (.obj tag a)) (hb : Formed terms (.obj tag' b))

include ha hb

theorem within_mergePinned {E : Fault → Prop} : Within E (mergePinned a b r) := by
  rcases mergePinned_cases a b r with ⟨x, y, -, -, hm⟩ | ⟨x, y, hx, hy, hm⟩ | hm
  · rw [hm]
    exact within_ok
  · obtain ⟨_, xs, rfl⟩ := (ha.get? hx).list
    obtain ⟨_, ys, rfl⟩ := (hb.get? hy).list
    rw [hm]
    exact within_ok
  · rw [hm]
    exact within_ok

theorem within_mergeRequired {E : Fault → Prop} : Within E (mergeRequired a b r) := by
  have listed : ∀ {tag f}, Formed terms (.obj tag f) →
      Within E (entries ((get? f "required").getD (.arr none []))) := by
    intro tag f hf
    cases hr : get? f "required" with
    | none => exact within_ok
    | some x =>
      obtain ⟨_, items, rfl, -⟩ := isTextList_iff.1 (hf.get? hr).fits
      exact within_ok
  unfold mergeRequired
  split
  · exact within_bind (listed ha) fun _ _ => within_bind (listed hb) fun _ _ => within_ok
  · exact within_ok

theorem within_mergeComposition {E : Fault → Prop} (hk : Shape.ofKeyword k = .schemas) :
    Within E (mergeComposition k a b r) := by
  unfold mergeComposition
  split
  · next hx hy =>
    obtain ⟨_, xs, rfl, -⟩ := (ha.get? hx).schemas hk
    obtain ⟨_, ys, rfl, -⟩ := (hb.get? hy).schemas hk
    exact within_ok
  · exact within_ok

section Below

variable {E : Fault → Prop} {self : MergeBelow (Json.sizeFields a)}
  (hself : ∀ x y h, Formed terms x → Formed terms y → Within E (self x y h))

include hself

theorem within_mergeProperties : Within E (mergeProperties a b self r) := by
  unfold mergeProperties
  split
  · next x y hx hy =>
    obtain ⟨_, left, rfl, hleft⟩ := (ha.get? hx).table rfl
    obtain ⟨_, right, rfl, hright⟩ := (hb.get? hy).table rfl
    have walk : ∀ (below : MergeBelow (Json.sizeFields left)),
        (∀ u v h, Formed terms u → Formed terms v → Within E (below u v h)) →
        ∀ rest acc, (∀ j s, (j, s) ∈ rest → Formed terms s) →
          Within E (mergeMembers left below rest acc) := by
      intro below hbelow rest
      induction rest with
      | nil => exact fun _ _ => within_ok
      | cons m rest ih =>
        obtain ⟨j, v⟩ := m
        intro acc hrest
        have others := fun acc => ih acc fun j s hs => hrest j s (List.mem_cons_of_mem _ hs)
        unfold mergeMembers
        split
        · next u hu =>
          exact within_bind (hbelow _ _ _ (hleft j u (Json.mem_of_get? hu))
            (hrest j v (List.mem_cons_self ..))) fun z _ => others _
        · exact others _
    split
    · next hl => cases hl
    · next hl =>
      cases hl
      refine within_bind within_ok fun right' hr => ?_
      cases hr
      exact within_bind (walk _ (fun u v _ => hself u v _) right left hright) fun _ _ => within_ok
  · exact within_ok

/-- What a keyword holds that may be a list or a single schema is a schema if it is an object. -/
theorem within_mergeObjects
    (hk : Shape.ofKeyword k = .schema ∨ Shape.ofKeyword k = .schemaOrSchemas) :
    Within E (mergeObjects k a b self r) := by
  have itself : ∀ {x}, x.isObject = true → Holds terms k x → Formed terms x := by
    intro x ho hx
    rcases hk with hk | hk
    · exact hx.schema hk
    · have inner := hx.inner_of hk
      cases x with
      | obj tag f => exact inner _ (List.mem_singleton_self _)
      | _ => cases ho
  unfold mergeObjects
  split
  · next hx hy =>
    split
    · next ho =>
      obtain ⟨hxo, hyo⟩ := Bool.and_eq_true_iff.1 ho
      exact within_bind (hself _ _ _ (itself hxo (ha.get? hx)) (itself hyo (hb.get? hy)))
        fun _ _ => within_ok
    · exact within_ok
  · exact within_ok

theorem within_mergeNegated : Within E (mergeNegated a b self r) := by
  unfold mergeNegated
  split
  · next hx hy =>
    exact within_bind (hself _ _ _ ((ha.get? hx).schema rfl) ((hb.get? hy).schema rfl))
      fun _ _ => within_ok
  · exact within_ok

end Below

end Merges

/-- The members of a well-formed schema make a well-formed schema, also if there are none. -/
theorem Formed.obj_fieldsOf {terms : Schema.Terms} {s : Json} (h : Formed terms s) :
    Formed terms (.obj none (fieldsOf s)) :=
  formed_obj fun _ _ hx => h.holds_fieldsOf hx

/-- **Well-formed schemas can be merged**, unless types clash in a conjunction. -/
theorem within_merge {terms : Schema.Terms} {conjunction : Bool} {a b : Json}
    (ha : Formed terms a) (hb : Formed terms b) :
    Within (IsClash conjunction) (merge conjunction a b) := by
  induction a using Json.sizeInduction generalizing b with
  | step a ih =>
    rw [merge]
    split
    · exact within_ok
    · refine within_bind ?_ fun _ _ => within_ok
      have left := ha.obj_fieldsOf
      have right := hb.obj_fieldsOf
      have self : ∀ x y : Json, x.size < Json.sizeFields (fieldsOf a) → Formed terms x →
          Formed terms y → Within (IsClash conjunction) (merge conjunction x y) :=
        fun x y hx hxf hyf => ih x (Nat.lt_of_lt_of_le hx (sizeFields_fieldsOf_le a)) hxf hyf
      unfold mergeFields
      refine within_bind within_mergeTypes fun _ _ => ?_
      refine within_bind (within_mergePinned left right) fun _ _ => ?_
      refine within_bind (within_mergeRequired left right) fun _ _ => ?_
      refine within_bind (within_mergeProperties left right self) fun _ _ => ?_
      refine within_bind (within_mergeObjects left right self (.inl rfl)) fun _ _ => ?_
      refine within_bind (within_mergeObjects left right self (.inr rfl)) fun _ _ => ?_
      refine within_bind (within_mergeNegated left right self) fun _ _ => ?_
      refine within_bind (within_mergeComposition left right rfl) fun _ _ => ?_
      refine within_bind (within_mergeComposition left right rfl) fun _ _ => ?_
      exact within_mergeComposition left right rfl

/-- Where schemas are not merged in a conjunction, nothing keeps them apart. -/
theorem merge_false_eq_ok {terms : Schema.Terms} {a b : Json} (ha : Formed terms a)
    (hb : Formed terms b) : ∃ m, merge false a b = .ok m :=
  (within_merge ha hb).exists_ok not_isClash_false

end Schema

/-! ## 2. Probing -/

/-- The fault that well-formed schemas may cause: a digit without a known value in an address, if
addresses are asked for. -/
def Excused (terms : Schema.Terms) (fault : Fault) : Prop :=
  fault = .badDigit ∧ terms.formats "ipv4" = true

/-- **A segmenter counts the characters of every text.** -/
def Segmenter.Counts (segmenter : Segmenter) : Prop := ∀ s, ∃ n, segmenter.length s = .ok n

theorem Segmenter.counts_clusters : Segmenter.clusters.Counts := fun _ => ⟨_, rfl⟩

/-- Options that can read members, count characters and look for patterns. -/
structure Probe.Setting.Working (terms : Schema.Terms) (setting : Probe.Setting) : Prop where
  accessor : setting.options.accessor = .direct
  segmenter : setting.options.segmenter.Counts
  engine : setting.options.engine.Reads terms.patterns

namespace Probe

variable {terms : Schema.Terms} {E : Fault → Prop} {setting : Setting} {tag : Tag}
  {fields : Fields} {path : Path} {k : String} {x : Json}

/-! ### Limits and texts -/

theorem within_limitOf (hx : x.isNumber = true) : Within E (limitOf x) := by
  cases x with
  | num n => exact within_ok
  | _ => cases hx

theorem within_isUnder {n : Nat} (hx : x.isNumber = true) : Within E (isUnder n x) :=
  within_bind (within_limitOf hx) fun _ _ => within_ok

theorem within_isOver {n : Nat} (hx : x.isNumber = true) : Within E (isOver n x) :=
  within_bind (within_limitOf hx) fun _ _ => within_ok

theorem within_limitIssue {missed : Json → Check Bool} {reason : Json → Reason}
    (h : ∀ x, get? fields k = some x → Within E (missed x)) :
    Within E (limitIssue fields k missed reason path) := by
  unfold limitIssue
  split
  · exact within_ok
  · next x hx => exact within_bind (h x hx) fun _ _ => within_ok

/-- A keyword of a well-formed schema that gives a limit gives a number. -/
theorem isNumber_of_limit (h : Formed terms (.obj tag fields))
    (hk : Shape.ofKeyword k = .number) (hx : get? fields k = some x) : x.isNumber = true :=
  (h.get? hx).fits_of hk

theorem within_search {engine : Pattern.Engine} {patterns : String → Bool} (reads : engine.Reads patterns)
    {pattern text : String} (h : patterns pattern = true) :
    Within E (engine.search (.str pattern) (.str text)) := by
  obtain ⟨found, hf⟩ := reads h text
  rw [hf]
  exact within_ok

theorem isPattern_of_formatPattern {name pattern : String}
    (h : Schema.formatPattern? name = some pattern) : Pattern.isPattern pattern = true := by
  unfold Schema.formatPattern? at h
  split at h <;> cases h <;> decide +kernel

theorem within_hasFormat {s name : String} (h : terms.formats name = true) :
    Within (Excused terms) (Schema.hasFormat (.str s) (.str name)) := by
  have octets : name = "ipv4" → ∀ parts, Within (Excused terms) (Schema.octetsFit parts) := by
    rintro rfl parts
    induction parts with
    | nil => exact within_ok
    | cons part rest ih =>
      unfold Schema.octetsFit
      split
      · exact within_error ⟨rfl, h⟩
      · split
        · exact within_ok
        · exact ih
  simp only [Schema.hasFormat]
  split
  · exact within_ok
  · next pattern _ hp _ =>
    obtain ⟨program, hprogram⟩ := Pattern.isPattern_iff.1 (isPattern_of_formatPattern hp)
    unfold Schema.hasNamedFormat
    split
    · next he =>
      rw [hprogram] at he
      cases he
    · split
      · exact within_ok
      · split
        · next hn => exact octets hn _
        · exact within_ok
  · next hn => exact absurd rfl (hn _)

theorem within_stringIssues {segmenter : Segmenter} {engine : Pattern.Engine} (hg : segmenter.Counts)
    (reads : engine.Reads terms.patterns) (h : Formed terms (.obj tag fields)) :
    Within (Excused terms) (stringIssues segmenter engine x fields path) := by
  have counted : ∀ s, Within (Excused terms) (segmenter.length s) := by
    intro s
    obtain ⟨n, hn⟩ := hg s
    rw [hn]
    exact within_ok
  unfold stringIssues
  split
  · next s =>
    refine within_bind ?_ fun _ _ => within_bind ?_ fun _ _ => within_bind ?_ fun _ _ => within_ok
    · unfold lengthIssues
      split
      · refine within_bind (counted s) fun n _ => ?_
        refine within_bind ?_ fun _ _ => within_bind ?_ fun _ _ => within_ok
        · exact within_limitIssue fun x hx => within_isUnder (isNumber_of_limit h rfl hx)
        · exact within_limitIssue fun x hx => within_isOver (isNumber_of_limit h rfl hx)
      · exact within_ok
    · refine within_limitIssue fun pattern hp => ?_
      have readable := (h.get? hp).fits
      cases pattern with
      | str pattern =>
        have searched : Within (Excused terms) (engine.search (.str pattern) (.str s)) :=
          within_search reads readable
        cases hs : engine.search (.str pattern) (.str s) with
        | error fault => exact within_error (searched fault hs)
        | ok found => exact within_ok
      | _ => cases readable
    · unfold formatIssues
      split
      · exact within_ok
      · next format hf =>
        have admitted := (h.get? hf).fits
        cases format with
        | str name => exact within_bind (within_hasFormat admitted) fun _ _ => within_ok
        | _ => cases admitted
  · exact within_ok

/-! ### Tables and names -/

/-- A table of schemas, also a missing one. -/
theorem exists_memberTable (k : String) (h : Formed terms (.obj tag fields))
    (hk : Shape.ofKeyword k = .table) :
    ∃ tag' table, memberTable fields k = .obj tag' table ∧
      ∀ j s, (j, s) ∈ table → Formed terms s := by
  unfold memberTable
  cases hx : get? fields k with
  | none => exact ⟨none, [], rfl, fun _ _ hs => nomatch hs⟩
  | some x => exact (h.get? hx).table hk

/-- The table of names by trigger, also a missing one. -/
theorem exists_textTable (h : Formed terms (.obj tag fields)) :
    ∃ tag' table, memberTable fields "dependentRequired" = .obj tag' table ∧
      ∀ j y, (j, y) ∈ table → isTextList y = true := by
  unfold memberTable
  cases hx : get? fields "dependentRequired" with
  | none => exact ⟨none, [], rfl, fun _ _ hs => nomatch hs⟩
  | some x => exact (h.get? hx).textTable

/-- The table of schemas by pattern, also a missing one. -/
theorem exists_patternTable (h : Formed terms (.obj tag fields)) :
    ∃ tag' table, memberTable fields "patternProperties" = .obj tag' table ∧
      ∀ j s, (j, s) ∈ table → terms.patterns j = true ∧ Formed terms s := by
  unfold memberTable
  cases hx : get? fields "patternProperties" with
  | none => exact ⟨none, [], rfl, fun _ _ hs => nomatch hs⟩
  | some x => exact (h.get? hx).patternTable

theorem within_isAdditional {engine : Pattern.Engine} (reads : engine.Reads terms.patterns)
    (h : Formed terms (.obj tag fields)) {name : String} : Within E (isAdditional engine name fields) := by
  obtain ⟨tag', properties, hp, -⟩ := exists_memberTable "properties" h rfl
  obtain ⟨tag'', patterns, hq, hpatterns⟩ := exists_patternTable h
  unfold isAdditional
  rw [hp, hq]
  refine within_bind within_ok fun declared _ => ?_
  split
  · exact within_ok
  · refine within_bind within_ok fun names hn => within_bind ?_ fun _ _ => within_ok
    cases hn
    refine within_exists? fun pattern hm => ?_
    obtain ⟨⟨j, s⟩, hj, rfl⟩ := List.mem_map.1 hm
    exact within_search reads (hpatterns j s hj).1

theorem within_memberCountIssues (h : Formed terms (.obj tag fields)) {n : Nat} :
    Within E (memberCountIssues n fields path) := by
  refine within_bind (within_limitIssue fun x hx => ?_) fun _ _ =>
    within_bind (within_limitIssue fun x hx => ?_) fun _ _ => within_ok
  · exact within_isUnder (isNumber_of_limit h rfl hx)
  · exact within_isOver (isNumber_of_limit h rfl hx)

/-- What may be read out of an object by a text can be read. -/
theorem within_read (ha : setting.options.accessor = .direct) {value : Fields} {name : Json}
    (hn : isText name = true) :
    Within E (setting.options.accessor.read (.obj tag value) name) := by
  rw [ha]
  cases name with
  | str s => exact within_ok
  | _ => cases hn

theorem within_propertySchema {table : Fields} {name : Json} (hn : isText name = true) :
    Within E (propertySchema (.obj tag table) name) := by
  cases name with
  | str s => exact within_ok
  | _ => cases hn

/-- The required names can be walked through, and are texts. -/
theorem exists_requiredNames (h : Formed terms (.obj tag fields)) :
    ∃ names, entriesOf ((get? fields "required").getD (.arr none [])) = .ok names ∧
      ∀ name ∈ names, isText name = true := by
  cases hr : get? fields "required" with
  | none => exact ⟨[], rfl, fun _ hy => nomatch hy⟩
  | some x =>
    obtain ⟨_, items, rfl, htexts⟩ := isTextList_iff.1 (h.get? hr).fits
    exact ⟨items, rfl, htexts⟩

theorem within_requiredIssues (ha : setting.options.accessor = .direct) {tag' : Tag}
    {value : Fields} (h : Formed terms (.obj tag fields)) :
    Within E (requiredIssues setting.options.accessor (.obj tag' value) fields path) := by
  obtain ⟨names, hnames, htexts⟩ := exists_requiredNames h
  obtain ⟨_, properties, hp, -⟩ := exists_memberTable "properties" h rfl
  unfold requiredIssues
  rw [hnames]
  refine within_bind within_ok fun _ hn => within_gather fun name hm => ?_
  cases hn
  have text := htexts name (Schema.mem_of_mem_distinct hm)
  refine within_bind (within_read ha text) fun _ _ => ?_
  rw [hp]
  exact within_bind (within_propertySchema text) fun _ _ => within_ok

theorem within_dependentIssues (ha : setting.options.accessor = .direct) {tag' : Tag}
    {value : Fields} (h : Formed terms (.obj tag fields)) :
    Within E (dependentIssues setting.options.accessor (.obj tag' value) fields path) := by
  obtain ⟨_, table, ht, htexts⟩ := exists_textTable h
  unfold dependentIssues
  rw [ht]
  refine within_bind within_ok fun _ hn => within_gather fun ⟨trigger, names⟩ hm => ?_
  cases hn
  refine within_bind (within_read ha rfl) fun found _ => ?_
  cases found with
  | none => exact within_ok
  | some x =>
    obtain ⟨_, items, rfl, htext⟩ := isTextList_iff.1 (htexts trigger names hm)
    refine within_bind within_ok fun _ hn => within_gather fun name hm => ?_
    cases hn
    exact within_bind (within_read ha (htext name hm)) fun _ _ => within_ok

theorem within_nameIssues {names : List Json} {probe : NameProbe names}
    (h : Formed terms (.obj tag fields))
    (hp : ∀ name hm s path, Formed terms s → Within E (probe name hm s path)) :
    Within E (nameIssues names fields path probe) := by
  unfold nameIssues
  split
  · exact within_ok
  · next schema hs => exact within_gather fun name hm => hp _ _ _ _ ((h.get? hs).schema rfl)

/-- A well-formed schema stands for itself. -/
theorem expand_of_formed {source : Reference.Source} {root s : Json} (h : Formed terms s) :
    Reference.expand source root s = .ok (some (.node s)) := by
  cases s with
  | obj tag fields =>
    have unreferred : get? fields "$ref" = none := by
      cases hr : get? fields "$ref" with
      | none => rfl
      | some x => exact absurd (h.get? hr).fits Bool.false_ne_true
    simp only [Reference.expand, unreferred]
  | null => cases h
  | _ => rfl

/-! ### Lists -/

/-- The schema of a position is well formed. -/
theorem formed_of_itemSchema (h : Formed terms (.obj tag fields)) {i : Nat}
    (hs : itemSchema fields i = some x) : Formed terms x := by
  obtain ⟨k, y, hk, hp⟩ := Schema.exists_of_itemSchema hs
  exact (h.get? hk).inner x (Schema.mem_schemasIn_of_mem_partsOf hp)

theorem within_listIssues {items : List Json} {probe : ItemProbe items}
    (h : Formed terms (.obj tag fields))
    (hp : ∀ x hx s path, Formed terms s → Within E (probe x hx s path)) :
    Within E (listIssues items fields path probe) := by
  unfold listIssues
  refine within_bind (within_limitIssue fun x hx => within_isUnder (isNumber_of_limit h rfl hx))
    fun _ _ => ?_
  refine within_bind (within_limitIssue fun x hx => within_isOver (isNumber_of_limit h rfl hx))
    fun _ _ => ?_
  refine within_bind ?_ fun _ _ => within_ok
  unfold containsIssues
  split
  · exact within_ok
  · next schema hs =>
    have formed := (h.get? hs).schema rfl
    refine within_bind (within_countFrom fun i x hx => within_valid (hp x hx _ _ formed))
      fun found _ => ?_
    have least : ((get? fields "minContains").getD (.num (.int 1))).isNumber = true := by
      cases hm : get? fields "minContains" with
      | none => rfl
      | some x => exact isNumber_of_limit h rfl hm
    refine within_bind (within_isUnder least) fun _ _ => within_bind ?_ fun _ _ => within_ok
    exact within_limitIssue fun x hx => within_isOver (isNumber_of_limit h rfl hx)

theorem within_arrayIssues {items : List Json} {probe : ItemProbe items}
    (h : Formed terms (.obj tag fields))
    (hp : ∀ x hx s path, Formed terms s → Within E (probe x hx s path)) :
    Within E (arrayIssues items fields path probe) := by
  unfold arrayIssues
  refine within_bind (within_listIssues h hp) fun _ _ => within_bind ?_ fun _ _ => within_ok
  refine within_gatherFrom fun i x hx => ?_
  unfold itemIssues
  split
  · exact within_ok
  · exact within_ok
  · exact within_ok
  · next s hs => exact hp x hx _ _ (formed_of_itemSchema h hs)

/-! ### Objects -/

section Objects

variable {tag' : Tag} {value : Fields} {inner : SmallerProbe (.obj tag' value)}
  {again : NarrowerProbe fields}
  (h : Formed terms (.obj tag fields)) (ha : setting.options.accessor = .direct)
  (reads : setting.options.engine.Reads terms.patterns)

section Inner

variable (hi : ∀ x hx s path, Formed terms s → Within E (inner x hx s path))

include hi

include ha in
theorem within_propertyIssues {name : String} {schema : Json} (hs : Formed terms schema) :
    Within E (propertyIssues setting tag' value path inner name schema) := by
  unfold propertyIssues
  split
  · next fault hf => exact within_error (within_read ha rfl fault hf)
  · exact within_ok
  · split
    · exact within_ok
    · exact hi _ _ _ _ hs

include h reads in
theorem within_patternIssues {properties : Fields} {member : String × Json} {hm : member ∈ value} :
    Within E (patternIssues setting tag' value fields path inner properties member hm) := by
  obtain ⟨_, patterns, hp, hpatterns⟩ := exists_patternTable h
  unfold patternIssues
  split
  · exact within_ok
  · rw [hp]
    refine within_bind within_ok fun _ hn => within_gather fun ⟨pattern, schema⟩ hj => ?_
    cases hn
    obtain ⟨readable, formed⟩ := hpatterns pattern schema hj
    refine within_bind (within_search reads readable) fun _ _ => ?_
    split
    · exact hi _ _ _ _ formed
    · exact within_ok

include h reads in
theorem within_additionalIssues :
    Within E (allAdditionalIssues setting tag' value fields path inner) := by
  unfold allAdditionalIssues
  split
  · exact within_ok
  · next additional hadd =>
    have formed := (h.get? hadd).schema rfl
    refine within_gather fun member hm => ?_
    unfold additionalIssues
    refine within_bind (within_isAdditional reads h) fun _ _ => ?_
    split
    · exact within_ok
    · split
      · exact within_ok
      · rw [expand_of_formed formed]
        exact hi _ _ _ _ formed

end Inner

include h ha

theorem within_dependentSchemaIssues
    (hn : ∀ s hs path, Formed terms s → Within E (again s hs path)) :
    Within E (dependentSchemaIssues setting tag' value fields path again) := by
  unfold dependentSchemaIssues
  split
  · exact within_ok
  · next x hx =>
    obtain ⟨_, table, rfl, htable⟩ := (h.get? hx).table rfl
    split
    · next hf => cases hf
    · next hf =>
      cases hf
      refine within_gather fun ⟨trigger, schema⟩ hm => ?_
      refine within_bind (within_read ha rfl) fun found _ => ?_
      cases found with
      | none => exact within_ok
      | some x => exact hn _ _ _ (htable trigger schema hm)

include reads in
theorem within_objectIssues (hi : ∀ x hx s path, Formed terms s → Within E (inner x hx s path))
    (hn : ∀ s hs path, Formed terms s → Within E (again s hs path)) :
    Within E (objectIssues setting tag' value fields path inner again) := by
  obtain ⟨_, properties, hp, hproperties⟩ := exists_memberTable "properties" h rfl
  unfold objectIssues
  refine within_bind (within_memberCountIssues h) fun _ _ => ?_
  refine within_bind (within_requiredIssues ha h) fun _ _ => ?_
  refine within_bind (within_dependentIssues ha h) fun _ _ => ?_
  rw [hp]
  refine within_bind within_ok fun _ hn' => ?_
  cases hn'
  refine within_bind (within_gather fun ⟨name, schema⟩ hm => ?_) fun _ _ => ?_
  · exact within_propertyIssues ha hi (hproperties name schema hm)
  refine within_bind (within_gather fun _ _ => within_patternIssues h reads hi) fun _ _ => ?_
  refine within_bind (within_additionalIssues h reads hi) fun _ _ => ?_
  refine within_bind (within_nameIssues h fun _ _ _ _ hs => hi _ _ _ _ hs) fun _ _ => ?_
  exact within_bind (within_dependentSchemaIssues h ha hn) fun _ _ => within_ok

end Objects

/-! ### Types -/

section Typed

variable {inner : SmallerProbe x} {again : NarrowerProbe fields}

theorem within_kindIssues {kind : Kind} (h : Formed terms (.obj tag fields))
    (hw : setting.Working terms)
    (hi : ∀ x hx s path, Formed terms s → Within (Excused terms) (inner x hx s path))
    (hn : ∀ s hs path, Formed terms s → Within (Excused terms) (again s hs path)) :
    Within (Excused terms) (kindIssues setting kind x fields path inner again) := by
  cases kind with
  | null | boolean | number | integer => exact within_ok
  | string => exact within_stringIssues hw.segmenter hw.engine h
  | array =>
    simp only [kindIssues]
    split
    · exact within_arrayIssues h fun x hx s path hs => hi _ _ _ _ hs
    · exact within_ok
  | object =>
    simp only [kindIssues]
    split
    · exact within_objectIssues h hw.accessor hw.engine hi hn
    · exact within_ok

/-- The types that a well-formed schema declares are texts. -/
theorem isText_of_mem_declaredTypes (h : Formed terms (.obj tag fields)) {type : Json}
    (ht : type ∈ Schema.declaredTypes (.obj tag fields)) : isText type = true := by
  obtain ⟨t, hk, hd⟩ := Schema.exists_type_of_mem_declaredTypes ht
  exact (h.get? hk).listedTypes type (hd ▸ ht)

theorem within_typeNames {types : List Json} (h : ∀ type ∈ types, isText type = true) :
    Within E (typeNames types) := by
  induction types with
  | nil => exact within_ok
  | cons type rest ih =>
    have others := ih fun t ht => h t (List.mem_cons_of_mem _ ht)
    have text := h type (List.mem_cons_self ..)
    cases type with
    | str s =>
      rw [typeNames]
      cases hr : typeNames rest with
      | error fault => exact within_error (others fault hr)
      | ok names => exact within_ok
    | _ => cases text

theorem within_typeIssues (h : Formed terms (.obj tag fields)) (hw : setting.Working terms)
    (hi : ∀ x hx s path, Formed terms s → Within (Excused terms) (inner x hx s path))
    (hn : ∀ s hs path, Formed terms s → Within (Excused terms) (again s hs path)) :
    Within (Excused terms) (typeIssues setting x tag fields path inner again) := by
  unfold typeIssues
  split
  · split
    · exact within_ok
    · exact within_kindIssues h hw hi hn
  · split
    · split
      · exact within_kindIssues h hw hi hn
      · exact within_ok
    · exact within_ok
  · split
    · exact within_bind (within_typeNames fun type => isText_of_mem_declaredTypes h)
        fun _ _ => within_ok
    · next kind _ =>
      have restricted : Formed terms (.obj tag (Schema.restrict fields (.str kind.name))) :=
        h.restrict
      exact within_kindIssues restricted hw hi fun s _ path hs => hn _ _ _ hs

end Typed

/-! ### Conditions -/

section Conditions

theorem within_withinBounds (h : Formed terms x) {y : Json} : Within E (withinBounds y x) := by
  have bounded : ∀ {limit allowed}, limit.isNumber = true →
      Within E (withinBound y limit allowed) := by
    intro limit allowed hl
    unfold withinBound
    split
    · exact within_bind (within_limitOf hl) fun _ _ => within_ok
    · exact within_ok
  unfold withinBounds
  split
  · dsimp only
    split
    case' h_1 hb => refine within_bind (bounded (isNumber_of_limit h rfl hb)) fun low _ => ?_
    case' h_2 => refine within_bind within_ok fun low _ => ?_
    all_goals
      split
      · exact within_ok
      · split
        · next hb => exact bounded (isNumber_of_limit h rfl hb)
        · exact within_ok
  · exact within_ok

/-- **A condition can be asked about any value.** -/
theorem within_conditionHolds {value condition : Json} {inner : SmallerProbe value}
    {again : NoWiderProbe condition} (h : Formed terms condition)
    (hi : ∀ x hx s path, Formed terms s → Within E (inner x hx s path))
    (hn : ∀ s hs path, Formed terms s → Within E (again s hs path)) :
    Within E (conditionHolds .direct value condition path inner again) := by
  unfold conditionHolds
  split
  · next ctag fields _ _ _ =>
    split
    · next hp =>
      split
      · have table := (h.get? hp).inner
        refine within_bind (within_forall? fun member hm => ?_) fun held _ => ?_
        · obtain ⟨name, schema⟩ := member
          have formed := table schema (List.mem_map.2 ⟨_, hm, rfl⟩)
          dsimp only [propertyHolds]
          split
          · next hf => cases hf
          · exact within_ok
          · refine within_bind (within_withinBounds formed) fun _ _ => ?_
            split
            · exact within_ok
            · exact within_valid (hi _ _ _ _ formed)
        · split
          · exact within_ok
          · dsimp only
            split
            · exact within_ok
            · exact within_valid (hn _ _ _ h.erase)
      · exact within_ok
    · exact within_valid (hn _ _ _ h)
  · exact within_valid (hn _ _ _ h)

end Conditions

/-! ### The whole probe -/

section Whole

variable {inner : SmallerProbe x} {again : NarrowerProbe fields}
  (h : Formed terms (.obj tag fields))

include h

theorem within_pinIssues : Within E (pinIssues x fields path) := by
  rcases pinIssues_cases x fields with ⟨expected, -, hp⟩ | ⟨options, ho, hp⟩ | hp
  · rw [hp]
    exact within_ok
  · obtain ⟨_, items, rfl⟩ := (h.get? ho).list
    rw [hp]
    exact within_ok
  · rw [hp]
    exact within_ok

/-- The branches of a composing keyword are well-formed schemas. -/
theorem branches_spec (k : String) (hk : Shape.ofKeyword k = .schemas) :
    ∃ found, branches fields k = .ok found ∧
      ∀ xs, found = some xs → ∀ s ∈ xs.1, Formed terms s := by
  rcases branches_cases fields k with ⟨-, hb⟩ | ⟨y, hy, ⟨_, he, -⟩ | ⟨xs, hxs, he, hb⟩⟩
  · exact ⟨none, hb, nofun⟩
  · obtain ⟨_, items, rfl, -⟩ := (h.get? hy).schemas hk
    cases he
  · obtain ⟨_, items, rfl, formed⟩ := (h.get? hy).schemas hk
    cases he
    refine ⟨_, hb, ?_⟩
    rintro _ ⟨⟩
    exact formed

section Again

variable (hn : ∀ s hs path, Formed terms s → Within E (again s hs path))

include hn

theorem within_conditionalIssues (ha : setting.options.accessor = .direct)
    (hi : ∀ x hx s path, Formed terms s → Within E (inner x hx s path)) :
    Within E (conditionalIssues setting x fields path inner again) := by
  unfold conditionalIssues
  split
  · exact within_ok
  · next condition hc =>
    rw [ha]
    refine within_bind (within_conditionHolds ((h.get? hc).schema rfl) hi
      fun s hs path => hn _ _ _) fun met _ => ?_
    split
    · exact within_ok
    · exact within_ok
    · next branch _ hb =>
      refine hn _ _ _ ?_
      cases met <;> exact (h.get? hb).schema rfl

theorem within_allOfIssues : Within E (allOfIssues fields path again) := by
  obtain ⟨found, hb, formed⟩ := branches_spec h "allOf" rfl
  unfold allOfIssues
  rw [hb]
  refine within_bind within_ok fun _ hf => ?_
  cases hf
  split
  · exact within_ok
  · exact within_gather fun s hs => hn _ _ _ (formed _ rfl s hs)

theorem within_anyOfIssues : Within E (anyOfIssues fields path again) := by
  obtain ⟨found, hb, formed⟩ := branches_spec h "anyOf" rfl
  unfold anyOfIssues
  rw [hb]
  refine within_bind within_ok fun _ hf => ?_
  cases hf
  split
  · exact within_ok
  · exact within_bind (within_exists? fun s hs => within_valid (hn _ _ _ (formed _ rfl s hs)))
      fun _ _ => within_ok

theorem within_oneOfIssues : Within E (oneOfIssues fields path again) := by
  obtain ⟨found, hb, formed⟩ := branches_spec h "oneOf" rfl
  unfold oneOfIssues
  rw [hb]
  refine within_bind within_ok fun _ hf => ?_
  cases hf
  split
  · exact within_ok
  · exact within_bind (within_count fun s hs => within_valid (hn _ _ _ (formed _ rfl s hs)))
      fun _ _ => within_ok

theorem within_notIssues : Within E (notIssues fields path again) := by
  unfold notIssues
  split
  · exact within_ok
  · next s hs =>
    exact within_bind (within_valid (hn _ _ _ ((h.get? hs).schema rfl))) fun _ _ => within_ok

end Again

end Whole

/-- **Any value can be probed against a well-formed schema**, excused faults apart. -/
theorem within_issues (hw : setting.Working terms) {s : Json} (h : Formed terms s) :
    Within (Excused terms) (issues setting x s path) := by
  induction x using Json.sizeInduction generalizing s path with
  | step x ihx =>
    induction s using Json.sizeInduction generalizing path with
    | step s ihs =>
      cases s with
      | bool b => cases b <;> simp only [issues_true, issues_false] <;> exact within_ok
      | obj tag fields =>
        have hi : ∀ y hy s path, Formed terms s →
            Within (Excused terms) (inside setting x y hy s path) :=
          fun y hy _ _ hs => ihx y hy hs
        have hn : ∀ t ht path, Formed terms t →
            Within (Excused terms) (narrower setting x fields t ht path) := by
          intro t ht path hs
          refine ihs t ?_ hs
          simp only [Json.size]
          omega
        rw [issues_obj]
        refine within_bind (within_pinIssues h) fun pinned _ => ?_
        split
        · exact within_ok
        · refine within_bind (within_conditionalIssues h hn hw.accessor hi) fun _ _ => ?_
          refine within_bind (within_allOfIssues h hn) fun _ _ => ?_
          refine within_bind (within_anyOfIssues h hn) fun _ _ => ?_
          refine within_bind (within_oneOfIssues h hn) fun _ _ => ?_
          refine within_bind (within_notIssues h hn) fun _ _ => ?_
          exact within_bind (within_typeIssues h hw hi hn) fun _ _ => within_ok
      | _ => cases h

/-- So can a missing value. -/
theorem within_issues? (hw : setting.Working terms) {value : Option Json} {s : Json}
    (h : Formed terms s) : Within (Excused terms) (issues? setting value s path) := by
  cases value with
  | some x => exact within_issues hw h
  | none =>
    cases s with
    | bool b => exact within_ok
    | obj tag fields => exact within_ok
    | _ => cases h

theorem within_meets (hw : setting.Working terms) {value : Option Json} {condition : Json}
    (h : Formed terms condition) :
    Within (Excused terms) (meets setting value condition path) := by
  unfold meets
  split
  · exact within_ok
  · rw [hw.accessor]
    exact within_conditionHolds h (fun _ _ _ _ hs => within_issues hw hs)
      fun _ _ _ hs => within_issues hw hs

end Probe

end Conform
