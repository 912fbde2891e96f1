/-
# What a schema leads to

A probe comes from a schema to its parts, and to what references among them stand for.  A set of schemas
that is closed under both holds all that the probe comes to (`Comprises.of_mem_asked`).  The well-formed
schemas are such a set.  Others are closed under more (`Closed`): that of all schemas, and that of the schemas
with something said of members by their names, as long as it lasts and is said in the document as well
(`closed_properWith`).

The document matters to a probe only for what references stand for, and references are followed at one
place only.  So in two documents the probe of a schema ends alike, provided that the same is found there for
each schema that it comes to (`issues_eq_of_expansions`).
-/
import Conform.Proofs.Descent
import Conform.Proofs.Lossless
import Conform.Proofs.Wellformed

namespace Conform

open Fields (get?)
open Schema (Lasting ProperWith properWith_atom properWith_merge properWith_obj)

variable {A : String → Json → Prop} {tag : Tag} {fields : Fields} {s t x : Json} {k name : String}

/-! ## 1. What lasts

Under most keywords a merge keeps one of two members as it is. -/

namespace Schema

/-- The keywords under which a merge makes one member of two. -/
def blendedKeywords : List String :=
  ["type", "enum", "const", "required", "properties", "patternProperties", "dependentSchemas",
    "additionalProperties", "items", "not", "allOf", "anyOf", "oneOf"]

theorem Blend.mem_blendedKeywords {conjunction : Bool} {a b : Fields} (h : Blend conjunction a b k x) :
    k ∈ blendedKeywords := by
  cases h with
  | united hk | merged hk | composed hk =>
    simp only [List.mem_cons, List.not_mem_nil, or_false] at hk
    rcases hk with rfl | rfl | rfl | rfl <;> decide
  | _ => decide

/-- **What is said of the members under a keyword that merges do not touch lasts**, if it is said of
everything else that a merge makes. -/
theorem lasting_of_untouched {key : String} (untouched : key ∉ blendedKeywords) {P : Json → Prop}
    (never : P (.bool false)) (arrays : ∀ items, P (.arr none items))
    (objects : ∀ fields, P (.obj none fields)) : Lasting fun k x => k = key → P x where
  united {k x y} _ hy he := by
    rcases unite_cases x y with ⟨_, _, _, _, -, -, hu⟩ | ⟨_, _, _, _, -, -, hu⟩ | hu <;> rw [hu]
    · exact objects _
    · exact arrays _
    · exact hy he
  merged {conjunction k x y z} _ _ h _ := by
    rcases merge_sourced h with rfl | ⟨r, rfl, -⟩
    · exact never
    · exact objects r
  blended {conjunction a b k z} h he := absurd (he ▸ h.mem_blendedKeywords) untouched

end Schema

/-! ## 2. What references stand for -/

namespace Reference

/-- **A source carries what is said of members** from a document to what references lead to there. -/
def Source.Carries (A : String → Json → Prop) (source : Source) : Prop :=
  ∀ {root ref s : Json}, ProperWith A root → source.lookup ref root = .ok (.node s) → ProperWith A s

theorem properWith_null : ProperWith A .null := properWith_atom rfl trivial rfl

/-- References into the document do. -/
theorem carries_document {follower : Follower} : (Source.document follower).Carries A := fun hroot h => by
  rcases throughout_of_resolve hroot h with rfl | hs
  · exact properWith_null
  · exact hs

/-- So does a table, if it is said of what the table holds. -/
theorem carries_table {entries : Fields} (said : ProperWith A (.obj none entries)) :
    (Source.table entries).Carries A := fun {_ ref _} _ h => by
  cases ref with
  | str name =>
    cases h
    cases hx : get? entries name with
    | none => exact properWith_null
    | some x => exact said.of_get? hx
  | arr | obj => cases h
  | _ =>
    cases h
    exact properWith_null

/-- **What is said of members lasts in what a schema stands for.** -/
theorem properWith_of_expand (hA : Lasting A) {source : Source} {root : Json}
    (hroot : ProperWith A root) (carries : source.Carries A)
    (hs : ProperWith A s) (h : expand source root s = .ok (some (.node t))) : ProperWith A t := by
  cases s with
  | obj tag fields =>
    have siblings : ProperWith A (.obj none (Fields.erase fields "$ref")) :=
      properWith_obj hs.distinct.filter fun k x hm =>
        ⟨hs.of_mem (Fields.mem_of_mem_erase hm), hs.of_mem_fields (Fields.mem_of_mem_erase hm)⟩
    simp only [expand] at h
    split at h
    · cases h
      exact hs
    · rw [bind_eq_ok] at h
      obtain ⟨target, hl, h⟩ := h
      split at h
      · cases h
      · have led := carries hroot hl
        split at h
        · cases h
          exact led
        · simp only [bind_eq_ok, Except.ok.injEq, Option.some.injEq, Target.node.injEq] at h
          obtain ⟨merged, hm, rfl⟩ := h
          exact properWith_merge hA led siblings hm
      · split at h
        · cases h
        · simp only [bind_eq_ok, Except.ok.injEq, Option.some.injEq, Target.node.injEq] at h
          obtain ⟨merged, hm, rfl⟩ := h
          exact properWith_merge hA
            (properWith_obj Fields.distinct_nil fun _ _ h => absurd h List.not_mem_nil) siblings hm
  | null => cases h
  | _ =>
    cases h
    exact hs

end Reference

/-! ## 3. What a probe comes to -/

namespace Probe

open Schema (Shape fieldsOf schemasIn)

variable {Q : Json → Prop} {setting : Setting} {value : Json} {path : Path}

/-- **A set of schemas comprises all that probes of them come to**: what their keywords hold, a condition
without its properties, and what schemas of the set stand for. -/
structure Comprises (setting : Setting) (Q : Json → Prop) : Prop where
  part : ∀ {tag fields k x s}, Q (.obj tag fields) → get? fields k = some x → s ∈ schemasIn k x → Q s
  /-- What a schema is composed of need not be a list. -/
  entry : ∀ {tag fields k x entries s}, k ∈ ["allOf", "anyOf", "oneOf"] → Q (.obj tag fields) →
    get? fields k = some x → Schema.entries x = .ok entries → s ∈ entries → Q s
  beside : ∀ {tag fields}, Q (.obj tag fields) → Q (.obj none (Fields.erase fields "properties"))
  /-- References are followed for additional members. -/
  expanded : ∀ {tag fields s t}, Q (.obj tag fields) → get? fields "additionalProperties" = some s →
    Reference.expand setting.options.source setting.root s = .ok (some (.node t)) → Q t

theorem of_mem_readings {table : Fields} {accessor : Accessor}
    (h : ∀ name s, (name, s) ∈ table → Q s) (hs : (x, s) ∈ readings accessor value table) : Q s := by
  obtain ⟨name, tag, members, hm, -, -⟩ := mem_readings.1 hs
  exact h name s hm

namespace Comprises

variable (c : Comprises setting Q)

include c

/-- What a keyword for a schema holds. -/
theorem schema (h : Q (.obj tag fields)) (hk : get? fields k = some x)
    (hs : Shape.ofKeyword k = .schema) : Q x :=
  c.part h hk (by rw [schemasIn, hs]; exact List.mem_singleton_self x)

theorem of_mem_listed (h : Q (.obj tag fields)) (hp : (Shape.ofKeyword k).place = .table)
    (hs : (name, s) ∈ listed fields k) : Q s := by
  unfold listed memberTable at hs
  cases hk : get? fields k with
  | none =>
    rw [hk] at hs
    cases hs
  | some x =>
    rw [hk] at hs
    cases x with
    | obj t table => exact c.part h hk (by rw [schemasIn, hp]; exact List.mem_map.2 ⟨_, hs, rfl⟩)
    | _ => cases hs

theorem of_mem_conditionParts (h : Q s) (ht : t ∈ conditionParts s) : Q t := by
  cases s with
  | obj tag fields =>
    simp only [conditionParts, List.mem_cons, List.not_mem_nil, or_false] at ht
    rcases ht with rfl | rfl
    · exact h
    · exact c.beside h
  | _ =>
    obtain rfl := List.mem_singleton.1 ht
    exact h

theorem of_mem_askedInCondition {accessor : Accessor} (h : Q s)
    (ht : (x, t) ∈ askedInCondition accessor value s) : Q t := by
  refine of_mem_readings (fun name t hm => ?_) ht
  cases s with
  | obj tag fields => exact c.of_mem_listed h rfl hm
  | _ => cases hm

theorem of_mem_expansions (h : Q (.obj tag fields)) (hs : s ∈ expansions setting fields) : Q s := by
  unfold expansions at hs
  split at hs
  · cases hs
  · next additional ha =>
    split at hs
    · next he =>
      obtain rfl := List.mem_singleton.1 hs
      exact c.expanded h ha he
    · cases hs

theorem of_itemSchema {i : Nat} (h : Q (.obj tag fields)) (hs : itemSchema fields i = some s) : Q s := by
  obtain ⟨k, x, hk, hp⟩ := Schema.exists_of_itemSchema hs
  exact c.part h hk (Schema.mem_schemasIn_of_mem_partsOf hp)

theorem of_mem_askedAgain (h : Q (.obj tag fields)) (hs : s ∈ askedAgain fields) : Q s := by
  simp only [askedAgain, List.mem_append, List.mem_map, List.mem_flatMap, Option.mem_toList] at hs
  rcases hs with ((⟨⟨name, s⟩, hm, rfl⟩ | ⟨condition, hc, hs⟩) | ⟨k, hk, hs⟩) | ⟨k, composing, hs⟩
  · exact c.of_mem_listed h rfl hm
  · exact c.of_mem_conditionParts (c.schema h hc rfl) hs
  · simp only [List.mem_cons, List.not_mem_nil, or_false] at hk
    rcases hk with rfl | rfl | rfl <;> exact c.schema h hs rfl
  · cases hk : get? fields k with
    | none => simp [hk] at hs
    | some x =>
      cases hx : x.entries? with
      | none => simp [hk, hx] at hs
      | some xs =>
        rw [hk, Option.bind_some, hx] at hs
        have walked : Schema.entries x = .ok xs := by rw [Schema.entries, hx]
        exact c.entry composing h hk walked hs

/-- **All that the probe of a schema of the set comes to is of the set.** -/
theorem of_mem_asked {question : Json × Json} (hs : Q s) (h : question ∈ asked setting value s) :
    Q question.2 := by
  obtain ⟨x, t⟩ := question
  cases s with
  | obj tag fields =>
    rcases List.mem_append.1 h with h | h
    · rcases List.mem_append.1 h with h | h
      · cases value with
        | obj vtag members =>
          simp only [askedInObject, List.mem_append, List.mem_flatMap, List.mem_map, Prod.mk.injEq,
            Option.mem_toList] at h
          rcases h with ((h | ⟨m, -, p, hp, -, rfl⟩) | ⟨m, -, t, ht, -, rfl⟩) | ⟨name, -, t, ht, -, rfl⟩
          · exact of_mem_readings (fun _ _ hm => c.of_mem_listed hs rfl hm) h
          · exact c.of_mem_listed hs rfl hp
          · exact c.of_mem_expansions hs ht
          · exact c.schema hs ht rfl
        | arr vtag items =>
          simp only [askedInArray, List.mem_append, List.mem_flatMap, List.mem_map, Prod.mk.injEq,
            Option.mem_toList] at h
          rcases h with ⟨x, -, t, ht, -, rfl⟩ | ⟨entry, -, t, ht, -, rfl⟩
          · exact c.schema hs ht rfl
          · exact c.of_itemSchema hs ht
        | _ => cases h
      · obtain ⟨condition, hc, h⟩ := List.mem_flatMap.1 h
        exact c.of_mem_askedInCondition (c.schema hs (Option.mem_toList.1 hc) rfl) h
    · obtain ⟨t, ht, ⟨⟩⟩ := List.mem_map.1 h
      exact c.of_mem_askedAgain hs ht
  | _ => cases h

end Comprises

/-! ## 4. Closed sets -/

/-- **A set of schemas is closed**: with a schema it has whatever stands in it, what is left of it when
members are left out, and what it stands for. -/
structure Closed (setting : Setting) (Q : Json → Prop) : Prop where
  member : ∀ {tag fields k x}, Q (.obj tag fields) → (k, x) ∈ fields → Q x
  item : ∀ {tag items x}, Q (.arr tag items) → x ∈ items → Q x
  /-- The letters of a text, where schemas are expected. -/
  text : ∀ s, Q (.str s)
  kept : ∀ {tag tag' fields} (p : String × Json → Bool), Q (.obj tag fields) →
    Q (.obj tag' (fields.filter p))
  expanded : ∀ {tag fields s t}, Q (.obj tag fields) → get? fields "additionalProperties" = some s →
    Reference.expand setting.options.source setting.root s = .ok (some (.node t)) → Q t

/-- The set of all schemas is closed. -/
theorem closed_true : Closed setting fun _ => True :=
  ⟨fun _ _ => trivial, fun _ _ => trivial, fun _ => trivial, fun _ _ => trivial, fun _ _ _ => trivial⟩

/-- **What is said of members by their names makes a closed set**, if it is said of what schemas stand for,
too. -/
theorem closed_of_expanded (expanded : ∀ {tag fields s t}, ProperWith A (.obj tag fields) →
    get? fields "additionalProperties" = some s →
    Reference.expand setting.options.source setting.root s = .ok (some (.node t)) → ProperWith A t) :
    Closed setting (ProperWith A) where
  member h hm := h.of_mem_fields hm
  item h hm := h.of_mem_items hm
  text s := Schema.properWith_str s
  kept _ h := properWith_obj h.distinct.filter fun _ _ hm =>
    ⟨h.of_mem (List.mem_of_mem_filter hm), h.of_mem_fields (List.mem_of_mem_filter hm)⟩
  expanded := expanded

/-- So it does if it lasts and is said in the document and of what references lead to. -/
theorem closed_properWith (hA : Lasting A) (hroot : ProperWith A setting.root)
    (carries : setting.options.source.Carries A) : Closed setting (ProperWith A) :=
  closed_of_expanded fun h hs => Reference.properWith_of_expand hA hroot carries (h.of_get? hs)

namespace Closed

variable (c : Closed setting Q)

include c

theorem of_get? (h : Q (.obj tag fields)) (hk : get? fields k = some x) : Q x :=
  c.member h (Json.mem_of_get? hk)

theorem of_mem_entries {items : List Json} (hx : Q x) (he : Schema.entries x = .ok items)
    (hs : s ∈ items) : Q s := by
  rcases Schema.mem_entries he hs with ⟨tag, rfl⟩ | ⟨text, rfl⟩
  · exact c.item hx hs
  · exact c.text text

/-- Schemas stand in a schema as everything else does. -/
theorem of_mem_schemasIn (hx : Q x) (hs : s ∈ schemasIn k x) : Q s := by
  rcases Schema.Place.mem_schemas hs with rfl | hs
  · exact hx
  · cases x with
    | obj tag fields =>
      obtain ⟨⟨name, y⟩, hm, rfl⟩ := List.mem_map.1 hs
      exact c.member hx hm
    | arr tag items => exact c.item hx hs
    | _ => cases hs

/-- A closed set has all that probes come to. -/
theorem comprises : Comprises setting Q where
  part h hk hs := c.of_mem_schemasIn (c.of_get? h hk) hs
  entry _ h hk he hs := c.of_mem_entries (c.of_get? h hk) he hs
  beside h := c.kept _ h
  expanded := c.expanded

end Closed

/-! ## 5. Documents -/

section Documents

variable {options : Options} {root root' : Json}

/-- **What is found in two documents is the same**, or two schemas that are related. -/
inductive FoundAlike (R : Json → Json → Prop) : (found found' : Check (Option Reference.Node)) → Prop
  | same (found : Check (Option Reference.Node)) : FoundAlike R found found
  | related {s t : Json} (h : R s t) : FoundAlike R (.ok (some (.node s))) (.ok (some (.node t)))

/-- The like is found in two documents for the additional members of schemas of the set. -/
def ExpandAlike (R : Json → Json → Prop) (options : Options) (root root' : Json) (Q : Json → Prop) : Prop :=
  ∀ {tag : Tag} {fields : Fields} {additional : Json}, Q (.obj tag fields) →
    get? fields "additionalProperties" = some additional →
    FoundAlike R (Reference.expand options.source root additional)
      (Reference.expand options.source root' additional)

variable {R : Json → Json → Prop} (alike : ExpandAlike R options root root' Q)
  (restricted : ∀ {tag fields} {kind : Kind}, Q (.obj tag fields) →
    Q (.obj tag (Schema.restrict fields (.str kind.name))))

include alike

theorem kindIssues_of_expansions {inner : SmallerProbe value} {again : NarrowerProbe fields}
    {kind : Kind} (indifferent : ∀ x hx s t, R s t → inner x hx s = inner x hx t) (h : Q (.obj tag fields)) :
    kindIssues ⟨options, root⟩ kind value fields path inner again =
      kindIssues ⟨options, root'⟩ kind value fields path inner again := by
  cases kind with
  | object =>
    cases value with
    | obj vtag members =>
      have additional : allAdditionalIssues ⟨options, root⟩ vtag members fields path inner =
          allAdditionalIssues ⟨options, root'⟩ vtag members fields path inner := by
        unfold allAdditionalIssues
        split
        · rfl
        · next additional ha =>
          have found := alike h ha
          simp only [additionalIssues]
          generalize Reference.expand options.source root additional = here at found ⊢
          generalize Reference.expand options.source root' additional = there at found ⊢
          cases found with
          | same => rfl
          | related hst => simp only [ok_bind, nodeIssues, indifferent _ _ _ _ hst]
      simp only [kindIssues, objectIssues, additional]
      rfl
    | _ => rfl
  | _ => rfl

include restricted

theorem typeIssues_of_expansions {inner : SmallerProbe value} {again : NarrowerProbe fields}
    (indifferent : ∀ x hx s t, R s t → inner x hx s = inner x hx t) (h : Q (.obj tag fields)) :
    typeIssues ⟨options, root⟩ value tag fields path inner again =
      typeIssues ⟨options, root'⟩ value tag fields path inner again := by
  unfold typeIssues
  split
  · simp only [kindIssues_of_expansions alike indifferent h]
  · simp only [kindIssues_of_expansions alike indifferent h]
  · split
    · rfl
    · next kind _ => exact kindIssues_of_expansions alike indifferent (@restricted tag fields kind h)

/-- One step looks at the document only for what references stand for. -/
theorem step_of_expansions {answers : Answers}
    (indifferent : ∀ x s t, R s t → answers x s = answers x t) (h : Q s) :
    step ⟨options, root⟩ answers value s = step ⟨options, root'⟩ answers value s := by
  funext path
  cases s with
  | obj tag fields =>
    simp only [step, schemaIssues, memberIssues,
      typeIssues_of_expansions alike restricted (fun x _ s t hst => indifferent x s t hst) h]
    rfl
  | bool b => cases b <;> rfl
  | _ => rfl

/-- **The probe ends alike in two documents** in which the like is found for all that it comes to: the same,
or schemas between which no probe tells within one document. -/
theorem issues_eq_of_expansions
    (indifferent : ∀ setting x s t, R s t → issues setting x s = issues setting x t)
    (comprises : Comprises ⟨options, root⟩ Q) (h : Q s) :
    issues ⟨options, root⟩ value s = issues ⟨options, root'⟩ value s := by
  suffices same : ∀ c : Json × Json, Q c.2 →
      issues ⟨options, root⟩ c.1 c.2 = issues ⟨options, root'⟩ c.1 c.2 from same (value, s) h
  intro c
  induction c using wellFounded_descends.induction with
  | _ c ih =>
    intro h
    have answered : ∀ x t, (x, t) ∈ asked ⟨options, root⟩ c.1 c.2 →
        issues ⟨options, root⟩ x t = issues ⟨options, root'⟩ x t :=
      fun x t hm => ih (x, t) (descends_of_mem_asked hm) (comprises.of_mem_asked h hm)
    rw [issues_eq_step ⟨options, root⟩, step_of_answers answered,
      step_of_expansions alike restricted (indifferent _) h, ← issues_eq_step]

end Documents

end Probe

end Conform
