/-
# What comes of members and branches that are merged

`allOf` and `oneOf` decide by probing, but go on with a schema that they merge.  What a schema says by
itself may be overridden there, so that a value comes out only if the merged schema admits it, too, and
what comes out need not satisfy what was overridden.  Both are made precise here:

* a value that every member of `allOf` admits comes out as soon as the schema admits it that the members
  are merged to (`resolved_of_members`);
* a value that comes out of `oneOf` is admitted by one branch and by no other
  (`selected_of_resolveValues`), and by the rest of the schema as long as the branch leaves it alone
  (`issues_of_selected_branch`).

Members that can be merged make a schema that merges nothing any more (`simple_of_mergeAll`), and a
schema that is still there in another one (`Retains`) is entailed by it (`valid_of_retains`).
-/
import Conform.Proofs.Additive
import Conform.Proofs.Completeness
import Conform.Proofs.Soundness

namespace Conform

open Fields (get?)

namespace Schema

open Probe (tableKeywords)

/-! ## 1. Schemas that can be merged -/

/-- Is the type the name of one that there is? -/
def isKnownType : Json → Bool
  | .str name => (Kind.ofName? name).isSome
  | _ => false

/-- **A simple schema to be merged with others**: it pins no value down, and all its types are types that
there are. -/
structure Joinable (fields : Fields) : Prop extends Simple fields where
  unpinned : pinned? fields = none
  names : ∀ t ∈ declaredTypes (.obj none fields), isKnownType t = true

instance : DecidablePred Joinable := fun fields =>
  decidable_of_iff
    (Simple fields ∧ pinned? fields = none ∧
      ∀ t ∈ declaredTypes (.obj none fields), isKnownType t = true)
    ⟨fun ⟨h₁, h₂, h₃⟩ => ⟨h₁, h₂, h₃⟩, fun ⟨h₁, h₂, h₃⟩ => ⟨h₁, h₂, h₃⟩⟩

/-- What simple schemas with known types say under a keyword. -/
structure Ordinary (k : String) (x : Json) : Prop where
  lacked : k ∉ "allOf" :: stirring
  types : k = "type" → ∀ t ∈ listedTypes x, isSolidType t = true ∧ isKnownType t = true
  table : k ∈ tableKeywords → x.isObject = true
  additional : k = "additionalProperties" → isProperSchema x = true

/-- The same, and that no value is pinned down. -/
structure OrdinaryUnpinning (k : String) (x : Json) : Prop where
  ordinary : Ordinary k x
  several : k = "enum" → ∀ tag y, x ≠ .arr tag [y]

section Ordinary

variable {k : String} {s : Json}

theorem Wholly.ordinary (h : Wholly Joinable s) : Everywhere (OfMembers OrdinaryUnpinning) s := by
  refine h.ofMembers fun tag fields h k x hk => ⟨⟨fun hl => ?_, ?_, fun ht => ?_, ?_⟩, ?_⟩
  · rcases List.mem_cons.1 hl with rfl | hl
    · rw [h.here.alone] at hk
      cases hk
    · rw [h.here.lacks k hl] at hk
      cases hk
  · rintro rfl t ht
    have declared : t ∈ declaredTypes (.obj none fields) := by rwa [declaredTypes_eq hk]
    exact ⟨h.here.types t declared, h.here.names t declared⟩
  · have table := h.here.tables k ht
    rwa [hk] at table
  · rintro rfl
    have additional := h.here.additional
    rwa [hk] at additional
  · rintro rfl tag y rfl
    have hu := h.here.unpinned
    rw [pinned?, h.here.lacks "const" (by simp), hk] at hu
    cases hu

/-- A schema is simple if its members are ordinary everywhere. -/
theorem simple_of_ordinary (h : Everywhere (OfMembers Ordinary) s) (hp : s.Proper) :
    Wholly Simple s := by
  refine ⟨?_, hp⟩
  induction h with
  | plain h => exact .plain h
  | @node tag fields here _ ih =>
    have said : ∀ {k x}, get? fields k = some x → Ordinary k x := fun hk =>
      here _ _ (Json.mem_of_get? hk)
    have absent : ∀ {k}, k ∈ "allOf" :: stirring → get? fields k = none := fun hk =>
      Option.eq_none_iff_forall_ne_some.2 fun x hx => (said hx).lacked hk
    have typed : ∀ t ∈ declaredTypes (.obj none fields),
        isSolidType t = true ∧ isKnownType t = true := by
      intro t ht
      obtain ⟨x, hx, he⟩ := exists_type_of_mem_declaredTypes ht
      exact (said hx).types rfl t (he ▸ ht)
    refine .node ⟨⟨fun k hk => absent (List.mem_cons_of_mem _ hk), fun t ht => (typed t ht).1,
      fun k hk => ?_, ?_⟩, absent (List.mem_cons_self ..), ?_⟩ fun s hs => ?_
    · cases hx : get? fields k with
      | none => rfl
      | some x => exact (said hx).table hk
    · cases hx : get? fields "additionalProperties" with
      | none => rfl
      | some x => exact (said hx).additional rfl
    · cases hd : declaredTypes (.obj none fields) with
      | nil => rfl
      | cons t rest =>
        have known := (typed t (hd ▸ List.mem_cons_self ..)).2
        cases rest with
        | nil =>
          cases t with
          | str name => exact known
          | _ => cases known
        | cons => cases t <;> rfl
    · obtain ⟨k, x, hm, hpart⟩ := mem_subschemas.1 hs
      exact ih s hs (proper_of_mem_partsOf (hp.of_mem_fields hm) hpart)

theorem pinned?_of_ordinary {fields : Fields} (h : OfMembers OrdinaryUnpinning fields) :
    pinned? fields = none := by
  unfold pinned?
  split
  · next hx => exact absurd (by simp) (h _ _ (Json.mem_of_get? hx)).ordinary.lacked
  · next hx => exact absurd rfl ((h _ _ (Json.mem_of_get? hx)).several rfl _ _)
  · rfl

theorem exists_of_ordinaryType (t : Json) (h : isSolidType t = true ∧ isKnownType t = true) :
    ∃ name, t = .str name :=
  (exists_of_isSolidType h.1).imp fun _ h => h.1

theorem isObject_unite {x y : Json} (hy : y.isObject = true) :
    (Json.unite x y).isObject = true := by
  rcases unite_cases x y with ⟨_, _, _, _, -, -, h⟩ | ⟨_, _, _, _, -, rfl, -⟩ | h
  · rw [h]
    rfl
  · cases hy
  · rwa [h]

theorem isProperSchema_unite {x y : Json} (hy : isProperSchema y = true) :
    isProperSchema (Json.unite x y) = true := by
  rcases unite_cases x y with ⟨_, _, _, _, -, -, h⟩ | ⟨_, _, _, _, -, rfl, -⟩ | h
  · rw [h]
    rfl
  · cases hy
  · rwa [h]

/-- Merging and uniting keep what is ordinary. -/
theorem mergeable_ordinary : Mergeable Ordinary OrdinaryUnpinning where
  weaken h _ k x hm := (h k x hm).ordinary
  blend := by
    intro conjunction a b k z ha hb hb' hz
    have left : ∀ {k x}, get? a k = some x → Ordinary k x := fun h => ha _ _ (Json.mem_of_get? h)
    cases hz with
    | types hx _ h =>
      exact ⟨(left hx).lacked, fun _ => listedTypes_intersect exists_of_ordinaryType ⟨rfl, rfl⟩
        ((left hx).types rfl) h, by simp, by simp⟩
    | enumeration hx _ _ _ => exact ⟨(left hx).lacked, nofun, by simp, by simp⟩
    | constant _ hy =>
      rw [pinned?_of_ordinary hb'] at hy
      cases hy
    | required => exact ⟨by simp, nofun, by simp, by simp⟩
    | properties hx => exact ⟨(left hx).lacked, nofun, fun _ => rfl, by simp⟩
    | united hk hx hy =>
      refine ⟨(left hx).lacked, ?_, fun ht => ?_, ?_⟩
      · rintro rfl
        simp at hk
      · exact isObject_unite ((hb _ _ (Json.mem_of_get? hy)).table ht)
      · rintro rfl
        simp at hk
    | merged hk hx _ _ h =>
      refine ⟨(left hx).lacked, ?_, fun ht => ?_, fun _ => ?_⟩
      · rintro rfl
        simp at hk
      · simp only [List.mem_cons, List.not_mem_nil, or_false] at hk ht
        rcases hk with rfl | rfl | rfl <;> simp at ht
      · rcases merge_sourced h with rfl | ⟨r, rfl, -⟩ <;> rfl
    | composed hk hx _ _ _ =>
      refine ⟨(left hx).lacked, ?_, fun ht => ?_, ?_⟩
      · rintro rfl
        simp at hk
      · simp only [List.mem_cons, List.not_mem_nil, or_false] at hk ht
        rcases hk with rfl | rfl | rfl <;> simp at ht
      · rintro rfl
        simp at hk
  unite := by
    intro k x y hx hy
    refine ⟨hx.lacked, ?_, fun ht => isObject_unite (hy.table ht), ?_⟩
    · rintro rfl
      exact listedTypes_unite exists_of_ordinaryType (hx.types rfl) (hy.types rfl)
    · rintro rfl
      exact isProperSchema_unite (hy.additional rfl)

end Ordinary

/-- Schemas merged into a first one, one after the other, as those of a conjunction. -/
def mergeAll (base : Json) (members : List Json) : Except Fault Json :=
  members.foldlM (merge true) base

/-- **What joinable schemas are merged to is simple.** -/
theorem simple_of_mergeAll {base merged : Json} {members : List Json}
    (hb : Everywhere (OfMembers Ordinary) base) (hp : base.Proper)
    (hm : ∀ s ∈ members, Wholly Joinable s) (h : mergeAll base members = .ok merged) :
    Wholly Simple merged := by
  induction members generalizing base with
  | nil =>
    cases h
    exact simple_of_ordinary hb hp
  | cons first rest ih =>
    obtain ⟨next, hn, h⟩ := bind_eq_ok.1 h
    have joinable := hm first (List.mem_cons_self ..)
    exact ih (mergeable_ordinary.everywhere_merge hb joinable.ordinary joinable.proper hn)
      (proper_merge hp joinable.proper hn) (fun s hs => hm s (List.mem_cons_of_mem _ hs)) h

end Schema

/-! ## 2. Members of `allOf` -/

open Schema (Wholly Joinable Elementary Assertive mergeAll)

namespace Resolve

namespace Step

variable {step : Step} {x : Json}

/-- Members that are not composed of others are only merged. -/
theorem flatten_of_plain {members : List Json} {flat : Flattened} {merged : Json}
    (hp : ∀ s ∈ members, isComposite s = false) (hm : mergeAll flat.merged members = .ok merged) :
    (step.flatten members flat).result =
      .ok (.ok ⟨flat.working, merged, members.reverse ++ flat.plain, flat.issues⟩) := by
  refine flatten_result.2 ?_
  induction members generalizing flat with
  | nil =>
    cases hm
    exact .nil
  | cons first rest ih =>
    obtain ⟨next, hn, hrest⟩ := bind_eq_ok.1 hm
    have plain : isComposite first = false := hp first (List.mem_cons_self ..)
    have part : mergedPart first = first := by simp [mergedPart, plain]
    have takes : step.TakesMember first flat ⟨flat.working, next, first :: flat.plain, flat.issues⟩ :=
      ⟨flat, next, by simp [plain], part.symm ▸ hn, by rw [part]⟩
    rw [List.reverse_cons, List.append_assoc, List.singleton_append]
    exact .cons takes (ih (fun s hs => hp s (List.mem_cons_of_mem _ hs)) hrest)

/-- **Where members of `allOf` are only merged**, a value that they and the merged schema admit goes on
smoothly. -/
theorem smooth_allOf (hx : step.value = some x) (hneg : step.negated = false) (sound : Sound False x)
    (ha : step.setting.options.accessor = .direct) (keeps : Keeps False Schema.Tolerated step.again)
    (complete : Complete step.setting step.again) {members : List Json} {merged : Json} {tag : Tag}
    {outcome : Outcome}
    (hp : ∀ s ∈ members, isComposite s = false)
    (hm : mergeAll (step.without ["allOf"]) members = .ok merged) (hs : Wholly Schema.Simple merged)
    (hbase : Probe.issues step.setting x (plainPart (step.without ["allOf"])) [] = .ok [])
    (hvalid : ∀ s ∈ members, Probe.issues step.setting x s [] = .ok [])
    (hmerged : Probe.issues step.setting x merged [] = .ok [])
    (hr : (step.allOf (.arr tag members)).result = .ok outcome) : Smooth outcome.issues := by
  have admissible : Admissible False Schema.Tolerated
      ⟨.node merged, some x, step.parent, step.key, step.negated⟩ :=
    ⟨fun _ e => by cases e; exact good_of_simple hs, fun _ e => by cases e; exact sound, .inr nofun⟩
  have welcome : Welcome step.setting ⟨.node merged, some x, step.parent, step.key, step.negated⟩ :=
    ⟨admissible, hneg, fun _ e => by cases e; exact hs,
      fun _ _ e e' => by cases e; cases e'; exact ⟨_, hmerged⟩, nofun⟩
  simp only [allOf, Run.bind_result_eq_ok, Run.lift_result, Probe.entriesOf, Json.entries?] at hr
  obtain ⟨_, ⟨⟩, flattened, hf, hr⟩ := hr
  rw [flatten_of_plain hp hm] at hf
  cases hf
  simp only [Run.bind_result_eq_ok, hx] at hr
  obtain ⟨result, ho, hr⟩ := hr
  have smooth := complete [] _ result welcome ho
  simp only [List.isEmpty_nil, Bool.not_true, Bool.false_eq_true, if_false] at hr
  cases result with
  | failed issues =>
    cases hr
    exact smooth
  | resolved value =>
    -- what comes out is probed against each member once more
    obtain ⟨y, rfl, hxy⟩ := (keeps [] _ value admissible ho).reordered sound.proper
    have passed : step.issuesAgainst (some y)
        (members.reverse ++ [plainPart (step.without ["allOf"])]).reverse = .ok [] := by
      refine Probe.gather_eq_nil_iff.2 fun s hs => ?_
      have here : Probe.issues step.setting x s [] = .ok [] := by
        rcases List.mem_append.1 (List.mem_reverse.1 hs) with hs | hs
        · exact hvalid s (List.mem_reverse.1 hs)
        · exact List.mem_singleton.1 hs ▸ hbase
      exact (Probe.issues_iff_of_reordered ha hxy).1 here
    simp only [Run.bind_result_eq_ok, Run.lift_result, passed] at hr
    obtain ⟨_, ⟨⟩, hr⟩ := hr
    cases hr
    exact .nil

end Step

end Resolve

/-- **`allOf` accepts what all its members and the schema merged of them admit**: a value without nulls in
which the probe finds no issue under any member and under the merged schema comes out of a resolution,
unless this reports that the schema is too deep. -/
theorem resolved_of_members {tag tag' : Tag} {members : List Json} {merged value : Json}
    {outcome : Resolve.Outcome} {options : Options} (hj : ∀ s ∈ members, Wholly Joinable s)
    (he : ∀ s ∈ members, Elementary s) (hm : mergeAll (.obj none []) members = .ok merged)
    (hv : value.Proper) (hn : value.NullFree) (ha : options.accessor = .direct)
    (hskip : options.skipValidation = false)
    (hvalid : ∀ s ∈ members, validateValue (some value) s options = .ok [])
    (hmerged : (Session.start options (.obj tag [("allOf", .arr tag' members)])).validate (some value)
      merged none = .ok [])
    (h : resolveValues (.obj tag [("allOf", .arr tag' members)]) (some value) options = .ok outcome)
    (hdeep : ¬outcome.SaysTooDeep) : ∃ w, outcome = .resolved w := by
  refine resolved_of_smooth (fun result hr => ?_) h hdeep
  have start : (Json.obj none []).Proper := Json.proper_obj List.nodup_nil nofun
  have simple : Wholly Schema.Simple merged :=
    Schema.simple_of_mergeAll (.node (by rintro _ _ ⟨⟩) (by rintro _ ⟨⟩)) start hj hm
  have anywhere : ∀ {s path}, Probe.issues ⟨options, .obj tag [("allOf", .arr tag' members)]⟩ value s
      path = .ok [] → Probe.issues ⟨options, .obj tag [("allOf", .arr tag' members)]⟩ value s [] =
        .ok [] := fun hi => (Probe.issues_iff_of_reordered ha (.refl hv)).1 hi
  have plain : ∀ s ∈ members, Resolve.Step.isComposite s = false := by
    intro s hs
    cases hes : he s hs with
    | boolean b => rfl
    | @node tag fields here _ =>
      refine List.any_eq_false.2 fun k hk => ?_
      simp [Fields.has, here k (List.mem_cons_of_mem _ hk)]
  rw [Resolve.resolveAt, Resolve.resolve] at hr
  split at hr
  · cases hr
    exact .inr ⟨_, List.mem_singleton_self _, rfl⟩
  · replace hr : (Resolve.Step.run ⟨⟨options, .obj tag [("allOf", .arr tag' members)]⟩,
        options.currentPath, tag, [("allOf", .arr tag' members)], some value, .null, .null, false,
        _⟩).result = .ok result := hr
    simp only [Resolve.Step.run, Resolve.Run.bind_result_eq_ok, Resolve.Run.lift_result] at hr
    obtain ⟨issues, hpin, hr⟩ := hr
    rw [Resolve.Step.filled_eq rfl hn.here] at hpin hr
    simp only [Resolve.Step.pinIssues, Resolve.Step.skips, hskip] at hpin
    cases hpin
    refine Resolve.Step.smooth_allOf rfl rfl ⟨hv, .inr hn⟩ ha (fun extension request w hadm hw => ?_)
      (fun extension request outcome hwelcome ho => ?_) plain (by exact hm) simple ?_ (fun s hs => ?_)
      (anywhere hmerged) hr
    · exact Resolve.keeps_resolve (Resolve.tame_tolerated ha) _ request w hadm hw
    · exact Resolve.complete_resolve ha hskip _ request outcome hwelcome ho
    · exact Probe.issues_of_nil
    · exact anywhere ((Probe.issues_eq_of_elementary (he s hs)).trans (hvalid s hs))

/-- Members with bounds on one property, types that they have in common, patterns and a tuple. -/
def partners : List Json := [
  .obj none [("type", .arr none [.str "object", .str "array"]),
    ("required", .arr none [.str "size"]),
    ("properties", .obj none [("size", .obj none [
      ("type", .arr none [.str "integer", .str "string"]), ("minimum", .num (.int 1))])])],
  .obj none [("properties", .obj none [
    ("size", .obj none [("type", .str "number"), ("maximum", .num (.int 9))]),
    ("tags", .obj none [
      ("prefixItems", .arr none [.obj none [("enum", .arr none [.str "a", .str "b"])]]),
      ("items", .bool false)])])],
  .obj none [("type", .str "object"),
    ("patternProperties", .obj none [
      ("^x", .obj none [("contains", .obj none [("minLength", .num (.int 2))])])]),
    ("additionalProperties", .obj none [("maximum", .num (.int 7))])]]

/-- What the members are merged to. -/
def partnership : Json := .obj none [
  ("type", .str "object"),
  ("required", .arr none [.str "size"]),
  ("properties", .obj none [
    ("size", .obj none [("type", .str "integer"), ("minimum", .num (.int 1)),
      ("maximum", .num (.int 9))]),
    ("tags", .obj none [
      ("prefixItems", .arr none [.obj none [("enum", .arr none [.str "a", .str "b"])]]),
      ("items", .bool false)])]),
  ("patternProperties", .obj none [
    ("^x", .obj none [("contains", .obj none [("minLength", .num (.int 2))])])]),
  ("additionalProperties", .obj none [("maximum", .num (.int 7))])]

/-- A value that the members and what they are merged to admit. -/
def admitted : Json := .obj none [
  ("rest", .num (.int 7)), ("tags", .arr none [.str "b"]), ("size", .num (.int 5)),
  ("xs", .arr none [.str "ab", .num (.int 0)])]

/-- The value with its declared members in front. -/
def emitted : Json := .obj none [
  ("size", .num (.int 5)), ("tags", .arr none [.str "b"]), ("rest", .num (.int 7)),
  ("xs", .arr none [.str "ab", .num (.int 0)])]

theorem resolved_of_members_admitted :
    (∀ s ∈ partners, validateValue (some admitted) s Options.default = .ok []) ∧
      resolveValues (.obj none [("allOf", .arr none partners)]) (some admitted) Options.default =
        .ok (.resolved (some emitted)) ∧
      ∃ w, Resolve.Outcome.resolved (some emitted) = .resolved w := by
  have hvalid : ∀ s ∈ partners, validateValue (some admitted) s Options.default = .ok [] := by
    decide +kernel
  have hr : resolveValues (.obj none [("allOf", .arr none partners)]) (some admitted)
      Options.default = .ok (.resolved (some emitted)) := by decide +kernel
  have hm : mergeAll (.obj none []) partners = .ok partnership := by decide +kernel
  exact ⟨hvalid, hr, resolved_of_members (by decide +kernel) (by decide +kernel) hm (by decide +kernel)
    (by decide +kernel) rfl rfl hvalid (by decide +kernel) hr (by decide)⟩

/-- Where the merged schema does not admit a value, it is of no use that the members do. -/
example : resolveValues
    (.obj none [("allOf", .arr none [.obj none [("contains", .obj none [("type", .str "string")])],
      .obj none [("minContains", .num (.int 2))]])])
    (some (.arr none [.str "a"])) Options.default =
      .ok (.failed [⟨.containsTooFew (.num (.int 2)), ["contains"]⟩]) := by
  decide +kernel

/-! ## 3. Schemas that are still there -/

namespace Schema

open Probe (Entails Upheld ArrayUpheld ObjectUpheld Kept TableUpheld entriesUnder requiredNames
  tableKeywords)

/-- **The second schema is still there in the first**: nothing that it says is overridden, and nothing of
what the first one says besides gets in its way. -/
structure Retains (engine : Pattern.Engine) (r b : Fields) : Prop where
  kept : ∀ k ∈ asserting, k ∉ "required" :: tableKeywords → ∀ y ∈ get? b k, get? r k = some y
  entries : ∀ k ∈ tableKeywords, entriesUnder b k ⊆ entriesUnder r k
  required : requiredNames b ⊆ requiredNames r
  there : ∀ k ∈ "required" :: tableKeywords, Fields.has b k = true → Fields.has r k = true
  objects : ∀ k ∈ tableKeywords,
    (get? r k).all Json.isObject = true ∧ (get? b k).all Json.isObject = true
  texts : (get? r "required").all isTextList = true ∧ (get? b "required").all isTextList = true
  independent : Independent engine (.merging false) r b

instance {engine : Pattern.Engine} {r b : Fields} : Decidable (Retains engine r b) :=
  decidable_of_iff
    ((∀ k ∈ asserting, k ∉ "required" :: tableKeywords → ∀ y ∈ get? b k, get? r k = some y) ∧
      (∀ k ∈ tableKeywords, entriesUnder b k ⊆ entriesUnder r k) ∧
      requiredNames b ⊆ requiredNames r ∧
      (∀ k ∈ "required" :: tableKeywords, Fields.has b k = true → Fields.has r k = true) ∧
      (∀ k ∈ tableKeywords,
        (get? r k).all Json.isObject = true ∧ (get? b k).all Json.isObject = true) ∧
      ((get? r "required").all isTextList = true ∧ (get? b "required").all isTextList = true) ∧
      Independent engine (.merging false) r b)
    ⟨fun ⟨h₁, h₂, h₃, h₄, h₅, h₆, h₇⟩ => ⟨h₁, h₂, h₃, h₄, h₅, h₆, h₇⟩,
      fun ⟨h₁, h₂, h₃, h₄, h₅, h₆, h₇⟩ => ⟨h₁, h₂, h₃, h₄, h₅, h₆, h₇⟩⟩

section Retains

variable {options : Options} {root x : Json} {r b : Fields} {tag tag' : Tag}
  (h : Retains options.engine r b) (he : Elementary (.obj tag b))

include h

theorem Retains.keeps {keys : List String}
    (hk : ∀ k ∈ keys, k ∈ asserting ∧ k ∉ "required" :: tableKeywords) : Kept keys r b :=
  fun k hm y hy => h.kept k (hk k hm).1 (hk k hm).2 y hy

include he

theorem arrayUpheld_of_retains : ArrayUpheld (Entails options root root) r b := by
  have kept : Kept ["items", "additionalItems", "prefixItems"] r b := h.keeps (by decide)
  constructor
  · exact h.keeps (by decide)
  · intro hc hm m hr
    exact h.independent.least (by simpa [Fields.has, Option.isSome_iff_ne_none] using hc)
      (by simp [Fields.has, hm]) m hr
  · intro i s hs
    refine itemSchema_of_placed he (fun s hs => .refl hs) (kept _ (by simp)) (fun hitems => ?_)
      (fun k hk y hy => ⟨y, ?_, .inl rfl⟩) hs
    · cases hb : get? b "prefixItems" with
      | some y => exact kept _ (by simp) y hb
      | none =>
        exact Fields.has_eq_false_iff.1 (h.independent.positions
          (by simpa [Fields.has, Option.isSome_iff_ne_none] using hitems) (by simp [Fields.has, hb]))
    · rcases List.mem_pair.1 hk with rfl | rfl <;> exact kept _ (by simp) y hy

theorem objectUpheld_of_retains : ObjectUpheld options root (Entails options root root) r b := by
  constructor
  · exact h.keeps (by decide)
  · exact h.texts.2
  · intro n hn
    exact mem_distinct_of_texts (Probe.entriesOf_required h.texts.1).2
      (h.required (mem_of_mem_distinct hn))
  · exact h.objects
  · intro k hk n v hm
    obtain ⟨tag', hb⟩ := Probe.exists_of_mem_memberTable
      (Probe.membersOf_memberTable (h.objects k hk).2) hm
    refine ⟨v, h.entries k hk hm, .refl (he.table hb ?_ hm)⟩
    simp only [List.mem_cons, List.not_mem_nil, or_false] at hk
    rcases hk with rfl | rfl | rfl <;> rfl
  · exact h.independent.aside
  · intro s hs
    refine (h.independent.additional s hs).imp_right fun ⟨hnames, hpatterns⟩ => ?_
    have elementary : Elementary s := he.schema hs rfl
    exact ⟨hnames, hpatterns, s, h.kept _ (by decide) (by decide) s hs, .refl elementary,
      Probe.expand_of_elementary elementary⟩

/-- **What a schema asks for is asked for where it is still there.** -/
theorem upheld_of_retains : Upheld options root (Entails options root root) r b := by
  constructor
  · exact h.keeps (by decide)
  · intro y hy
    exact ⟨y, h.kept "enum" (by decide) (by decide) y hy, fun listed hl => ⟨listed, hl, fun _ => id⟩⟩
  · intro kind k hk hb
    by_cases hj : k ∈ "required" :: tableKeywords
    · exact h.there k hj hb
    · obtain ⟨y, hy⟩ := Option.isSome_iff_exists.1 hb
      have assertion : k ∈ asserting := by
        cases kind <;> simp_all [keywordsOf, asserting]
      rw [Fields.has, h.kept k assertion hj y hy, Option.isSome_some]
  · intro kind
    cases kind with
    | null | boolean => trivial
    | string => exact h.keeps (by decide)
    | number | integer => exact h.keeps (by decide)
    | array => exact arrayUpheld_of_retains h he
    | object => exact objectUpheld_of_retains h he

end Retains

/-- **A schema is satisfied where it is still there**, together with what it negates. -/
theorem valid_of_retains {options : Options} {root x : Json} {r fields : Fields} {tag tag' : Tag}
    {path : Path} (h : Retains options.engine r (Fields.without fields ["not"]))
    (he : Elementary (.obj tag' (Fields.without fields ["not"])))
    (hc : get? fields "const" = none) (hnot : ∀ y ∈ get? fields "not", get? r "not" = some y)
    (ha : options.accessor = .direct) (hx : x.Proper) (hn : x.NullFree)
    (hi : Probe.issues ⟨options, root⟩ x (.obj tag r) path = .ok []) :
    Probe.issues ⟨options, root⟩ x (.obj tag' fields) path = .ok [] := by
  have rest : ∀ {k}, k ≠ "not" → get? (Fields.without fields ["not"]) k = get? fields k := by
    intro k hk
    rw [Fields.get?_without, if_neg (by simpa using hk)]
  have absent : ∀ k ∈ compositeKeywords, k ≠ "not" → get? fields k = none := fun k hk hne =>
    (rest hne).symm.trans (he.lacks (List.mem_cons_of_mem _ hk))
  have entails : Entails options root root (.obj tag r) (.obj tag' (Fields.without fields ["not"])) :=
    Probe.entails_of_upheld (upheld_of_retains h he) he ((rest (by decide)).trans hc) ha
  obtain ⟨hpin, -, -, -, -, -, htype⟩ := Probe.issues_obj_iff.1 (entails x path hn hi)
  obtain ⟨-, -, -, -, -, hneg, -⟩ := Probe.issues_obj_iff.1 hi
  refine Probe.issues_obj_iff.2 ⟨?_, ?_, ?_, ?_, ?_, ?_, ?_⟩
  · rwa [Probe.pinIssues, rest (by decide), rest (by decide)] at hpin
  · exact Probe.conditionalIssues_of_none (absent "if" (by simp [compositeKeywords]) (by decide))
  · refine Probe.allOfIssues_iff.2 fun y hy => ?_
    rw [absent "allOf" (by simp [compositeKeywords]) (by decide)] at hy
    cases hy
  · refine Probe.anyOfIssues_iff.2 fun y hy => ?_
    rw [absent "anyOf" (by simp [compositeKeywords]) (by decide)] at hy
    cases hy
  · exact Probe.oneOfIssues_of_none (absent "oneOf" (by simp [compositeKeywords]) (by decide))
  · exact Probe.notIssues_iff.2 fun y hy => Probe.notIssues_iff.1 hneg y (hnot y hy)
  · refine (Probe.typeIssues_iff_of_samePlain ha (.refl hx) (.without ?_)).2 htype
    rintro k hk
    obtain rfl := List.mem_singleton.1 hk
    simp [compositeKeywords]

/-! ## 4. Branches of `oneOf` -/

/-- The rest of a schema with `oneOf`. -/
def unselected (fields : Fields) : Fields := Fields.without fields ["oneOf"]

/-- **A branch that leaves the rest of the schema alone**: what the two are merged to only asserts, and the
rest of the schema is still there, with what it negates. -/
structure LeavesAlone (engine : Pattern.Engine) (fields : Fields) (branch : Json) : Prop where
  assertive : ∀ effective ∈ (merge true (.obj none (unselected fields)) branch).toOption,
    Wholly Assertive effective
  retains : ∀ effective ∈ (merge true (.obj none (unselected fields)) branch).toOption,
    Retains engine (fieldsOf effective) (Fields.without (unselected fields) ["not"])
  negated : ∀ effective ∈ (merge true (.obj none (unselected fields)) branch).toOption,
    ∀ y ∈ get? fields "not", get? (fieldsOf effective) "not" = some y

instance {engine : Pattern.Engine} {fields : Fields} {branch : Json} :
    Decidable (LeavesAlone engine fields branch) :=
  decidable_of_iff
    ((∀ effective ∈ (merge true (.obj none (unselected fields)) branch).toOption,
        Wholly Assertive effective) ∧
      (∀ effective ∈ (merge true (.obj none (unselected fields)) branch).toOption,
        Retains engine (fieldsOf effective) (Fields.without (unselected fields) ["not"])) ∧
      ∀ effective ∈ (merge true (.obj none (unselected fields)) branch).toOption,
        ∀ y ∈ get? fields "not", get? (fieldsOf effective) "not" = some y)
    ⟨fun ⟨h₁, h₂, h₃⟩ => ⟨h₁, h₂, h₃⟩, fun ⟨h₁, h₂, h₃⟩ => ⟨h₁, h₂, h₃⟩⟩

end Schema

open Schema (unselected LeavesAlone)

/-- **What comes out of `oneOf` is admitted by one branch and by no other**, and comes out of the rest of
the schema with this branch merged in. -/
theorem selected_of_resolveValues {tag : Tag} {fields : Fields} {branches value : Json}
    {w : Option Json} {options : Options} (hone : get? fields "oneOf" = some branches)
    (hno : ∀ k ∈ ["if", "allOf", "anyOf", "default"], get? fields k = none) (hn : value ≠ .null)
    (h : resolveValues (.obj tag fields) (some value) options = .ok (.resolved w)) :
    ∃ before branch after, Probe.entriesOf branches = .ok (before ++ branch :: after) ∧
      (Session.start options (.obj tag fields)).validate (some value) branch none = .ok [] ∧
      (∀ other ∈ before ++ after, ∃ issues, issues ≠ [] ∧
        (Session.start options (.obj tag fields)).validate (some value) other none = .ok issues) ∧
      ∃ effective guard y, Schema.merge true (.obj none (unselected fields)) branch = .ok effective ∧
        (Resolve.resolve ⟨options, .obj tag fields⟩ guard
          (Resolve.wholeRequest effective (some value))).result = .ok (.resolved y) := by
  obtain ⟨guard, y, hy⟩ := dispatch_of_resolveValues hn h
  simp only [Resolve.Step.dispatch, hno "if" (by simp), hno "allOf" (by simp),
    hno "anyOf" (by simp), hone] at hy
  rcases Resolve.Step.oneOf_resolved hy with ⟨hnone, -⟩ |
    ⟨x, entries, branch, effective, hx, hentries, ⟨before, after, rfl, hvalid, hothers⟩, hm, hr⟩ |
    ⟨d, hd, -⟩
  · cases hnone
  · cases hx
    refine ⟨before, branch, after, hentries, hvalid, fun other ho => ?_, effective, _, y, hm, hr⟩
    obtain ⟨found, hf, hne⟩ := hothers other ho
    exact ⟨found, hne, hf⟩
  · rw [Resolve.Step.default?, hno "default" (by simp)] at hd
    cases hd

/-- **What comes out of `oneOf` satisfies one branch and the rest of the schema**, as long as each branch
leaves the rest alone. -/
theorem issues_of_selected_branch {tag tag' : Tag} {fields : Fields} {branches : List Json}
    {value : Json} {w : Option Json} {options : Options}
    (hone : get? fields "oneOf" = some (.arr tag' branches))
    (hd : ∀ k ∈ ["default", "const"], get? fields k = none)
    (he : Elementary (.obj none (Fields.without (unselected fields) ["not"])))
    (hb : ∀ branch ∈ branches, branch ≠ .bool false → LeavesAlone options.engine fields branch)
    (hv : value.Proper) (hn : value.NullFree) (ha : options.accessor = .direct)
    (hskip : options.skipValidation = false)
    (h : resolveValues (.obj tag fields) (some value) options = .ok (.resolved w)) :
    ∃ before branch after, branches = before ++ branch :: after ∧
      (Session.start options (.obj tag fields)).validate (some value) branch none = .ok [] ∧
      (∀ other ∈ before ++ after, ∃ issues, issues ≠ [] ∧
        (Session.start options (.obj tag fields)).validate (some value) other none = .ok issues) ∧
      (Session.start options (.obj tag fields)).validate (some value)
        (.obj none (unselected fields)) none = .ok [] := by
  have rest : ∀ {k}, k ∉ ["oneOf", "not"] →
      get? (Fields.without (unselected fields) ["not"]) k = get? fields k := by
    intro k hk
    simp only [List.mem_cons, List.not_mem_nil, or_false, not_or] at hk
    rw [Fields.get?_without, if_neg (by simpa using hk.2), unselected, Fields.get?_without,
      if_neg (by simpa using hk.1)]
  have hno : ∀ k ∈ ["if", "allOf", "anyOf", "default"], get? fields k = none := by
    intro k hk
    simp only [List.mem_cons, List.not_mem_nil, or_false] at hk
    rcases hk with rfl | rfl | rfl | rfl
    · exact (rest (by decide)).symm.trans (he.lacks (by simp [Schema.compositeKeywords]))
    · exact (rest (by decide)).symm.trans (he.lacks (by simp [Schema.compositeKeywords]))
    · exact (rest (by decide)).symm.trans (he.lacks (by simp [Schema.compositeKeywords]))
    · exact hd _ (by simp)
  obtain ⟨before, branch, after, hentries, hvalid, hothers, effective, guard, y, hm, hy⟩ :=
    selected_of_resolveValues hone hno hn.here h
  obtain rfl : branches = before ++ branch :: after := Except.ok.inj hentries
  refine ⟨before, branch, after, rfl, hvalid, hothers, ?_⟩
  have admits : branch ≠ .bool false := by
    rintro rfl
    have refused : Probe.issues ⟨options, .obj tag fields⟩ value (.bool false) options.currentPath =
        .ok [] := hvalid
    simp at refused
  have alone : LeavesAlone options.engine fields branch := hb branch (by simp) admits
  have here : effective ∈ (Schema.merge true (.obj none (unselected fields)) branch).toOption := by
    rw [hm]
    rfl
  have assertive := alone.assertive effective here
  have valid := Resolve.valid_of_resolve ha hskip assertive hv hn hy options.currentPath
  obtain ⟨r, rfl⟩ : ∃ r, effective = .obj none r := by
    rcases Schema.merge_sourced hm with rfl | ⟨r, rfl, -⟩
    · simp at valid
    · exact ⟨r, rfl⟩
  refine Schema.valid_of_retains (alone.retains _ here) he ?_
    (fun y hy => alone.negated _ here y ?_) ha hv hn valid
  · rw [unselected, Fields.get?_without, if_neg (by decide)]
    exact hd _ (by simp)
  · rwa [unselected, Fields.get?_without, if_neg (by decide)] at hy

/-- The members of a schema of which either the size or the weight is to be given. -/
def measured : Fields := [
  ("type", .str "object"),
  ("required", .arr none [.str "kind"]),
  ("properties", .obj none [
    ("kind", .obj none [("type", .str "string"), ("minLength", .num (.int 1))])]),
  ("maxProperties", .num (.int 3)),
  ("not", .obj none [("required", .arr none [.str "none"])]),
  ("oneOf", .arr none [
    .obj none [("required", .arr none [.str "size"]),
      ("properties", .obj none [("size", .obj none [("type", .str "integer")])])],
    .obj none [("required", .arr none [.str "weight"]),
      ("properties", .obj none [("weight", .obj none [("minimum", .num (.int 1))])])],
    .bool false])]

/-- A value with a size. -/
def sized : Json := .obj none [("kind", .str "a"), ("size", .num (.int 4))]

theorem issues_of_selected_branch_measured :
    resolveValues (.obj none measured) (some sized) Options.default = .ok (.resolved (some sized)) ∧
      ∃ before branch after, [
          .obj none [("required", .arr none [.str "size"]),
            ("properties", .obj none [("size", .obj none [("type", .str "integer")])])],
          .obj none [("required", .arr none [.str "weight"]),
            ("properties", .obj none [("weight", .obj none [("minimum", .num (.int 1))])])],
          .bool false] = before ++ branch :: after ∧
        (Session.start Options.default (.obj none measured)).validate (some sized) branch none = .ok [] ∧
        (∀ other ∈ before ++ after, ∃ issues, issues ≠ [] ∧
          (Session.start Options.default (.obj none measured)).validate (some sized) other none =
            .ok issues) ∧
        (Session.start Options.default (.obj none measured)).validate (some sized)
          (.obj none (unselected measured)) none = .ok [] := by
  have hr : resolveValues (.obj none measured) (some sized) Options.default =
      .ok (.resolved (some sized)) := by decide +kernel
  exact ⟨hr, issues_of_selected_branch rfl (by decide +kernel) (by decide +kernel) (by decide +kernel)
    (by decide +kernel) (by decide +kernel) rfl rfl hr⟩

/-- Where a branch overrides what the rest of the schema says, the rest is not kept to. -/
example : resolveValues
    (.obj none [("type", .str "number"), ("minimum", .num (.int 5)),
      ("oneOf", .arr none [.obj none [("minimum", .num (.int 3))]])])
    (some (.num (.int 4))) Options.default = .ok (.resolved (some (.num (.int 4)))) := by
  decide +kernel

end Conform
