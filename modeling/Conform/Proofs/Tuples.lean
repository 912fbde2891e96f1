/-
# Tuples in two parts

A schema for arrays can have a schema for each position, and one for the items behind them.  The schemas of
the positions are listed under `items`; or the first of them are listed under `prefixItems`, and only the
others under `items`.  The two forms do not differ in what they say of an array:

* each position has the same schema in both, from the first part, across the seam, to the items behind the
  second (`itemSchema_joined`), and nothing else tells the forms apart (`SamePositions`);
* so a value is probed alike (`SamePositions.issues_eq`) and resolved alike (`SamePositions.resolve_eq`):
  its items are looked at for a container that is the one form or the other, and neither requires any names.

They are different documents, though.  A reference into the schema itself may be followed in one form and not
in the other, as `#/prefixItems/0` is; where each form is its own document, references have to lead to the
same in both, or to the whole of either, between which nothing tells (`RefersAlike`).  `seam_shows` is a tuple
of which this cannot be left out.
-/
import Conform.Proofs.Filling
import Conform.Proofs.Surroundings

namespace Conform

open Fields (get?)
open Schema (ProperWith properWith_arr properWith_obj properWith_str)

/-! ## 1. The two forms -/

/-- **A tuple**: the schemas of the positions of an array, in two parts, and what is said of the items
behind them, if anything. -/
structure Tuple where
  start : List Json
  more : List Json
  behind : Option Json

namespace Tuple

variable (tuple : Tuple)

/-- What both forms say of the items behind. -/
def others : Fields := tuple.behind.toList.map fun s => ("additionalItems", s)

/-- The members of the form in two parts. -/
def splitFields (startTag moreTag : Tag) : Fields :=
  ("type", .str "array") :: ("prefixItems", .arr startTag tuple.start) ::
    ("items", .arr moreTag tuple.more) :: tuple.others

/-- The members of the form in one part. -/
def joinedFields (itemsTag : Tag) : Fields :=
  ("type", .str "array") :: ("items", .arr itemsTag (tuple.start ++ tuple.more)) :: tuple.others

/-- **A schema is the tuple in two parts**, whatever the tags of its containers. -/
def IsSplit (s : Json) : Prop := ∃ tag startTag moreTag, s = .obj tag (tuple.splitFields startTag moreTag)

/-- **A schema is the tuple in one part.** -/
def IsJoined (s : Json) : Prop := ∃ tag itemsTag, s = .obj tag (tuple.joinedFields itemsTag)

theorem get?_others (k : String) :
    get? tuple.others k = if k = "additionalItems" then tuple.behind else none := by
  unfold others
  cases tuple.behind with
  | none => simp
  | some s => simp [Fields.get?_cons]

theorem tupleSchema_eq {fields : Fields} (h : get? fields "additionalItems" = tuple.behind)
    (schemas : List Json) (i : Nat) :
    Probe.tupleSchema fields schemas i = if i < schemas.length then schemas[i]? else tuple.behind := by
  rw [Probe.tupleSchema, h]

variable {startTag moreTag itemsTag : Tag}

/-- In one part, the positions are numbered through. -/
theorem itemSchema_joinedFields (i : Nat) : Probe.itemSchema (tuple.joinedFields itemsTag) i =
    if i < tuple.start.length + tuple.more.length then (tuple.start ++ tuple.more)[i]? else tuple.behind := by
  have behind : get? (tuple.joinedFields itemsTag) "additionalItems" = tuple.behind := by
    simp [joinedFields, Fields.get?_cons, get?_others]
  rw [← List.length_append, ← tuple.tupleSchema_eq behind]
  simp [Probe.itemSchema, joinedFields, Fields.get?_cons, get?_others]

/-- In two parts, the second is numbered from its own beginning. -/
theorem itemSchema_splitFields (i : Nat) : Probe.itemSchema (tuple.splitFields startTag moreTag) i =
    if i < tuple.start.length then tuple.start[i]?
    else if i - tuple.start.length < tuple.more.length then tuple.more[i - tuple.start.length]?
    else tuple.behind := by
  have behind : get? (tuple.splitFields startTag moreTag) "additionalItems" = tuple.behind := by
    simp [splitFields, Fields.get?_cons, get?_others]
  rw [← tuple.tupleSchema_eq behind]
  simp [Probe.itemSchema, splitFields, Fields.get?_cons]

/-- **Each position has the same schema in both forms.** -/
theorem itemSchema_joined (i : Nat) : Probe.itemSchema (tuple.joinedFields itemsTag) i =
    Probe.itemSchema (tuple.splitFields startTag moreTag) i := by
  rw [itemSchema_joinedFields, itemSchema_splitFields]
  rcases Nat.lt_or_ge i tuple.start.length with first | past
  · rw [if_pos first, if_pos (Nat.lt_add_right _ first), List.getElem?_append_left first]
  · have counted : i < tuple.start.length + tuple.more.length ↔
        i - tuple.start.length < tuple.more.length := by omega
    rw [if_neg (Nat.not_lt.2 past), List.getElem?_append_right past]
    simp only [counted]

end Tuple

/-! ## 2. Schemas that tell positions the same -/

/-- The keywords that give schemas to the positions of an array. -/
def positionKeywords : List String := ["prefixItems", "items", "additionalItems"]

/-- **Two schemas for arrays give the same schema to each position** and agree in everything else; they are
composed of no others. -/
structure SamePositions (fields fields' : Fields) : Prop where
  type : get? fields "type" = some (.str "array")
  plain : ∀ k ∈ Schema.windingKeywords, get? fields k = none
  others : ∀ k, k ∉ positionKeywords → get? fields' k = get? fields k
  item : ∀ i, Probe.itemSchema fields' i = Probe.itemSchema fields i

/-- The two forms of a tuple are of this kind. -/
theorem Tuple.samePositions (tuple : Tuple) {startTag moreTag itemsTag : Tag} :
    SamePositions (tuple.splitFields startTag moreTag) (tuple.joinedFields itemsTag) where
  type := rfl
  plain := by
    simp [splitFields, Schema.windingKeywords, Schema.compositeKeywords, Fields.get?_cons, get?_others]
  others k hk := by
    simp only [positionKeywords, List.mem_cons, List.not_mem_nil, or_false, not_or] at hk
    simp only [splitFields, joinedFields, Fields.get?_cons, hk, if_false]
  item i := tuple.itemSchema_joined i

namespace SamePositions

section Probing

open Probe

variable {fields fields' : Fields} {setting : Setting} {value : Json} {path : Path}
  (h : SamePositions fields fields')

include h

theorem symm : SamePositions fields' fields where
  type := (h.others "type" (by decide)).trans h.type
  plain k hk := by
    have apart : ∀ k ∈ Schema.windingKeywords, k ∉ positionKeywords := by decide
    exact (h.others k (apart k hk)).trans (h.plain k hk)
  others k hk := (h.others k hk).symm
  item i := (h.item i).symm

theorem declared (tag : Tag) : Schema.declaredTypes (.obj tag fields) = [.str "array"] := by
  simp only [Schema.declaredTypes, h.type]

theorem listIssues_eq {items : List Json} (probe : ItemProbe items) :
    listIssues items fields' path probe = listIssues items fields path probe := by
  simp only [listIssues, containsIssues, limitIssue, h.others "minItems" (by decide),
    h.others "maxItems" (by decide), h.others "uniqueItems" (by decide), h.others "contains" (by decide),
    h.others "minContains" (by decide), h.others "maxContains" (by decide)]

theorem arrayIssues_eq {items : List Json} (probe : ItemProbe items) :
    arrayIssues items fields' path probe = arrayIssues items fields path probe := by
  simp only [arrayIssues, itemIssues, h.listIssues_eq, h.item]

theorem pinIssues_eq : Probe.pinIssues value fields' path = Probe.pinIssues value fields path := by
  simp only [Probe.pinIssues, h.others "enum" (by decide), h.others "const" (by decide)]

omit h in
/-- A schema of the type of arrays probes a value as an array. -/
theorem typeIssues_of_array {tag : Tag} {fields : Fields} {inner : SmallerProbe value}
    {again : NarrowerProbe fields} (h : Schema.declaredTypes (.obj tag fields) = [.str "array"]) :
    typeIssues setting value tag fields path inner again =
      kindIssues setting .array value fields path inner again :=
  typeIssues_of_single h

/-- **Such schemas find the same issues in a value.** -/
theorem issues_eq (tag tag' : Tag) :
    issues setting value (.obj tag' fields') path = issues setting value (.obj tag fields) path := by
  have inside : ∀ k ∈ Schema.compositeKeywords, k ∈ Schema.windingKeywords :=
    fun k hk => List.mem_cons_of_mem _ hk
  rw [issues_of_uncomposed fun k hk => h.plain k (inside k hk),
    issues_of_uncomposed fun k hk => h.symm.plain k (inside k hk), h.pinIssues_eq,
    typeIssues_of_array (h.declared tag), typeIssues_of_array (h.symm.declared tag')]
  cases value with
  | arr t items => simp only [kindIssues, h.arrayIssues_eq]
  | _ => rfl

end Probing

open Resolve

section Resolving

/-- The step at a schema with other members. -/
def restated (step : Step) (tag : Tag) (fields : Fields) : Step :=
  { step with tag := tag, fields := fields }

variable {step : Step} {tag' : Tag} {fields' : Fields}

theorem missing_restated (atRoot : Option Json) :
    (restated step tag' fields').missing atRoot = step.missing atRoot := rfl

theorem failWith_restated (reason : Reason) :
    (restated step tag' fields').failWith reason = step.failWith reason := rfl

/-- A schema of the type of arrays, composed of no others, resolves a value as an array. -/
theorem dispatch_of_array (plain : ∀ k ∈ Schema.windingKeywords, get? step.fields k = none)
    (declared : Schema.declaredTypes step.schema = [.str "array"]) : step.dispatch = step.array := by
  rw [Step.dispatch_of_lone plain, Step.typed, declared]
  rfl

variable (h : SamePositions step.fields fields')
  (heeds : Heeds (fun _ => True) step.skips step.again step.again)

include h

/-- Both schemas ask for the same names. -/
theorem hosts : Hosts step.skips step.schema (.obj tag' fields') := by
  refine .requiring ?_
  simp only [Step.requiredNames, h.others "required" (by decide), h.others "properties" (by decide)]

theorem filled_eq : (restated step tag' fields').filled = step.filled := by
  have absent : Schema.isAbsent (restated step tag' fields').value (restated step tag' fields').schema =
      Schema.isAbsent step.value step.schema := by
    have declared : Schema.declaredTypes (restated step tag' fields').schema = _ := h.symm.declared tag'
    have before : Schema.declaredTypes step.schema = _ := h.declared step.tag
    simp only [Schema.isAbsent, Schema.allowsNull, declared, before]
    rfl
  simp only [Step.filled, Step.default?, absent]
  simp only [restated, h.others "default" (by decide), h.others "const" (by decide)]

theorem pinIssues_restated : (restated step tag' fields').pinIssues = step.pinIssues := by
  simp only [Step.pinIssues, restated, Step.skips, h.pinIssues_eq]
  rfl

include heeds

theorem descend_eq (key : Json) (node : Reference.Node) (value : Option Json) :
    (restated step tag' fields').descend key node value = step.descend key node value :=
  heeds.placed [key.plain] value key step.negated (fun _ _ => trivial) h.hosts

theorem resolveItem_eq (i : Nat) (item : Json) (built : Step.BuiltItems) :
    (restated step tag' fields').resolveItem i item built = step.resolveItem i item built := by
  simp only [Step.resolveItem, h.descend_eq heeds]
  simp only [restated, h.item]

theorem resolveItems_eq (i : Nat) (items : List Json) (built : Step.BuiltItems) :
    (restated step tag' fields').resolveItems i items built = step.resolveItems i items built := by
  induction items generalizing i built with
  | nil => rfl
  | cons item rest ih => simp only [Step.resolveItems, h.resolveItem_eq heeds, ih]

theorem array_eq : (restated step tag' fields').array = step.array := by
  simp only [Step.array, h.resolveItems_eq heeds, missing_restated, failWith_restated]
  simp only [restated, h.listIssues_eq]

theorem dispatch_eq : (restated step tag' fields').dispatch = step.dispatch := by
  have before : step.dispatch = step.array := dispatch_of_array h.plain (h.declared step.tag)
  have after : (restated step tag' fields').dispatch = (restated step tag' fields').array :=
    dispatch_of_array h.symm.plain (h.symm.declared tag')
  rw [before, after, h.array_eq heeds]

/-- **Such schemas resolve a value alike**, where further resolutions do not heed the container. -/
theorem run_eq : (restated step tag' fields').run = step.run := by
  have filled : SamePositions { step with value := step.filled }.fields fields' := h
  simp only [Step.run, h.filled_eq]
  exact congrArg₂
    (fun check rest => liftM check >>= fun issues => if issues.isEmpty then rest else fail issues)
    filled.pinIssues_restated (filled.dispatch_eq heeds)

end Resolving

/-- **Such schemas resolve a value alike**, under any guard and for any container. -/
theorem resolve_eq {fields fields' : Fields} (h : SamePositions fields fields') (setting : Probe.Setting)
    (guard : Guard) (tag tag' : Tag) (value : Option Json) (parent key : Json) (negated : Bool) :
    resolve setting guard ⟨.node (.obj tag' fields'), value, parent, key, negated⟩ =
      resolve setting guard ⟨.node (.obj tag fields), value, parent, key, negated⟩ := by
  rw [resolve, resolve]
  split
  · rfl
  · let step : Step := ⟨setting, guard.path, tag, fields, value, parent, key, negated,
      fun extension next => resolve setting (guard.enter extension) next⟩
    have heeds : Heeds (fun _ => True) step.skips step.again step.again :=
      ⟨fun extension _ value _ _ key negated hs hosts =>
          resolve_placed (Probe.shared_self setting) (guard.enter extension) value key negated hs hosts,
        fun extension _ _ value host key negated hst =>
          hst.resolved setting (guard.enter extension) value host key negated⟩
    have same : (restated step tag' fields').run = step.run := run_eq h heeds
    exact same

end SamePositions

/-! ## 3. A tuple is one list -/

namespace Tuple

open Probe (Interchangeable LeadsAlike LeadsToWhole LedElsewhere)

variable {tuple : Tuple} {split joined : Json}

theorem issues?_joined (hs : tuple.IsSplit split) (hj : tuple.IsJoined joined) (setting : Probe.Setting)
    (value : Option Json) (path : Path) :
    Probe.issues? setting value joined path = Probe.issues? setting value split path := by
  obtain ⟨tag, startTag, moreTag, rfl⟩ := hs
  obtain ⟨tag', itemsTag, rfl⟩ := hj
  cases value with
  | none => rfl
  | some x => exact tuple.samePositions.issues_eq tag tag'

theorem resolve_joined (hs : tuple.IsSplit split) (hj : tuple.IsJoined joined) (setting : Probe.Setting)
    (guard : Resolve.Guard) (value : Option Json) (parent key : Json) (negated : Bool) :
    Resolve.resolve setting guard ⟨.node joined, value, parent, key, negated⟩ =
      Resolve.resolve setting guard ⟨.node split, value, parent, key, negated⟩ := by
  obtain ⟨tag, startTag, moreTag, rfl⟩ := hs
  obtain ⟨tag', itemsTag, rfl⟩ := hj
  exact tuple.samePositions.resolve_eq setting guard tag tag' value parent key negated

/-- **Nothing tells between the two forms.** -/
theorem interchangeable (hs : tuple.IsSplit split) (hj : tuple.IsJoined joined) :
    Interchangeable split joined where
  probed setting value := funext fun path => (issues?_joined hs hj setting (some value) path).symm
  resolved := resolve_joined hs hj

/-- What is said of the members in two parts holds in one part. -/
theorem properWith_joined {A : String → Json → Prop} (hs : tuple.IsSplit split)
    (hj : tuple.IsJoined joined) (free : ∀ x, A "items" x) (h : ProperWith A split) : ProperWith A joined := by
  obtain ⟨tag, startTag, moreTag, rfl⟩ := hs
  obtain ⟨tag', itemsTag, rfl⟩ := hj
  have member : ∀ k x, (k, x) ∈ tuple.splitFields startTag moreTag → A k x ∧ ProperWith A x :=
    fun k x hm => ⟨h.of_mem hm, h.of_mem_fields hm⟩
  have item : ∀ s ∈ tuple.start ++ tuple.more, ProperWith A s := by
    intro s hs
    rcases List.mem_append.1 hs with hs | hs
    · exact (member "prefixItems" (.arr startTag tuple.start) (by simp [splitFields])).2.of_mem_items hs
    · exact (member "items" (.arr moreTag tuple.more) (by simp [splitFields])).2.of_mem_items hs
  have kept : List.Sublist ((tuple.joinedFields itemsTag).map Prod.fst)
      ((tuple.splitFields startTag moreTag).map Prod.fst) := .cons_cons _ (List.sublist_cons_self _ _)
  refine properWith_obj (List.Nodup.sublist kept h.distinct) fun k x hm => ?_
  simp only [joinedFields, List.mem_cons, Prod.mk.injEq] at hm
  rcases hm with ⟨rfl, rfl⟩ | ⟨rfl, rfl⟩ | hm
  · exact member _ _ (by simp [splitFields])
  · exact ⟨free _, properWith_arr item⟩
  · exact member k x (by simp [splitFields, hm])

/-- A session with a document keeps it. -/
theorem rooted_of_ne_null {session : Session} (there : session.root ≠ .null) (s : Json) :
    session.rooted s = session := by
  obtain ⟨options, root, notes⟩ := session
  cases root with
  | null => exact absurd rfl there
  | _ => rfl

/-- **References lead to the like in two documents**: to the same, whether they are looked up in the document
or elsewhere, or to the whole of either. -/
inductive RefersAlike (source : Reference.Source) (root root' : Json) : Prop
  | elsewhere (led : LedElsewhere source root root')
  | same {follower : Reference.Follower} (document : source = .document follower)
      (led : ProperWith (LeadsAlike follower root root') root)
  | whole {follower : Reference.Follower} (document : source = .document follower)
      (led : ProperWith (LeadsToWhole follower root root') root)

/-- **The form in one part as its own document** is probed and resolved as the form in two parts is as its
own, if references lead to the like in both: first it is looked at within the other document. -/
theorem alike_within (hs : tuple.IsSplit split) (hj : tuple.IsJoined joined) {options : Options}
    (alike : RefersAlike options.source split joined) (value : Option Json) :
    (∀ path, Probe.issues? ⟨options, joined⟩ value joined path =
        Probe.issues? ⟨options, split⟩ value split path) ∧
      Resolve.resolveAt ⟨options, joined⟩ (Resolve.wholeRequest joined value) =
        Resolve.resolveAt ⟨options, split⟩ (Resolve.wholeRequest split value) := by
  let setting : Probe.Setting := ⟨options, split⟩
  obtain ⟨Q, shared, good⟩ : ∃ Q, Probe.Shared setting joined Q ∧ Q joined := by
    cases alike with
    | elsewhere led => exact ⟨_, Probe.shared_of_ledElsewhere led, trivial⟩
    | same document led =>
      exact ⟨_, Probe.shared_of_leadsAlike document led,
        properWith_joined hs hj (fun _ h => absurd h (by decide)) led⟩
    | whole document led =>
      have there : split ≠ .null ∧ joined ≠ .null := by
        obtain ⟨⟨_, _, _, rfl⟩, ⟨_, _, rfl⟩⟩ := And.intro hs hj
        exact ⟨nofun, nofun⟩
      exact ⟨_, Probe.shared_of_leadsToWhole document (interchangeable hs hj) there led,
        properWith_joined hs hj
          (fun _ => ⟨fun h => absurd h (by decide), fun h => absurd h (by decide), by decide⟩) led⟩
  constructor
  · exact fun path => (shared.issues?_eq good).trans (issues?_joined hs hj setting value path)
  · exact (Resolve.resolve_placed shared _ value .null false (Resolve.Step.of_node good) (.same .null)).trans
      (resolve_joined hs hj setting _ value .null .null false)

/-- **Two parts make one tuple.**  Within one document, and for any container, the two forms find the same
issues in a value and resolve it alike.  The same holds where each is its own document, as long as references
lead to the like in both. -/
theorem two_parts_make_one (hs : tuple.IsSplit split) (hj : tuple.IsJoined joined) (value : Option Json) :
    (∀ (session : Session) (path : Option Path),
      session.validate value joined path = session.validate value split path) ∧
    (∀ (session : Session) (parent key : Json) (negated : Bool),
      session.resolve ⟨.node joined, value, parent, key, negated⟩ =
        session.resolve ⟨.node split, value, parent, key, negated⟩) ∧
    (∀ session : Session, session.root ≠ .null →
      session.resolveValues joined value = session.resolveValues split value) ∧
    ∀ session : Session,
      RefersAlike session.options.source split joined →
      validateValue value joined session.options = validateValue value split session.options ∧
        resolveValues joined value session.options = resolveValues split value session.options ∧
        (session.resolveValues joined value).1 = (session.resolveValues split value).1 := by
  have within : ∀ session : Session, session.root ≠ .null →
      session.resolveValues joined value = session.resolveValues split value := by
    intro session there
    simp only [Session.resolveValues, rooted_of_ne_null there, Resolve.resolveAt, Resolve.wholeRequest,
      resolve_joined hs hj]
  refine ⟨fun session path => issues?_joined hs hj session.setting value _,
    fun session parent key negated => ?_, within, fun session alike => ?_⟩
  · simp only [Session.resolve, Resolve.resolveAt, resolve_joined hs hj]
  · obtain ⟨probed, resolved⟩ := alike_within hs hj alike value
    refine ⟨probed _, ?_, ?_⟩
    · rw [resolveValues_eq_reported, resolveValues_eq_reported, resolved]
    · by_cases there : session.root = .null
      · have rooted : ∀ s, session.rooted s = { session with root := s } := by
          intro s
          simp only [Session.rooted, there]
        simp only [Session.resolveValues, rooted, Session.setting, resolved]
        rfl
      · rw [within session there]

/-- A tuple of a text and a whole number, and behind them objects: of such objects by a reference that does
not go through the seam, or of such tuples by a reference to the whole. -/
theorem two_parts_make_one_nested :
    let tuple (ref : String) : Tuple := ⟨[.obj none [("type", .str "string")]],
      [.obj none [("type", .str "integer")]],
      some (.obj none [("type", .str "object"), ("additionalProperties", .obj none [("$ref", .str ref)])])⟩
    let split (ref : String) : Json := .obj none ((tuple ref).splitFields none none)
    let joined (ref : String) : Json := .obj none ((tuple ref).joinedFields none)
    let value (inner : Json) : Json := .arr none [.num (.int 1), .num (.int 2), .obj none [("a", inner)]]
    let objects : Json := .obj none [("b", .str "x")]
    let found : List Issue := [⟨.wrongKind .string, ["0"]⟩, ⟨.wrongKind .object, ["2", "a", "b"]⟩]
    let tuples : Json := .arr none [.str "x", .bool true]
    let found' : List Issue := [⟨.wrongKind .string, ["0"]⟩, ⟨.wrongKind .number, ["2", "a", "1"]⟩]
    ProperWith (LeadsAlike .standard (split "#/additionalItems") (joined "#/additionalItems"))
        (split "#/additionalItems") ∧
      validateValue (some (value objects)) (split "#/additionalItems") .default = .ok found ∧
      validateValue (some (value objects)) (joined "#/additionalItems") .default = .ok found ∧
      ProperWith (LeadsToWhole .standard (split "#") (joined "#")) (split "#") ∧
      validateValue (some (value tuples)) (split "#") .default = .ok found' ∧
      validateValue (some (value tuples)) (joined "#") .default = .ok found' := by
  intro tuple split joined value objects found tuples found'
  have alike : ProperWith (LeadsAlike .standard (split "#/additionalItems") (joined "#/additionalItems"))
      (split "#/additionalItems") := by decide +kernel
  have whole : ProperWith (LeadsToWhole .standard (split "#") (joined "#")) (split "#") := by decide +kernel
  have probed : validateValue (some (value objects)) (split "#/additionalItems") .default = .ok found := by
    decide +kernel
  have probed' : validateValue (some (value tuples)) (split "#") .default = .ok found' := by decide +kernel
  obtain ⟨-, -, -, own⟩ := @two_parts_make_one (tuple "#/additionalItems") _ _ ⟨_, _, _, rfl⟩ ⟨_, _, rfl⟩
    (some (value objects))
  obtain ⟨-, -, -, own'⟩ := @two_parts_make_one (tuple "#") _ _ ⟨_, _, _, rfl⟩ ⟨_, _, rfl⟩
    (some (value tuples))
  let session := Session.start .default .null
  exact ⟨alike, probed, (own session (.same rfl alike)).1.trans probed, whole, probed',
    (own' session (.whole rfl whole)).1.trans probed'⟩

/-- The schema of the first position refers to itself by its place, which is another one in one part. -/
theorem seam_shows :
    let first : Json := .obj none [("additionalProperties", .obj none [("$ref", .str "#/prefixItems/0")])]
    let tuple : Tuple := ⟨[first], [], none⟩
    let split : Json := .obj none (tuple.splitFields none none)
    let joined : Json := .obj none (tuple.joinedFields none)
    let value : Json := .arr none [.obj none [("a", .num (.int 1))]]
    tuple.IsSplit split ∧ tuple.IsJoined joined ∧
      validateValue (some value) split .default = .ok [] ∧
      validateValue (some value) joined .default =
        .ok [⟨.deadReference (.str "#/prefixItems/0"), ["0", "a"]⟩] := by
  intro first tuple split joined value
  have probed : validateValue (some value) split .default = .ok [] ∧
      validateValue (some value) joined .default =
        .ok [⟨.deadReference (.str "#/prefixItems/0"), ["0", "a"]⟩] := by decide +kernel
  exact ⟨⟨_, _, _, rfl⟩, ⟨_, _, rfl⟩, probed⟩

end Tuple

end Conform
