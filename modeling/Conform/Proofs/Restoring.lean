/-
# The resolver is left as it was found

Faults leave a resolver from any depth, past places that have been entered on the way.  Whatever the
stacks are when the resolver is asked, and however the call ends, path, levels and document are
afterwards what they were before, and the notes are the old ones with further ones behind them
(`resolve_restores`).

A session asks the resolver for one thing after the other.  Only a whole resolution touches anything
else: it gives the session a document where there is none (`Settled`).  So a session that answers by
means of the resolver always stands at its starting path with nothing under way, and with room enough
it answers what `Session` says.
-/
import Conform.Proofs.Guarding

namespace Conform.Resolver

open Resolve

variable (exhausted : Fault) (options : Options) (room : Nat)

/-! ## 1. One call -/

/-- A call leaves the place as it was, and only adds to the notes. -/
structure Restored (s s' : State) : Prop where
  place : s'.toPlace = s.toPlace
  notes : s.notes <+: s'.notes

theorem Performs.restores {α : Type} {Q : Place → Prop} {work : Work α} {run : Run α} {s : State}
    (h : Performs Q s.toPlace work run) : Restored s (work s).2 := by
  obtain ⟨entries, -, ends⟩ := h s rfl
  rw [ends]
  exact ⟨rfl, List.prefix_append _ _⟩

/-- **However a call ends, and whatever the stacks were**, the place is left as it was. -/
theorem restored_resolve (request : Request) (s : State) :
    Restored s (resolve exhausted options room request s).2 := by
  have hereditary : Hereditary options.currentPath.length fun _ => True := fun _ _ _ _ => trivial
  obtain ⟨run, performs⟩ := exists_performs exhausted hereditary room request (trivial : True)
  exact performs.restores

/-- Work after work, each of which restores, restores. -/
theorem Restored.bind {α β : Type} {work : Work α} {next : α → Work β}
    (h : ∀ s, Restored s (work s).2) (hn : ∀ a s, Restored s (next a s).2) (s : State) :
    Restored s ((work >>= next) s).2 := by
  have first := h s
  rcases hw : work s with ⟨fault | a, s'⟩
  · rw [hw] at first
    simpa [Bind.bind, Work.bind, hw] using first
  · rw [hw] at first
    have second := hn a s'
    simp only [Bind.bind, Work.bind, hw]
    exact ⟨second.place.trans first.place, first.notes.trans second.notes⟩

theorem restored_ofRun {α : Type} (run : Run α) (s : State) : Restored s (Work.ofRun run s).2 :=
  ⟨rfl, List.prefix_append _ _⟩

theorem restored_self (s : State) : Restored s s := ⟨rfl, List.prefix_refl _⟩

/-! ## 2. Sessions -/

/-- Is there a document? -/
def given : Json → Bool
  | .null => false
  | _ => true

/-- The schema of a whole resolution. -/
def Demand.schema? : Demand → Option Json
  | .whole schema _ => some schema
  | _ => none

/-- **The document after demands**: the first that there is of the one given and the schemas of the whole
resolutions. -/
def document (root : Json) (demands : List Demand) : Json :=
  ((root :: demands.filterMap Demand.schema?).find? given).getD .null

theorem document_nil (root : Json) : document root [] = root := by
  cases root <;> rfl

theorem document_append (root : Json) (demands demands' : List Demand) :
    document root (demands ++ demands') = document (document root demands) demands' := by
  unfold document
  rw [List.filterMap_append, ← List.cons_append, List.find?_append]
  cases found : (root :: demands.filterMap Demand.schema?).find? given with
  | none => simp [given]
  | some x => simp [List.find?_some found]

/-- A session after demands: path and levels as they were, the notes only grown, and the document as the
demands leave it. -/
structure Settled (demands : List Demand) (s s' : State) : Prop where
  path : s'.path = s.path
  levels : s'.levels = s.levels
  notes : s.notes <+: s'.notes
  root : s'.root = document s.root demands

theorem Settled.trans {demands demands' : List Demand} {s s' s'' : State}
    (h : Settled demands s s') (h' : Settled demands' s' s'') :
    Settled (demands ++ demands') s s'' where
  path := h'.path.trans h.path
  levels := h'.levels.trans h.levels
  notes := h.notes.trans h'.notes
  root := by rw [h'.root, h.root, document_append]

theorem Restored.settled {demand : Demand} {s s' : State}
    (h : Restored { s with root := document s.root [demand] } s') : Settled [demand] s s' where
  path := (congrArg Place.path h.place :)
  levels := (congrArg Place.levels h.place :)
  notes := h.notes
  root := (congrArg Place.root h.place :)

/-- Nothing but a whole resolution has a say in what the document is. -/
theorem document_same {demand : Demand} (h : demand.schema? = none) (root : Json) :
    document root [demand] = root := by
  simp only [document, List.filterMap_cons, h, List.filterMap_nil]
  exact document_nil root

theorem Restored.settled_same {demand : Demand} {s s' : State} (h : Restored s s')
    (hd : demand.schema? = none) : Settled [demand] s s' :=
  Restored.settled (by rwa [document_same hd])

/-- Work after a schema may have been taken for the document. -/
theorem takeRoot_bind {β : Type} (schema : Json) (value : Option Json) (next : Unit → Work β)
    (s : State) : (takeRoot schema >>= next) s =
      next () { s with root := document s.root [.whole schema value] } := by
  obtain ⟨⟨root, path, levels⟩, notes, entered⟩ := s
  cases root <;> cases schema <;> rfl

theorem restored_resolveWhole (schema : Json) (value : Option Json) (s : State) :
    Restored s (resolveWhole exhausted options room schema value s).2 :=
  Restored.bind (restored_resolve _ _ _ _) (fun _ => Restored.bind restored_self fun _ => restored_ofRun _) s

/-- **One demand** leaves path and levels as they were. -/
theorem settled_reply (demand : Demand) (s : State) :
    Settled [demand] s (reply exhausted options room demand s).2 := by
  cases demand with
  | whole schema value =>
    rw [reply, takeRoot_bind schema value]
    exact (Restored.bind (restored_resolveWhole _ _ _ schema value) (fun _ => restored_self) _).settled
  | single request =>
    exact (Restored.bind (restored_resolve _ _ _ request) (fun _ => restored_self) s).settled_same rfl
  | validate value schema path =>
    exact (Restored.bind restored_self
      (fun _ => Restored.bind (restored_ofRun _) fun _ => restored_self) s).settled_same rfl
  | meets value condition path =>
    exact (Restored.bind restored_self
      (fun _ => Restored.bind (restored_ofRun _) fun _ => restored_self) s).settled_same rfl

/-- **Any demands** leave path and levels as they were. -/
theorem settled_replies (demands : List Demand) (s : State) :
    Settled demands s (replies exhausted options room demands s).2 := by
  induction demands generalizing s with
  | nil => exact ⟨rfl, rfl, List.prefix_refl _, (document_nil _).symm⟩
  | cons demand rest ih => exact (settled_reply _ _ _ demand s).trans (ih _)

/-! ## 3. The resolver's session and the session -/

/-- The state of a resolver that stands at its start, with what outlives the requests of a session. -/
def stateOf (session : Session) (entered : List Place) : State :=
  ⟨⟨session.root, session.options.currentPath, []⟩, session.notes, entered⟩

theorem rooted_eq (session : Session) (schema : Json) (value : Option Json) :
    session.rooted schema = { session with root := document session.root [.whole schema value] } := by
  obtain ⟨options, root, notes⟩ := session
  cases root <;> cases schema <;> rfl

/-- A check leaves the state as it is. -/
theorem ofRun_ofCheck {α : Type} (check : Probe.Check α) (s : State) :
    (Work.ofRun (Run.ofCheck check) : Work α) s = (check, s) := by
  simp [Work.ofRun, Run.ofCheck]

theorem bind_eq {α β : Type} {work : Work α} {result : Except Fault α} {s s' : State}
    (next : α → Work β) : work s = (result, s') → (work >>= next) s =
      match result with
      | .error fault => (.error fault, s')
      | .ok a => next a s' := by
  intro h
  simp only [Bind.bind, Work.bind, h]
  cases result <;> rfl

/-- An answer made of what work ends with. -/
theorem answer_eq {α β : Type} {work : Work α} {result : Except Fault α} {s s' : State}
    (h : work s = (result, s')) (answer : α → β) :
    (work >>= fun a => pure (answer a)) s = (result.map answer, s') := by
  rw [bind_eq _ h]
  cases result <;> rfl

theorem resolveWhole_stateOf (session : Session) (entered : List Place) (schema : Json)
    (value : Option Json) :
    let run := resolveAt session.setting (wholeRequest schema value)
    ∃ entered', resolveWhole exhausted session.options (room + 10001) schema value
        (stateOf session entered) =
      (run.result.bind (reportedOutcome (session.noting run.notes).notes),
        stateOf (session.noting run.notes) entered') := by
  obtain ⟨entries, -, ends⟩ := performs_resolveAt exhausted room
    (wholeRequest schema value) (stateOf session entered) rfl
  refine ⟨entered ++ entries, ?_⟩
  rw [resolveWhole, bind_eq _ ends]
  simp only [Session.setting]
  obtain ⟨fault | outcome, notes⟩ := resolveAt ⟨session.options, session.root⟩ _
  · rfl
  · exact ofRun_ofCheck _ _

/-- **With room enough, the resolver answers what the session does**, and is then in the state that the
session is in. -/
theorem reply_stateOf (session : Session) (entered : List Place) (demand : Demand) :
    ∃ entered', reply exhausted session.options (room + 10001) demand (stateOf session entered) =
      ((session.reply demand).1, stateOf (session.reply demand).2 entered') := by
  cases demand with
  | whole schema value =>
    obtain ⟨entered', ends⟩ := resolveWhole_stateOf exhausted room
      (session.rooted schema) entered schema value
    refine ⟨entered', ?_⟩
    rw [reply, takeRoot_bind schema value]
    rw [rooted_eq session schema value] at ends
    simp only [Session.reply, Session.resolveValues, rooted_eq session schema value]
    exact answer_eq ends _
  | single request =>
    obtain ⟨entries, -, ends⟩ := performs_resolveAt exhausted room request
      (stateOf session entered) rfl
    exact ⟨entered ++ entries, answer_eq ends _⟩
  | validate value schema path => exact ⟨entered, answer_eq (ofRun_ofCheck _ _) _⟩
  | meets value condition path => exact ⟨entered, answer_eq (ofRun_ofCheck _ _) _⟩

theorem options_rooted (session : Session) (schema : Json) :
    (session.rooted schema).options = session.options := by
  rw [rooted_eq session schema none]

theorem options_reply (session : Session) (demand : Demand) :
    (session.reply demand).2.options = session.options := by
  cases demand with
  | whole schema value => exact options_rooted session schema
  | _ => rfl

theorem replies_stateOf (demands : List Demand) (session : Session) (entered : List Place) :
    ∃ entered', replies exhausted session.options (room + 10001) demands (stateOf session entered) =
      ((session.replies demands).1, stateOf (session.replies demands).2 entered') := by
  induction demands generalizing session entered with
  | nil => exact ⟨entered, rfl⟩
  | cons demand rest ih =>
    obtain ⟨entered', ends⟩ := reply_stateOf exhausted room session entered
      demand
    obtain ⟨entered'', others⟩ := ih (session.reply demand).2 entered'
    rw [options_reply] at others
    refine ⟨entered'', ?_⟩
    simp only [replies, Session.replies, ends, others]

/-! ## 4. Every exit -/

/-- **The resolver is restored on every exit.**  In whatever state it is asked, for whatever schema and
value, and with whatever outcome or fault it answers: path, levels and document are what they were, and
the notes are the old ones with further ones behind them.  So after any demands on a session, faults
or not, the path is the one of the options and nothing is under way, the document is the first that was
given, and the notes lead those after any further demands.  And these are the sessions of `Session`,
where there is room enough. -/
theorem resolve_restores (exhausted : Fault) (options : Options) (room : Nat) :
    (∀ (request : Request) (s : State),
      let s' := (resolve exhausted options room request s).2
      s'.path = s.path ∧ s'.levels = s.levels ∧ s'.root = s.root ∧ s.notes <+: s'.notes) ∧
    (∀ (root : Json) (demands further : List Demand),
      let s := (replies exhausted options room demands (atStart options root)).2
      s.path = options.currentPath ∧ s.levels = [] ∧ s.root = document root demands ∧
        s.notes <+: (replies exhausted options room further s).2.notes) ∧
    (∀ (root : Json) (demands : List Demand), ∃ entered,
      replies exhausted options (room + 10001) demands (atStart options root) =
        (((Session.start options root).replies demands).1,
          stateOf ((Session.start options root).replies demands).2 entered)) := by
  refine ⟨fun request s => ?_, fun root demands further => ?_, fun root demands => ?_⟩
  · have restored := restored_resolve exhausted options room request s
    exact ⟨congrArg Place.path restored.place, congrArg Place.levels restored.place,
      congrArg Place.root restored.place, restored.notes⟩
  · have settled := settled_replies exhausted options room demands (atStart options root)
    exact ⟨settled.path, settled.levels, settled.root, (settled_replies _ _ _ further _).notes⟩
  · exact replies_stateOf exhausted room demands (Session.start options root) []

/-- A fault from a place below, in a state that no resolution begins in: what was noted before it stays. -/
example :
    let s : State := ⟨⟨.null, ["x"], [7, 0]⟩, [], []⟩
    let schema : Json := .obj none [("required", .arr none [.str "a"]),
      ("properties", .obj none [("a", .bool true), ("b", .str "")])]
    let ends := resolve .noIssues .default 5 ⟨.node schema, some (.obj none []), .null, .null, true⟩ s
    ends.1.isOk = false ∧ ends.2.path = ["x"] ∧ ends.2.levels = [7, 0] ∧
      ends.2.notes.map (fun issue => issue.path) = [["x", "a"]] := by
  cbv
  trivial

end Conform.Resolver
