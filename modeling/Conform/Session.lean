/-
# Sessions

A session resolves and probes values one after the other under the same options.  Two things outlive
a request: the issues noted under negation, which lead the issues of later failures, and the
document that references point into, which is that of the first whole resolution unless one is
given.
-/
import Conform.Resolve.Resolution

namespace Conform

/-- What outlives a request. -/
structure Session where
  options : Options
  root : Json
  notes : List Issue

namespace Session

open Resolve (Outcome Request)

/-- A session at its start. -/
def start (options : Options) (root : Json) : Session := ⟨options, root, []⟩

/-- What surrounds the requests of the session. -/
def setting (session : Session) : Probe.Setting := ⟨session.options, session.root⟩

/-- The session with further notes. -/
def noting (session : Session) (notes : List Issue) : Session :=
  { session with notes := session.notes ++ notes }

/-- The session with the document that references point into. -/
def rooted (session : Session) (schema : Json) : Session :=
  match session.root with
  | .null => { session with root := schema }
  | _ => session

/-- **Resolve one request**, its issues as they are found (`SchemaResolver.resolve`). -/
def resolve (session : Session) (request : Request) : Except Fault Outcome × Session :=
  let run := Resolve.resolveAt session.setting request
  (run.result, session.noting run.notes)

/-- **Resolve a whole value**, its issues sorted out for the reader
(`SchemaResolver.resolve_values`). -/
def resolveValues (session : Session) (schema : Json) (value : Option Json) :
    Except Fault Outcome × Session :=
  let session := session.rooted schema
  let run := Resolve.resolveAt session.setting (Resolve.wholeRequest schema value)
  let session := session.noting run.notes
  (run.result.bind (Resolve.reportedOutcome session.notes), session)

/-- **The issues of a value**, at a path or at that of the options (`SchemaValidator.validate`). -/
def validate (session : Session) (value : Option Json) (schema : Json) (path : Option Path) :
    Except Fault (List Issue) :=
  Probe.issues? session.setting value schema (path.getD session.options.currentPath)

/-- **Does a value meet a condition?** (`SchemaValidator.evaluate_condition`) -/
def meets (session : Session) (value : Option Json) (condition : Json) (path : Option Path) :
    Except Fault Bool :=
  Probe.meets session.setting value condition (path.getD session.options.currentPath)

end Session

/-- **Resolve a value against a schema**, which is also the document that references point into
(`resolve_values`). -/
def resolveValues (schema : Json) (value : Option Json) (options : Options) :
    Except Fault Resolve.Outcome :=
  ((Session.start options schema).resolveValues schema value).1

/-- **The issues of a value against a schema**, which is also the document that references point
into (`validate_value`). -/
def validateValue (value : Option Json) (schema : Json) (options : Options) :
    Except Fault (List Issue) :=
  (Session.start options schema).validate value schema none

end Conform
