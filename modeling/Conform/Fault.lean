/-
# Faults

A value that does not satisfy a schema is an issue.  A fault is different: the schema, an option or
a request makes no sense where it is used, and the work cannot go on.  Each fault names its cause;
`Fault.message?` words those that are reported with a message.

Two faults are special.  That something which is no schema stands where a schema is needed speaks of a
place, and that two types have nothing in common is for whoever merges in a conjunction to deal with.  Every
other fault is `Ordinary`.
-/
import Conform.Issue

namespace Conform

/-- Why work on a schema stops. -/
inductive Fault where
  /-- Something that is no schema stands where a schema is needed. -/
  | invalidNode (shown : String) (path : Path)
  /-- The text of a pattern is not a pattern. -/
  | invalidPattern (pattern : String)
  /-- Options that there are not. -/
  | unknownOptions (names : List String)
  /-- Something that holds no options, of the named kind. -/
  | unsupportedOptions (kind : String)
  /-- Two declarations without a common type. -/
  | conflict (left right : List Json)
  /-- A limit that nothing can be compared with. -/
  | incomparable
  /-- Something that has no entries to walk through. -/
  | notIterable
  /-- Something that nothing can be looked up in. -/
  | notSearchable
  /-- Something that has no members to read. -/
  | notReadable
  /-- A list or an object used as a name. -/
  | unusableName
  /-- Something used as text that is not text. -/
  | notText
  /-- Something used as a function that is none. -/
  | notCallable
  /-- A name among the options that the request gives a meaning of its own. -/
  | takenName
  /-- Something that is asked for members and is no object. -/
  | notAnObject
  /-- A host in a reference whose brackets do not make sense. -/
  | badHost
  /-- A digit without a known value. -/
  | badDigit
  /-- A whole number with more digits than may be written. -/
  | tooManyDigits
  /-- A remainder with a power of ten beyond all that results have. -/
  | exponentOverflow
  /-- Flags of a pattern that do not go together. -/
  | badFlags
  /-- Members written as something else than pairs. -/
  | badPair
  /-- A failure without any issue. -/
  | noIssues
  /-- Something that a function of the caller raises, of the named kind. -/
  | raised (kind : String)

namespace Fault

/-- The fault speaks neither of a place nor of types without anything in common. -/
def Ordinary : Fault → Prop
  | .invalidNode _ _ => False
  | .conflict _ _ => False
  | _ => True

/-- The wording of the faults that have one. -/
def message? : Fault → Option String
  | .invalidNode shown _ => some ("Invalid schema node: " ++ shown)
  | .invalidPattern pattern => some ("Invalid pattern: " ++ pattern)
  | .unknownOptions names => some ("Unknown option(s): " ++ String.intercalate ", " names)
  | .unsupportedOptions kind => some ("Unsupported options object: " ++ kind)
  | .conflict _ _ => some Reason.noCommonType.message
  | _ => none

end Fault

end Conform
