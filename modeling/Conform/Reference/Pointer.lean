/-
# Pointers

A pointer leads from a document to one of its nodes, a segment per step: a member by its name, an
item by its index.  Inside a segment, `~1` stands for a slash and `~0` for a tilde.  The segment `-`
of an array leads past its last item.

A path is written as a pointer by `pointer`.  The segments are read by `segments?`, and `walk?` goes
where they lead.
-/
import Conform.Json.Path
import Conform.Unicode.Ranges

namespace Conform.Reference

/-- Where a pointer leads. -/
inductive Target where
  /-- To a node of the document. -/
  | node (x : Json)
  /-- Past the last of these items. -/
  | endOfList (items : List Json)

/-- Write a text for each occurrence of a character. -/
def substitute (c : Char) (text cs : List Char) : List Char := cs.flatMap fun d => if d = c then text else [d]

/-- **A segment escaped**, the tildes first, since the escape of a slash has one. -/
def escape (cs : List Char) : List Char := substitute '/' ['~', '1'] (substitute '~' ['~', '0'] cs)

/-- **The pointer of a path**: each segment escaped, after a slash. -/
def pointer (path : Path) : List Char := path.flatMap fun name => '/' :: escape name.toList

/-- A segment with its tildes resolved; a tilde stands before zero or one only. -/
def unescape? : List Char → Option (List Char)
  | [] => some []
  | '~' :: '0' :: rest => (unescape? rest).map ('~' :: ·)
  | '~' :: '1' :: rest => (unescape? rest).map ('/' :: ·)
  | '~' :: _ => none
  | c :: rest => (unescape? rest).map (c :: ·)

/-- The segments of a pointer: none for the empty one, and otherwise those after its slashes. -/
def segments? (pointer : List Char) : Option (List (List Char)) :=
  match pointer with
  | [] => some []
  | '/' :: rest => (Unicode.splitAt '/' rest).mapM unescape?
  | _ => none

/-- The index that a segment denotes: decimal digits without leading zeros. -/
def index? : List Char → Option Nat
  | ['0'] => some 0
  | '0' :: _ => none
  | [] => none
  | cs =>
    if cs.all Char.isDigit then some (cs.foldl (fun n c => 10 * n + (c.toNat - 48)) 0) else none

/-- **Where the segments lead.** -/
def walk? : Json → List (List Char) → Option Target
  | x, [] => some (.node x)
  | .obj _ fields, segment :: rest =>
    (Fields.get? fields (String.ofList segment)).bind fun x => walk? x rest
  | .arr _ items, segment :: rest =>
    if segment = ['-'] then
      if rest.isEmpty then some (.endOfList items) else none
    else ((index? segment).bind fun i => items[i]?).bind fun x => walk? x rest
  | _, _ :: _ => none

end Conform.Reference
