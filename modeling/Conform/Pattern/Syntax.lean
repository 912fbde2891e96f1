/-
# The shape of patterns

A pattern is a tree.  Flags that change what a piece means, such as ignoring case, are gone from
it: they are spent when the tree is built.
-/
import Conform.Pattern.CharSet

namespace Conform.Pattern

/-- How a repetition chooses its count. -/
inductive Greed where
  /-- As many as possible first. -/
  | greedy
  /-- As few as possible first. -/
  | lazy
  /-- As many as possible, and never fewer afterwards. -/
  | possessive
  deriving DecidableEq

/-- A group by number or by name. -/
inductive GroupRef where
  | number (n : Nat)
  | name (s : String)
  deriving DecidableEq

/-- A condition on a place between two characters. -/
inductive Edge where
  | textStart
  | textEnd
  /-- The end, or the place before a line end that closes the text. -/
  | lastLineEnd
  | lineStart
  | lineEnd
  /-- Between a word and what is not one. -/
  | wordEdge (word : CharSet)
  | noWordEdge (word : CharSet)
  | wordStart (word : CharSet)
  | wordEnd (word : CharSet)

/-- A pattern. -/
inductive Node where
  /-- Matches the empty text. -/
  | empty
  /-- Matches nothing. -/
  | never
  /-- One character of a set. -/
  | set (s : CharSet)
  | seq (a b : Node)
  /-- The first alternative before the second. -/
  | alt (a b : Node)
  | repeated (body : Node) (least : Nat) (most : Option Nat) (greed : Greed)
  /-- Remembers the text that the body matches. -/
  | group (index : Nat) (body : Node)
  /-- The text that a group matched. -/
  | backref (ref : GroupRef) (ignoreCase : Bool)
  /-- Looks ahead or behind, and stays. -/
  | look (behind positive : Bool) (body : Node)
  /-- Only the first way in which the body matches. -/
  | atomic (body : Node)
  | edge (e : Edge)
  /-- Chooses by whether a group has matched. -/
  | ifGroup (ref : GroupRef) (yes no : Node)
  /-- Chooses by what lies ahead or behind. -/
  | ifLook (behind positive : Bool) (condition yes no : Node)
  /-- One user-perceived character. -/
  | cluster

/-- Can the pattern only match the empty text, whatever is around? -/
def Node.isEmpty : Node → Bool
  | .empty => true
  | .seq a b => a.isEmpty && b.isEmpty
  | .alt a b => a.isEmpty && b.isEmpty
  | .group _ body => body.isEmpty
  | .atomic body => body.isEmpty
  | .repeated body _ _ _ => body.isEmpty
  | _ => false

/-- Pieces one after the other. -/
def Node.sequence (nodes : List Node) : Node :=
  match nodes with
  | [] => .empty
  | [a] => a
  | a :: rest => .seq a (Node.sequence rest)

/-- One of several alternatives. -/
def Node.oneOf (nodes : List Node) : Node :=
  match nodes with
  | [] => .never
  | [a] => a
  | a :: rest => .alt a (Node.oneOf rest)

/-- What can be wrong with the text of a pattern. -/
inductive Flaw where
  /-- A bracket, brace or parenthesis is not closed, or the text ends too early. -/
  | unterminated
  /-- A closing parenthesis without an opening one. -/
  | unbalanced
  /-- A repetition of nothing, or of a repetition. -/
  | nothingToRepeat
  /-- A repetition with the least count above the greatest, or a count beyond all bounds. -/
  | badCounts
  /-- A backslash before something it has no meaning for. -/
  | badEscape
  /-- A range from a higher to a lower character. -/
  | badRange
  /-- A group name that is none. -/
  | badGroupName
  /-- A reference to a group that does not exist or is still open. -/
  | badGroup
  /-- No such property of characters. -/
  | unknownProperty
  /-- An unknown construct after an opening parenthesis. -/
  | unknownExtension
  /-- Flags that do not go together. -/
  | conflictingFlags
  deriving DecidableEq

/-- The flags of a pattern. -/
structure Flags where
  ignoreCase : Bool := false
  multiline : Bool := false
  dotAll : Bool := false
  verbose : Bool := false
  ascii : Bool := false
  /-- Flags that do not change which texts match. -/
  others : Bool := false
  deriving DecidableEq

namespace Flags

/-- The flags in either. -/
def union (a b : Flags) : Flags :=
  ⟨a.ignoreCase || b.ignoreCase, a.multiline || b.multiline, a.dotAll || b.dotAll,
    a.verbose || b.verbose, a.ascii || b.ascii, a.others || b.others⟩

/-- The flags of the first that are not in the second. -/
def minus (a b : Flags) : Flags :=
  ⟨a.ignoreCase && !b.ignoreCase, a.multiline && !b.multiline, a.dotAll && !b.dotAll,
    a.verbose && !b.verbose, a.ascii && !b.ascii, a.others && !b.others⟩

/-- The flag of a letter. -/
def ofChar? : Char → Option Flags
  | 'i' => some ⟨true, false, false, false, false, false⟩
  | 'm' => some ⟨false, true, false, false, false, false⟩
  | 's' => some ⟨false, false, true, false, false, false⟩
  | 'x' => some ⟨false, false, false, true, false, false⟩
  | 'a' => some ⟨false, false, false, false, true, false⟩
  | 'u' => some ⟨false, false, false, false, false, true⟩
  | 'b' => some ⟨false, false, false, false, false, true⟩
  | 'e' => some ⟨false, false, false, false, false, true⟩
  | 'f' => some ⟨false, false, false, false, false, true⟩
  | 'p' => some ⟨false, false, false, false, false, true⟩
  | 'r' => some ⟨false, false, false, false, false, true⟩
  | 'w' => some ⟨false, false, false, false, false, true⟩
  | _ => none

/-- No flags. -/
def none : Flags := ⟨false, false, false, false, false, false⟩

end Flags

end Conform.Pattern
