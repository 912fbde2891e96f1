/-
# User-perceived characters

A text falls into clusters: a base with the marks that belong to it, a syllable of letters, a pair
of regional letters, a picture joined from pictures, a conjunct of linked consonants.  Whether a
boundary lies between two neighbouring characters depends on their classes and on a little of what
came before, which `Context` holds.
-/
import Conform.Unicode.ClusterBreak

namespace Conform.Text

/-! ## 1. Classes -/

/-- The class of a character in deciding boundaries. -/
inductive ClusterClass where
  | other
  | carriageReturn
  | lineFeed
  | control
  | extend
  | joiner
  | spacingMark
  | prepend
  | regional
  | lead
  | vowel
  | tail
  | openSyllable
  | closedSyllable
  deriving DecidableEq

/-- The class of a character. -/
def ClusterClass.ofChar (c : Char) : ClusterClass :=
  let n := c.toNat
  if n = 0x0D then .carriageReturn
  else if n = 0x0A then .lineFeed
  else if 0x20 ≤ n ∧ n < 0x7F then .other
  else if n = 0x200D then .joiner
  else if Unicode.control.contains n then .control
  else if Unicode.extend.contains n then .extend
  else if Unicode.spacingMark.contains n then .spacingMark
  else if Unicode.hangulOpen.contains n then .openSyllable
  else if Unicode.hangulClosed.contains n then .closedSyllable
  else if Unicode.hangulLead.contains n then .lead
  else if Unicode.hangulVowel.contains n then .vowel
  else if Unicode.hangulTail.contains n then .tail
  else if Unicode.regionalIndicator.contains n then .regional
  else if Unicode.prepend.contains n then .prepend
  else .other

/-- How far a sequence of joined pictures has come. -/
inductive PictureState where
  /-- Not in a picture. -/
  | outside
  /-- After a picture and its marks. -/
  | picture
  /-- After a picture, its marks and a joiner. -/
  | joined
  deriving DecidableEq

/-- How far a conjunct has come. -/
inductive ConjunctState where
  /-- Not in a conjunct. -/
  | outside
  /-- After a consonant, with no link yet. -/
  | consonant
  /-- After a consonant and a link. -/
  | linked
  deriving DecidableEq

/-- What is remembered of the characters read so far. -/
structure Context where
  /-- The class of the last character. -/
  last : ClusterClass
  picture : PictureState
  conjunct : ConjunctState
  /-- Is the last character the first letter of a pair of regional letters? -/
  halfFlag : Bool

/-! ## 2. Boundaries -/

/-- Is a character a picture? -/
def isPicture (c : Char) : Bool :=
  decide (0xA9 ≤ c.toNat) && Unicode.pictograph.contains c.toNat

/-- The picture state after a character. -/
def PictureState.next (state : PictureState) (cls : ClusterClass) (c : Char) : PictureState :=
  if isPicture c then .picture
  else match state, cls with
    | .picture, .extend => .picture
    | .picture, .joiner => .joined
    | _, _ => .outside

/-- The conjunct state after a character. -/
def ConjunctState.next (state : ConjunctState) (c : Char) : ConjunctState :=
  if c.toNat < 0x300 then .outside
  else if Unicode.conjunctConsonant.contains c.toNat then .consonant
  else match state with
    | .outside => .outside
    | .consonant =>
      if Unicode.conjunctLinker.contains c.toNat then .linked
      else if Unicode.conjunctExtend.contains c.toNat then .consonant
      else .outside
    | .linked =>
      if Unicode.conjunctLinker.contains c.toNat || Unicode.conjunctExtend.contains c.toNat then
        .linked
      else .outside

/-- The context after a first character. -/
def Context.start (c : Char) : Context :=
  let cls := ClusterClass.ofChar c
  ⟨cls, PictureState.outside.next cls c, ConjunctState.outside.next c, cls == .regional⟩

/-- The context after a further character. -/
def Context.next (context : Context) (c : Char) : Context :=
  let cls := ClusterClass.ofChar c
  ⟨cls, context.picture.next cls c, context.conjunct.next c,
    cls == .regional && !context.halfFlag⟩

/-- Do the classes alone keep two neighbours together or apart?  `none` leaves it to the context. -/
def classBoundary? : ClusterClass → ClusterClass → Option Bool
  | .carriageReturn, .lineFeed => some false
  | .carriageReturn, _ => some true
  | .lineFeed, _ => some true
  | .control, _ => some true
  | _, .carriageReturn => some true
  | _, .lineFeed => some true
  | _, .control => some true
  | .lead, .lead => some false
  | .lead, .vowel => some false
  | .lead, .openSyllable => some false
  | .lead, .closedSyllable => some false
  | .openSyllable, .vowel => some false
  | .openSyllable, .tail => some false
  | .vowel, .vowel => some false
  | .vowel, .tail => some false
  | .closedSyllable, .tail => some false
  | .tail, .tail => some false
  | _, .extend => some false
  | _, .joiner => some false
  | _, .spacingMark => some false
  | .prepend, _ => some false
  | _, _ => none

/-- **Is there a boundary before the character?**  Where the classes do not decide, there is one
unless a link, a joiner or the second of two regional letters forbids it. -/
def Context.boundaryBefore (context : Context) (c : Char) : Bool :=
  match classBoundary? context.last (ClusterClass.ofChar c) with
  | some b => b
  | none =>
    !((context.conjunct == .linked && Unicode.conjunctConsonant.contains c.toNat)
      || (context.picture == .joined && isPicture c)
      || (context.halfFlag && ClusterClass.ofChar c == .regional))

/-! ## 3. Clusters -/

/-- The clusters of a text that continues a cluster: `current` holds its characters, last first. -/
def clustersFrom (context : Context) (current : List Char) : List Char → List (List Char)
  | [] => [current.reverse]
  | c :: rest =>
    if context.boundaryBefore c then
      current.reverse :: clustersFrom (context.next c) [c] rest
    else clustersFrom (context.next c) (c :: current) rest

/-- The clusters of a text. -/
def clustersOf : List Char → List (List Char)
  | [] => []
  | c :: rest => clustersFrom (Context.start c) [c] rest

/-- The clusters of a text, as texts. -/
def clusters (s : String) : List String := (clustersOf s.toList).map String.ofList

end Conform.Text
