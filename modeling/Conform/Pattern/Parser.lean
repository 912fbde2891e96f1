/-
# Reading patterns

A recursive reader.  It carries what is left of the text, the groups opened and named so far, and
the references that have to be checked once all groups are known.  Flags in the middle of a pattern
hold for all of it, so a pattern that turns on a flag not yet taken into account is read again
with it.

Every call either takes a character or is one of a bounded number on the way to the next character,
so a multiple of the length of the text bounds the depth of the calls.
-/
import Conform.Pattern.Syntax
import Conform.Text.Escape

namespace Conform.Pattern

/-! ## 1. The reader -/

/-- Why reading stops early. -/
inductive Stop where
  | flaw (f : Flaw)
  /-- These flags hold for the whole pattern and were not known at the start. -/
  | restart (flags : Flags)

/-- What the reader carries along. -/
structure Progress where
  rest : List Char
  /-- How many groups were opened. -/
  groups : Nat
  /-- The named groups. -/
  names : List (String × Nat)
  /-- The groups that are open, the innermost first. -/
  opened : List Nat
  /-- All references to groups. -/
  references : List GroupRef

/-- A step of reading. -/
abbrev Reader (α : Type) := StateT Progress (Except Stop) α

/-- Stop at a flaw. -/
def refuse {α : Type} (f : Flaw) : Reader α := throw (.flaw f)

/-- Take one character, if there is one. -/
def next? : Reader (Option Char) := do
  let p ← get
  match p.rest with
  | [] => pure none
  | c :: rest =>
    set { p with rest := rest }
    pure (some c)

/-- The character ahead, if there is one. -/
def peek? : Reader (Option Char) := do
  let p ← get
  pure p.rest.head?

/-- The rest of a text after a given beginning. -/
def dropStart? : (start cs : List Char) → Option (List Char)
  | [], cs => some cs
  | s :: ss, c :: cs => if s = c then dropStart? ss cs else none
  | _ :: _, [] => none

/-- Take the given characters, if they are ahead. -/
def accept (start : List Char) : Reader Bool := do
  let p ← get
  match dropStart? start p.rest with
  | some rest =>
    set { p with rest := rest }
    pure true
  | none => pure false

/-- Take one character that has to be there. -/
def expect (c : Char) (f : Flaw) : Reader Unit := do
  if ← accept [c] then pure () else refuse f

/-- Take characters as long as they satisfy a test. -/
def takeWhile (test : Char → Bool) : Reader (List Char) := do
  let p ← get
  set { p with rest := p.rest.dropWhile test }
  pure (p.rest.takeWhile test)

/-- Drop blanks and comments, as patterns written over several lines have them. -/
def dropIgnored : (fuel : Nat) → List Char → List Char
  | 0, cs => cs
  | fuel + 1, cs =>
    match cs with
    | '#' :: rest => dropIgnored fuel (rest.dropWhile (· != '\n'))
    | c :: rest =>
      if (c == ' ' || (decide ('\t' ≤ c) && decide (c ≤ '\r'))) then dropIgnored fuel rest else cs
    | [] => []

/-- Drop what the flags say to ignore. -/
def skipIgnored (flags : Flags) : Reader Unit := do
  if flags.verbose then
    modify fun p => { p with rest := dropIgnored (p.rest.length + 1) p.rest }

/-! ## 2. Groups -/

/-- Open a group; a name that is known already means the same group again. -/
def openGroup (name : Option String) : Reader Nat := do
  let p ← get
  match name.bind fun n => List.lookup n p.names with
  | some index =>
    set { p with opened := index :: p.opened }
    pure index
  | none =>
    let index := p.groups + 1
    let names := match name with
      | some n => (n, index) :: p.names
      | none => p.names
    set { p with groups := index, names := names, opened := index :: p.opened }
    pure index

/-- Close the innermost group. -/
def closeGroup : Reader Unit := modify fun p => { p with opened := p.opened.drop 1 }

/-- Is the text made of digits only? -/
def allDigits (cs : List Char) : Bool := cs.all fun c => digits.contains c.toNat

/-- Can the text be a name? -/
def isName : List Char → Bool
  | [] => false
  | c :: rest =>
    (c == '_' || (binary "XIDSTART").contains c.toNat)
      && rest.all fun c => (binary "XIDCONTINUE").contains c.toNat

/-- The number that digits stand for. -/
def decimalValue (cs : List Char) : Nat := cs.foldl (fun n c => 10 * n + (c.toNat - 48)) 0

/-- A group name up to its closing bracket; a number only where one may stand, and never zero. -/
def readName (numeric : Bool) : Reader GroupRef := do
  let name ← takeWhile fun c => c != ')' && c != '>'
  if name.isEmpty then refuse .badGroupName
  else if allDigits name then
    if numeric && name.all Char.isDigit && decide (0 < decimalValue name) then
      pure (.number (decimalValue name))
    else refuse .badGroupName
  else if isName name then pure (.name (String.ofList name))
  else refuse .badGroupName

/-- A reference to a group, which must not be open. -/
def refer (flags : Flags) (ref : GroupRef) : Reader Node := do
  let p ← get
  let index := match ref with
    | .number n => some n
    | .name s => List.lookup s p.names
  match index with
  | some n => if p.opened.contains n then refuse .badGroup
  | none => pure ()
  set { p with references := ref :: p.references }
  pure (.backref ref flags.ignoreCase)

/-! ## 3. Repetition -/

/-- Counts beyond this are refused. -/
def countLimit : Nat := 4294967295

/-- The counts between braces, if that is what follows: a count, or two with a comma between them
of which either may be left out. -/
def readCounts? : Reader (Option (Nat × Option Nat)) := do
  let saved ← get
  let least ← takeWhile Char.isDigit
  let comma ← accept [',']
  let most ← if comma then takeWhile Char.isDigit else pure least
  let closed ← accept ['}']
  if !closed || (!comma && least.isEmpty) then
    set saved
    pure none
  else
    let low := decimalValue least
    let high := if comma && most.isEmpty then none else some (decimalValue most)
    if countLimit ≤ low then refuse .badCounts
    else match high with
      | some h => if countLimit ≤ h || h < low then refuse .badCounts else pure (some (low, high))
      | none => pure (some (low, high))

/-- The counts that a character announces, if it announces any. -/
def quantifier? (c : Char) : Reader (Option (Nat × Option Nat)) :=
  match c with
  | '?' => pure (some (0, some 1))
  | '*' => pure (some (0, none))
  | '+' => pure (some (1, none))
  | '{' => readCounts?
  | _ => pure none

/-- How a repetition chooses, by the sign after it. -/
def readGreed (flags : Flags) : Reader Greed := do
  skipIgnored flags
  if ← accept ['?'] then pure .lazy
  else if ← accept ['+'] then pure .possessive
  else pure .greedy

/-- A repetition of a piece.  Repeating nothing changes nothing, nor does repeating once. -/
def repetition (node : Node) (counts : Nat × Option Nat) (greed : Greed) : Node :=
  if node.isEmpty || counts == (1, some 1) then node
  else .repeated node counts.1 counts.2 greed

/-! ## 4. Characters and classes -/

/-- One character, in either case where case is ignored. -/
def literal (flags : Flags) (n : Nat) : CharSet := (CharSet.single n).cased flags.ignoreCase

/-- Digits, spaces and word characters under the flags. -/
def digitSet (flags : Flags) : CharSet := if flags.ascii then .range 0x30 0x39 else digits

/-- White space under the flags. -/
def spaceSet (flags : Flags) : CharSet :=
  if flags.ascii then .union (.range 9 13) (.single 32) else spaces

/-- Word characters under the flags. -/
def wordSet (flags : Flags) : CharSet :=
  if flags.ascii then
    .unions [.range 0x30 0x39, .range 0x41 0x5A, .single 0x5F, .range 0x61 0x7A]
  else words

/-- The class that a letter after a backslash stands for. -/
def classEscape? (flags : Flags) : Char → Option CharSet
  | 'd' => some (digitSet flags)
  | 'D' => some (.complement (digitSet flags))
  | 's' => some (spaceSet flags)
  | 'S' => some (.complement (spaceSet flags))
  | 'w' => some (wordSet flags)
  | 'W' => some (.complement (wordSet flags))
  | 'h' => some blanks
  | _ => none

/-- The control character that a letter after a backslash stands for. -/
def controlEscape? : Char → Option Nat
  | 'a' => some 7
  | 'b' => some 8
  | 'f' => some 12
  | 'n' => some 10
  | 'r' => some 13
  | 't' => some 9
  | 'v' => some 11
  | _ => none

/-- The edge that a letter after a backslash stands for. -/
def edgeEscape? (flags : Flags) : Char → Option Node
  | 'A' => some (.edge .textStart)
  | 'Z' => some (.edge .textEnd)
  | 'z' => some (.edge .textEnd)
  | 'b' => some (.edge (.wordEdge (wordSet flags)))
  | 'B' => some (.edge (.noWordEdge (wordSet flags)))
  | 'm' => some (.edge (.wordStart (wordSet flags)))
  | 'M' => some (.edge (.wordEnd (wordSet flags)))
  | 'K' => some .empty
  | _ => none

/-- Hexadecimal digits, exactly as many as asked for. -/
def readHex (count : Nat) : Reader Nat := do
  let p ← get
  let ds := p.rest.take count
  set { p with rest := p.rest.drop count }
  if ds.length < count then refuse .badEscape
  else match Text.hexNumber? ds with
    | some n => if n < 0x110000 then pure n else refuse .badEscape
    | none => refuse .badEscape

/-- Is the character an octal digit? -/
def isOctal (c : Char) : Bool := decide ('0' ≤ c) && decide (c ≤ '7')

/-- The number that octal digits stand for. -/
def octalValue (cs : List Char) : Nat := cs.foldl (fun n c => 8 * n + (c.toNat - 48)) 0

/-- Up to three octal digits, the first of them given. -/
def readOctal (first : Char) : Reader Nat := do
  let p ← get
  let more := (p.rest.takeWhile isOctal).take 2
  set { p with rest := p.rest.drop more.length }
  if isOctal first then pure (octalValue (first :: more)) else refuse .badEscape

/-- Can the character stand in the name of a property? -/
def isPropertyChar (c : Char) : Bool :=
  c.isAlphanum || c == ' ' || c == '&' || c == '_' || c == '-' || c == '.'

/-- A text without blanks at its ends. -/
def trimBlanks (cs : List Char) : List Char :=
  ((cs.dropWhile (· == ' ')).reverse.dropWhile (· == ' ')).reverse

/-- The name of a property, or of a property and a value. -/
def readPropertyName : Reader (Option String × String) := do
  let name ← takeWhile isPropertyChar
  let saved ← get
  let sep ← peek?
  if sep == some ':' || sep == some '=' then
    let _ ← next?
    let value ← takeWhile fun c => isPropertyChar c || c == '/'
    let value := trimBlanks value
    if value.isEmpty then
      set saved
      pure (none, String.ofList name)
    else pure (some (String.ofList name), String.ofList value)
  else pure (none, String.ofList name)

/-- What follows `\p` or `\P`: a property in braces or a single letter.  Anything else leaves the
letter standing for itself. -/
def readProperty (flags : Flags) (letter : Char) : Reader (Bool × CharSet) := do
  let saved ← get
  let positive := letter == 'p'
  let plain : Reader (Bool × CharSet) := do
    set saved
    pure (true, literal flags letter.toNat)
  match ← next? with
  | some '{' =>
    let negated ← accept ['^']
    let (property, value) ← readPropertyName
    if ← accept ['}'] then
      match propertySet? flags.ignoreCase property value with
      | some s => pure (false, s.oriented (positive != negated))
      | none => refuse .unknownProperty
    else plain
  | some c =>
    if ['C', 'L', 'M', 'N', 'P', 'S', 'Z'].contains c then
      match propertySet? flags.ignoreCase none (String.singleton c) with
      | some s => pure (false, s.oriented positive)
      | none => refuse .unknownProperty
    else plain
  | none => plain

/-- One member of a bracketed set: a single character by its number, or a whole class. -/
inductive Member where
  | char (n : Nat)
  | class (s : CharSet)

/-- The member that an escape in a set stands for. -/
def readSetEscape (flags : Flags) : Reader Member := do
  match ← next? with
  | none => refuse .badEscape
  | some 'x' => .char <$> readHex 2
  | some 'u' => .char <$> readHex 4
  | some 'U' => .char <$> readHex 8
  | some 'p' => memberOf 'p'
  | some 'P' => memberOf 'P'
  | some 'N' => pure (.char 'N'.toNat)
  | some c =>
    if c.isAlpha then
      match classEscape? flags c, controlEscape? c with
      | some s, _ => pure (.class s)
      | none, some n => pure (.char n)
      | none, none => refuse .badEscape
    else if c.isDigit then .char <$> readOctal c
    else pure (.char c.toNat)
where
  memberOf (letter : Char) : Reader Member := do
    let (single, s) ← readProperty flags letter
    pure (if single then .char letter.toNat else .class s)

/-- A bracketed class such as `[:alpha:]`, if one follows. -/
def readBracketClass? (flags : Flags) : Reader (Option CharSet) := do
  let saved ← get
  if ← accept ['[', ':'] then
    let negated ← accept ['^']
    let (property, value) ← readPropertyName
    if ← accept [':', ']'] then
      match bracketSet? flags.ignoreCase property value with
      | some s => pure (some (s.oriented !negated))
      | none => refuse .unknownProperty
    else
      set saved
      pure none
  else pure none

/-- One member of a set. -/
def readMember (flags : Flags) : Reader Member := do
  if ← accept ['\\'] then readSetEscape flags
  else match ← readBracketClass? flags with
    | some s => pure (.class s)
    | none => match ← next? with
      | some c => pure (.char c.toNat)
      | none => refuse .unterminated

/-- A member of a set as a set. -/
def Member.toSet (flags : Flags) : Member → CharSet
  | .char n => literal flags n
  | .class s => s

/-- A member, or the range that starts with it.  A hyphen before the closing bracket or before a
class is a hyphen. -/
def readSpan (flags : Flags) : Reader CharSet := do
  let start ← readMember flags
  match start with
  | .class s => pure s
  | .char low =>
    if ← accept ['-'] then
      match ← peek? with
      | some ']' => pure (.union (literal flags low) (literal flags '-'.toNat))
      | _ => match ← readMember flags with
        | .class s =>
          pure (.unions [literal flags low, literal flags '-'.toNat, s])
        | .char high =>
          if high < low then refuse .badRange
          else pure ((CharSet.range low high).cased flags.ignoreCase)
    else pure (literal flags low)

/-- The members of a set up to its closing bracket. -/
def readSpans (flags : Flags) : (fuel : Nat) → CharSet → Reader CharSet
  | 0, _ => refuse .unterminated
  | fuel + 1, s => do
    if ← accept [']'] then pure s
    else
      let more ← readSpan flags
      readSpans flags fuel (.union s more)

/-- A set, after its opening bracket.  A closing bracket that comes first is a member. -/
def readSet (flags : Flags) : Reader CharSet := do
  let negated ← accept ['^']
  let first ← readSpan flags
  let p ← get
  let s ← readSpans flags (p.rest.length + 1) first
  pure (s.oriented !negated)

/-- Any character but a line end, or any at all. -/
def dotSet (flags : Flags) : CharSet :=
  if flags.dotAll then .complement .empty else .complement (.single 10)

/-- The two-character line end, or any single one. -/
def lineEnd : Node :=
  .atomic (.alt (.seq (.set (.single 13)) (.set (.single 10)))
    (.set (.unions [.range 10 13, .single 0x85, .range 0x2028 0x2029])))

/-- A reference by number, or an octal number of three digits, after its first digit. -/
def readNumeric (flags : Flags) (first : Char) : Reader Node := do
  if first = '0' then
    let n ← readOctal first
    pure (.set (literal flags n))
  else
    let p ← get
    match p.rest with
    | b :: c :: rest =>
      if isOctal first && isOctal b && isOctal c then
        set { p with rest := rest }
        pure (.set (literal flags (octalValue [first, b, c] % 512)))
      else if b.isDigit then
        set { p with rest := c :: rest }
        refer flags (.number (decimalValue [first, b]))
      else refer flags (.number (decimalValue [first]))
    | [b] =>
      if b.isDigit then
        set { p with rest := [] }
        refer flags (.number (decimalValue [first, b]))
      else refer flags (.number (decimalValue [first]))
    | [] => refer flags (.number (decimalValue [first]))

/-- A reference in angle brackets after `\g`; where there is none, the letter stands for itself. -/
def readGroupEscape (flags : Flags) : Reader Node := do
  let saved ← get
  let attempt : Reader Node := do
    expect '<' .badGroupName
    let ref ← readName true
    expect '>' .badGroupName
    refer flags ref
  match attempt.run saved with
  | .ok (node, p) =>
    set p
    pure node
  | .error _ => pure (.set (literal flags 'g'.toNat))

/-- What a backslash outside a set announces. -/
def readEscape (flags : Flags) : Reader Node := do
  match ← next? with
  | none => refuse .badEscape
  | some 'x' => charNode <$> readHex 2
  | some 'u' => charNode <$> readHex 4
  | some 'U' => charNode <$> readHex 8
  | some 'g' => readGroupEscape flags
  | some 'G' => pure (.edge .textStart)
  | some 'L' => refuse .badEscape
  | some 'N' => pure (charNode 'N'.toNat)
  | some 'p' => do
    let (_, s) ← readProperty flags 'p'
    pure (.set s)
  | some 'P' => do
    let (_, s) ← readProperty flags 'P'
    pure (.set s)
  | some 'R' => pure lineEnd
  | some 'X' => pure .cluster
  | some c =>
    if c.isAlpha then
      match edgeEscape? flags c, classEscape? flags c, controlEscape? c with
      | some node, _, _ => pure node
      | none, some s, _ => pure (.set s)
      | none, none, some n => pure (charNode n)
      | none, none, none => refuse .badEscape
    else if c.isDigit then readNumeric flags c
    else pure (charNode c.toNat)
where
  charNode (n : Nat) : Node := .set (literal flags n)

/-! ## 5. Constructs in parentheses -/

/-- A run of flag letters. -/
def readFlags : (fuel : Nat) → Flags → Bool → Reader (Flags × Bool)
  | 0, acc, any => pure (acc, any)
  | fuel + 1, acc, any => do
    let p ← get
    match p.rest with
    | 'V' :: '0' :: rest =>
      set { p with rest := rest }
      readFlags fuel (acc.union ⟨false, false, false, false, false, true⟩) true
    | 'V' :: '1' :: rest =>
      set { p with rest := rest }
      readFlags fuel (acc.union ⟨false, false, false, false, false, true⟩) true
    | 'L' :: _ => refuse .conflictingFlags
    | c :: rest =>
      match Flags.ofChar? c with
      | some f =>
        set { p with rest := rest }
        readFlags fuel (acc.union f) true
      | none => pure (acc, any)
    | [] => pure (acc, any)

/-- The text of a comment up to its closing parenthesis; a backslash takes a character with it. -/
def dropComment? : List Char → Option (List Char)
  | [] => none
  | ')' :: rest => some rest
  | '\\' :: _ :: rest => dropComment? rest
  | _ :: rest => dropComment? rest

/-- What a quantifier would apply to. -/
inductive Last where
  /-- Nothing, or a repetition. -/
  | blocked
  | piece (node : Node)

/-- The pieces read so far with the last one put to them. -/
def Last.close (last : Last) (pieces : List Node) : List Node :=
  match last with
  | .blocked => pieces
  | .piece node => node :: pieces

mutual

/-- Alternatives, up to a closing parenthesis or the end. -/
def readAlternatives (known : Flags) : (fuel : Nat) → Flags → Reader Node
  | 0, _ => refuse .unterminated
  | fuel + 1, flags => do
    let first ← readSequence known fuel flags [] .blocked
    if ← accept ['|'] then
      let others ← readAlternatives known fuel flags
      pure (.alt first others)
    else pure first

/-- Pieces one after the other, up to a bar, a closing parenthesis or the end. -/
def readSequence (known : Flags) :
    (fuel : Nat) → Flags → List Node → Last → Reader Node
  | 0, _, _, _ => refuse .unterminated
  | fuel + 1, flags, pieces, last => do
    skipIgnored flags
    let push (node : Node) : Reader Node :=
      readSequence known fuel flags (last.close pieces) (.piece node)
    match ← peek? with
    | none => pure (.sequence (last.close pieces).reverse)
    | some ')' => pure (.sequence (last.close pieces).reverse)
    | some '|' => pure (.sequence (last.close pieces).reverse)
    | some c =>
      let _ ← next?
      match c with
      | '\\' => do
        let node ← readEscape flags
        push node
      | '(' => do
        match ← readParenthesis known fuel flags with
        | some node => push node
        | none => readSequence known fuel flags pieces last
      | '.' => push (.set (dotSet flags))
      | '[' => do
        let s ← readSet flags
        push (.set s)
      | '^' => push (.edge (if flags.multiline then .lineStart else .textStart))
      | '$' => push (.edge (if flags.multiline then .lineEnd else .lastLineEnd))
      | c =>
        match ← quantifier? c with
        | some counts =>
          match last with
          | .blocked => refuse .nothingToRepeat
          | .piece node =>
            let greed ← readGreed flags
            readSequence known fuel flags (repetition node counts greed :: pieces) .blocked
        | none => push (.set (literal flags c.toNat))

/-- What stands after an opening parenthesis; flags and comments leave nothing. -/
def readParenthesis (known : Flags) : (fuel : Nat) → Flags → Reader (Option Node)
  | 0, _ => refuse .unterminated
  | fuel + 1, flags => do
    if ← accept ['?', '<', '='] then some <$> readLook known fuel flags true true
    else if ← accept ['?', '<', '!'] then some <$> readLook known fuel flags true false
    else if ← accept ['?', '<'] then some <$> readNamed known fuel flags
    else if ← accept ['?', '='] then some <$> readLook known fuel flags false true
    else if ← accept ['?', '!'] then some <$> readLook known fuel flags false false
    else if ← accept ['?', 'P', '<'] then some <$> readNamed known fuel flags
    else if ← accept ['?', 'P', '='] then
      let ref ← readName true
      expect ')' .unterminated
      some <$> refer flags ref
    else if ← accept ['?', 'P'] then refuse .unknownExtension
    else if ← accept ['?', '#'] then
      let p ← get
      match dropComment? p.rest with
      | some rest =>
        set { p with rest := rest }
        pure none
      | none => refuse .unterminated
    else if ← accept ['?', '('] then some <$> readConditional known fuel flags
    else if ← accept ['?', '>'] then
      let body ← readAlternatives known fuel flags
      expect ')' .unterminated
      pure (some (.atomic body))
    else if ← accept ['?', '|'] then
      let p ← get
      let body ← readBranches known fuel flags p.groups p.groups
      expect ')' .unterminated
      pure (some body)
    else if ← accept ['?'] then readFlagged known fuel flags
    else if ← accept ['*', 'F', 'A', 'I', 'L', ')'] then pure (some .never)
    else if ← accept ['*', 'F', ')'] then pure (some .never)
    else if ← accept "*PRUNE)".toList then pure (some .empty)
    else if ← accept "*SKIP)".toList then pure (some .empty)
    else
      let index ← openGroup none
      let body ← readAlternatives known fuel flags
      expect ')' .unterminated
      closeGroup
      pure (some (.group index body))

/-- A look ahead or behind, after the sign that announces it. -/
def readLook (known : Flags) : (fuel : Nat) → Flags → Bool → Bool → Reader Node
  | 0, _, _, _ => refuse .unterminated
  | fuel + 1, flags, behind, positive => do
    let body ← readAlternatives known fuel flags
    expect ')' .unterminated
    pure (.look behind positive body)

/-- A named group, after the bracket before its name. -/
def readNamed (known : Flags) : (fuel : Nat) → Flags → Reader Node
  | 0, _ => refuse .unterminated
  | fuel + 1, flags => do
    let ref ← readName false
    match ref with
    | .number _ => refuse .badGroupName
    | .name s =>
      let index ← openGroup (some s)
      expect '>' .unterminated
      let body ← readAlternatives known fuel flags
      expect ')' .unterminated
      closeGroup
      pure (.group index body)

/-- A choice by a group or by a look, after its opening parenthesis. -/
def readConditional (known : Flags) : (fuel : Nat) → Flags → Reader Node
  | 0, _ => refuse .unterminated
  | fuel + 1, flags => do
    if ← accept ['?', '='] then readLookChoice known fuel flags false true
    else if ← accept ['?', '!'] then readLookChoice known fuel flags false false
    else if ← accept ['?', '<', '='] then readLookChoice known fuel flags true true
    else if ← accept ['?', '<', '!'] then readLookChoice known fuel flags true false
    else if ← accept ['?'] then refuse .unknownExtension
    else
      let ref ← readName true
      expect ')' .unterminated
      modify fun p => { p with references := ref :: p.references }
      let (yes, no) ← readBoth known fuel flags
      pure (.ifGroup ref yes no)

/-- A choice by a look, after the sign that announces it. -/
def readLookChoice (known : Flags) : (fuel : Nat) → Flags → Bool → Bool → Reader Node
  | 0, _, _, _ => refuse .unterminated
  | fuel + 1, flags, behind, positive => do
    let condition ← readAlternatives known fuel flags
    expect ')' .unterminated
    let (yes, no) ← readBoth known fuel flags
    pure (.ifLook behind positive condition yes no)

/-- The two sides of a choice and its closing parenthesis. -/
def readBoth (known : Flags) : (fuel : Nat) → Flags → Reader (Node × Node)
  | 0, _ => refuse .unterminated
  | fuel + 1, flags => do
    let yes ← readSequence known fuel flags [] .blocked
    let no ← if ← accept ['|'] then readSequence known fuel flags [] .blocked else pure .empty
    expect ')' .unterminated
    pure (yes, no)

/-- Alternatives that number their groups alike. -/
def readBranches (known : Flags) : (fuel : Nat) → Flags → Nat → Nat → Reader Node
  | 0, _, _, _ => refuse .unterminated
  | fuel + 1, flags, start, most => do
    modify fun p => { p with groups := start }
    let first ← readSequence known fuel flags [] .blocked
    let p ← get
    let most := max most p.groups
    if ← accept ['|'] then
      let others ← readBranches known fuel flags start most
      pure (.alt first others)
    else
      modify fun p => { p with groups := most }
      pure first

/-- Flags for the whole pattern, or flags for the part that follows in the same parentheses. -/
def readFlagged (known : Flags) : (fuel : Nat) → Flags → Reader (Option Node)
  | 0, _ => refuse .unterminated
  | fuel + 1, flags => do
    let p ← get
    let (on, _) ← readFlags (p.rest.length + 1) .none false
    let off ← if ← accept ['-'] then do
        let (off, any) ← readFlags (p.rest.length + 1) .none false
        if any then pure (some off) else refuse .unknownExtension
      else pure none
    if ← accept [':'] then
      let body ← readAlternatives known fuel ((flags.union on).minus (off.getD .none))
      expect ')' .unterminated
      pure (some body)
    else if ← accept [')'] then
      if off.isSome then refuse .unknownExtension
      else if known.union on = known then pure none
      else throw (.restart (known.union on))
    else refuse .unknownExtension

end

/-! ## 6. Whole patterns -/

/-- A pattern with the groups that its references need. -/
structure Program where
  node : Node
  /-- The numbers of the named groups. -/
  names : List (String × Nat)
  /-- The groups that something refers to. -/
  tracked : List Nat

/-- The number of a group. -/
def groupNumber? (names : List (String × Nat)) : GroupRef → Option Nat
  | .number n => some n
  | .name s => List.lookup s names

/-- Read a whole text under flags that hold from its start. -/
def readProgram (flags : Flags) (text : List Char) : Except Stop Program :=
  match (readAlternatives flags (12 * text.length + 12) flags).run ⟨text, 0, [], [], []⟩ with
  | .error stop => .error stop
  | .ok (node, p) =>
    if !p.rest.isEmpty then .error (.flaw .unbalanced)
    else
      let numbers := p.references.map (groupNumber? p.names)
      if numbers.all fun n? => n?.any fun n => decide (1 ≤ n) && decide (n ≤ p.groups) then
        .ok ⟨node, p.names, numbers.filterMap id⟩
      else .error (.flaw .badGroup)

/-- Read a text, again with every flag that it turns on. -/
def readWithFlags (text : List Char) : (rounds : Nat) → Flags → Except Flaw Program
  | 0, _ => .error .unknownExtension
  | rounds + 1, flags =>
    match readProgram flags text with
    | .ok program => .ok program
    | .error (.flaw f) => .error f
    | .error (.restart flags') => readWithFlags text rounds flags'

/-- **The pattern that a text denotes**, or what is wrong with it.  There are six flags, so no
text is read more than seven times. -/
def Program.ofText (text : String) : Except Flaw Program :=
  readWithFlags text.toList 7 .none

end Conform.Pattern
