/-
# Matching

`Node.ends` gives every place where a match of a pattern that starts at a place can end, the
preferred one first.  Alternatives and repetitions only order the places; an atomic group and a
possessive repetition keep the first; a look keeps none but the start.  A pattern matches somewhere
in a text when from some place there is an end at all.

Inside a look behind everything runs backwards: the last piece is tried first, and a character is
the one before the place.

A place comes with what the groups have matched, but only those groups are remembered that
something refers to.  So two ways to the same place count once, and the lists of places stay short.
-/
import Std.Data.HashSet
import Conform.Pattern.Parser
import Conform.Text.Cluster

namespace Conform.Pattern

/-! ## 1. Places -/

/-- A place in the text and the stretches that the groups have matched. -/
structure Spot where
  pos : Nat
  groups : List (Nat × Nat × Nat)
  deriving BEq, Hashable

/-- The text to match, and the groups to remember. -/
structure Subject where
  text : Array Char
  names : List (String × Nat)
  tracked : List Nat

/-- The same place with a group set. -/
def Spot.setGroup (spot : Spot) (index first last : Nat) : Spot :=
  { spot with groups := (index, first, last) :: spot.groups.filter fun g => g.1 != index }

/-- The stretch that a group has matched. -/
def Spot.group? (spot : Spot) (index : Nat) : Option (Nat × Nat) := List.lookup index spot.groups

/-- Places without repetition, the first of each. -/
def distinctSpots (spots : List Spot) : List Spot :=
  match spots with
  | [] => []
  | [a] => [a]
  | _ =>
    let step (acc : Std.HashSet Spot × List Spot) (s : Spot) : Std.HashSet Spot × List Spot :=
      if acc.1.contains s then acc else (acc.1.insert s, s :: acc.2)
    (spots.foldl step (∅, [])).2.reverse

/-! ## 2. Single steps -/

/-- The character that a step from the place takes. -/
def Subject.charAt? (subject : Subject) (backward : Bool) (pos : Nat) : Option Char :=
  if backward then (if pos = 0 then none else subject.text[pos - 1]?) else subject.text[pos]?

/-- The place after a step over one character. -/
def stepPos (backward : Bool) (pos : Nat) : Nat := if backward then pos - 1 else pos + 1

/-- The place after `count` steps. -/
def stepsPos (backward : Bool) (pos count : Nat) : Nat :=
  if backward then pos - count else pos + count

/-- Does a step from the place take a character of the set? -/
def Subject.admits (subject : Subject) (backward : Bool) (s : CharSet) (pos : Nat) : Bool :=
  match subject.charAt? backward pos with
  | some c => s.contains c.toNat
  | none => false

/-- How many characters of the set follow the place, counting no further than `fuel`. -/
def Subject.runLength (subject : Subject) (backward : Bool) (s : CharSet) :
    (fuel : Nat) → (pos : Nat) → Nat
  | 0, _ => 0
  | fuel + 1, pos =>
    if subject.admits backward s pos then
      1 + runLength subject backward s fuel (stepPos backward pos)
    else 0

/-- Does a word character stand before the place, or after it? -/
def Subject.wordAt (subject : Subject) (word : CharSet) (before : Bool) (pos : Nat) : Bool :=
  subject.admits before word pos

/-- Does the place satisfy a condition? -/
def Subject.atEdge (subject : Subject) (pos : Nat) : Edge → Bool
  | .textStart => pos == 0
  | .textEnd => pos == subject.text.size
  | .lastLineEnd =>
    pos == subject.text.size
      || (pos + 1 == subject.text.size && subject.text[pos]? == some '\n')
  | .lineStart => subject.charAt? true pos == none || subject.charAt? true pos == some '\n'
  | .lineEnd => subject.charAt? false pos == none || subject.charAt? false pos == some '\n'
  | .wordEdge word => subject.wordAt word true pos != subject.wordAt word false pos
  | .noWordEdge word => subject.wordAt word true pos == subject.wordAt word false pos
  | .wordStart word => !subject.wordAt word true pos && subject.wordAt word false pos
  | .wordEnd word => subject.wordAt word true pos && !subject.wordAt word false pos

/-- Are two characters the same, or variants of each other where case is ignored? -/
def sameChar (ignoreCase : Bool) (a b : Char) : Bool :=
  ((CharSet.single a.toNat).cased ignoreCase).contains b.toNat

/-- Does the stretch from `first` to `last` occur again at the place? -/
def Subject.repeats (subject : Subject) (ignoreCase : Bool) (first last pos : Nat) : Bool :=
  (List.range (last - first)).all fun i =>
    match subject.text[first + i]?, subject.text[pos + i]? with
    | some a, some b => sameChar ignoreCase a b
    | _, _ => false

/-- Where a cluster that begins at the place ends. -/
def Subject.clusterEnd? (subject : Subject) (backward : Bool) (pos : Nat) : Option Nat :=
  let cs := subject.text.toList
  let bounds := (Text.clustersOf cs).foldl
    (fun acc cluster => match acc with
      | [] => []
      | b :: rest => (b + cluster.length) :: b :: rest) [0]
  if backward then bounds.find? fun b => decide (b < pos)
  else bounds.reverse.find? fun b => decide (pos < b)

/-! ## 3. Repetition -/

/-- What a repetition has found: the places visited with their counts, and the ends, last first. -/
structure Found where
  visited : Std.HashSet (Nat × Spot)
  ends : List Spot

/-- Add an end. -/
def Found.add (found : Found) (spot : Spot) : Found := { found with ends := spot :: found.ends }

/-- **All ends of a repetition** after `count` rounds.  A round beyond the least number that does
not move is the last one; every other round moves or brings the count nearer to the least number,
so the length of the text and the least number together bound the rounds. -/
def rounds (body : Spot → List Spot) (least : Nat) (most : Option Nat) (lazily : Bool) :
    (fuel : Nat) → (count : Nat) → Spot → Found → Found
  | 0, _, _, found => found
  | fuel + 1, count, spot, found =>
    let key := (if most.isNone then min count least else count, spot)
    if found.visited.contains key then found
    else
      let found := { found with visited := found.visited.insert key }
      let stop (found : Found) : Found := if least ≤ count then found.add spot else found
      let more (found : Found) : Found :=
        if most.all fun m => decide (count < m) then
          (body spot).foldl
            (fun found next =>
              if least ≤ count ∧ next.pos = spot.pos then found.add next
              else rounds body least most lazily fuel (count + 1) next found)
            found
        else found
      if lazily then more (stop found) else stop (more found)

/-- The ends of a repetition of single characters. -/
def runEnds (backward : Bool) (spot : Spot) (run least : Nat) (greed : Greed) : List Spot :=
  if run < least then []
  else
    let at' (n : Nat) : Spot := { spot with pos := stepsPos backward spot.pos n }
    let counts := (List.range (run - least + 1)).map (· + least)
    match greed with
    | .greedy => counts.reverse.map at'
    | .lazy => counts.map at'
    | .possessive => [at' run]

/-! ## 4. Patterns -/

/-- **The places where a match from the given place can end**, the preferred one first. -/
def Node.ends (subject : Subject) : (backward : Bool) → Node → Spot → List Spot
  | _, .empty, spot => [spot]
  | _, .never, _ => []
  | backward, .set s, spot =>
    if subject.admits backward s spot.pos then
      [{ spot with pos := stepPos backward spot.pos }]
    else []
  | backward, .seq a b, spot =>
    if backward then distinctSpots ((ends subject true b spot).flatMap (ends subject true a))
    else distinctSpots ((ends subject false a spot).flatMap (ends subject false b))
  | backward, .alt a b, spot =>
    distinctSpots (ends subject backward a spot ++ ends subject backward b spot)
  | backward, .repeated (.set s) least most greed, spot =>
    let room := subject.text.size
    let bound := match most with
      | some m => min m room
      | none => room
    runEnds backward spot (subject.runLength backward s bound spot.pos) least greed
  | backward, .repeated body least most greed, spot =>
    let fuel := subject.text.size + least + 2
    let found := rounds (ends subject backward body) least most (greed == .lazy) fuel 0 spot ⟨∅, []⟩
    let all := distinctSpots found.ends.reverse
    match greed with
    | .possessive => all.take 1
    | _ => all
  | backward, .group index body, spot =>
    let all := ends subject backward body spot
    if subject.tracked.contains index then
      all.map fun e => e.setGroup index (min spot.pos e.pos) (max spot.pos e.pos)
    else all
  | backward, .backref ref ignoreCase, spot =>
    match (groupNumber? subject.names ref).bind spot.group? with
    | none => []
    | some (first, last) =>
      let count := last - first
      if backward then
        if count ≤ spot.pos ∧ subject.repeats ignoreCase first last (spot.pos - count) then
          [{ spot with pos := spot.pos - count }]
        else []
      else if subject.repeats ignoreCase first last spot.pos then
        [{ spot with pos := spot.pos + count }]
      else []
  | _, .look behind positive body, spot =>
    match ends subject behind body spot, positive with
    | e :: _, true => [{ e with pos := spot.pos }]
    | [], true => []
    | _ :: _, false => []
    | [], false => [spot]
  | backward, .atomic body, spot => (ends subject backward body spot).take 1
  | _, .edge e, spot => if subject.atEdge spot.pos e then [spot] else []
  | backward, .ifGroup ref yes no, spot =>
    match (groupNumber? subject.names ref).bind spot.group? with
    | some _ => ends subject backward yes spot
    | none => ends subject backward no spot
  | backward, .ifLook behind positive condition yes no, spot =>
    match ends subject behind condition spot, positive with
    | e :: _, true => ends subject backward yes { e with pos := spot.pos }
    | [], false => ends subject backward yes spot
    | _, _ => ends subject backward no spot
  | backward, .cluster, spot =>
    match subject.clusterEnd? backward spot.pos with
    | some pos => [{ spot with pos := pos }]
    | none => []

/-- The text as a subject for the program. -/
def Program.subject (program : Program) (text : String) : Subject :=
  ⟨text.toList.toArray, program.names, program.tracked⟩

/-- Does the pattern match from the start of the text? -/
def Program.matchesStart (program : Program) (text : String) : Bool :=
  !(program.node.ends (program.subject text) false ⟨0, []⟩).isEmpty

/-- **Does the pattern match anywhere in the text?** -/
def Program.matchesWithin (program : Program) (text : String) : Bool :=
  let subject := program.subject text
  (List.range (subject.text.size + 1)).any fun pos =>
    !(program.node.ends subject false ⟨pos, []⟩).isEmpty

end Conform.Pattern
