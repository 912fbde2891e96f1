/-
# Locations

A reference is a location: scheme, host, path, query and fragment.  Blanks and control signs before
it and line ends and tabs inside it do not count.  Only a location without scheme and path is in the
document at hand.
-/
import Conform.Reference.Host
import Conform.Fault

namespace Conform.Reference

/-- The parts of a location. -/
structure Location where
  scheme : List Char
  host : List Char
  /-- The path, without parameters of its last part. -/
  path : List Char
  query : List Char
  fragment : List Char

/-- May the character stand in a scheme? -/
def isSchemeChar (c : Char) : Bool := c.isAlphanum || c == '+' || c == '-' || c == '.'

/-- A text before and after the first occurrence of a character, if there is one. -/
def cutAt? (sep : Char) (cs : List Char) : Option (List Char × List Char) :=
  if cs.contains sep then some (cs.takeWhile (· != sep), (cs.dropWhile (· != sep)).drop 1)
  else none

/-- The scheme of a location, and what follows it. -/
def takeScheme (cs : List Char) : List Char × List Char :=
  match cutAt? ':' cs with
  | some (scheme, rest) =>
    if (scheme.head?.any Char.isAlpha) && scheme.all isSchemeChar then (scheme, rest) else ([], cs)
  | none => ([], cs)

/-- The host of a location, after two slashes, and what follows it. -/
def takeHost : List Char → List Char × List Char
  | '/' :: '/' :: rest =>
    let inHost (c : Char) : Bool := c != '/' && c != '?' && c != '#'
    (rest.takeWhile inHost, rest.dropWhile inHost)
  | cs => ([], cs)

/-- A path without the parameters of its last part. -/
def dropParameters (path : List Char) : List Char :=
  let lastPart := (path.reverse.takeWhile (· != '/')).reverse
  let before := path.take (path.length - lastPart.length)
  before ++ lastPart.takeWhile (· != ';')

/-- The characters of a reference that count. -/
def counted (text : List Char) : List Char :=
  (text.dropWhile fun c => decide (c ≤ ' ')).filter fun c => c != '\t' && c != '\n' && c != '\r'

/-- **The location that a reference denotes.** -/
def Location.ofText (text : String) : Except Fault Location :=
  let (scheme, rest) := takeScheme (counted text.toList)
  let (host, rest) := takeHost rest
  if !isHost host then .error .badHost
  else
    let (rest, fragment) := (cutAt? '#' rest).getD (rest, [])
    let (path, query) := (cutAt? '?' rest).getD (rest, [])
    .ok ⟨scheme, host, dropParameters path, query, fragment⟩

theorem Location.ordinary_of_ofText {text : String} {fault : Fault} (h : ofText text = .error fault) :
    fault.Ordinary := by
  unfold ofText at h
  dsimp only at h
  split at h
  · cases h
    trivial
  · cases h

/-- Is the location in the document at hand? -/
def Location.isLocal (location : Location) : Bool :=
  location.scheme.isEmpty && location.path.isEmpty

end Conform.Reference
