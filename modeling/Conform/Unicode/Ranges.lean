/-
# Sets of code points

A set of code points is a sorted array of inclusive ranges, searched by halving.  Tables are
written as text, `41-5A 61-7A AA`, in hexadecimal and in increasing order.
-/

namespace Conform.Unicode

/-! ## 1. Reading tables -/

/-- The pieces of a text between blanks and line ends. -/
def fieldsOf (cs : List Char) : List (List Char) :=
  let (piece, pieces) := cs.foldr
    (fun c (piece, pieces) =>
      if c == ' ' || c == '\n' then
        ([], if piece.isEmpty then pieces else piece :: pieces)
      else (c :: piece, pieces))
    (([] : List Char), ([] : List (List Char)))
  if piece.isEmpty then pieces else piece :: pieces

/-- The pieces of a text between occurrences of a character. -/
def splitAt (sep : Char) (cs : List Char) : List (List Char) :=
  let (piece, pieces) := cs.foldr
    (fun c (piece, pieces) => if c == sep then ([], piece :: pieces) else (c :: piece, pieces))
    (([] : List Char), ([] : List (List Char)))
  piece :: pieces

/-- The value of upper-case hexadecimal digits. -/
def hexValue (cs : List Char) : Nat :=
  cs.foldl (fun n c => 16 * n + (if c.isDigit then c.toNat - 48 else c.toNat - 55)) 0

/-! ## 2. Ranges -/

/-- A set of code points as inclusive ranges in increasing order. -/
structure Ranges where
  bounds : Array (Nat × Nat)

namespace Ranges

/-- The set that a table describes. -/
def ofText (text : String) : Ranges :=
  ⟨(fieldsOf text.toList).foldl
    (fun acc entry =>
      match splitAt '-' entry with
      | [a] => acc.push (hexValue a, hexValue a)
      | a :: b :: _ => acc.push (hexValue a, hexValue b)
      | [] => acc)
    #[]⟩

/-- Does one of the ranges with an index from `low` up to below `high` hold the code point? -/
def searchBetween (bounds : Array (Nat × Nat)) (n low high : Nat) : Bool :=
  if _h : low < high then
    let mid := (low + high) / 2
    match bounds[mid]? with
    | none => false
    | some (a, b) =>
      if n < a then searchBetween bounds n low mid
      else if b < n then searchBetween bounds n (mid + 1) high
      else true
  else false
termination_by high - low

/-- Is the code point in the set? -/
def contains (r : Ranges) (n : Nat) : Bool := searchBetween r.bounds n 0 r.bounds.size

end Ranges

/-! ## 3. Look-up -/

/-- The entry for `n` among those with an index from `low` up to below `high`. -/
def findBetween {α : Type} (entries : Array (Nat × α)) (n low high : Nat) : Option α :=
  if _h : low < high then
    let mid := (low + high) / 2
    match entries[mid]? with
    | none => none
    | some (k, x) =>
      if n < k then findBetween entries n low mid
      else if k < n then findBetween entries n (mid + 1) high
      else some x
  else none
termination_by high - low

/-- The entry for `n` in an array sorted by key. -/
def findKey? {α : Type} (entries : Array (Nat × α)) (n : Nat) : Option α :=
  findBetween entries n 0 entries.size

end Conform.Unicode
