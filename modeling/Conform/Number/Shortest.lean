/-
# The shortest decimal that reads back

A double is written with the fewest significant digits that still read back as the same double,
and among those with the digits nearest to its exact value.  `shortest` tries one digit, two, and
so on; each grid has only two candidates, the neighbours of the value.  Seventeen digits always
suffice, and the exact value closes the search.

`Style` then fixes how digits and a power of ten become text.
-/
import Conform.Number.Double
import Conform.Number.Decimal

namespace Conform

namespace Double

/-! ## 1. Choosing the digits -/

/-- A run of digits and the power of ten of the last one. -/
structure Digits where
  digits : Nat
  exponent : Int
  deriving DecidableEq

/-- The fraction `m * 2 ^ e`, as whole numbers. -/
def fraction (m : Nat) (e : Int) : Nat × Nat :=
  if 0 ≤ e then (m * Nat.pow 2 e.toNat, 1) else (m, Nat.pow 2 (-e).toNat)

/-- The power of ten just above `num / den`: the least `k` with `num / den < 10 ^ k`, for a
quotient of at least `10 ^ -400`. -/
def magnitude (num den : Nat) : Int :=
  (Decimal.digitCount (num * Nat.pow 10 400 / den) : Int) - 400

/-- The neighbours of `num / den` among the multiples of `10 ^ g` that read back as the double
`m * 2 ^ e`, the nearest one first; on a tie the even one. -/
def candidate? (m : Nat) (e : Int) (num den : Nat) (g : Int) : Option Digits :=
  let (n, d) := if 0 ≤ g then (num, den * Nat.pow 10 g.toNat)
    else (num * Nat.pow 10 (-g).toNat, den)
  let low := n / d
  let nearest := roundDiv n d
  let other := if nearest = low then low + 1 else low
  let readsBack (c : Nat) : Bool :=
    match ofDecimal false c g with
    | .finite _ m' e' _ => m' == m && e' == e
    | _ => false
  if readsBack nearest then some ⟨nearest, g⟩
  else if readsBack other then some ⟨other, g⟩
  else none

/-- The exact value of `m * 2 ^ e` as digits and a power of ten. -/
def exactDigits (m : Nat) (e : Int) : Digits :=
  if 0 ≤ e then ⟨m * Nat.pow 2 e.toNat, 0⟩ else ⟨m * Nat.pow 5 (-e).toNat, e⟩

/-- Digits without trailing zeros, as far as `fuel` reaches. -/
def Digits.trim : Nat → Digits → Digits
  | 0, x => x
  | fuel + 1, x =>
    if x.digits ≠ 0 ∧ x.digits % 10 = 0 then Digits.trim fuel ⟨x.digits / 10, x.exponent + 1⟩ else x

/-- **The shortest digits of `m * 2 ^ e`** (`m` not zero) that read back. -/
def shortest (m : Nat) (e : Int) : Digits :=
  let (num, den) := fraction m e
  let top := magnitude num den
  let grids := (List.range 17).map fun (n : Nat) => top - (n + 1 : Nat)
  let found := (grids.findSome? (candidate? m e num den)).getD (exactDigits m e)
  found.trim (Decimal.digitCount found.digits)

/-- A finite double as the decimal its shortest digits denote. -/
def toDecimal? : Double → Option Decimal
  | .finite negative m e _ =>
    if m = 0 then some ⟨0, 0⟩
    else
      let x := shortest m e
      some ⟨if negative then -(x.digits : Int) else x.digits, x.exponent⟩
  | _ => none

/-! ## 2. Writing the digits -/

/-- How a double is written: the words for the values that are no numbers, and the exponents of
the leading digit between which the positional form is used. -/
structure Style where
  nan : String
  infinity : String
  /-- The least exponent of the leading digit that is written positionally. -/
  positionalFrom : Int
  /-- The first exponent of the leading digit that is not written positionally any more. -/
  positionalBelow : Int

/-- Digits with the point after the first `point` of them; a whole number gets `.0`. -/
def positional (ds : List Char) (point : Int) : String :=
  if point ≤ 0 then
    String.ofList ("0.".toList ++ List.replicate (-point).toNat '0' ++ ds)
  else if ds.length ≤ point.toNat then
    String.ofList (ds ++ List.replicate (point.toNat - ds.length) '0' ++ ".0".toList)
  else
    String.ofList (ds.take point.toNat ++ '.' :: ds.drop point.toNat)

/-- Digits with the point after the first one and a power of ten of at least two digits. -/
def scientific (ds : List Char) (exponent : Int) : String :=
  let lead := match ds with
    | [] => []
    | [d] => [d]
    | d :: rest => d :: '.' :: rest
  let power := (Nat.repr exponent.natAbs).toList
  let padded := if power.length < 2 then '0' :: power else power
  String.ofList (lead ++ 'e' :: (if exponent < 0 then '-' else '+') :: padded)

/-- **The text of a double**: the shortest digits that read back, positional or with a power of
ten as the style says. -/
def render (style : Style) : Double → String
  | .nan => style.nan
  | .infinite false => style.infinity
  | .infinite true => "-" ++ style.infinity
  | .finite negative m e _ =>
    let body :=
      if m = 0 then "0.0"
      else
        let x := shortest m e
        let ds := Nat.toDigits 10 x.digits
        let point := x.exponent + ds.length
        if style.positionalFrom ≤ point - 1 ∧ point - 1 < style.positionalBelow then
          positional ds point
        else scientific ds (point - 1)
    if negative then "-" ++ body else body

/-- The style of displayed values: positional from `0.0001` up to below `10 ^ 16`. -/
def displayStyle : Style := ⟨"nan", "inf", -4, 16⟩

/-- The style of document text, which spells out the values that are no numbers. -/
def documentStyle : Style := ⟨"NaN", "Infinity", -4, 16⟩

end Double

end Conform
