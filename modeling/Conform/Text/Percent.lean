/-
# Percent encoding

A percent sign and two hexadecimal digits stand for a byte.  The bytes between characters beyond
ASCII are read as UTF-8; every stretch that is not the start of a character becomes one replacement
character.
-/
import Conform.Text.Escape

namespace Conform.Text

/-! ## 1. UTF-8 -/

/-- The character that stands for bytes that make none. -/
def replacement : Char := '\uFFFD'

/-- Is the byte the continuation of a character? -/
def isContinuation (b : Nat) : Bool := decide (0x80 ≤ b) && decide (b ≤ 0xBF)

/-- The second bytes that may follow a first byte of three or four. -/
def secondRange (first : Nat) : Nat × Nat :=
  if first = 0xE0 then (0xA0, 0xBF)
  else if first = 0xED then (0x80, 0x9F)
  else if first = 0xF0 then (0x90, 0xBF)
  else if first = 0xF4 then (0x80, 0x8F)
  else (0x80, 0xBF)

/-- May the second byte follow the first? -/
def followsFirst (first second : Nat) : Bool :=
  decide ((secondRange first).1 ≤ second) && decide (second ≤ (secondRange first).2)

/-- The character at the start of the bytes and how many more bytes than the first it takes. -/
def firstChar (first : Nat) (rest : List Nat) : Char × Nat :=
  if first < 0x80 then (Char.ofNat first, 0)
  else if 0xC2 ≤ first ∧ first ≤ 0xDF then
    match rest with
    | b :: _ =>
      if isContinuation b then (Char.ofNat ((first - 0xC0) * 64 + (b - 0x80)), 1)
      else (replacement, 0)
    | [] => (replacement, 0)
  else if 0xE0 ≤ first ∧ first ≤ 0xEF then
    match rest with
    | b :: more =>
      if !followsFirst first b then (replacement, 0)
      else match more with
        | c :: _ =>
          if isContinuation c then
            (Char.ofNat ((first - 0xE0) * 4096 + (b - 0x80) * 64 + (c - 0x80)), 2)
          else (replacement, 1)
        | [] => (replacement, 1)
    | [] => (replacement, 0)
  else if 0xF0 ≤ first ∧ first ≤ 0xF4 then
    match rest with
    | b :: more =>
      if !followsFirst first b then (replacement, 0)
      else match more with
        | c :: more =>
          if !isContinuation c then (replacement, 1)
          else match more with
            | d :: _ =>
              if isContinuation d then
                (Char.ofNat ((first - 0xF0) * 262144 + (b - 0x80) * 4096 + (c - 0x80) * 64
                  + (d - 0x80)), 3)
              else (replacement, 2)
            | [] => (replacement, 2)
        | [] => (replacement, 1)
    | [] => (replacement, 0)
  else (replacement, 0)

/-- The characters that bytes stand for. -/
def decodeUtf8 : List Nat → List Char
  | [] => []
  | first :: rest =>
    let (c, more) := firstChar first rest
    c :: decodeUtf8 (rest.drop more)
termination_by bytes => bytes.length
decreasing_by simp only [List.length_drop, List.length_cons]; omega

/-! ## 2. Percent signs -/

/-- The byte of two hexadecimal digits. -/
def hexByte? (a b : Char) : Option Nat :=
  match hexValue? a, hexValue? b with
  | some x, some y => some (16 * x + y)
  | _, _ => none

/-- Decode a text; `bytes` holds the bytes since the last character beyond ASCII, last first. -/
def percentDecodeFrom (bytes : List Nat) : List Char → List Char
  | [] => decodeUtf8 bytes.reverse
  | '%' :: a :: b :: rest =>
    match hexByte? a b with
    | some byte => percentDecodeFrom (byte :: bytes) rest
    | none => percentDecodeFrom ('%'.toNat :: bytes) (a :: b :: rest)
  | c :: rest =>
    if c.toNat < 0x80 then percentDecodeFrom (c.toNat :: bytes) rest
    else decodeUtf8 bytes.reverse ++ c :: percentDecodeFrom [] rest

/-- **A text with its percent signs decoded.** -/
def percentDecode (cs : List Char) : List Char := percentDecodeFrom [] cs

end Conform.Text
