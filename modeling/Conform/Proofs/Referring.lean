/-
# Every node has a reference

A path of names and indices is written as a reference in three layers: the tildes and slashes of each
segment are escaped, the characters of the escaped segments are written as their UTF-8 bytes, each byte
as a percent sign and two digits, and a slash goes before each segment.  `resolve` takes the outer layers
off in the other order, and what is left is the pointer of the path (`percentDecode_referenceFragment`).  A
follower of pointers leads from there along the names and indices that were written
(`Follower.follow_pointer`), as the one does that takes the innermost layer off, too
(`Follower.standard`).

What keeps the layers apart is which characters each of them leaves: after the innermost no slash is left
in a segment, and after the outermost nothing but unreserved characters, percent signs and slashes, among
which a location finds no scheme, no host and no query (`ofText_reference`).
-/
import Conform.Proofs.Addressing

namespace Conform

namespace Text

/-! ## 1. UTF-8 -/

/-- The bytes of a character. -/
def utf8 (c : Char) : List Nat := (String.utf8EncodeChar c).map UInt8.toNat

/-- A character is below the surrogates or beyond them. -/
theorem toNat_range (c : Char) : c.toNat < 0xD800 ∨ 0xDFFF < c.toNat ∧ c.toNat < 0x110000 := c.valid

/-- A continuation holds six bits. -/
theorem isContinuation_low (n : Nat) : isContinuation (n % 64 + 0x80) = true := by
  simp only [isContinuation, Bool.and_eq_true, decide_eq_true_eq]
  omega

/-- **One byte, or two, three or four**, for so many bits of the code point. -/
theorem utf8_cases (c : Char) :
    (c.toNat < 0x80 ∧ utf8 c = [c.toNat]) ∨
    (0x80 ≤ c.toNat ∧ c.toNat < 0x800 ∧ utf8 c = [c.toNat / 64 + 0xC0, c.toNat % 64 + 0x80]) ∨
    (0x800 ≤ c.toNat ∧ c.toNat < 0x10000 ∧
      utf8 c = [c.toNat / 4096 + 0xE0, c.toNat / 64 % 64 + 0x80, c.toNat % 64 + 0x80]) ∨
    (0x10000 ≤ c.toNat ∧
      utf8 c = [c.toNat / 262144 + 0xF0, c.toNat / 4096 % 64 + 0x80, c.toNat / 64 % 64 + 0x80,
        c.toNat % 64 + 0x80]) := by
  have below := toNat_range c
  have byte : ∀ n < 256, (UInt8.ofNat n).toNat = n := fun n h => by
    rw [UInt8.toNat_ofNat']; omega
  have bytes := String.utf8EncodeChar.eq_1 c
  rw [show c.val.toNat = c.toNat from rfl] at bytes
  rw [utf8, bytes]
  clear bytes
  rcases Nat.lt_or_ge 0x7F c.toNat with h₁ | h₁
  · rcases Nat.lt_or_ge 0x7FF c.toNat with h₂ | h₂
    · rcases Nat.lt_or_ge 0xFFFF c.toNat with h₃ | h₃
      · refine .inr (.inr (.inr ⟨h₃, ?_⟩))
        rw [if_neg (by omega), if_neg (by omega), if_neg (by omega)]
        simp only [List.map_cons, List.map_nil]
        rw [byte _ (by omega), byte _ (by omega), byte _ (by omega), byte _ (by omega),
          Nat.mod_eq_of_lt (by omega)]
      · refine .inr (.inr (.inl ⟨h₂, by omega, ?_⟩))
        rw [if_neg (by omega), if_neg (by omega), if_pos h₃]
        simp only [List.map_cons, List.map_nil]
        rw [byte _ (by omega), byte _ (by omega), byte _ (by omega), Nat.mod_eq_of_lt (by omega)]
    · refine .inr (.inl ⟨h₁, by omega, ?_⟩)
      rw [if_neg (by omega), if_pos h₂]
      simp only [List.map_cons, List.map_nil]
      rw [byte _ (by omega), byte _ (by omega), Nat.mod_eq_of_lt (by omega)]
  · refine .inl ⟨by omega, ?_⟩
    rw [if_pos h₁, List.map_singleton, byte _ (by omega)]

/-- **The first character of its own bytes is the character**, and it takes all of them. -/
theorem firstChar_utf8_append (c : Char) (rest : List Nat) :
    ∃ first more, utf8 c = first :: more ∧ firstChar first (more ++ rest) = (c, more.length) := by
  have below := toNat_range c
  have self : Char.ofNat c.toNat = c := Char.ofNat_toNat c
  rcases utf8_cases c with ⟨h, hb⟩ | ⟨h, h', hb⟩ | ⟨h, h', hb⟩ | ⟨h, hb⟩
  · refine ⟨_, _, hb, ?_⟩
    simp only [firstChar, h, if_true, self]
    rfl
  · refine ⟨_, _, hb, ?_⟩
    rw [firstChar.eq_def, if_neg (by omega), if_pos (by omega)]
    simp only [List.cons_append, isContinuation_low, if_true, Nat.add_sub_cancel,
      show c.toNat / 64 * 64 + c.toNat % 64 = c.toNat by omega, self]
    rfl
  · refine ⟨_, _, hb, ?_⟩
    have follows : followsFirst (c.toNat / 4096 + 0xE0) (c.toNat / 64 % 64 + 0x80) = true := by
      unfold followsFirst secondRange
      split_ifs <;> simp only [Bool.and_eq_true, decide_eq_true_eq] <;> omega
    rw [firstChar.eq_def, if_neg (by omega), if_neg (by omega), if_pos (by omega)]
    simp only [List.cons_append, follows, Bool.not_true, Bool.false_eq_true, if_false,
      isContinuation_low, if_true, Nat.add_sub_cancel,
      show c.toNat / 4096 * 4096 + c.toNat / 64 % 64 * 64 + c.toNat % 64 = c.toNat by omega, self]
    rfl
  · refine ⟨_, _, hb, ?_⟩
    have follows : followsFirst (c.toNat / 262144 + 0xF0) (c.toNat / 4096 % 64 + 0x80) = true := by
      unfold followsFirst secondRange
      split_ifs <;> simp only [Bool.and_eq_true, decide_eq_true_eq] <;> omega
    rw [firstChar.eq_def, if_neg (by omega), if_neg (by omega), if_neg (by omega), if_pos (by omega)]
    simp only [List.cons_append, follows, Bool.not_true, Bool.false_eq_true, if_false,
      isContinuation_low, if_true, Nat.add_sub_cancel,
      show c.toNat / 262144 * 262144 + c.toNat / 4096 % 64 * 4096 + c.toNat / 64 % 64 * 64 + c.toNat % 64
        = c.toNat by omega, self]
    rfl

/-- The bytes of a character before others are read as the character. -/
theorem decodeUtf8_utf8_append (c : Char) (rest : List Nat) :
    decodeUtf8 (utf8 c ++ rest) = c :: decodeUtf8 rest := by
  obtain ⟨first, more, hb, hc⟩ := firstChar_utf8_append c rest
  rw [hb, List.cons_append, decodeUtf8, hc]
  simp only [List.drop_left]

/-- **Characters are read back from their bytes.** -/
theorem decodeUtf8_utf8 (cs : List Char) : decodeUtf8 (cs.flatMap utf8) = cs := by
  induction cs with
  | nil => rw [List.flatMap_nil, decodeUtf8]
  | cons c cs ih => rw [List.flatMap_cons, decodeUtf8_utf8_append, ih]

/-- A byte is one. -/
theorem lt_of_mem_utf8 {c : Char} {b : Nat} (h : b ∈ utf8 c) : b < 256 := by
  obtain ⟨byte, -, rfl⟩ := List.mem_map.1 h
  exact byte.toNat_lt

/-! ## 2. Percent signs -/

/-- Hexadecimal digits, one for each value below sixteen, of either case. -/
structure HexDigits where
  digit : Nat → Char
  value : ∀ n < 16, hexValue? (digit n) = some n

/-- The digits in lower case. -/
def HexDigits.lower : HexDigits := ⟨hexDigit, by decide⟩

/-- The digits in upper case. -/
def HexDigits.upper : HexDigits := ⟨fun n => (hexDigit n).toUpper, by decide⟩

/-- Does the character need no percent sign? -/
def isUnreserved (c : Char) : Bool := c.isAlphanum || ['-', '.', '_', '~'].contains c

/-- Letters and decimal digits by their code points. -/
theorem isAlphanum_iff {c : Char} : c.isAlphanum = true ↔
    48 ≤ c.toNat ∧ c.toNat ≤ 57 ∨ 65 ≤ c.toNat ∧ c.toNat ≤ 90 ∨ 97 ≤ c.toNat ∧ c.toNat ≤ 122 := by
  show ((decide (c.val ≥ 65 ∧ c.val ≤ 90) || (decide (c.val ≥ 97) && decide (c.val ≤ 122))) ||
    (decide (c.val ≥ 48) && decide (c.val ≤ 57))) = true ↔ _
  simp only [Bool.or_eq_true, Bool.and_eq_true, decide_eq_true_iff]
  show ((65 ≤ c.toNat ∧ c.toNat ≤ 90) ∨ (97 ≤ c.toNat ∧ c.toNat ≤ 122)) ∨
    (48 ≤ c.toNat ∧ c.toNat ≤ 57) ↔ _
  omega

/-- Hexadecimal digits are unreserved. -/
theorem isUnreserved_of_hexValue? {c : Char} {n : Nat} (h : hexValue? c = some n) :
    isUnreserved c = true := by
  have alphanumeric : c.isAlphanum = true := by
    rw [isAlphanum_iff]
    unfold hexValue? at h
    split_ifs at h with digit lower upper
    · have range : 48 ≤ c.toNat ∧ c.toNat ≤ 57 := digit
      omega
    · have range : 97 ≤ c.toNat ∧ c.toNat ≤ 102 := lower
      omega
    · have range : 65 ≤ c.toNat ∧ c.toNat ≤ 70 := upper
      omega
  rw [isUnreserved, alphanumeric, Bool.true_or]

/-- Unreserved characters are of ASCII. -/
theorem lt_of_isUnreserved {c : Char} (h : isUnreserved c = true) : c.toNat < 0x80 := by
  rcases Bool.or_eq_true_iff.1 h with h | h
  · have range := isAlphanum_iff.1 h
    omega
  · have all : (['-', '.', '_', '~'].all fun d => decide (d.toNat < 0x80)) = true := by decide
    exact of_decide_eq_true (List.all_eq_true.1 all c (List.contains_iff_mem.1 h))

variable (hex : HexDigits)

/-- A byte after a percent sign. -/
def percent (b : Nat) : List Char := ['%', hex.digit (b / 16), hex.digit (b % 16)]

/-- A text with percent signs for all that needs them. -/
def percentEncode (cs : List Char) : List Char :=
  cs.flatMap fun c => if isUnreserved c then [c] else (utf8 c).flatMap (percent hex)

/-- **The text is read as these characters**, whatever bytes stand before it and whatever follows. -/
def Denotes (text cs : List Char) : Prop :=
  ∀ bytes rest, percentDecodeFrom bytes (text ++ rest) =
    percentDecodeFrom ((cs.flatMap utf8).reverse ++ bytes) rest

namespace Denotes

variable {text text' cs cs' : List Char}

theorem nil : Denotes [] [] := fun _ _ => rfl

theorem append (h : Denotes text cs) (h' : Denotes text' cs') : Denotes (text ++ text') (cs ++ cs') := by
  intro bytes rest
  rw [List.append_assoc, h, h', List.flatMap_append, List.reverse_append, List.append_assoc]

theorem flatMap {α : Type} {f g : α → List Char} (h : ∀ x, Denotes (f x) (g x)) (xs : List α) :
    Denotes (xs.flatMap f) (xs.flatMap g) := by
  induction xs with
  | nil => exact nil
  | cons x xs ih => exact (h x).append ih

/-- A character of ASCII other than the percent sign is itself. -/
theorem plain {c : Char} (below : c.toNat < 0x80) (other : c ≠ '%') : Denotes [c] [c] := by
  intro bytes rest
  have byte : utf8 c = [c.toNat] := by
    rcases utf8_cases c with ⟨-, hb⟩ | ⟨h, -⟩ | ⟨h, -⟩ | ⟨h, -⟩
    · exact hb
    all_goals omega
  rw [List.flatMap_singleton, byte, List.singleton_append, percentDecodeFrom, if_pos below]
  · rfl
  · rintro _ _ _ rfl
    exact absurd rfl other

/-- A byte after a percent sign is read as the byte. -/
theorem bytes_percent {b : Nat} (hb : b < 256) (bytes : List Nat) (rest : List Char) :
    percentDecodeFrom bytes (percent hex b ++ rest) = percentDecodeFrom (b :: bytes) rest := by
  have byte : hexByte? (hex.digit (b / 16)) (hex.digit (b % 16)) = some b := by
    rw [hexByte?, hex.value _ (by omega), hex.value _ (by omega)]
    exact congrArg some (by omega)
  show percentDecodeFrom bytes ('%' :: hex.digit (b / 16) :: hex.digit (b % 16) :: rest) = _
  rw [percentDecodeFrom, byte]

/-- A character whose bytes stand after percent signs is itself. -/
theorem escaped (c : Char) : Denotes ((utf8 c).flatMap (percent hex)) [c] := by
  have each : ∀ bs : List Nat, (∀ b ∈ bs, b < 256) → ∀ bytes rest,
      percentDecodeFrom bytes (bs.flatMap (percent hex) ++ rest) =
        percentDecodeFrom (bs.reverse ++ bytes) rest := by
    intro bs
    induction bs with
    | nil => intros; rfl
    | cons b bs ih =>
      intro small bytes rest
      rw [List.flatMap_cons, List.append_assoc, bytes_percent hex (small b List.mem_cons_self),
        ih fun b' hb' => small b' (List.mem_cons_of_mem _ hb'), List.reverse_cons, List.append_assoc]
      rfl
  intro bytes rest
  rw [each _ fun _ => lt_of_mem_utf8, List.flatMap_singleton]

theorem percentEncode (cs : List Char) : Denotes (percentEncode hex cs) cs := by
  have each : ∀ c, Denotes (if isUnreserved c then [c] else (utf8 c).flatMap (percent hex)) [c] := by
    intro c
    split
    · next h =>
      refine plain (lt_of_isUnreserved h) ?_
      rintro rfl
      cases h
    · exact escaped hex c
  have all := flatMap each cs
  rwa [List.flatMap_singleton'] at all

/-- **What is read of the whole text.** -/
theorem percentDecode (h : Denotes text cs) : percentDecode text = cs := by
  have decoded := h [] []
  rw [List.append_nil, List.append_nil, percentDecodeFrom, List.reverse_reverse, decodeUtf8_utf8] at decoded
  exact decoded

end Denotes

/-- The characters of an encoded text. -/
theorem mem_percentEncode {cs : List Char} {c : Char} (h : c ∈ percentEncode hex cs) :
    isUnreserved c = true ∨ c = '%' := by
  obtain ⟨d, -, hc⟩ := List.mem_flatMap.1 h
  split at hc
  · next hd =>
    rw [List.mem_singleton.1 hc]
    exact .inl hd
  · obtain ⟨b, hb, hc⟩ := List.mem_flatMap.1 hc
    have byte := lt_of_mem_utf8 hb
    simp only [percent, List.mem_cons, List.not_mem_nil, or_false] at hc
    rcases hc with rfl | rfl | rfl
    · exact .inr rfl
    · exact .inl (isUnreserved_of_hexValue? (hex.value _ (by omega)))
    · exact .inl (isUnreserved_of_hexValue? (hex.value _ (by omega)))

end Text

namespace Reference

open Text (Denotes HexDigits percentEncode isUnreserved)

/-! ## 3. Locations -/

section References

variable (hex : HexDigits)

/-- The fragment of the reference to a path. -/
def referenceFragment (path : Path) : List Char :=
  path.flatMap fun name => '/' :: percentEncode hex (escape name.toList)

/-- **The reference to a path**: the pointer, its segments percent encoded, after a number sign. -/
def referenceTo (path : Path) : String := String.ofList ('#' :: referenceFragment hex path)

/-- **Percent signs decoded, the fragment is the pointer.** -/
theorem percentDecode_referenceFragment (path : Path) :
    Text.percentDecode (referenceFragment hex path) = pointer path :=
  Denotes.percentDecode <|
    .flatMap (fun _ => .append (.plain (by decide) (by decide)) (.percentEncode hex _)) path

/-- The characters of a fragment. -/
theorem mem_referenceFragment {path : Path} {c : Char} (h : c ∈ referenceFragment hex path) :
    isUnreserved c = true ∨ c = '%' ∨ c = '/' := by
  obtain ⟨name, -, hc⟩ := List.mem_flatMap.1 h
  rcases List.mem_cons.1 hc with rfl | hc
  · exact .inr (.inr rfl)
  · rcases Text.mem_percentEncode hex hc with unreserved | rfl
    · exact .inl unreserved
    · exact .inr (.inl rfl)

/-- The signs that parts of a location end with are not in a fragment, and neither is what does not count. -/
theorem not_mem_referenceFragment {path : Path} {c : Char} (reserved : isUnreserved c = false)
    (h : c ≠ '%') (h' : c ≠ '/') : c ∉ referenceFragment hex path := by
  intro hc
  rcases mem_referenceFragment hex hc with unreserved | rfl | rfl
  · rw [reserved] at unreserved
    cases unreserved
  · exact h rfl
  · exact h' rfl

/-- **All of the reference counts.** -/
theorem counted_reference (path : Path) :
    counted ('#' :: referenceFragment hex path) = '#' :: referenceFragment hex path := by
  rw [counted, List.dropWhile_cons_of_neg (by decide), List.filter_eq_self]
  intro c hc
  have other : ∀ d, isUnreserved d = false → d ≠ '%' → d ≠ '/' → d ≠ '#' → c ≠ d := by
    rintro d reserved h h' h'' rfl
    rcases List.mem_cons.1 hc with rfl | hc
    · exact h'' rfl
    · exact not_mem_referenceFragment hex reserved h h' hc
  simp only [Bool.and_eq_true, bne_iff_ne]
  exact ⟨⟨other '\t' (by decide) (by decide) (by decide) (by decide),
    other '\n' (by decide) (by decide) (by decide) (by decide)⟩,
    other '\r' (by decide) (by decide) (by decide) (by decide)⟩

/-- **The reference is a location with nothing but a fragment.** -/
theorem ofText_reference (path : Path) :
    Location.ofText (referenceTo hex path) = .ok ⟨[], [], [], [], referenceFragment hex path⟩ := by
  have no_colon : ('#' :: referenceFragment hex path).contains ':' = false := by
    rw [List.contains_eq_mem, decide_eq_false_iff_not, List.mem_cons, not_or]
    exact ⟨by decide, not_mem_referenceFragment hex (by decide) (by decide) (by decide)⟩
  have no_scheme : takeScheme ('#' :: referenceFragment hex path) =
      ([], '#' :: referenceFragment hex path) := by
    rw [takeScheme, cutAt?, no_colon]
    rfl
  have fragment : cutAt? '#' ('#' :: referenceFragment hex path) = some ([], referenceFragment hex path) := by
    rw [cutAt?, if_pos List.elem_cons_self]
    rfl
  have no_host : takeHost ('#' :: referenceFragment hex path) = ([], '#' :: referenceFragment hex path) := rfl
  have host : isHost [] = true := by decide
  rw [Location.ofText, referenceTo, String.toList_ofList, counted_reference, no_scheme]
  simp only [no_host, host, fragment, Bool.not_true, Bool.false_eq_true, if_false, Option.getD_some]
  rfl

/-- **Every node of a document is reached by the reference to its path**, whatever follows pointers and
whatever stands in the names: slashes and tildes, percent signs, number signs, blanks, characters beyond ASCII
or nothing at all.  The reference to the document itself is the number sign alone. -/
theorem resolve_referenceTo (follower : Follower) {root x : Json} {path : Path}
    (leads : root.Leads path x) :
    resolve follower (.str (referenceTo hex path)) root = .ok (.node x) := by
  rw [resolve, ofText_reference]
  show (if (referenceFragment hex path).isEmpty = true then .ok (.node root)
    else .ok ((follower.follow (Text.percentDecode (referenceFragment hex path)) root).getD
      (.node .null))) = Except.ok (.node x)
  cases path with
  | nil =>
    cases leads
    rfl
  | cons name rest =>
    rw [percentDecode_referenceFragment, follower.follow_pointer leads]
    rfl

/-- Names with all the signs that mean something in a reference, an empty one, one that is the sign for the
place behind the last item, and an index of two digits. -/
theorem resolve_referenceTo_signs :
    let node : Json := .obj none [("é 😀", .str "here")]
    let root : Json := .obj none [("a/b~1%25", .null), ("", .obj none [("a/b~1%25", .arr none
      (List.replicate 10 .null ++ [.obj none [("#?:;", .obj none [("-", node)])]]))])]
    let path : Path := ["", "a/b~1%25", "10", "#?:;", "-"]
    referenceTo .upper path = "#//a~1b~01%2525/10/%23%3F%3A%3B/-" ∧
      referenceTo .upper (path ++ ["é 😀"]) = referenceTo .upper path ++ "/%C3%A9%20%F0%9F%98%80" ∧
      resolve .standard (.str (referenceTo .upper path)) root = .ok (.node node) ∧
      resolve .standard (.str (referenceTo .lower (path ++ ["é 😀"]))) root = .ok (.node (.str "here")) := by
  intro node root path
  have leads : ∀ rest x, node.Leads rest x → root.Leads (path ++ rest) x := fun rest x inside =>
    .member rfl (.member rfl (.item (i := 10) rfl (.member rfl (.member rfl inside))))
  exact ⟨by decide +kernel, by decide +kernel, resolve_referenceTo .upper .standard (leads [] _ (.here _)),
    resolve_referenceTo .lower .standard (leads _ _ (.member rfl (.here _)))⟩

end References

end Reference

end Conform
