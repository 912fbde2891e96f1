/-
# Reading members

How a member is read out of a value is up to the caller.  The direct way takes a member of an object by its
name or an item of an array by its index.  The dotted way also takes a name with points for a way through
several containers, and finds null where the way ends early.

Whatever is read out of an object is smaller than the object.  This is asked of every way of reading, since
a walk into what was read would not end without it.
-/
import Conform.Fault
import Conform.Unicode.Digit
import Conform.Unicode.Ranges

namespace Conform

/-- A way of reading members: what a key leads to within a container, if anything.  How they are read is
up to the caller, as long as what is read out of an object is smaller than the object and a read fails with
ordinary faults only. -/
structure Accessor where
  read : (container key : Json) → Except Fault (Option Json)
  smaller : ∀ {tag : Tag} {fields : Fields} {key x : Json},
    read (.obj tag fields) key = .ok (some x) → x.size < (Json.obj tag fields).size
  ordinary : ∀ {container key : Json} {fault : Fault},
    read container key = .error fault → fault.Ordinary

namespace Accessor

/-! ## 1. Reading -/

/-- The index that a key denotes; a boolean counts as one or zero. -/
def index? : Json → Option Int
  | .num (.int n) => some n
  | .bool b => some (if b then 1 else 0)
  | _ => none

/-- Is the value a container, and so no key? -/
def isContainer : Json → Bool
  | .arr _ _ => true
  | .obj _ _ => true
  | _ => false

/-- The member or item that a key denotes (`default_get_value`). -/
def readDirect (container key : Json) : Except Fault (Option Json) :=
  match container, key with
  | .obj _ fields, .str name => .ok (Fields.get? fields name)
  | .obj _ _, key => if isContainer key then .error .unusableName else .ok none
  | .arr _ items, key =>
    match index? key with
    | some (.ofNat n) => .ok items[n]?
    | _ => .ok none
  | _, _ => .ok none

/-- The number that decimal digits stand for. -/
def position? (part : List Char) : Option Nat :=
  if part.isEmpty then none
  else part.foldl
    (fun acc c => acc.bind fun n => (Unicode.digitValue? c.toNat).map fun d => 10 * n + d)
    (some 0)

/-- What the parts of a dotted name lead to, or null. -/
def follow : Json → List (List Char) → Json
  | x, [] => x
  | .obj _ fields, part :: rest =>
    match Fields.get? fields (String.ofList part) with
    | some x => follow x rest
    | none => .null
  | .arr _ items, part :: rest =>
    match (position? part).bind fun i => items[i]? with
    | some x => follow x rest
    | none => .null
  | _, _ :: _ => .null

/-- What a name leads to: the member of that name, or else what its parts between points do. -/
def readDotted (container key : Json) : Except Fault (Option Json) := do
  let walked := follow container (Unicode.splitAt '.' key.plain.toList)
  match container with
  | .obj _ _ =>
    match ← readDirect container key with
    | some x => .ok (some x)
    | none => .ok (some walked)
  | _ => .ok (some walked)

/-! ## 2. What is read is smaller -/

theorem follow_size_le (x : Json) (parts : List (List Char)) : (follow x parts).size ≤ x.size := by
  induction parts generalizing x with
  | nil => cases x <;> simp [follow]
  | cons part rest ih =>
    have hnull : ∀ y : Json, Json.null.size ≤ y.size := fun y => by
      have := Json.size_pos y
      simp only [Json.size]
      omega
    cases x with
    | obj tag fields =>
      simp only [follow]
      split
      · next y hy =>
        exact Nat.le_trans (ih y) (Nat.le_of_lt (Json.size_lt_of_get? tag hy))
      · exact hnull _
    | arr tag items =>
      simp only [follow]
      split
      · next y hy =>
        obtain ⟨i, _, hi⟩ := Option.bind_eq_some_iff.1 hy
        exact Nat.le_trans (ih y)
          (Nat.le_of_lt (Json.size_lt_of_mem_items tag (List.mem_of_getElem? hi)))
      · exact hnull _
    | _ => simp only [follow]; exact hnull _

theorem splitAt_ne_nil (sep : Char) (cs : List Char) : Unicode.splitAt sep cs ≠ [] := by
  simp [Unicode.splitAt]

theorem follow_obj_size_lt (tag : Tag) (fields : Fields) {parts : List (List Char)}
    (h : parts ≠ []) : (follow (.obj tag fields) parts).size < (Json.obj tag fields).size := by
  cases parts with
  | nil => exact absurd rfl h
  | cons part rest =>
    simp only [follow]
    split
    · next y hy =>
      exact Nat.lt_of_le_of_lt (follow_size_le y rest) (Json.size_lt_of_get? tag hy)
    · simp only [Json.size]
      omega

theorem readDirect_obj {tag : Tag} {fields : Fields} {key x : Json}
    (h : readDirect (.obj tag fields) key = .ok (some x)) :
    x.size < (Json.obj tag fields).size := by
  cases key with
  | str name =>
    simp only [readDirect, Except.ok.injEq] at h
    exact Json.size_lt_of_get? tag h
  | _ => simp [readDirect, isContainer] at h

theorem readDotted_obj {tag : Tag} {fields : Fields} {key x : Json}
    (h : readDotted (.obj tag fields) key = .ok (some x)) :
    x.size < (Json.obj tag fields).size := by
  simp only [readDotted] at h
  cases hd : readDirect (.obj tag fields) key with
  | error fault => simp [hd, bind, Except.bind] at h
  | ok found =>
    cases found with
    | some y =>
      simp only [hd, bind, Except.bind, Except.ok.injEq, Option.some.injEq] at h
      exact h ▸ readDirect_obj hd
    | none =>
      simp only [hd, bind, Except.bind, Except.ok.injEq, Option.some.injEq] at h
      exact h ▸ follow_obj_size_lt tag fields (splitAt_ne_nil _ _)

/-! ## 3. Reading fails with ordinary faults -/

theorem ordinary_of_readDirect {container key : Json} {fault : Fault}
    (h : readDirect container key = .error fault) : fault.Ordinary := by
  unfold readDirect at h
  split at h
  · cases h
  · split at h
    · cases h
      trivial
    · cases h
  · split at h <;> cases h
  · cases h

theorem ordinary_of_readDotted {container key : Json} {fault : Fault}
    (h : readDotted container key = .error fault) : fault.Ordinary := by
  unfold readDotted at h
  dsimp only at h
  split at h
  · next tag fields =>
    cases hd : readDirect (.obj tag fields) key with
    | error raised =>
      simp only [hd, bind, Except.bind, Except.error.injEq] at h
      exact h ▸ ordinary_of_readDirect hd
    | ok found => cases found <;> simp [hd, bind, Except.bind] at h
  · cases h

/-! ## 4. Ways of reading -/

/-- A member by its name, an item by its index. -/
def direct : Accessor := ⟨readDirect, readDirect_obj, ordinary_of_readDirect⟩

/-- A name with points as a way through several containers. -/
def dotted : Accessor := ⟨readDotted, readDotted_obj, ordinary_of_readDotted⟩

/-- Something that cannot read at all. -/
def broken : Accessor where
  read _ _ := .error .notCallable
  smaller h := nomatch h
  ordinary h := by
    cases h
    trivial

@[simp] theorem direct_read (container key : Json) :
    direct.read container key = readDirect container key := rfl

/-- **Whatever is read out of an object is smaller than the object.** -/
theorem size_lt_of_read {accessor : Accessor} {tag : Tag} {fields : Fields} {key x : Json}
    (h : accessor.read (.obj tag fields) key = .ok (some x)) :
    x.size < (Json.obj tag fields).size :=
  accessor.smaller h

end Accessor

end Conform
