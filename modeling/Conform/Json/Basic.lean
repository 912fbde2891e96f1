/-
# JSON values

Values, schemas and option tables are all JSON.  Members of an object keep their order, and a name
occurs at most once in every object the library builds or reads.

A container also carries a *tag*.  `stamp` gives every container of a document a tag of its own;
containers that the library builds have none.  Tags tell occurrences apart, nothing else: two equal
schemas at two places are two occurrences, one schema used twice is one.  Only the merging of
composition lists looks at them.

The size of a value bounds every recursion over values.  An empty object is larger than a null,
so that whatever is read out of an object is smaller than the object.
-/
import Conform.Number.Basic

namespace Conform

/-- The mark of one occurrence of a container in a document, or none. -/
abbrev Tag := Option Nat

/-- A JSON value. -/
inductive Json where
  | null
  | bool (b : Bool)
  | num (n : Number)
  | str (s : String)
  | arr (tag : Tag) (items : List Json)
  | obj (tag : Tag) (fields : List (String × Json))

/-- The members of an object, in order. -/
abbrev Fields := List (String × Json)

instance : Inhabited Json := ⟨.null⟩

/-! ## 1. Members -/

namespace Fields

/-- The member with a name. -/
def get? (fields : Fields) (name : String) : Option Json := List.lookup name fields

/-- Is there a member with this name? -/
def has (fields : Fields) (name : String) : Bool := (get? fields name).isSome

/-- The names, in order. -/
def names (fields : Fields) : List String := fields.map (·.1)

/-- Set a member: in place when the name is there, at the end when it is new. -/
def put : Fields → String → Json → Fields
  | [], name, x => [(name, x)]
  | (k, v) :: rest, name, x => if k = name then (k, x) :: rest else (k, v) :: put rest name x

/-- All members but the one with this name. -/
def erase (fields : Fields) (name : String) : Fields := fields.filter fun field => field.1 != name

/-- All members but those with one of these names (`omit`). -/
def without (fields : Fields) (names : List String) : Fields :=
  fields.filter fun field => !names.contains field.1

/-- The members of `a`, overridden and continued by those of `b`. -/
def union (a b : Fields) : Fields := b.foldl (fun acc field => put acc field.1 field.2) a

/-- No name occurs twice. -/
def Distinct (fields : Fields) : Prop := (names fields).Nodup

end Fields

namespace Json

/-! ## 2. Kinds -/

/-- Is the value an object? (`is_object`) -/
def isObject : Json → Bool
  | .obj _ _ => true
  | _ => false

/-- Is the value a number?  A boolean is none (`is_number`). -/
def isNumber : Json → Bool
  | .num _ => true
  | _ => false

/-- Is the value a whole number, however it is written? (`is_integer`) -/
def isInteger : Json → Bool
  | .num n => n.isIntegral
  | _ => false

/-- A string as JSON. -/
def ofChar (c : Char) : Json := .str (String.singleton c)

/-- The value as a quantity to compare with: a number, or a boolean counted as one or zero. -/
def quantity? : Json → Option Number
  | .num n => some n
  | .bool b => some (.int (if b then 1 else 0))
  | _ => none

/-- Does the value count as a yes where a yes or no is expected?  Null, false, zero and whatever
is empty do not. -/
def truthy : Json → Bool
  | .null => false
  | .bool b => b
  | .num n => !n.isZero
  | .str s => !s.isEmpty
  | .arr _ items => !items.isEmpty
  | .obj _ fields => !fields.isEmpty

/-- What a value yields when it is walked through: the items of an array, the characters of a
string, the names of an object.  Other values cannot be walked through. -/
def entries? : Json → Option (List Json)
  | .arr _ items => some items
  | .str s => some (s.toList.map ofChar)
  | .obj _ fields => some (fields.map fun field => .str field.1)
  | _ => none

/-- How many entries a value has, where it has any at all. -/
def length? : Json → Option Nat
  | .arr _ items => some items.length
  | .str s => some s.length
  | .obj _ fields => some fields.length
  | _ => none

/-! ## 3. Size -/

mutual

/-- The size of a value. -/
def size : Json → Nat
  | .arr _ items => 1 + sizeItems items
  | .obj _ fields => 2 + sizeFields fields
  | _ => 1

/-- The size of the items of an array. -/
def sizeItems : List Json → Nat
  | [] => 0
  | x :: rest => size x + sizeItems rest

/-- The size of the members of an object. -/
def sizeFields : List (String × Json) → Nat
  | [] => 0
  | (_, x) :: rest => 1 + size x + sizeFields rest

end

theorem size_pos (x : Json) : 0 < x.size := by
  cases x <;> simp only [size] <;> omega

theorem size_le_sizeItems {x : Json} {items : List Json} (h : x ∈ items) :
    x.size ≤ sizeItems items := by
  induction items with
  | nil => cases h
  | cons y rest ih =>
    simp only [sizeItems]
    cases h with
    | head => omega
    | tail _ h => have := ih h; omega

theorem size_lt_sizeFields {k : String} {x : Json} {fields : Fields} (h : (k, x) ∈ fields) :
    x.size < sizeFields fields := by
  induction fields with
  | nil => cases h
  | cons f rest ih =>
    obtain ⟨k', y⟩ := f
    simp only [sizeFields]
    cases h with
    | head => omega
    | tail _ h => have := ih h; omega

theorem mem_of_get? {fields : Fields} {name : String} {x : Json}
    (h : Fields.get? fields name = some x) : (name, x) ∈ fields := by
  induction fields with
  | nil => simp [Fields.get?] at h
  | cons f rest ih =>
    obtain ⟨k, y⟩ := f
    simp only [Fields.get?, List.lookup_cons] at h ih
    by_cases hk : name == k
    · simp only [hk] at h
      have := eq_of_beq hk
      simp_all
    · simp only [hk] at h
      exact List.mem_cons_of_mem _ (ih h)

theorem size_lt_sizeFields_of_get? {fields : Fields} {name : String} {x : Json}
    (h : Fields.get? fields name = some x) : x.size < sizeFields fields :=
  size_lt_sizeFields (mem_of_get? h)

theorem size_lt_of_get? {fields : Fields} {name : String} {x : Json} (tag : Tag)
    (h : Fields.get? fields name = some x) : x.size < (Json.obj tag fields).size := by
  have := size_lt_sizeFields (mem_of_get? h)
  simp only [size]
  omega

theorem size_lt_of_mem_items {items : List Json} {x : Json} (tag : Tag) (h : x ∈ items) :
    x.size < (Json.arr tag items).size := by
  have := size_le_sizeItems h
  simp only [size]
  omega

theorem size_lt_of_mem_fields {fields : Fields} {k : String} {x : Json} (tag : Tag)
    (h : (k, x) ∈ fields) : x.size < (Json.obj tag fields).size := by
  have := size_lt_sizeFields h
  simp only [size]
  omega

/-- Every entry of a value is no larger than the value. -/
theorem size_le_of_mem_entries {x y : Json} {entries : List Json} (hx : x.entries? = some entries)
    (hy : y ∈ entries) : y.size ≤ x.size := by
  cases x with
  | arr tag items =>
    simp only [entries?, Option.some.injEq] at hx
    subst hx
    exact Nat.le_of_lt (size_lt_of_mem_items tag hy)
  | str s =>
    simp only [entries?, Option.some.injEq] at hx
    subst hx
    obtain ⟨c, _, rfl⟩ := List.mem_map.1 hy
    simp [ofChar, size]
  | obj tag fields =>
    simp only [entries?, Option.some.injEq] at hx
    subst hx
    obtain ⟨f, _, rfl⟩ := List.mem_map.1 hy
    simp only [size]
    omega
  | _ => simp [entries?] at hx

theorem sizeFields_filter_le (p : String × Json → Bool) (fields : Fields) :
    sizeFields (fields.filter p) ≤ sizeFields fields := by
  induction fields with
  | nil => simp
  | cons f rest ih =>
    obtain ⟨k, y⟩ := f
    by_cases h : p (k, y)
    · simp only [List.filter_cons, h, if_true, sizeFields]
      omega
    · simp only [List.filter_cons, h, sizeFields]
      simp only [Bool.false_eq_true, if_false]
      omega

theorem sizeFields_put_le {fields : Fields} {k : String} {old x : Json}
    (h : Fields.get? fields k = some old) (hx : x.size ≤ old.size) :
    sizeFields (Fields.put fields k x) ≤ sizeFields fields := by
  induction fields with
  | nil => simp [Fields.get?] at h
  | cons f rest ih =>
    obtain ⟨k', y⟩ := f
    simp only [Fields.get?, List.lookup_cons] at h ih
    by_cases hk : k' = k
    · subst hk
      simp only [beq_self_eq_true, Option.some.injEq] at h
      simp only [Fields.put, if_true, sizeFields, h]
      omega
    · have hk' : (k == k') = false := by simpa using fun e => hk e.symm
      simp only [hk'] at h
      simp only [Fields.put, if_neg hk, sizeFields]
      have := ih h
      omega

theorem get?_filter {p : String × Json → Bool} {fields : Fields} {k : String}
    (hp : ∀ x, p (k, x) = true) : Fields.get? (fields.filter p) k = Fields.get? fields k := by
  induction fields with
  | nil => rfl
  | cons f rest ih =>
    obtain ⟨k', y⟩ := f
    simp only [Fields.get?] at ih ⊢
    by_cases hk : k = k'
    · subst hk
      simp [hp y]
    · have hk' : (k == k') = false := by simpa using hk
      by_cases h : p (k', y)
      · simp [h, List.lookup_cons, hk', ih]
      · simp [h, List.lookup_cons, hk', ih]

/-! ## 4. Tags -/

mutual

/-- Number the containers of a value in order, starting at `next`; the first unused number comes
with the result. -/
def stampFrom (next : Nat) : Json → Json × Nat
  | .arr _ items =>
    let (items, next') := stampItems (next + 1) items
    (.arr (some next) items, next')
  | .obj _ fields =>
    let (fields, next') := stampFields (next + 1) fields
    (.obj (some next) fields, next')
  | x => (x, next)

def stampItems (next : Nat) : List Json → List Json × Nat
  | [] => ([], next)
  | x :: rest =>
    let (x, next) := stampFrom next x
    let (rest, next) := stampItems next rest
    (x :: rest, next)

def stampFields (next : Nat) : List (String × Json) → List (String × Json) × Nat
  | [] => ([], next)
  | (k, x) :: rest =>
    let (x, next) := stampFrom next x
    let (rest, next) := stampFields next rest
    ((k, x) :: rest, next)

end

/-- A value in which every container has a tag of its own. -/
def stamp (x : Json) : Json := (stampFrom 0 x).1

/-- Are the two one occurrence?  There is one null and one of each boolean, one occurrence of each
small number and of each text of at most one simple character; containers are told apart by
their tags. -/
def sameOccurrence : Json → Json → Bool
  | .null, .null => true
  | .bool a, .bool b => a == b
  | .num (.int a), .num (.int b) => a == b && decide (-5 ≤ a) && decide (a ≤ 256)
  | .str a, .str b => a == b && decide (a.length ≤ 1) && a.toList.all (fun c => c.toNat < 256)
  | .arr (some i) _, .arr (some j) _ => i == j
  | .obj (some i) _, .obj (some j) _ => i == j
  | _, _ => false

end Json

end Conform
