/-
# Keywords and types of a schema

Which keywords say something about which kind of value, which types a schema declares, and what a
schema without a type is about.
-/
import Conform.Schema.Kind

namespace Conform.Schema

/-! ## 1. Keywords -/

/-- The keywords that are about any value. -/
def baseKeywords : List String :=
  ["type", "title", "description", "default", "examples", "deprecated",
    "readOnly", "writeOnly", "$id", "$schema", "$ref", "$defs", "definitions",
    "enum", "const", "allOf", "anyOf", "oneOf", "not", "if", "then", "else"]

/-- The keywords about strings. -/
def stringKeywords : List String :=
  ["maxLength", "minLength", "pattern", "format", "contentMediaType", "contentEncoding"]

/-- The keywords about numbers. -/
def numberKeywords : List String :=
  ["multipleOf", "maximum", "exclusiveMaximum", "minimum", "exclusiveMinimum"]

/-- The keywords about arrays. -/
def arrayKeywords : List String :=
  ["items", "prefixItems", "additionalItems", "maxItems", "minItems",
    "uniqueItems", "contains", "maxContains", "minContains"]

/-- The keywords about objects. -/
def objectKeywords : List String :=
  ["maxProperties", "minProperties", "required", "properties", "patternProperties",
    "additionalProperties", "dependencies", "dependentRequired", "dependentSchemas",
    "propertyNames"]

/-- The keywords about values of one kind. -/
def keywordsOf : Kind → List String
  | .null => []
  | .boolean => []
  | .string => stringKeywords
  | .number => numberKeywords
  | .integer => numberKeywords
  | .array => arrayKeywords
  | .object => objectKeywords

/-- The keywords that compose a schema of others. -/
def compositeKeywords : List String := ["if", "then", "else", "not", "allOf", "anyOf", "oneOf"]

/-! ## 2. Types -/

/-- The types that a schema declares: a list of them, one, or none (`schema_types`). -/
def declaredTypes : Json → List Json
  | .obj _ fields =>
    match Fields.get? fields "type" with
    | none => []
    | some (.arr _ types) => types
    | some type => [type]
  | _ => []

/-- Does the schema leave room for null?  It does if it declares no types, or null among them
(`allows_null`). -/
def allowsNull (schema : Json) : Bool :=
  let types := declaredTypes schema
  types.isEmpty || Json.listsName types "null"

/-- Does a value count as missing?  A null does where the schema has no room for it
(`is_absent`). -/
def isAbsent (value : Option Json) (schema : Json) : Bool :=
  match value with
  | none => true
  | some .null => !allowsNull schema
  | some _ => false

/-- What a schema without a type is about: the kind of the value, if one of the keywords is about
it; for a missing value, an object or an array if members or items are described
(`infer_type`). -/
def inferKind (fields : Fields) (value : Option Json) : Option Kind :=
  match value with
  | none =>
    if Fields.has fields "properties" then some .object
    else if Fields.has fields "items" || Fields.has fields "prefixItems" then some .array
    else none
  | some x =>
    let kind := Kind.ofValue x
    if (keywordsOf kind).any (Fields.has fields) then some kind else none

/-- The keywords about values of a declared type. -/
def keywordsOfType : Json → List String
  | .str s => ((Kind.ofName? s).map keywordsOf).getD []
  | _ => []

/-- A schema reduced to one type: the keywords about any value and about that type remain
(`filter_props`). -/
def restrict (fields : Fields) (type : Json) : Fields :=
  let allowed := baseKeywords ++ keywordsOfType type
  Fields.put (fields.filter fun field => allowed.contains field.1) "type" type

theorem sizeFields_restrict_le {fields : Fields} {type old : Json}
    (h : Fields.get? fields "type" = some old) (ht : type.size ≤ old.size) :
    Json.sizeFields (restrict fields type) ≤ Json.sizeFields fields := by
  unfold restrict
  refine Nat.le_trans (Json.sizeFields_put_le ?_ ht) (Json.sizeFields_filter_le _ fields)
  rw [Json.get?_filter, h]
  intro x
  simp [baseKeywords]

theorem type_of_declaredTypes {tag : Tag} {fields : Fields} {a : Json} {rest : List Json}
    (h : declaredTypes (.obj tag fields) = a :: rest) :
    ∃ old, Fields.get? fields "type" = some old := by
  cases hf : Fields.get? fields "type" with
  | none => simp [declaredTypes, hf] at h
  | some old => exact ⟨old, rfl⟩

end Conform.Schema
