/-
# Issues

An issue is a reason why a value does not satisfy a schema, and the path of the place where it
does not.  Every reason has one wording, `Reason.message`.

Before issues are reported, `distinct` drops repeated messages, and `withoutGeneric` drops the
messages that say little as soon as a message says more.
-/
import Conform.Json.Display
import Conform.Json.Path
import Conform.Schema.Kind

namespace Conform

/-! ## 1. Reasons -/

/-- Why a value does not satisfy a schema. -/
inductive Reason where
  /-- The schema allows nothing. -/
  | forbidden
  /-- Not the constant of the schema. -/
  | notConstant (expected : Json)
  /-- None of the enumerated values. -/
  | notEnumerated (options : List Json)
  /-- Satisfies none of several schemas. -/
  | noneOfAny
  /-- Satisfies not exactly one of several schemas. -/
  | notExactlyOne
  /-- Satisfies a schema that it must not. -/
  | excluded
  /-- Of another kind. -/
  | wrongKind (expected : Kind)
  /-- Of none of several types. -/
  | wrongTypes (names : List String)
  /-- The schema asks for a type that there is not. -/
  | unknownType (name : String)
  /-- No type satisfies both of two schemas. -/
  | noCommonType
  | tooShort (limit : Json)
  | tooLong (limit : Json)
  | patternMismatch (pattern : Json)
  | formatMismatch (label : String)
  | below (limit : Json)
  | above (limit : Json)
  | notAbove (limit : Json)
  | notBelow (limit : Json)
  | notMultiple (divisor : Json)
  | tooFewItems (limit : Json)
  | tooManyItems (limit : Json)
  | repeatedItems
  | containsNone
  | containsTooFew (limit : Json)
  | containsTooMany (limit : Json)
  | additionalItem
  | tooFewMembers (limit : Json)
  | tooManyMembers (limit : Json)
  /-- A required property is not there. -/
  | missing (name : String)
  | additionalMember (name : String)
  /-- A reference leads nowhere. -/
  | deadReference (ref : Json)
  /-- The schema leads back to itself without end. -/
  | tooDeep
  /-- A reason given by its wording. -/
  | text (message : String)

namespace Reason

/-- The wording of a reason. -/
def message : Reason → String
  | .forbidden => "Value is not allowed"
  | .notConstant expected => "Value must be " ++ expected.inMessage
  | .notEnumerated options =>
    "Value must be one of: " ++ String.intercalate ", " (options.map Json.inMessage)
  | .noneOfAny => "Value must match at least one schema in anyOf"
  | .notExactlyOne => "Value must match exactly one schema in oneOf"
  | .excluded => "Value must not match schema"
  | .wrongKind expected => "Value must be " ++ expected.phrase
  | .wrongTypes names => "Value must be one of type: " ++ String.intercalate ", " names
  | .unknownType name => "Unsupported type: " ++ name
  | .noCommonType => "No valid type satisfies both schemas"
  | .tooShort limit => "String length must be >= " ++ limit.plain
  | .tooLong limit => "String length must be <= " ++ limit.plain
  | .patternMismatch pattern => "String must match pattern: " ++ pattern.plain
  | .formatMismatch label => "Invalid " ++ label ++ " format"
  | .below limit => "Value must be >= " ++ limit.inMessage
  | .above limit => "Value must be <= " ++ limit.inMessage
  | .notAbove limit => "Value must be > " ++ limit.inMessage
  | .notBelow limit => "Value must be < " ++ limit.inMessage
  | .notMultiple divisor => "Value must be multiple of " ++ divisor.inMessage
  | .tooFewItems limit => "Array length must be >= " ++ limit.plain
  | .tooManyItems limit => "Array length must be <= " ++ limit.plain
  | .repeatedItems => "Array items must be unique"
  | .containsNone => "Array must contain at least one matching item"
  | .containsTooFew limit => "Array must contain at least " ++ limit.plain ++ " matching items"
  | .containsTooMany limit => "Array must contain at most " ++ limit.plain ++ " matching items"
  | .additionalItem => "Additional items not allowed"
  | .tooFewMembers limit => "Object must have >= " ++ limit.plain ++ " properties"
  | .tooManyMembers limit => "Object must have <= " ++ limit.plain ++ " properties"
  | .missing name => "Missing required property: " ++ name
  | .additionalMember name => "Additional property not allowed: " ++ name
  | .deadReference ref => "Unable to resolve reference: " ++ ref.plain
  | .tooDeep => "Maximum schema depth exceeded"
  | .text message => message

end Reason

/-! ## 2. Issues -/

/-- A reason and the place where it holds. -/
structure Issue where
  reason : Reason
  path : Path

namespace Issue

/-- The wording of an issue. -/
def message (issue : Issue) : String := issue.reason.message

/-- The issues whose message is not among those seen, the first of each. -/
def distinctFrom (seen : List String) : List Issue → List Issue
  | [] => []
  | issue :: rest =>
    if seen.contains issue.message then distinctFrom seen rest
    else issue :: distinctFrom (issue.message :: seen) rest

/-- The first issue with each message, in order (`dedupe_errors`). -/
def distinct (issues : List Issue) : List Issue := distinctFrom [] issues

/-- How the message of a missing property begins. -/
def missingStart : List Char := "Missing required property".toList

/-- **Does the issue say little?**  That not exactly one of several schemas is satisfied is no
news beside a better reason, nor is a property missing at the top. -/
def isGeneric (issue : Issue) : Bool :=
  issue.message == Reason.notExactlyOne.message
    || (missingStart.isPrefixOf issue.message.toList && decide (issue.path.length ≤ 1))

/-- Does the issue say more than a generic one?  A deeper issue does, unless it comes from
choosing among schemas (`_is_disposable`). -/
def isSpecific (issue : Issue) : Bool :=
  !issue.isGeneric || (decide (1 < issue.path.length) && !issue.path.contains "oneOf")

/-- The issues without the generic ones, if that leaves something that says more
(`filter_disposable_errors`). -/
def withoutGeneric (issues : List Issue) : List Issue :=
  if !issues.any isGeneric then issues
  else if !issues.any isSpecific then issues
  else
    let kept := issues.filter fun issue => !issue.isGeneric
    if kept.isEmpty then issues else kept

/-- The issues as they are reported. -/
def reported (issues : List Issue) : List Issue := withoutGeneric (distinct issues)

end Issue

end Conform
