import BrowserAct.Json.Numeric
import BrowserAct.Json.Reader
import BrowserAct.Pattern.Reader
import BrowserAct.Text.Base64

/-!
# The keywords of a schema

A schema is an object whose keywords each demand something of a value. A keyword speaks about values
of one kind only, and every other value meets it. What a schema inside a schema accepts is a
parameter here.

* **`Schema.keywordsAccept`** says whether a value meets all keywords.
-/

namespace BrowserAct.Schema

open Decimal (Binary64)

/-- A keyword demands nothing where it is missing. -/
def given (fields : Json.Fields) (keyword : String) (demand : Json → Bool) : Bool :=
  (fields.get? keyword).all demand

/-! ## Any value -/

def hasType (value : Json) (name : String) : Bool :=
  match name, value with
  | "null", .null => true
  | "boolean", .bool _ => true
  | "string", .string _ => true
  | "array", .array _ => true
  | "object", .object _ => true
  | "number", .integer _ => true
  | "number", .float _ => true
  | "integer", value => value.isWhole
  | _, _ => false

/-- Whether a value has one of the types of a name or of a list of names. -/
def hasTypes (value types : Json) : Bool :=
  match types with
  | .string name => hasType value name
  | .array names => names.any fun name => name.asString?.any (hasType value)
  | _ => true

/-- Whether two numbers differ by less than `2 ^ -52`. -/
def isNear (a b : Binary64) : Bool :=
  let (n, d) := (a.add b.negate).ratio
  decide (n * 0x10_0000_0000_0000 < d)

/-- Whether a value is the one that is demanded; numbers need only be near. -/
def isConstant (value constant : Json) : Bool :=
  match value.asFloat?, constant.asFloat? with
  | some a, some b => isNear a b
  | _, _ => value.same constant

def anyAccepts (fields : Json.Fields) (value : Json) : Bool :=
  given fields "type" (hasTypes value)
    && given fields "enum" (fun values => (values.asArray?.getD []).any value.same)
    && given fields "const" (isConstant value)

/-! ## Numbers -/

/-- Whether a number is a multiple of a whole number. -/
def isWholeMultiple (x step : Binary64) : Bool :=
  x.isWhole && decide (x.wholePart % step.wholePart = 0)

/-- Whether a quotient is whole up to `2 ^ -52`. A quotient below zero always passes; one that is too
large to be written is taken exactly. -/
def isQuotientWhole (x step : Binary64) : Bool :=
  let quotient := x.div step
  if quotient.isInfinite then
    decide (x.ratio.1 * step.ratio.2 % (x.ratio.2 * step.ratio.1) = 0)
  else
    let (n, d) := quotient.ratio
    quotient.isNegative || decide (n % d * 0x10_0000_0000_0000 < d)

def isMultiple (value step : Json) : Bool :=
  match value.asFloat?, step.asFloat? with
  | some x, some step => if step.isWhole then isWholeMultiple x step else isQuotientWhole x step
  | _, _ => true

/-- Whether the order of a number and a limit is one of those allowed. -/
def isWithin (allowed : List Ordering) (value limit : Json) : Bool :=
  match value.ratio?, limit.ratio? with
  | some a, some b => allowed.contains (Json.compareRatios a b)
  | _, _ => true

def numberAccepts (fields : Json.Fields) (value : Json) : Bool :=
  given fields "maximum" (isWithin [.lt, .eq] value)
    && given fields "exclusiveMaximum" (isWithin [.lt] value)
    && given fields "minimum" (isWithin [.gt, .eq] value)
    && given fields "exclusiveMinimum" (isWithin [.gt] value)
    && given fields "multipleOf" (isMultiple value)

/-! ## Counts -/

/-- The demands on a count, by the keywords of its greatest and its least value. -/
def countAccepts (fields : Json.Fields) (most least : String) (count : Nat) : Bool :=
  given fields most (isWithin [.lt, .eq] (.integer count))
    && given fields least (isWithin [.gt, .eq] (.integer count))

/-! ## Texts -/

def matchesPattern (text : String) (pattern : Json) : Bool :=
  match pattern with
  | .string pattern => (Pattern.parse? pattern).any (·.found text)
  | _ => true

/-- Whether a text has a format. Only patterns are looked at. -/
def hasFormat (text : String) (format : Json) : Bool :=
  match format with
  | .string "regex" => (Pattern.parse? text).isSome
  | _ => true

def decodeText? (text : String) : Option String := do
  let bytes ← Text.Base64.decode? text.toList
  String.fromUTF8? ⟨bytes.toArray⟩

/-- Whether a text has the content that is described. -/
def hasContent (fields : Json.Fields) (text : String) : Bool :=
  let isJson := fields.get? "contentMediaType" matches some (.string "application/json")
  let isEncoded := fields.get? "contentEncoding" matches some (.string "base64")
  match isJson, isEncoded with
  | false, false => true
  | true, false => (Json.parse? text).isSome
  | false, true => (Text.Base64.decode? text.toList).isSome
  | true, true => ((decodeText? text).bind Json.parse?).isSome

def textAccepts (fields : Json.Fields) (text : String) : Bool :=
  countAccepts fields "maxLength" "minLength" text.length
    && given fields "pattern" (matchesPattern text)
    && given fields "format" (hasFormat text)
    && hasContent fields text

/-! ## Arrays -/

def allDistinct : List Json → Bool
  | [] => true
  | item :: rest => !rest.any item.same && allDistinct rest

/-- Whether the items meet the schemas that are given for them: one for all, or one for each and one
for the rest. -/
def itemsAccept (accepts : Json → Json → Bool) (fields : Json.Fields) (items : List Json) : Bool :=
  given fields "items" fun schema =>
    match schema with
    | .array schemas =>
      (schemas.zip items).all (fun (schema, item) => accepts schema item)
        && given fields "additionalItems" fun rest =>
          (items.drop schemas.length).all (accepts rest)
    | schema => items.all (accepts schema)

def arrayAccepts (accepts : Json → Json → Bool) (fields : Json.Fields) (items : List Json) : Bool :=
  countAccepts fields "maxItems" "minItems" items.length
    && given fields "uniqueItems" (fun wanted => wanted.asBool? != some true || allDistinct items)
    && given fields "contains" (fun schema => items.any (accepts schema))
    && itemsAccept accepts fields items

/-! ## Objects -/

/-- The fields of an object, none of anything else. -/
def fieldsOf : Json → Json.Fields
  | .object fields => fields
  | _ => []

def hasKeys (object : Json.Fields) (keys : Json) : Bool :=
  (keys.asArray?.getD []).all fun key => key.asString?.all fun key => (object.get? key).isSome

/-- Whether a field meets the schemas of its key and of the patterns that its key matches, or, if there
are none, the schema for other keys. -/
def fieldAccepts (accepts : Json → Json → Bool) (fields : Json.Fields) (key : String)
    (value : Json) : Bool :=
  let own := (fieldsOf ((fields.get? "properties").getD .null)).get? key
  let patterns := (fieldsOf ((fields.get? "patternProperties").getD .null)).filter
    fun (pattern, _) => matchesPattern key (.string pattern)
  own.all (accepts · value)
    && patterns.all (fun (_, schema) => accepts schema value)
    && (own.isSome || !patterns.isEmpty
      || given fields "additionalProperties" (accepts · value))

/-- Whether an object has what one of its keys asks for. -/
def dependencyAccepts (accepts : Json → Json → Bool) (object : Json.Fields) (key : String)
    (demand : Json) : Bool :=
  (object.get? key).isNone ||
    match demand with
    | .array keys => hasKeys object (.array keys)
    | schema => accepts schema (.object object)

def objectAccepts (accepts : Json → Json → Bool) (fields object : Json.Fields) : Bool :=
  countAccepts fields "maxProperties" "minProperties" object.length
    && given fields "required" (hasKeys object)
    && given fields "propertyNames" (fun schema =>
      object.all fun (key, _) => accepts schema (.string key))
    && given fields "dependencies" (fun demands =>
      (fieldsOf demands).all fun (key, demand) => dependencyAccepts accepts object key demand)
    && object.all fun (key, value) => fieldAccepts accepts fields key value

/-! ## Combinations -/

/-- Whether a value meets the schema for the case that it is in. -/
def caseAccepts (accepts : Json → Json → Bool) (fields : Json.Fields) (value : Json) : Bool :=
  given fields "if" fun condition =>
    given fields (if accepts condition value then "then" else "else") (accepts · value)

def combinationAccepts (accepts : Json → Json → Bool) (fields : Json.Fields) (value : Json) :
    Bool :=
  let holds := fun schemas : Json => (schemas.asArray?.getD []).map (accepts · value)
  given fields "allOf" (fun schemas => (holds schemas).all id)
    && given fields "anyOf" (fun schemas => (holds schemas).any id)
    && given fields "oneOf" (fun schemas => (holds schemas).count true == 1)
    && given fields "not" (fun schema => !accepts schema value)
    && caseAccepts accepts fields value

/-! ## All keywords -/

/-- The demands on values of the kind of a value. -/
def kindAccepts (accepts : Json → Json → Bool) (fields : Json.Fields) (value : Json) : Bool :=
  match value with
  | .integer _ | .float _ => numberAccepts fields value
  | .string text => textAccepts fields text
  | .array items => arrayAccepts accepts fields items
  | .object object => objectAccepts accepts fields object
  | .null | .bool _ => true

def keywordsAccept (accepts : Json → Json → Bool) (fields : Json.Fields) (value : Json) : Bool :=
  anyAccepts fields value && kindAccepts accepts fields value
    && combinationAccepts accepts fields value

end BrowserAct.Schema
