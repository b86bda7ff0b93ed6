import BrowserAct.Json.Printer
import BrowserAct.Schema.Keyword
import BrowserAct.Schema.Reference
import BrowserAct.Url.Address

/-!
# Schemas

A schema says which JSON values are wanted. It is itself a JSON value, and which JSON values are schemas
is said by a schema.

* **`Schema.acceptsWithin`** is what a schema accepts, in so many steps.
* **`Schema.metaSchema`** accepts the values that are schemas.
* **`Schema.ofJson?`** takes a value as a schema, if it is one.
-/

namespace BrowserAct

namespace Schema

/-- Whether a part of a document, as a schema, accepts a value. A reference stands for the part that it
names, and its other keywords count for nothing. -/
def acceptsWithin (document : Json) : Nat → Json → Json → Bool
  | 0, _, _ => false
  | _ + 1, .bool b, _ => b
  | n + 1, .object fields, value =>
    match Json.Fields.get? fields "$ref" with
    | some (.string reference) =>
      (resolve? document reference).any (acceptsWithin document n · value)
    | some _ => false
    | none => keywordsAccept (acceptsWithin document n) fields value
  | _ + 1, _, _ => false

/-- A bound on the steps: between two steps into the value no part of the document comes twice, and
each part of either takes at least one character. -/
def stepBound (document value : Json) : Nat :=
  (document.render.length + 2) * (value.render.length + 2)

/-- Whether a document, as a schema, accepts a value. -/
def documentAccepts (document value : Json) : Bool :=
  acceptsWithin document (stepBound document value) document value

/-! ## Schemas of schemas -/

def ofType (name : String) : Json :=
  .ofFields [("type", .string name)]

def reference (target : String) : Json :=
  .ofFields [("$ref", .string target)]

/-- A schema, wherever one is wanted. -/
def anySchema : Json :=
  reference "#"

def schemaList : Json :=
  .ofFields [("type", .string "array"), ("minItems", .integer 1), ("items", anySchema)]

def schemaTable : Json :=
  .ofFields [("type", .string "object"), ("additionalProperties", anySchema)]

def countSchema : Json :=
  .ofFields [("type", .string "integer"), ("minimum", .integer 0)]

def textList : Json :=
  .ofFields [("type", .string "array"), ("items", ofType "string"), ("uniqueItems", .bool true)]

def typeName : Json :=
  .ofFields [("enum", .array
    (["array", "boolean", "integer", "null", "number", "object", "string"].map .string))]

def either (a b : Json) : Json :=
  .ofFields [("anyOf", .array [a, b])]

def patternText : Json :=
  .ofFields [("type", .string "string"), ("format", .string "regex")]

/-- A list of distinct names of types, not empty. -/
def typeList : Json :=
  .ofFields [("type", .string "array"), ("items", typeName), ("minItems", .integer 1),
    ("uniqueItems", .bool true)]

/-- An object of schemas whose keys are patterns. -/
def patternTable : Json :=
  .ofFields [("type", .string "object"), ("additionalProperties", anySchema),
    ("propertyNames", .ofFields [("format", .string "regex")])]

def dependencyTable : Json :=
  .ofFields [("type", .string "object"), ("additionalProperties", either anySchema textList)]

def keywordsOf (schema : Json) (keywords : List String) : List (String × Json) :=
  keywords.map (·, schema)

def keywordSchemas : List (String × Json) :=
  keywordsOf (ofType "string") ["$id", "$schema", "$ref", "$comment", "title", "description",
      "format", "contentMediaType", "contentEncoding"]
    ++ keywordsOf (ofType "boolean") ["readOnly", "uniqueItems"]
    ++ keywordsOf (ofType "number") ["maximum", "exclusiveMaximum", "minimum", "exclusiveMinimum"]
    ++ keywordsOf (ofType "array") ["examples", "enum"]
    ++ keywordsOf countSchema ["maxLength", "minLength", "maxItems", "minItems", "maxProperties",
      "minProperties"]
    ++ keywordsOf anySchema ["additionalItems", "contains", "additionalProperties",
      "propertyNames", "if", "then", "else", "not"]
    ++ keywordsOf schemaList ["allOf", "anyOf", "oneOf"]
    ++ keywordsOf schemaTable ["definitions", "properties"]
    ++ [("multipleOf", .ofFields [("type", .string "number"), ("exclusiveMinimum", .integer 0)]),
      ("pattern", patternText), ("patternProperties", patternTable),
      ("items", either anySchema schemaList), ("required", textList),
      ("dependencies", dependencyTable), ("type", either typeName typeList)]

def metaSchema : Json :=
  .ofFields [("type", .array [.string "object", .string "boolean"]),
    ("properties", .ofFields keywordSchemas)]

/-- Whether the name of a document, if it has one, is an address. -/
def hasGoodName (document : Json) : Bool :=
  (document.field "$id").asString?.all fun name => (Url.Address.parse? name).isSome

def isSchema (document : Json) : Bool :=
  documentAccepts metaSchema document && hasGoodName document

end Schema

/-- A JSON value that is a schema. -/
structure Schema where
  document : Json
  valid : Schema.isSchema document = true

namespace Schema

/-- Takes a value as a schema, if it is one. -/
def ofJson? (document : Json) : Option Schema :=
  if h : isSchema document = true then some ⟨document, h⟩ else none

def accepts (s : Schema) (value : Json) : Bool :=
  documentAccepts s.document value

/-! ## Laws -/

/-- A value that is a schema is taken as itself. -/
theorem ofJson?_eq_some_iff {document : Json} {schema : Schema} :
    ofJson? document = some schema ↔ schema.document = document := by
  unfold ofJson?
  constructor
  · intro taken
    split at taken
    · cases taken
      rfl
    · cases taken
  · rintro rfl
    exact dif_pos schema.valid

end Schema

end BrowserAct
