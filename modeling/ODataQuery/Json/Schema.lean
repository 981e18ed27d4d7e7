import ODataQuery.Json.Basic

/-!
# JSON schemas

Pieces of which a JSON schema of draft 7 is put together.  A keyword that describes comes before one
that constrains: description, default, type, and then what the type asks for.
-/

set_option autoImplicit false

namespace ODataQuery
namespace JsonSchema

/-- The keywords of a schema, in order. -/
abbrev Keywords := List (String × Json)

/-! ## Descriptions -/

/-- A description. -/
def description (text : String) : Keywords := [("description", .string text)]

/-- The value that is assumed where there is none. -/
def defaultValue (value : Json) : Keywords := [("default", value)]

/-! ## Types -/

/-- Any text. -/
def text : Keywords := [("type", .string "string")]

/-- A text or null. -/
def optionalText : Keywords := [("type", .array [.string "string", .string "null"])]

/-- A truth value. -/
def truthValue : Keywords := [("type", .string "boolean")]

/-- One of some words. -/
def oneWordOf (words : List String) : Keywords :=
  text ++ [("enum", .array (words.map .string))]

/-- A list of items. -/
def listOf (items : Keywords) : Keywords :=
  [("type", .string "array"), ("items", .object items)]

/-- An object whose fields all have the same schema, under any name. -/
def dictionaryOf (values : Keywords) : Keywords :=
  [("type", .string "object"), ("additionalProperties", .object values)]

/-- An object with named fields. -/
def structureOf (required : List String) (fields : List (String × Keywords)) : Keywords :=
  let requirement := if required.isEmpty then [] else
    [("required", Json.array (required.map .string))]
  ("type", .string "object") :: requirement
    ++ [("properties", .object (fields.map fun (name, keywords) => (name, .object keywords)))]

/-! ## Combinations -/

/-- Whatever a definition allows. -/
def reference (name : String) : Keywords :=
  [("$ref", .string ("#/definitions/" ++ name))]

/-- Whatever a definition allows, where the reference has keywords beside it. -/
def described (keywords : Keywords) (name : String) : Keywords :=
  keywords ++ [("allOf", .array [.object (reference name)])]

/-- What at least one of some schemas allows. -/
def anyOf (choices : List Keywords) : Keywords :=
  [("anyOf", .array (choices.map .object))]

/-- What exactly one of some schemas allows. -/
def oneOf (choices : List Keywords) : Keywords :=
  [("oneOf", .array (choices.map .object))]

/-- One of some words, each with a description. -/
def oneDescribedWordOf (words : List (String × String)) : Keywords :=
  oneOf (words.map fun (word, meaning) => description meaning ++ oneWordOf [word])

/-- A schema with a title and the definitions that it refers to. -/
def document (title : String) (keywords : Keywords) (definitions : List (String × Keywords)) :
    Json :=
  .object ([("$schema", .string "http://json-schema.org/draft-07/schema#"), ("title", .string title)]
    ++ keywords
    ++ [("definitions", .object (definitions.map fun (name, keywords) => (name, .object keywords)))])

end JsonSchema
end ODataQuery
