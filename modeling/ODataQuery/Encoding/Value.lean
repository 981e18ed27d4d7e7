import ODataQuery.Json.Fields
import ODataQuery.Value.Basic

/-!
# Values in JSON

A value is an object with its `type` and, unless it is null, the `value` itself.  A double that is no
number, or infinite, has no JSON form; null stands for it.
-/

set_option autoImplicit false

namespace ODataQuery
namespace Value

/-- A double, if it has a JSON form. -/
def floatToJson (x : Float) : Json :=
  match Number.shape x with
  | .finite _ => .number (.real x)
  | _ => .null

/-- The value on its own, as parameters are shown. -/
def toPlainJson : Value → Json
  | null => .null
  | bool b => .bool b
  | int i => .number (.whole i.toInt)
  | float x => floatToJson x
  | string s => .string s
  | dateTime t => .string t.text

/-- The name of the kind of value. -/
def typeTag : Value → String
  | null => "null"
  | bool _ => "bool"
  | int _ => "int"
  | float _ => "float"
  | string _ => "string"
  | dateTime _ => "dateTime"

/-- The JSON form of a value. -/
def toJson : Value → Json
  | null => .object [("type", .string "null")]
  | value => .object [("type", .string value.typeTag), ("value", value.toPlainJson)]

/-- The value of a kind. -/
def ofContent? (kind : String) (content : Json.Member) : Option Value :=
  if kind = "null" then
    match content with
    | .given .null | .absent => some null
    | _ => none
  else if kind = "bool" then (content.required? Json.toBool?).map bool
  else if kind = "int" then (content.required? Json.toInt?).map int
  else if kind = "float" then (content.required? Json.toFloat?).map float
  else if kind = "string" then (content.required? Json.toText?).map string
  else if kind = "dateTime" then (content.required? Json.toDateTime?).map dateTime
  else none

/-- The names of the kinds of values. -/
def kinds : List String := ["null", "bool", "int", "float", "string", "dateTime"]

/-- The value of a JSON form.  In an array the kind is a tag, and neither part can be left out. -/
def ofJson? (strictness : Json.Strictness) : Json → Option Value
  | .object fields =>
    match Json.members? ["type", "value"] (.object fields) with
    | some [kind, content] =>
      (kind.required? (Json.plainChoice? strictness)).bind fun kind => ofContent? kind content
    | _ => none
  | .array [kind, content] =>
    (kind.tag? strictness kinds).bind fun kind => ofContent? kind (.given content)
  | _ => none

end Value
end ODataQuery
