import ODataQuery.Encoding.Expression
import ODataQuery.Pipeline.Basic

/-!
# Queries and pipelines in JSON

A query is an object with all its parts; a part that is absent is null.  A pipeline is an object with
its source and its operations, each of which names itself.
-/

set_option autoImplicit false

namespace ODataQuery

/-- A number of records in JSON. -/
def countToJson (count : UInt64) : Json := .ofNat count.toNat

/-- An optional part in JSON. -/
def optionToJson {α : Type} (write : α → Json) : Option α → Json
  | none => .null
  | some a => write a

/-! ## Queries -/

/-- A direction in JSON. -/
def Direction.ofJson? (strictness : Json.Strictness) : Json → Option Direction :=
  Json.oneOf? strictness [.asc, .desc] Direction.keyword

namespace SortKey

/-- The fields of a key. -/
def toFields (key : SortKey) : List (String × Json) :=
  [("property", .string key.property), ("direction", .string key.direction.keyword)]

/-- The JSON form of a key. -/
def toJson (key : SortKey) : Json := .object key.toFields

/-- The key of a JSON form. -/
def ofJson? (strictness : Json.Strictness) (json : Json) : Option SortKey :=
  match json.members? ["property", "direction"] with
  | some [property, direction] => do
    let property ← property.required? Json.toText?
    let direction ← direction.required? (Direction.ofJson? strictness)
    some ⟨property, direction⟩
  | _ => none

end SortKey

/-- An inline count in JSON. -/
def InlineCount.ofJson? : Json → Option InlineCount :=
  Json.oneOf? .strict [.none, .allPages] InlineCount.keyword

namespace Query

/-- The JSON form of a query. -/
def toJson (query : Query) : Json :=
  .object [
    ("filter", optionToJson Expression.toJson query.filter),
    ("orderBy", .array (query.orderBy.map SortKey.toJson)),
    ("skip", optionToJson countToJson query.skip),
    ("top", optionToJson countToJson query.top),
    ("inlineCount", .string query.inlineCount.keyword)]

/-- The query of a JSON form. -/
def ofJson? (json : Json) : Option Query :=
  match json.members? ["filter", "orderBy", "skip", "top", "inlineCount"] with
  | some [filter, orderBy, skip, top, inlineCount] => do
    let filter ← filter.optional? (Expression.ofJson? .strict)
    let orderBy ← orderBy.required? (Json.toList? (SortKey.ofJson? .strict))
    let skip ← skip.optional? Json.toCount?
    let top ← top.optional? Json.toCount?
    let inlineCount ← inlineCount.required? InlineCount.ofJson?
    some ⟨filter, orderBy, skip, top, inlineCount⟩
  | _ => none

end Query

/-! ## Pipelines -/

namespace Source

/-- The JSON form of a source. -/
def toJson : Source → Json
  | sql baseSql => .object [("type", .string "sql"), ("baseSql", .string baseSql)]
  | inMemory => .object [("type", .string "inMemory")]

/-- The source of a JSON form. -/
def ofJson? (json : Json) : Option Source :=
  json.tagged? "type" Json.toText? |>.bind fun (choice, content) =>
    if choice = "sql" then
      match content.members? ["baseSql"] with
      | some [baseSql] => (baseSql.required? Json.toText?).map sql
      | _ => none
    else if choice = "inMemory" then if content.isBare then some inMemory else none
    else none

end Source

namespace Operation

/-- The fields of an operation besides its name. -/
def toFields : Operation → List (String × Json)
  | filter predicate => [("predicate", predicate.toJson)]
  | orderBy key | thenBy key => key.toFields
  | skip n | take n => [("count", countToJson n)]
  | select properties => [("properties", .array (properties.map .string))]
  | groupBy property => [("property", .string property)]
  | toList | count | first | any | distinct | reverse => []

/-- The JSON form of an operation. -/
def toJson (operation : Operation) : Json :=
  .object (("operation", .string operation.name) :: operation.toFields)

/-- An operation with one field. -/
def ofField? {α : Type} (name : String) (read : Json → Option α) (make : α → Operation)
    (content : Json) : Option Operation :=
  match content.members? [name] with
  | some [field] => (field.required? read).map make
  | _ => none

/-- An operation without fields. -/
def ofBare? (operation : Operation) (content : Json) : Option Operation :=
  if content.isBare then some operation else none

/-- The operation of a name. -/
def ofContent? (name : String) (content : Json) : Option Operation :=
  if name = "filter" then ofField? "predicate" (Expression.ofJson? .lenient) filter content
  else if name = "orderBy" then (SortKey.ofJson? .lenient content).map orderBy
  else if name = "thenBy" then (SortKey.ofJson? .lenient content).map thenBy
  else if name = "skip" then ofField? "count" Json.toCount? skip content
  else if name = "take" then ofField? "count" Json.toCount? take content
  else if name = "toList" then ofBare? toList content
  else if name = "count" then ofBare? count content
  else if name = "first" then ofBare? first content
  else if name = "any" then ofBare? any content
  else if name = "distinct" then ofBare? distinct content
  else if name = "select" then ofField? "properties" (Json.toList? Json.toText?) select content
  else if name = "groupBy" then ofField? "property" Json.toText? groupBy content
  else if name = "reverse" then ofBare? reverse content
  else none

/-- The operation of a JSON form. -/
def ofJson? (json : Json) : Option Operation :=
  json.tagged? "operation" Json.toText? |>.bind fun (name, content) => ofContent? name content

end Operation

namespace Pipeline

/-- The JSON form of a pipeline. -/
def toJson (pipeline : Pipeline) : Json :=
  .object [
    ("source", pipeline.source.toJson),
    ("operations", .array (pipeline.operations.map Operation.toJson))]

/-- The pipeline of a JSON form. -/
def ofJson? (json : Json) : Option Pipeline :=
  match json.members? ["source", "operations"] with
  | some [source, operations] => do
    let source ← source.required? Source.ofJson?
    let operations ← operations.required? (Json.toList? Operation.ofJson?)
    some ⟨source, operations⟩
  | _ => none

end Pipeline
end ODataQuery
