import ODataQuery.Json.Fields
import ODataQuery.Sql.Dialect

/-!
# Dialects in JSON

A dialect is given by the name of a preset, or by its four choices.
-/

set_option autoImplicit false

namespace ODataQuery
namespace Sql

/-- The name of a way of quoting. -/
def IdentifierQuoting.name : IdentifierQuoting → String
  | doubleQuotes => "doubleQuotes"
  | brackets => "brackets"
  | backticks => "backticks"

/-- The name of a way of writing placeholders. -/
def PlaceholderStyle.name : PlaceholderStyle → String
  | atNamed => "atNamed"
  | dollarNumbered => "dollarNumbered"
  | questionMark => "questionMark"

/-- The name of a family of function spellings. -/
def FunctionStyle.name : FunctionStyle → String
  | transactSql => "transactSql"
  | postgres => "postgres"
  | sqlite => "sqlite"

namespace PagingStyle

/-- The JSON form of a way of asking for pages. -/
def toJson : PagingStyle → Json
  | limitOffset offsetRequiresLimit => .object [
      ("style", .string "limitOffset"), ("offsetRequiresLimit", .bool offsetRequiresLimit)]
  | offsetFetch => .object [("style", .string "offsetFetch")]
  | rowNumber => .object [("style", .string "rowNumber")]

/-- The names of the ways of asking for pages. -/
def names : List String := ["limitOffset", "offsetFetch", "rowNumber"]

/-- The way of asking for pages of a JSON form. -/
def ofJson? (json : Json) : Option PagingStyle :=
  json.tagged? "style" (Json.tag? .lenient names) |>.bind fun (style, content) =>
    if style = "limitOffset" then
      match content.members? ["offsetRequiresLimit"] with
      | some [requires] => (requires.orElse? false Json.toBool?).map limitOffset
      | _ => none
    else if style = "offsetFetch" then if content.isBare then some offsetFetch else none
    else if style = "rowNumber" then if content.isBare then some rowNumber else none
    else none

end PagingStyle

namespace Dialect

/-- The JSON form of a dialect. -/
def toJson (dialect : Dialect) : Json :=
  .object [
    ("identifierQuoting", .string dialect.identifierQuoting.name),
    ("placeholder", .string dialect.placeholder.name),
    ("paging", dialect.paging.toJson),
    ("functions", .string dialect.functions.name)]

/-- The dialect of a JSON form. -/
def ofJson? (json : Json) : Option Dialect :=
  match json.members? ["identifierQuoting", "placeholder", "paging", "functions"] with
  | some [identifierQuoting, placeholder, paging, functions] => do
    let identifierQuoting ← identifierQuoting.required?
      (Json.oneOf? .strict IdentifierQuoting.all IdentifierQuoting.name)
    let placeholder ← placeholder.required?
      (Json.oneOf? .strict PlaceholderStyle.all PlaceholderStyle.name)
    let paging ← paging.required? PagingStyle.ofJson?
    let functions ← functions.required? (Json.oneOf? .strict FunctionStyle.all FunctionStyle.name)
    some ⟨identifierQuoting, placeholder, paging, functions⟩
  | _ => none

end Dialect

/-! ## Presets -/

/-- A dialect with a name. -/
inductive Preset where
  | sqlServer
  | sqlServerLegacy
  | postgres
  | sqlite
  deriving DecidableEq, Repr

namespace Preset

/-- Every preset. -/
def all : List Preset := [sqlServer, sqlServerLegacy, postgres, sqlite]

/-- The name of the preset. -/
def name : Preset → String
  | sqlServer => "sqlServer"
  | sqlServerLegacy => "sqlServerLegacy"
  | postgres => "postgres"
  | sqlite => "sqlite"

/-- The dialect of the preset. -/
def dialect : Preset → Dialect
  | sqlServer => .sqlServer
  | sqlServerLegacy => .sqlServerLegacy
  | postgres => .postgres
  | sqlite => .sqlite

end Preset

/-- How a configuration names a dialect. -/
inductive DialectChoice where
  | preset (preset : Preset)
  | custom (dialect : Dialect)
  deriving DecidableEq, Repr

namespace DialectChoice

/-- The dialect that is named. -/
def dialect : DialectChoice → Dialect
  | preset p => p.dialect
  | custom d => d

/-- The JSON form of a choice. -/
def toJson : DialectChoice → Json
  | preset p => .string p.name
  | custom d => d.toJson

/-- The choice of a JSON form. -/
def ofJson? (json : Json) : Option DialectChoice :=
  ((Json.oneOf? .strict Preset.all Preset.name json).map preset).or
    ((Dialect.ofJson? json).map custom)

end DialectChoice
end Sql
end ODataQuery
