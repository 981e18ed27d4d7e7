import ODataQuery.Encoding.Dialect
import ODataQuery.Encoding.Schema

/-!
# Configurations

A configuration says which tables can be queried: the dialect of their database, the shapes of their
records, and for each table the SQL that gives its rows.

* `Configuration.toJson`, `Configuration.ofJson?`: the form in which it is stored.  Only the version
  has to be given; what else is left out takes its value from `Configuration.initial`.
* `TableDefinition.toJson`, `TableDefinition.ofJson?`: the same for one table.
-/

set_option autoImplicit false

namespace ODataQuery

/-- A table as a configuration names it. -/
structure TableDefinition where
  /-- The name of a table, or a query whose result is the table. -/
  sql : String
  /-- The name of the shape of its records. -/
  shape : String
  /-- The properties that order a page of a query that names no ordering, if there are any. -/
  fallbackOrdering : List String := []
  deriving DecidableEq, Repr

/-- The tables that can be queried. -/
structure Configuration where
  dialect : Sql.DialectChoice := .preset .sqlServer
  shapes : Shapes := .empty
  tables : Dictionary TableDefinition := .empty
  deriving DecidableEq

namespace TableDefinition

/-- The JSON form of a table. -/
def toJson (table : TableDefinition) : Json :=
  let ordering := if table.fallbackOrdering.isEmpty then [] else
    [("fallbackOrdering", Json.array (table.fallbackOrdering.map .string))]
  .object ([("sql", .string table.sql), ("shape", .string table.shape)] ++ ordering)

/-- The table of a JSON form. -/
def ofJson? (json : Json) : Option TableDefinition :=
  match json.members? ["sql", "shape", "fallbackOrdering"] with
  | some [sql, shape, fallbackOrdering] => do
    let sql ← sql.required? Json.toText?
    let shape ← shape.required? Json.toText?
    let fallbackOrdering ← fallbackOrdering.orElse? [] (Json.toList? Json.toText?)
    some ⟨sql, shape, fallbackOrdering⟩
  | _ => none

end TableDefinition

namespace Configuration

/-- The configuration without tables. -/
def initial : Configuration := {}

/-- The version of the stored form. -/
def version : String := "1"

/-- The JSON form of the metadata of a configuration, which are its shapes. -/
def metadataToJson (shapes : Shapes) : Json :=
  .object [("recordShapes", shapes.toJson)]

/-- The shapes of the JSON form of metadata. -/
def metadataOfJson? (json : Json) : Option Shapes :=
  match json.members? ["recordShapes"] with
  | some [recordShapes] => recordShapes.orElse? .empty Shapes.ofJson?
  | _ => none

/-- The JSON form of a configuration. -/
def toJson (configuration : Configuration) : Json :=
  .object [
    ("version", .string version),
    ("dialect", configuration.dialect.toJson),
    ("metadata", metadataToJson configuration.shapes),
    ("tables", configuration.tables.toJson TableDefinition.toJson)]

/-- The configuration of a JSON form. -/
def ofJson? (json : Json) : Option Configuration :=
  match json.members? ["version", "dialect", "metadata", "tables"] with
  | some [versionField, dialect, metadata, tables] => do
    let _ ← versionField.required? (Json.oneOf? .strict [version] id)
    let dialect ← dialect.orElse? initial.dialect Sql.DialectChoice.ofJson?
    let shapes ← metadata.orElse? initial.shapes metadataOfJson?
    let tables ← tables.orElse? initial.tables (Json.toDictionary? TableDefinition.ofJson?)
    some ⟨dialect, shapes, tables⟩
  | _ => none

end Configuration
end ODataQuery
