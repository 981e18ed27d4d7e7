import ODataQuery.Configuration.Basic
import ODataQuery.Sql.Table

/-!
# Catalogs

A catalog holds the tables of a configuration ready to be queried: names are resolved, and a page of
any table has an ordering or none, for certain.

* `Configuration.catalog`: the catalog of a configuration.  Every shape is resolved, also one that
  no table uses, and then every table, both in the order of their names; the first fault found is
  the one that is reported.
* `CatalogError`: what can be wrong with a configuration.
-/

set_option autoImplicit false

namespace ODataQuery

/-- What can be wrong with a configuration. -/
inductive CatalogError where
  | unknownShape (table shape : String)
  | unknownBaseShape (shape base : String)
  | inheritanceCycle (shape : String)
  | unknownFallbackProperty (table property : String)
  | blankSql (table : String)
  | schema (error : SchemaError)
  deriving DecidableEq, Repr

namespace CatalogError

/-- The text of the error. -/
def message : CatalogError → String
  | unknownShape table shape => s!"table '{table}' refers to unknown record shape '{shape}'"
  | unknownBaseShape shape base => s!"record shape '{shape}' derives from unknown shape '{base}'"
  | inheritanceCycle shape => s!"record shape '{shape}' derives from itself"
  | unknownFallbackProperty table property =>
    s!"fallback ordering of table '{table}' refers to unknown property '{property}'"
  | blankSql table => s!"table '{table}' has no SQL"
  | schema error => error.message

/-- The error of a shape that does not resolve. -/
def ofShape : SchemaError → CatalogError
  | .baseShapeNotFound shape base => unknownBaseShape shape base
  | .inheritanceCycle shape => inheritanceCycle shape
  | error => schema error

/-- The error of a table whose shape does not resolve. -/
def ofTable (table : String) : SchemaError → CatalogError
  | .shapeNotFound shape => unknownShape table shape
  | error => ofShape error

end CatalogError

/-- A table that can be queried. -/
structure CatalogTable where
  /-- The text that gives the rows. -/
  baseSql : String
  /-- The properties of the rows. -/
  schema : Schema
  /-- How queries over the rows are written. -/
  table : Sql.Table
  deriving DecidableEq

/-- The tables that can be queried, by name. -/
structure Catalog where
  dialect : Sql.Dialect
  tables : Dictionary CatalogTable
  deriving DecidableEq

namespace TableDefinition

/-- The ordering of pages of queries that name none. -/
def fallback (definition : TableDefinition) : Option (List String) :=
  if definition.fallbackOrdering.isEmpty then none else some definition.fallbackOrdering

/-- The table of a definition, ready to be queried. -/
def resolve (dialect : Sql.Dialect) (shapes : Shapes) (name : String)
    (definition : TableDefinition) : Except CatalogError CatalogTable :=
  if Text.isBlankText definition.sql then .error (.blankSql name)
  else
    match shapes.resolve definition.shape with
    | .error error => .error (.ofTable name error)
    | .ok schema =>
      match definition.fallbackOrdering.find? fun property => !(schema.property? property).isSome with
      | some property => .error (.unknownFallbackProperty name property)
      | none =>
        let table := { Sql.Table.ofSchema dialect schema with fallback := definition.fallback }
        .ok ⟨definition.sql, schema, table⟩

end TableDefinition

namespace Configuration

/-- Resolve every shape of a list of names, for the first that has a fault. -/
def checkShapes (shapes : Shapes) : List String → Except CatalogError Unit
  | [] => .ok ()
  | name :: rest =>
    match shapes.resolve name with
    | .error error => .error (.ofShape error)
    | .ok _ => checkShapes shapes rest

/-- The tables of a configuration, ready to be queried. -/
def catalog (configuration : Configuration) : Except CatalogError Catalog := do
  let dialect := configuration.dialect.dialect
  checkShapes configuration.shapes configuration.shapes.keys
  let tables ← configuration.tables.traverse (TableDefinition.resolve dialect configuration.shapes)
  .ok ⟨dialect, tables⟩

end Configuration

/-- The table of a name. -/
def Catalog.table? (catalog : Catalog) (name : String) : Option CatalogTable :=
  catalog.tables.get? name

end ODataQuery
