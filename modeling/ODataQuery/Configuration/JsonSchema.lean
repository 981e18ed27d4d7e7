import ODataQuery.Configuration.Stored
import ODataQuery.Json.Schema

/-!
# The JSON schema of configurations

What an editor needs to know to help with the file of a configuration.  Words that may stand in the
file are taken from the types whose names they are.
-/

set_option autoImplicit false

namespace ODataQuery
namespace Configuration

open JsonSchema

/-! ## Dialects -/

/-- The schema of a way of quoting identifiers. -/
def identifierQuotingSchema : Keywords :=
  description "How identifiers are quoted. The closing quote is escaped by doubling it."
    ++ oneDescribedWordOf [
      (Sql.IdentifierQuoting.doubleQuotes.name, "`\"name\"`"),
      (Sql.IdentifierQuoting.brackets.name, "`[name]`"),
      (Sql.IdentifierQuoting.backticks.name, "`` `name` ``")]

/-- The schema of a way of writing placeholders. -/
def placeholderSchema : Keywords :=
  description "How a parameter placeholder is written."
    ++ oneDescribedWordOf [
      (Sql.PlaceholderStyle.atNamed.name, "`@p1`, `@p2`, ..."),
      (Sql.PlaceholderStyle.dollarNumbered.name, "`$1`, `$2`, ..."),
      (Sql.PlaceholderStyle.questionMark.name,
        "`?` for every parameter, bound by position.")]

/-- The schema of a way of asking for pages, which is named in the field `style`. -/
def pagingChoice (style meaning : String) (fields : List (String × Keywords)) : Keywords :=
  description meaning ++ structureOf ["style"] (fields ++ [("style", oneWordOf [style])])

/-- The schema of the ways of asking for pages. -/
def pagingSchema : Keywords :=
  description "How a page of results is selected."
    ++ oneOf [
      pagingChoice "limitOffset" "`LIMIT n OFFSET m`." [("offsetRequiresLimit",
        description ("Whether an `OFFSET` needs a `LIMIT` in front of it, "
          ++ "written as `LIMIT -1`.")
        ++ defaultValue (.bool false) ++ truthValue)],
      pagingChoice "offsetFetch" "`OFFSET m ROWS FETCH NEXT n ROWS ONLY`." [],
      pagingChoice "rowNumber"
        "A `ROW_NUMBER() OVER (ORDER BY ...)` column filtered in an outer query." []]

/-- The schema of a family of function spellings. -/
def functionsSchema : Keywords :=
  description "Which family of function names to use."
    ++ oneDescribedWordOf [
      (Sql.FunctionStyle.transactSql.name, "`LEN`, `DATEPART`, `LTRIM(RTRIM(..))`."),
      (Sql.FunctionStyle.postgres.name, "`LENGTH`, `EXTRACT(.. FROM ..)`, `TRIM`."),
      (Sql.FunctionStyle.sqlite.name, "`LENGTH`, `STRFTIME`, `TRIM`.")]

/-- The schema of a dialect that is spelled out. -/
def dialectSchema : Keywords :=
  description "Everything that varies between the SQL dialects we generate."
    ++ structureOf ["functions", "identifierQuoting", "paging", "placeholder"] [
      ("functions", reference "FunctionStyle"),
      ("identifierQuoting", reference "IdentifierQuoting"),
      ("paging", reference "PagingSyntax"),
      ("placeholder", reference "PlaceholderSyntax")]

/-! ## Shapes -/

/-- The schema of a property. -/
def propertySchema : Keywords :=
  description "Information about a single property of a record shape."
    ++ structureOf ["type"] [
      ("column",
        description ("The column backing this property in SQL, "
          ++ "if it differs from the property name.")
        ++ optionalText),
      ("nullable",
        described (defaultValue (.string (Property.nullableName true))) "Nullable"),
      ("type", reference "ScalarType")]

/-- The schema of a record shape. -/
def shapeSchema : Keywords :=
  description ("A named record shape. "
    ++ "Shapes may derive from a base shape and inherit all of its properties.")
    ++ structureOf ["properties"] [
      ("base", optionalText),
      ("properties", dictionaryOf (reference "PropertyInfo"))]

/-- The schema of the record shapes by name. -/
def shapesSchema : Keywords :=
  description "Mapping from a record shape name to its information."
    ++ dictionaryOf (reference "RecordShape")

/-! ## Configurations -/

/-- The schema of a table. -/
def tableSchema : Keywords :=
  description "A queryable table: the SQL producing its rows and the shape of those rows."
    ++ structureOf ["shape", "sql"] [
      ("fallbackOrdering",
        description ("Properties to order by, ascending, "
          ++ "when a query asks for a page without an ordering.")
        ++ listOf text),
      ("shape", text),
      ("sql",
        description ("A table reference, or a `SELECT`/`WITH` query "
          ++ "used as a derived table.")
        ++ text)]

/-- The schema of what is named by a reference. -/
def definitions : List (String × Keywords) := [
  ("Dialect",
    description "A dialect named by preset, or spelled out in full."
      ++ anyOf [reference "DialectPreset", reference "SqlDialectProfile"]),
  ("DialectPreset", oneWordOf (Sql.Preset.all.map Sql.Preset.name)),
  ("FunctionStyle", functionsSchema),
  ("IdentifierQuoting", identifierQuotingSchema),
  ("Metadata",
    description "Metadata information."
      ++ structureOf [] [
        ("recordShapes", described (defaultValue initial.shapes.toJson) "RecordShapes")]),
  ("Nullable",
    description "Can this property contain null values"
      ++ oneWordOf ([true, false].map Property.nullableName)),
  ("PagingSyntax", pagingSchema),
  ("PlaceholderSyntax", placeholderSchema),
  ("PropertyInfo", propertySchema),
  ("RecordShape", shapeSchema),
  ("RecordShapes", shapesSchema),
  ("ScalarType",
    description "The scalar types a record property can have."
      ++ oneWordOf (ScalarType.all.map ScalarType.name)),
  ("SqlDialectProfile", dialectSchema),
  ("TableDefinition", tableSchema),
  ("Version", oneWordOf [version])]

/-- The JSON schema of a configuration. -/
def jsonSchema : Json :=
  document "ParsedConfiguration"
    (description ("The configuration as written on disk: which dialect to generate, "
        ++ "the record shapes queries are parsed against, and the tables they run over.")
      ++ structureOf ["version"] [
        ("dialect", described (defaultValue initial.dialect.toJson) "Dialect"),
        ("metadata", described (defaultValue (metadataToJson initial.shapes)) "Metadata"),
        ("tables",
          defaultValue (initial.tables.toJson TableDefinition.toJson)
            ++ dictionaryOf (reference "TableDefinition")),
        ("version",
          described (description "Which version of the configuration format are we using")
            "Version")])
    definitions

/-- The name of the file that holds the JSON schema. -/
def schemaFileName : String := "schema.json"

/-- The files that store a configuration in a directory, with their texts. -/
def files (configuration : Configuration) : List (String × String) :=
  [(fileName, configuration.write), (schemaFileName, jsonSchema.pretty ++ "\n")]

end Configuration
end ODataQuery
