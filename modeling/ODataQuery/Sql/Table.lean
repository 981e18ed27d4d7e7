import ODataQuery.Schema.Basic
import ODataQuery.Sql.Dialect
import ODataQuery.Sql.Select
import ODataQuery.Text.Blank

/-!
# Tables to query

What is known about the table that queries run over, and what can keep a query from becoming SQL.

* `Table`: the dialect, the columns that hold the properties, and the ordering of pages of queries
  that name none.
* `baseRelation`: the rows of a table, from the text a configuration gives for it.
* `SqlError`: why a query has no SQL.
-/

set_option autoImplicit false

namespace ODataQuery
namespace Sql

/-- What a filter can hold that has no SQL. -/
inductive Unsupported where
  | literalCondition
  | arithmeticCondition
  | functionCondition (function : Function)
  | conditionValue
  | functionValue (function : Function)
  | openPattern (test : TextTest)
  | argumentCount (test : TextTest) (count : Nat)
  | missingArgument (function : Function)
  deriving DecidableEq, Repr

/-- What is not supported, in words. -/
def Unsupported.description : Unsupported → String
  | literalCondition => "non-boolean literals used as conditions"
  | arithmeticCondition => "arithmetic expressions used as conditions"
  | functionCondition function => s!"'{function.name}' used as a condition"
  | conditionValue => "conditions used as values"
  | functionValue function => s!"'{function.name}' used as a value"
  | openPattern test =>
    "'" ++ (Function.test test).name ++ "' with a pattern that is not a string literal"
  | argumentCount test count =>
    "'" ++ (Function.test test).name ++ s!"' with {count} arguments"
  | missingArgument function => s!"'{function.name}' without an argument"

/-- Why a query has no SQL. -/
inductive SqlError where
  | unorderedPage
  | unmappedProperty (property : String)
  | unsupported (what : Unsupported)
  | blankBase
  deriving DecidableEq, Repr

/-- The text of the error. -/
def SqlError.message : SqlError → String
  | unorderedPage => "Paging requires an ordering, and no fallback ordering is configured."
  | unmappedProperty property => s!"Property '{property}' is not mapped to a column."
  | unsupported what => s!"Queries containing {what.description} are not supported."
  | blankBase => "The base SQL of a query cannot be empty."

/-- What is known about the table that queries run over. -/
structure Table where
  dialect : Dialect
  /-- The columns that hold the properties. -/
  columns : Dictionary String
  /-- The properties that order a page of a query that names no ordering. -/
  fallback : Option (List String) := none
  deriving DecidableEq, Repr

namespace Table

/-- The table that holds every property of a schema in its column. -/
def ofSchema (dialect : Dialect) (schema : Schema) : Table where
  dialect := dialect
  columns := schema.properties.mapValues fun name property => property.columnName name

/-- The alias of the table in every statement. -/
def tableAlias : String := "q"

/-- The column of a property. -/
def column (table : Table) (property : String) : Except SqlError Term :=
  match table.columns.get? property with
  | some name => .ok (.column (.byAlias tableAlias) name)
  | none => .error (.unmappedProperty property)

end Table

/-! ## The rows of a table -/

/-- Does a text start with `SELECT` or `WITH`, in any case, before a character that is no letter. -/
def isQuery (sql : String) : Bool :=
  let word := ((Text.trimStart sql.toList).takeWhile Char.isAlpha).map Char.toLower
  word = "select".toList || word = "with".toList

/-- The rows of a table under an alias.  The text of a table that is a query becomes a derived table;
any other text is the name of a table. -/
def baseRelation (sql aliasName : String) : Relation Select :=
  let trimmed := String.ofList (Text.trim sql.toList)
  if isQuery sql then .raw trimmed aliasName else .table (.table trimmed) aliasName

end Sql
end ODataQuery
