import ODataQuery.Expression.Basic
import ODataQuery.Query.Basic

/-!
# SQL select statements

The parts of SQL that queries need: terms (conditions and scalars), relations, and selects.

* Names of tables and hand-written queries come from a configuration and stand as they are; aliases
  and columns are identifiers.
* Functions keep the names they have in filters until they are written in some dialect.
-/

set_option autoImplicit false

namespace ODataQuery
namespace Sql

/-- What a column or a star is taken from: a table by name, or an alias. -/
inductive TableRef where
  | table (name : String)
  | byAlias (name : String)
  deriving DecidableEq, Repr

/-- The binary operators. -/
inductive BinaryOperator where
  | comparison (c : Comparison)
  | arithmetic (a : Arithmetic)
  /-- An operator of some database. -/
  | other (text : String)
  deriving DecidableEq, Repr

/-- The operator in SQL. -/
def BinaryOperator.text : BinaryOperator → String
  | comparison .eq => "="
  | comparison .ne => "<>"
  | comparison .lt => "<"
  | comparison .le => "<="
  | comparison .gt => ">"
  | comparison .ge => ">="
  | arithmetic .add => "+"
  | arithmetic .sub => "-"
  | arithmetic .mul => "*"
  | arithmetic .div => "/"
  | arithmetic .mod => "%"
  | other text => text

/-- The functions of scalars. -/
inductive ScalarFunction where
  | length
  | change (c : TextChange)
  | whole (w : WholePart)
  deriving DecidableEq, Repr

/-- A condition or a scalar. -/
inductive Term where
  | and (left right : Term)
  | or (left right : Term)
  | not (operand : Term)
  | binary (left : Term) (operator : BinaryOperator) (right : Term)
  | isNull (operand : Term)
  | isNotNull (operand : Term)
  | like (subject pattern : Term) (escape : Char)
  | call (function : ScalarFunction) (args : List Term)
  | part (part : TimePart) (operand : Term)
  | column (table : TableRef) (name : String)
  /-- A condition that always or never holds. -/
  | bool (b : Bool)
  /-- An integer written in the text. -/
  | integer (i : Int64)
  /-- A value bound as a parameter. -/
  | parameter (value : Value)
  /-- The number of all rows. -/
  | countAll
  /-- The number of the row in an ordering. -/
  | rowNumber (keys : List (Term × Direction))

instance : Inhabited Term := ⟨.bool true⟩

/-- What a select returns of its rows. -/
inductive Selection where
  | columns (columns : List (String × Term))
  | star
  | starOf (table : TableRef)
  | both (first second : Selection)

/-- Where the rows of a select come from: a table, another select, or a hand-written query. -/
inductive Relation (σ : Type) where
  | table (table : TableRef) (aliasName : String)
  | select (select : σ) (aliasName : String)
  | raw (sql : String) (aliasName : String)

/-- A select statement.  A condition of `bool true` is no condition. -/
structure Select where
  selection : Selection
  relation : Option (Relation Select) := none
  condition : Term := .bool true
  orderBy : List (Term × Direction) := []
  limit : Option UInt64 := none
  offset : Option UInt64 := none

/-! ## Common selects -/

/-- Every column of an aliased relation. -/
def Select.all (aliasName : String) (relation : Relation Select) : Select :=
  { selection := .starOf (.byAlias aliasName), relation := some relation }

/-- The number of rows of a select, in a column named `count`. -/
def Select.counting (select : Select) (aliasName : String) : Select :=
  { selection := .columns [("count", .countAll)], relation := some (.select select aliasName) }

end Sql
end ODataQuery
