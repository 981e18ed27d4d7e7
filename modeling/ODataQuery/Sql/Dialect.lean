/-!
# SQL dialects

What varies between the databases that statements are written for: how identifiers are quoted, how
placeholders and pages are written, and how some functions are spelled.

* `Dialect`: one choice for each of these; the presets are the usual combinations.
-/

set_option autoImplicit false

namespace ODataQuery
namespace Sql

/-- How identifiers are quoted.  Inside, the closing mark is written twice. -/
inductive IdentifierQuoting where
  | doubleQuotes
  | brackets
  | backticks
  deriving DecidableEq, Repr

namespace IdentifierQuoting

/-- Every way of quoting. -/
def all : List IdentifierQuoting := [doubleQuotes, brackets, backticks]

/-- The mark before an identifier. -/
def opening : IdentifierQuoting → Char
  | doubleQuotes => '"'
  | brackets => '['
  | backticks => '\x60'

/-- The mark after an identifier. -/
def closing : IdentifierQuoting → Char
  | doubleQuotes => '"'
  | brackets => ']'
  | backticks => '\x60'

end IdentifierQuoting

/-- How the place of a parameter is written. -/
inductive PlaceholderStyle where
  /-- With an at sign and the name of the parameter. -/
  | atNamed
  /-- With a dollar sign and the number of the parameter. -/
  | dollarNumbered
  /-- With a question mark for every parameter. -/
  | questionMark
  deriving DecidableEq, Repr

namespace PlaceholderStyle

/-- Every way of writing placeholders. -/
def all : List PlaceholderStyle := [atNamed, dollarNumbered, questionMark]

/-- The placeholder of the parameter with a number, counted from one. -/
def write : PlaceholderStyle → Nat → String
  | atNamed, number => s!"@p{number}"
  | dollarNumbered, number => s!"${number}"
  | questionMark, _ => "?"

end PlaceholderStyle

/-- How a page of the rows is asked for. -/
inductive PagingStyle where
  /-- With `LIMIT` and `OFFSET`; in some databases the second needs the first. -/
  | limitOffset (offsetRequiresLimit : Bool)
  /-- With `OFFSET` and `FETCH NEXT`. -/
  | offsetFetch
  /-- With a condition on the number of the row. -/
  | rowNumber
  deriving DecidableEq, Repr

/-- The family that function spellings are taken from. -/
inductive FunctionStyle where
  | transactSql
  | postgres
  | sqlite
  deriving DecidableEq, Repr

/-- Every family of function spellings. -/
def FunctionStyle.all : List FunctionStyle := [transactSql, postgres, sqlite]

/-- All that varies between databases. -/
structure Dialect where
  identifierQuoting : IdentifierQuoting
  placeholder : PlaceholderStyle
  paging : PagingStyle
  functions : FunctionStyle
  deriving DecidableEq, Repr

namespace Dialect

/-- Microsoft SQL Server from 2012. -/
def sqlServer : Dialect := ⟨.brackets, .atNamed, .offsetFetch, .transactSql⟩

/-- Microsoft SQL Server before 2012, which cannot skip rows. -/
def sqlServerLegacy : Dialect := { sqlServer with paging := .rowNumber }

/-- PostgreSQL. -/
def postgres : Dialect := ⟨.doubleQuotes, .dollarNumbered, .limitOffset false, .postgres⟩

/-- SQLite. -/
def sqlite : Dialect := ⟨.doubleQuotes, .questionMark, .limitOffset true, .sqlite⟩

/-- The characters with a meaning in `LIKE` patterns, besides the escape character. -/
def likeWildcards (dialect : Dialect) : List Char :=
  match dialect.functions with
  | .transactSql => ['%', '_', '[']
  | .postgres | .sqlite => ['%', '_']

end Dialect
end Sql
end ODataQuery
