import ODataQuery.Number.Integer
import ODataQuery.Sql.Condition
import ODataQuery.Sql.Writer

/-!
# Queries as SQL

A query over a table becomes two selects: one for the rows of the page it asks for, and one for the
number of all matches.

* `Table.matching`: the rows that match the filter.
* `Table.page`: those of them that the query asks for, in its ordering.  A page is never taken of an
  unordered relation: without an ordering of its own, a query gets the one of the table.
* `Table.plan`: the two selects.
-/

set_option autoImplicit false

namespace ODataQuery
namespace Sql

/-- The selects of a query. -/
structure Plan where
  dialect : Dialect
  rows : Select
  count : Select

/-- What the run of a select is expected to produce: rows, or one number. -/
inductive ExpectedShape where
  | rows
  | count
  deriving DecidableEq, Repr

/-- The name of the shape. -/
def ExpectedShape.name : ExpectedShape → String
  | rows => "Rows"
  | count => "Count"

/-- The statement that produces a shape. -/
def Plan.statement (plan : Plan) : ExpectedShape → Statement
  | .rows => plan.rows.toStatement plan.dialect
  | .count => plan.count.toStatement plan.dialect

namespace Table

/-! ## Orderings -/

/-- The keys of an ordering. -/
def keys (table : Table) : List SortKey → Except SqlError (List (Term × Direction))
  | [] => .ok []
  | key :: rest => do
    let column ← table.column key.property
    let keys ← keys table rest
    .ok ((column, key.direction) :: keys)

/-- The keys of a page of a query without an ordering. -/
def fallbackKeys (table : Table) : Except SqlError (List (Term × Direction)) :=
  match table.fallback with
  | none | some [] => .error .unorderedPage
  | some properties => table.keys (properties.map fun property => ⟨property, .asc⟩)

/-! ## Pages -/

/-- The alias of the numbered rows. -/
def numberedAlias : String := "q_paged"

/-- The name of the column with the number of the row. -/
def rowNumberName : String := "row_number"

/-- A number in the text of a statement; what an integer cannot hold is the greatest one. -/
def countTerm (n : Nat) : Term :=
  .integer ((Number.integer? n).getD Int64.maxValue)

/-- The sum, or the greatest number of 64 bits if that is smaller. -/
def saturatingSum (a b : UInt64) : Nat :=
  min (a.toNat + b.toNat) (UInt64.size - 1)

/-- The rows of a select whose number in an ordering is inside a page. -/
def numberedPage (select : Select) (keys : List (Term × Direction)) (top offset : Option UInt64) :
    Select :=
  let numbered : Select :=
    { select with
      selection := .both select.selection (.columns [(rowNumberName, .rowNumber keys)]) }
  let number : Term := .column (.byAlias numberedAlias) rowNumberName
  let offset := offset.getD 0
  let after : Term := .binary number (.comparison .gt) (countTerm offset.toNat)
  let condition : Term := match top with
    | none => after
    | some top =>
      .and after (.binary number (.comparison .le) (countTerm (saturatingSum offset top)))
  { Select.all numberedAlias (.select numbered numberedAlias) with
    condition := condition
    orderBy := [(number, .asc)] }

/-- The rows of a select that a query asks for, in its ordering. -/
def page (table : Table) (select : Select) (query : Query) : Except SqlError Select := do
  let keys ← table.keys query.orderBy
  if !query.isPaged then .ok { select with orderBy := keys }
  else if query.top = some 0 then .ok { select with condition := .bool false, orderBy := keys }
  else
    let keys ← if keys.isEmpty then table.fallbackKeys else .ok keys
    let offset := query.skip.filter (0 < ·)
    match table.dialect.paging with
    | .limitOffset _ | .offsetFetch =>
      .ok { select with orderBy := keys, limit := query.top, offset := offset }
    | .rowNumber => .ok (numberedPage select keys query.top offset)

/-! ## Plans -/

/-- The rows of a table that match the filter of a query. -/
def matching (table : Table) (baseSql : String) (query : Query) : Except SqlError Select := do
  let select := Select.all tableAlias (baseRelation baseSql tableAlias)
  match query.filter with
  | none => .ok select
  | some filter => do
    let condition ← table.condition filter
    .ok { select with condition := condition }

/-- The selects of a query over the table that a text gives.  The number of matches does not depend
on paging, so it needs no ordering. -/
def plan (table : Table) (baseSql : String) (query : Query) : Except SqlError Plan :=
  if Text.isBlankText baseSql then .error .blankBase
  else do
    let matching ← table.matching baseSql query
    let rows ← table.page matching query
    .ok ⟨table.dialect, rows, matching.counting "q_count"⟩

end Table
end Sql
end ODataQuery
