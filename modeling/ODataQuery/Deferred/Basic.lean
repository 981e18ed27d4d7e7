import ODataQuery.Pipeline.Description
import ODataQuery.Sql.Plan

/-!
# Deferred queries

A deferred query is a question about a table that is asked of no database until it is executed.  It
can be continued with further operations, and described, as often as wanted.

* `DeferredQuery.andThen`: the query continued with one operation.  The query itself stays what it
  was, so several queries can continue the same one.
* `DeferredQuery.prepare`: the statement that answers the query, or why there is none.  It depends
  on the query alone.
* `DeferredQuery.describe`: the statement as text, below a comment that lists its parameters.
-/

set_option autoImplicit false

namespace ODataQuery

/-- What a deferred query asks. -/
inductive Origin where
  /-- A query over the rows that a text gives. -/
  | query (baseSql : String) (query : Query)
  /-- A pipeline, which names its own source. -/
  | pipeline (pipeline : Pipeline)

/-- A query over a table, to be executed later. -/
structure DeferredQuery where
  table : Sql.Table
  schema : Schema
  origin : Origin

/-- Why a deferred query has no statement. -/
inductive PreparationError where
  | pipeline (error : PipelineError)
  | sql (error : Sql.SqlError)
  | notSqlSource
  deriving DecidableEq, Repr

/-- The text of the error. -/
def PreparationError.message : PreparationError → String
  | pipeline error => error.message
  | sql error => error.message
  | notSqlSource => "The pipeline is not rooted on a SQL source."

/-- The statement that answers a query, and what the caller gets of its result. -/
structure Preparation where
  statement : Sql.Statement
  projector : Projector

namespace Projector

/-- What the run of the statement has to produce. -/
def expectedShape (projector : Projector) : Sql.ExpectedShape :=
  if projector.expectsCount then .count else .rows

/-- With an inline count, a query is asked for the number of its matches. -/
def ofInlineCount : InlineCount → Projector
  | .none => .rows
  | .allPages => .count

/-- What the caller gets, in words. -/
def description : Projector → String
  | rows => "rows"
  | count => "a count"
  | first => "the first row"
  | any => "whether any row exists"

end Projector

/-- The shape that the statement of a preparation has to produce. -/
def Preparation.shape (preparation : Preparation) : Sql.ExpectedShape :=
  preparation.projector.expectedShape

/-! ## Queries as pipelines -/

/-- The operations that sort by the keys, the first key first. -/
def Operation.ofSortKeys : List SortKey → List Operation
  | [] => []
  | key :: rest => .orderBy key :: rest.map .thenBy

/-- The operations that ask for the rows of a query.  They do not ask for an inline count. -/
def Query.operations (query : Query) : List Operation :=
  query.filter.toList.map .filter
    ++ Operation.ofSortKeys query.orderBy
    ++ (query.skip.filter (0 < ·)).toList.map .skip
    ++ query.top.toList.map .take

/-- The pipeline of what is asked. -/
def Origin.toPipeline : Origin → Pipeline
  | .query baseSql asked => ⟨.sql baseSql, asked.operations⟩
  | .pipeline asked => asked

namespace DeferredQuery

/-- Every row that a text gives. -/
def ofTable (table : Sql.Table) (schema : Schema) (baseSql : String) : DeferredQuery :=
  ⟨table, schema, .pipeline ⟨.sql baseSql, []⟩⟩

/-- The query continued with an operation.  An inline count is not kept. -/
def andThen (deferred : DeferredQuery) (operation : Operation) : DeferredQuery :=
  { deferred with origin := .pipeline (deferred.origin.toPipeline.andThen operation) }

/-! ## Preparation -/

/-- The rows to query, the query, and what the caller gets of its result. -/
def asked (deferred : DeferredQuery) :
    Except PreparationError (String × Query × Projector) :=
  match deferred.origin with
  | .query baseSql query => .ok (baseSql, query, .ofInlineCount query.inlineCount)
  | .pipeline pipeline => do
    let described ← (pipeline.describe deferred.schema).mapError .pipeline
    match described.source with
    | .sql baseSql => .ok (baseSql, described.query, described.projector)
    | .inMemory => .error .notSqlSource

/-- The statement that answers the query. -/
def prepare (deferred : DeferredQuery) : Except PreparationError Preparation := do
  let (baseSql, query, projector) ← deferred.asked
  let plan ← (deferred.table.plan baseSql query).mapError .sql
  .ok ⟨plan.statement projector.expectedShape, projector⟩

/-! ## Description -/

/-- The comment that says what a statement is for and which values its parameters have. -/
def header (preparation : Preparation) : List String :=
  ["/*", " * Materialize as " ++ preparation.projector.description]
    ++ preparation.statement.parameters.map (fun parameter =>
      " * " ++ parameter.name ++ " = " ++ Sql.BoundValue.describe parameter.value)
    ++ [" */"]

/-- The statement below its comment, or why there is none. -/
def describe (deferred : DeferredQuery) : String :=
  match deferred.prepare with
  | .ok preparation => "\n".intercalate (header preparation ++ [preparation.statement.text])
  | .error error => "Query could not be translated to SQL: " ++ error.message

end DeferredQuery
end ODataQuery
