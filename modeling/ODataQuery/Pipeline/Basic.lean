import ODataQuery.Query.Basic

/-!
# Pipelines

A pipeline is a source followed by operations in the order of their application.  It is composed by
a program, where a query string is written by a user.

* `Operation`: the operations.  The last four have no meaning as a query.
* `Projector`: what the caller of a pipeline gets — rows, their number, the first, or whether there
  is any — and `Outcome`, what it is given.
-/

set_option autoImplicit false

namespace ODataQuery

/-- Where the records of a pipeline come from. -/
inductive Source where
  /-- A table, or a query that produces the rows. -/
  | sql (baseSql : String)
  /-- A sequence of records. -/
  | inMemory
  deriving DecidableEq, Repr

/-- One step of a pipeline. -/
inductive Operation where
  | filter (predicate : Expression)
  | orderBy (key : SortKey)
  | thenBy (key : SortKey)
  | skip (count : UInt64)
  | take (count : UInt64)
  | toList
  | count
  | first
  | any
  | distinct
  | select (properties : List String)
  | groupBy (property : String)
  | reverse

/-- The name of the operation. -/
def Operation.name : Operation → String
  | filter _ => "filter"
  | orderBy _ => "orderBy"
  | thenBy _ => "thenBy"
  | skip _ => "skip"
  | take _ => "take"
  | toList => "toList"
  | count => "count"
  | first => "first"
  | any => "any"
  | distinct => "distinct"
  | select _ => "select"
  | groupBy _ => "groupBy"
  | reverse => "reverse"

/-- A source and the operations applied to it. -/
structure Pipeline where
  source : Source
  operations : List Operation

/-- The pipeline with one more operation at its end. -/
def Pipeline.andThen (pipeline : Pipeline) (operation : Operation) : Pipeline :=
  { pipeline with operations := pipeline.operations ++ [operation] }

/-- What the caller of a pipeline gets of its result. -/
inductive Projector where
  | rows
  | count
  | first
  | any
  deriving DecidableEq, Repr

/-- A result as the caller of a pipeline gets it. -/
inductive Outcome (α : Type) where
  | rows (rows : List α)
  | count (count : UInt64)
  | first (row : Option α)
  | any (found : Bool)
  deriving DecidableEq, Repr

namespace Projector

/-- Is the number of matches needed, and not the rows. -/
def expectsCount (projector : Projector) : Bool :=
  projector == count

/-- What the caller gets of the rows of the result. -/
def projectRows {α : Type} (projector : Projector) (rows : List α) : Outcome α :=
  match projector with
  | .rows => .rows rows
  | count => .count (UInt64.ofNat rows.length)
  | first => .first rows.head?
  | any => .any (!rows.isEmpty)

/-- What the caller gets of the number of matches. -/
def projectCount {α : Type} (projector : Projector) (number : UInt64) : Outcome α :=
  match projector with
  | any => .any (0 < number)
  | _ => .count number

end Projector
end ODataQuery
