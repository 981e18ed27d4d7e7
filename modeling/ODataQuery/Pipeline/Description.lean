import ODataQuery.Expression.Typing
import ODataQuery.Number.Integer
import ODataQuery.Pipeline.Basic

/-!
# The query a pipeline describes

The operations of a pipeline are folded into one query, from left to right; an operation that a
query cannot express at its place is refused.

* `Fold`: the query so far, and what decides whether the next operation is allowed.
* `Fold.refusal?`: why an operation is refused at its place, whatever its operands; `Fold.step`: the
  fold after one operation.
* `Pipeline.describe`: the query of a pipeline, with its source and its projector.

A later `orderBy` sorts first and leaves the earlier keys to break ties; a `thenBy` adds a last key.
`skip` and `take` compose to one skip and one top.
-/

set_option autoImplicit false

namespace ODataQuery

/-- Why an operation is refused at its place. -/
inductive Refusal where
  | materialized
  | paged
  | notAfterOrdering
  | skipOverflow
  | noQueryEquivalent
  deriving DecidableEq, Repr

/-- The reason in words. -/
def Refusal.reason : Refusal → String
  | materialized => "the pipeline has already been materialized"
  | paged => "it cannot be expressed after paging has been applied"
  | notAfterOrdering => "it must directly follow an ordering"
  | skipOverflow => "the accumulated skip overflows"
  | noQueryEquivalent => "it has no query descriptor equivalent"

/-- Why a pipeline describes no query. -/
inductive PipelineError where
  | unsupported (index : Nat) (operation : String) (refusal : Refusal)
  | schema (error : SchemaError)
  | type (error : TypeError)
  deriving DecidableEq, Repr

namespace PipelineError

/-- The text of the error. -/
def message : PipelineError → String
  | unsupported index operation refusal =>
    s!"Unsupported operation '{operation}' at position {index}: {refusal.reason}."
  | schema error => error.message
  | type error => error.message

/-- The error of a filter that does not pass its check. -/
def ofCheck : CheckError → PipelineError
  | .schema error => schema error
  | .type error => type error

end PipelineError

namespace Operation

/-- Does the operation sort. -/
def isOrdering : Operation → Bool
  | orderBy _ | thenBy _ => true
  | _ => false

/-- Does the operation look at all records, so that it cannot follow paging. -/
def seesAllRecords : Operation → Bool
  | filter _ | orderBy _ | thenBy _ | count => true
  | _ => false

end Operation

/-- The operations so far, as a query. -/
structure Fold where
  query : Query := {}
  /-- Was the last operation an ordering. -/
  ordered : Bool := false
  paged : Bool := false
  /-- The operation that ends the pipeline, by what the caller gets. -/
  terminal : Option Projector := none

namespace Fold

/-- The conjunction of the filter so far and a further predicate. -/
def conjunction (filter : Option Expression) (predicate : Expression) : Expression :=
  match filter with
  | none => predicate
  | some filter => .binary filter (.connective .and) predicate

/-- The keys with a new first one, which takes the place of any of the same property. -/
def primaryKey (keys : List SortKey) (key : SortKey) : List SortKey :=
  key :: keys.filter (·.property ≠ key.property)

/-- The keys with a new last one, unless there is one of the same property. -/
def lastKey (keys : List SortKey) (key : SortKey) : List SortKey :=
  if keys.any (·.property = key.property) then keys else keys ++ [key]

/-- The sum of two skips, if it has 64 bits. -/
def addSkip? (skip : Option UInt64) (count : UInt64) : Option UInt64 :=
  Number.natural? ((skip.getD 0).toNat + count.toNat)

/-- The difference, or zero if it would be negative. -/
def lessSkipped (top count : UInt64) : UInt64 :=
  if count ≤ top then top - count else 0

/-- The smaller of two limits, of which the first may be absent. -/
def limit (top : Option UInt64) (count : UInt64) : UInt64 :=
  match top with
  | none => count
  | some top => min top count

/-- Why an operation is refused after those so far. -/
def refusal? (fold : Fold) (operation : Operation) : Option Refusal :=
  if fold.terminal.isSome then some .materialized
  else if fold.paged && operation.seesAllRecords then some .paged
  else
    match operation with
    | .thenBy _ => if fold.ordered then none else some .notAfterOrdering
    | .skip count => if (addSkip? fold.query.skip count).isSome then none else some .skipOverflow
    | .distinct | .select _ | .groupBy _ | .reverse => some .noQueryEquivalent
    | _ => none

/-- What an operation that is not refused asks of the schema. -/
def check (schema : Schema) : Operation → Except PipelineError Unit
  | .filter predicate => (predicate.checkPredicate schema).mapError .ofCheck
  | .orderBy key | .thenBy key =>
    match schema.lookup key.property with
    | .ok _ => .ok ()
    | .error error => .error (.schema error)
  | _ => .ok ()

/-- The fold after an operation that is allowed. -/
def apply (fold : Fold) (operation : Operation) : Fold :=
  let query := fold.query
  let fold := { fold with ordered := operation.isOrdering }
  match operation with
  | .filter predicate =>
    { fold with query := { query with filter := some (conjunction query.filter predicate) } }
  | .orderBy key => { fold with query := { query with orderBy := primaryKey query.orderBy key } }
  | .thenBy key => { fold with query := { query with orderBy := lastKey query.orderBy key } }
  | .skip count =>
    { fold with
      query := { query with
        skip := addSkip? query.skip count
        top := query.top.map (lessSkipped · count) }
      paged := true }
  | .take count =>
    { fold with query := { query with top := some (limit query.top count) }, paged := true }
  | .toList => { fold with terminal := some .rows }
  | .count => { fold with terminal := some .count }
  | .first =>
    { fold with query := { query with top := some (limit query.top 1) }, terminal := some .first }
  | .any =>
    { fold with query := { query with top := some (limit query.top 1) }, terminal := some .any }
  | .distinct | .select _ | .groupBy _ | .reverse => fold

/-- The fold after the operation at an index. -/
def step (schema : Schema) (index : Nat) (fold : Fold) (operation : Operation) :
    Except PipelineError Fold :=
  match fold.refusal? operation with
  | some refusal => .error (.unsupported index operation.name refusal)
  | none => (check schema operation).map fun _ => fold.apply operation

/-- The fold after operations of which the first has the given index. -/
def run (schema : Schema) (index : Nat) (fold : Fold) : List Operation → Except PipelineError Fold
  | [] => .ok fold
  | operation :: rest => do
    let fold ← step schema index fold operation
    run schema (index + 1) fold rest

end Fold

/-- A pipeline as a query. -/
structure Description where
  query : Query
  source : Source
  projector : Projector

/-- The query that a pipeline describes.  Without an operation that ends it, rows are wanted. -/
def Pipeline.describe (pipeline : Pipeline) (schema : Schema) :
    Except PipelineError Description := do
  let fold ← Fold.run schema 0 {} pipeline.operations
  let projector := fold.terminal.getD .rows
  let inlineCount := if projector.expectsCount then .allPages else .none
  .ok ⟨{ fold.query with inlineCount := inlineCount }, pipeline.source, projector⟩

end ODataQuery
