import ODataQuery.Pipeline.Description
import ODataQuery.Records.Evaluation
import ODataQuery.Records.Sort

/-!
# Answering queries from records

A query is resolved against a binding into a `Selection`, which says of any list of records which of
them the query asks for, in which order.

* `Selection.test`, `Selection.putInOrder`: testing one record and sorting some, with what is read of
  them.
* `Selection.ordered`: the records that match, in the ordering; null comes first in an ascending key.
* `Selection.result`: those of them that are on the page.
* `Query.apply`: the selection of a query, and the one that counts all its matches.
* `Pipeline.run`: what the caller of a pipeline gets from a list of records.
-/

set_option autoImplicit false

namespace ODataQuery

/-- A key of an ordering that can be read from records. -/
structure ResolvedKey (ρ : Type) where
  name : String
  read : ρ → Value
  direction : Direction

/-- A query that can be answered from records. -/
structure Selection (ρ : Type) where
  filter : Option (Node ρ)
  keys : List (ResolvedKey ρ)
  skip : Nat
  top : Option Nat

/-- The reading of a property of a record. -/
structure Access (ρ : Type) where
  record : ρ
  property : String
  deriving DecidableEq, Repr

namespace Selection

variable {ρ : Type}

/-! ## Resolving -/

/-- Resolve the keys of an ordering. -/
def resolveKeys (binding : Binding ρ) :
    List SortKey → Except UnboundProperty (List (ResolvedKey ρ))
  | [] => .ok []
  | key :: rest => do
    let read ← binding.reader key.property
    let keys ← resolveKeys binding rest
    .ok (⟨key.property, read, key.direction⟩ :: keys)

/-- Resolve the filter of a query. -/
def resolveFilter (binding : Binding ρ) :
    Option Expression → Except UnboundProperty (Option (Node ρ))
  | none => .ok none
  | some filter => (Node.resolve binding filter).map some

/-- Resolve a query. -/
def ofQuery (binding : Binding ρ) (query : Query) : Except UnboundProperty (Selection ρ) := do
  let filter ← resolveFilter binding query.filter
  let keys ← resolveKeys binding query.orderBy
  .ok ⟨filter, keys, (query.skip.getD 0).toNat, query.top.map UInt64.toNat⟩

/-! ## Selecting -/

/-- Test a record against the filter. -/
def test (selection : Selection ρ) (record : ρ) : Logged (Access ρ) Bool :=
  match selection.filter with
  | none => pure true
  | some filter => (filter.test record).relabel fun property => ⟨record, property⟩

/-- Does a record match the filter. -/
def accepts (selection : Selection ρ) (record : ρ) : Bool :=
  (selection.test record).value

theorem value_test (selection : Selection ρ) (record : ρ) :
    (selection.test record).value = selection.accepts record := rfl

theorem accepts_eq (selection : Selection ρ) (record : ρ) :
    selection.accepts record = selection.filter.all (·.selects record) := by
  rw [accepts, test]
  cases selection.filter <;> rfl

/-- Read the keys of a record, one after the other. -/
def readKeys (selection : Selection ρ) (record : ρ) : Logged (Access ρ) (List Value) :=
  selection.keys.mapM fun key => .noting ⟨record, key.name⟩ (key.read record)

/-- The values of the keys for a record. -/
def keyValues (selection : Selection ρ) (record : ρ) : List Value :=
  (selection.readKeys record).value

theorem keyValues_eq (selection : Selection ρ) (record : ρ) :
    selection.keyValues record = selection.keys.map fun key => key.read record :=
  Logged.value_mapM _ _

/-- The order of two values in a direction.  Values that cannot be compared are equal. -/
def compareValues (direction : Direction) (left right : Value) : Ordering :=
  let order := (left.compare right).getD .eq
  match direction with
  | .asc => order
  | .desc => order.swap

/-- The order of two lists of key values: the first key that tells them apart decides. -/
def compareKeys : List Direction → List Value → List Value → Ordering
  | direction :: directions, left :: lefts, right :: rights =>
    (compareValues direction left right).then (compareKeys directions lefts rights)
  | _, _, _ => .eq

/-- The directions of the keys. -/
def directions (selection : Selection ρ) : List Direction :=
  selection.keys.map ResolvedKey.direction

/-- Is one record to stand before another, by the values of their keys. -/
def precedes (selection : Selection ρ) (left right : List Value × ρ) : Bool :=
  compareKeys selection.directions left.1 right.1 == .lt

/-- Put records in the ordering.  The keys of each are read once, before any of them is moved. -/
def putInOrder (selection : Selection ρ) (records : List ρ) : Logged (Access ρ) (List ρ) := do
  let keyed ← records.mapM fun record => do
    let values ← selection.readKeys record
    pure (values, record)
  pure ((StableSort.sort selection.precedes keyed).map Prod.snd)

/-- The records in the ordering. -/
def sort (selection : Selection ρ) (records : List ρ) : List ρ :=
  (selection.putInOrder records).value

theorem sort_eq (selection : Selection ρ) (records : List ρ) :
    selection.sort records
      = (StableSort.sort selection.precedes
          (records.map fun record => (selection.keyValues record, record))).map Prod.snd := by
  simp [sort, putInOrder, keyValues]

/-- The matching records in the ordering. -/
def ordered (selection : Selection ρ) (records : List ρ) : List ρ :=
  let matching := records.filter selection.accepts
  if selection.keys.isEmpty then matching else selection.sort matching

/-- The records on the page. -/
def page (selection : Selection ρ) (records : List ρ) : List ρ :=
  let rest := records.drop selection.skip
  match selection.top with
  | none => rest
  | some top => rest.take top

/-- The records a query asks for. -/
def result (selection : Selection ρ) (records : List ρ) : List ρ :=
  selection.page (selection.ordered records)

end Selection

/-- The selections of a query: of its result, and of all its matches. -/
structure Application (ρ : Type) where
  result : Selection ρ
  countSource : Selection ρ

/-- The selections of a query. -/
def Query.apply {ρ : Type} (binding : Binding ρ) (query : Query) :
    Except UnboundProperty (Application ρ) := do
  let result ← Selection.ofQuery binding query
  let countSource ← Selection.ofQuery binding query.unpaged
  .ok ⟨result, countSource⟩

/-! ## Pipelines -/

/-- Why a pipeline cannot be run on records. -/
inductive RunError where
  | unbound (error : UnboundProperty)
  | pipeline (error : PipelineError)
  deriving DecidableEq, Repr

/-- The text of the error. -/
def RunError.message : RunError → String
  | unbound error => error.message
  | pipeline error => error.message

/-- What the caller of a pipeline gets from a list of records. -/
def Pipeline.run {ρ : Type} (binding : Binding ρ) (records : List ρ) (pipeline : Pipeline) :
    Except RunError (Outcome ρ) := do
  let description ← (pipeline.describe binding.schema).mapError .pipeline
  let selections ← (description.query.apply binding).mapError .unbound
  let projector := description.projector
  .ok <|
    if projector.expectsCount then
      projector.projectCount (UInt64.ofNat (selections.countSource.result records).length)
    else projector.projectRows (selections.result.result records)

end ODataQuery
