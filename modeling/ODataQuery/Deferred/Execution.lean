import ODataQuery.Deferred.Basic
import ODataQuery.Logged

/-!
# Execution of deferred queries

An executor runs a statement and produces rows or a number.  The execution of a query prepares a
statement and, if there is one, calls the executor.

* `Executor`: what runs statements; `answering`, `alwaysRows`, `alwaysCount` and `failing` are
  executors of known behaviour.
* `Stage`: how far an execution has come.
* `Event`: what happens on the way.  `Executor.call` is the only place where an executor is applied,
  and each call of it is logged.
* `Preparation.submit`, `DeferredQuery.materialize`: an execution, with a log of its events.
* `Execution`, `DeferredQuery.execute`: the calls, the stages and the result of one execution.
-/

set_option autoImplicit false

namespace ODataQuery

/-- What an executor produces. -/
inductive Output (ρ : Type) where
  | rows (rows : List ρ)
  | count (count : UInt64)

/-- The shape of an output. -/
def Output.shape {ρ : Type} : Output ρ → Sql.ExpectedShape
  | rows _ => .rows
  | count _ => .count

/-- Runs a statement that is to produce the given shape.  Rows are of type `ρ`, failures of `ε`. -/
abbrev Executor (ρ ε : Type) := Sql.Statement → Sql.ExpectedShape → Except ε (Output ρ)

namespace Executor

variable {ρ ε : Type}

/-- Produces what is asked for: the rows, or the number. -/
def answering (rows : List ρ) (count : UInt64) : Executor ρ ε
  | _, .rows => .ok (.rows rows)
  | _, .count => .ok (.count count)

/-- Produces the rows, whatever is asked for. -/
def alwaysRows (rows : List ρ) : Executor ρ ε :=
  fun _ _ => .ok (.rows rows)

/-- Produces the number, whatever is asked for. -/
def alwaysCount (count : UInt64) : Executor ρ ε :=
  fun _ _ => .ok (.count count)

/-- Fails. -/
def failing (error : ε) : Executor ρ ε :=
  fun _ _ => .error error

end Executor

/-- How far an execution has come. -/
inductive Stage where
  | unmaterialized
  | preparing
  | executing
  | materialized
  deriving DecidableEq, Repr

/-- The name of the stage. -/
def Stage.name : Stage → String
  | unmaterialized => "unmaterialized"
  | preparing => "translating"
  | executing => "executing"
  | materialized => "materialized"

/-- Why an execution has no outcome. -/
inductive ExecutionError (ε : Type) where
  | preparation (error : PreparationError)
  | unexpectedShape (expected found : Sql.ExpectedShape)
  | executor (error : ε)
  deriving DecidableEq, Repr

/-- The text of the error, with the text of an executor's failure. -/
def ExecutionError.message {ε : Type} (executorMessage : ε → String) : ExecutionError ε → String
  | preparation error => error.message
  | unexpectedShape expected found =>
    s!"The executor returned {found.name} where {expected.name} was expected."
  | executor error => executorMessage error

/-- One call of an executor. -/
structure Call where
  statement : Sql.Statement
  shape : Sql.ExpectedShape
  deriving DecidableEq

/-- The call that runs the statement of a preparation. -/
def Preparation.call (preparation : Preparation) : Call :=
  ⟨preparation.statement, preparation.shape⟩

/-! ## Events -/

/-- What happens while a query is executed. -/
inductive Event where
  /-- A stage was entered. -/
  | entered (stage : Stage)
  /-- The executor was called. -/
  | called (call : Call)
  deriving DecidableEq

namespace Event

/-- The stage that was entered, if one was. -/
def stage? : Event → Option Stage
  | entered stage => some stage
  | called _ => none

/-- The call that was made, if one was. -/
def call? : Event → Option Call
  | entered _ => none
  | called call => some call

end Event

/-- The stages that were entered, in order. -/
def Logged.stages {α : Type} (logged : Logged Event α) : List Stage :=
  logged.log.filterMap Event.stage?

/-- The calls of the executor, in order. -/
def Logged.calls {α : Type} (logged : Logged Event α) : List Call :=
  logged.log.filterMap Event.call?

/-- Enter a stage. -/
def enter (stage : Stage) : Logged Event Unit :=
  .noting (.entered stage) ()

/-- Call the executor. -/
def Executor.call {ρ ε : Type} (executor : Executor ρ ε) (call : Call) :
    Logged Event (Except ε (Output ρ)) :=
  .noting (.called call) (executor call.statement call.shape)

/-- One execution of a query. -/
structure Execution (ρ ε : Type) where
  /-- The calls of the executor, in order. -/
  calls : List Call
  /-- The stages that were entered, in order. -/
  stages : List Stage
  result : Except (ExecutionError ε) (Outcome ρ)

/-- The execution that a computation with a log of its events is. -/
def Execution.ofLogged {ρ ε : Type}
    (logged : Logged Event (Except (ExecutionError ε) (Outcome ρ))) : Execution ρ ε :=
  ⟨logged.calls, logged.stages, logged.value⟩

namespace Projector

variable {ρ ε : Type}

/-- What the caller gets of an output, which must have the expected shape. -/
def project (projector : Projector) (output : Output ρ) :
    Except (ExecutionError ε) (Outcome ρ) :=
  match projector.expectedShape, output with
  | .rows, .rows found => .ok (projector.projectRows found)
  | .count, .count number => .ok (projector.projectCount number)
  | expected, output => .error (.unexpectedShape expected output.shape)

end Projector

variable {ρ ε : Type}

/-- Let the executor run the statement, and make of its output what the caller asked for. -/
def Preparation.submit (executor : Executor ρ ε) (preparation : Preparation) :
    ExceptT (ExecutionError ε) (Logged Event) (Outcome ρ) := do
  enter .executing
  let answer ← executor.call preparation.call
  let output ← MonadExcept.ofExcept (answer.mapError .executor)
  let outcome ← MonadExcept.ofExcept (preparation.projector.project output)
  enter .materialized
  return outcome

namespace DeferredQuery

/-- Prepare the statement, and submit it if there is one. -/
def materialize (executor : Executor ρ ε) (deferred : DeferredQuery) :
    ExceptT (ExecutionError ε) (Logged Event) (Outcome ρ) := do
  enter .unmaterialized
  enter .preparing
  let preparation ← MonadExcept.ofExcept (deferred.prepare.mapError .preparation)
  preparation.submit executor

/-- The execution of the query.  Each one starts afresh. -/
def execute (executor : Executor ρ ε) (deferred : DeferredQuery) : Execution ρ ε :=
  .ofLogged (deferred.materialize executor).run

end DeferredQuery
end ODataQuery
