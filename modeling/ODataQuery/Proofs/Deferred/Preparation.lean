import ODataQuery.Deferred.Execution
import ODataQuery.Proofs.Pipeline.Meaning
import ODataQuery.Proofs.Sql.Plan

/-!
# What a deferred query stands for

A deferred query stands for a query over the rows of some text, or it is refused.  Which of the two,
and whether it is answered by a number or by rows, can be told without preparing it.

* `Pipeline.projector_of_describe`: what the caller of a pipeline gets is decided by its last
  operation.
* `Origin.AsksForCount`: the last operation counts, or a query asks for an inline count.
* `DeferredQuery.StandsFor`, `DeferredQuery.Refuses`: the query, and why there is none.
* `DeferredQuery.prepare_eq_ok`, `DeferredQuery.prepare_eq_error`: preparation finds the statement
  of the query for the shape that is asked for, or fails as the query is refused.
* `Preparation.run_submit`: what happens when a statement is submitted, and what the caller gets.
* `DeferredQuery.calls_execute`, `DeferredQuery.execute_of_refuses`: execution calls the executor
  with that statement, or not at all.
-/

set_option autoImplicit false

namespace ODataQuery

/-! ## What the caller of a pipeline gets -/

/-- What the caller gets of a pipeline that the operation ends, if it ends one. -/
def Operation.projector? : Operation → Option Projector
  | toList => some .rows
  | count => some .count
  | first => some .first
  | any => some .any
  | _ => none

/-- What the last operation ends the pipeline with; rows if it ends nothing. -/
def Pipeline.projector (pipeline : Pipeline) : Projector :=
  (pipeline.operations.getLast?.bind Operation.projector?).getD .rows

namespace Fold

theorem terminal_apply {fold : Fold} (h : fold.terminal = none) (operation : Operation) :
    (fold.apply operation).terminal = operation.projector? := by
  cases operation <;> first | exact h | rfl

/-- No operation comes after one that ends a pipeline, so the last one decides. -/
theorem terminal_run {schema : Schema} {operations : List Operation} {index : Nat}
    {fold last : Fold} (h : fold.terminal = none)
    (hrun : run schema index fold operations = .ok last) :
    last.terminal = operations.getLast?.bind Operation.projector? := by
  induction operations generalizing index fold with
  | nil =>
    rw [run] at hrun
    cases hrun
    exact h
  | cons operation rest ih =>
    obtain ⟨next, hnext, hrest⟩ := bind_eq_ok.1 hrun
    obtain ⟨-, -, rfl⟩ := step_eq_ok.1 hnext
    cases rest with
    | nil =>
      rw [run] at hrest
      cases hrest
      exact terminal_apply h operation
    | cons second rest =>
      obtain ⟨_, hsecond, -⟩ := bind_eq_ok.1 hrest
      rw [List.getLast?_cons_cons]
      exact ih (terminal_of_allowed (step_eq_ok.1 hsecond).1) hrest

end Fold

theorem Pipeline.projector_of_describe {pipeline : Pipeline} {schema : Schema}
    {description : Description} (h : pipeline.describe schema = .ok description) :
    description.projector = pipeline.projector := by
  obtain ⟨fold, hfold, hdescription⟩ := bind_eq_ok.1 h
  cases hdescription
  rw [Pipeline.projector, ← Fold.terminal_run rfl hfold]

/-! ## What is asked for -/

namespace Origin

/-- What the caller gets. -/
def projector : Origin → Projector
  | query _ asked => .ofInlineCount asked.inlineCount
  | pipeline asked => asked.projector

/-- The number of the matches is asked for, by the last operation of a pipeline or the inline count
of a query. -/
inductive AsksForCount : Origin → Prop where
  | inlineCount {baseSql : String} {asked : Query} (h : asked.inlineCount = .allPages) :
    AsksForCount (query baseSql asked)
  | count {asked : Pipeline} (h : asked.operations.getLast? = some .count) :
    AsksForCount (pipeline asked)

theorem asksForCount_iff {origin : Origin} :
    origin.AsksForCount ↔ origin.projector.expectedShape = .count := by
  constructor
  · rintro (h | h)
    · rw [projector, h]
      rfl
    · rw [projector, Pipeline.projector, h]
      rfl
  · intro h
    cases origin with
    | query baseSql asked =>
      cases hinline : asked.inlineCount with
      | none => rw [projector, hinline] at h; cases h
      | allPages => exact .inlineCount hinline
    | pipeline asked =>
      rw [projector, Pipeline.projector] at h
      cases hlast : asked.operations.getLast? with
      | none => rw [hlast] at h; cases h
      | some operation =>
        rw [hlast] at h
        cases operation with
        | count => exact .count hlast
        | _ => cases h

end Origin

namespace DeferredQuery

variable {deferred : DeferredQuery}

/-- The shape of what answers the query: the number of the matches, or rows. -/
def shape (deferred : DeferredQuery) : Sql.ExpectedShape :=
  deferred.origin.projector.expectedShape

/-- The deferred query stands for a query over the rows that a text gives. -/
inductive StandsFor (deferred : DeferredQuery) : String → Query → Prop where
  | query {baseSql : String} {query : Query} (horigin : deferred.origin = .query baseSql query) :
    StandsFor deferred baseSql query
  | pipeline {pipeline : Pipeline} {description : Description} {baseSql : String}
    (horigin : deferred.origin = .pipeline pipeline)
    (hdescription : pipeline.describe deferred.schema = .ok description)
    (hsource : description.source = .sql baseSql) : StandsFor deferred baseSql description.query

/-- Why a deferred query has no statement: its pipeline describes no query, or one of records in
memory, or its query has no plan. -/
inductive Refuses (deferred : DeferredQuery) : PreparationError → Prop where
  | pipeline {pipeline : Pipeline} {error : PipelineError}
    (horigin : deferred.origin = .pipeline pipeline)
    (hdescription : pipeline.describe deferred.schema = .error error) :
    Refuses deferred (.pipeline error)
  | notSqlSource {pipeline : Pipeline} {description : Description}
    (horigin : deferred.origin = .pipeline pipeline)
    (hdescription : pipeline.describe deferred.schema = .ok description)
    (hsource : description.source = .inMemory) : Refuses deferred .notSqlSource
  | sql {baseSql : String} {query : Query} {error : Sql.SqlError}
    (hquery : deferred.StandsFor baseSql query)
    (hplan : deferred.table.plan baseSql query = .error error) : Refuses deferred (.sql error)

theorem asked_eq_ok {baseSql : String} {query : Query} {projector : Projector} :
    deferred.asked = .ok (baseSql, query, projector)
      ↔ deferred.StandsFor baseSql query ∧ projector = deferred.origin.projector := by
  obtain ⟨table, schema, origin⟩ := deferred
  cases origin with
  | query base asked =>
    constructor
    · intro h
      cases h
      exact ⟨.query rfl, rfl⟩
    · rintro ⟨hquery, rfl⟩
      cases hquery with
      | query horigin => cases horigin; rfl
      | pipeline horigin => cases horigin
  | pipeline asked =>
    rw [DeferredQuery.asked, bind_eq_ok]
    simp only [mapError_eq_ok]
    constructor
    · rintro ⟨description, hdescription, h⟩
      split at h
      · rename_i hsource
        cases h
        exact ⟨.pipeline rfl hdescription hsource, Pipeline.projector_of_describe hdescription⟩
      · cases h
    · rintro ⟨hquery, rfl⟩
      cases hquery with
      | query horigin => cases horigin
      | @pipeline _ description _ horigin hdescription hsource =>
        cases horigin
        refine ⟨description, hdescription, ?_⟩
        rw [hsource, Origin.projector, ← Pipeline.projector_of_describe hdescription]

theorem asked_eq_error {error : PreparationError} (h : deferred.asked = .error error) :
    deferred.Refuses error := by
  obtain ⟨table, schema, origin⟩ := deferred
  cases origin with
  | query base asked => cases h
  | pipeline asked =>
    rw [DeferredQuery.asked, bind_eq_error] at h
    simp only [mapError_eq_error, mapError_eq_ok] at h
    rcases h with ⟨cause, hdescription, rfl⟩ | ⟨description, hdescription, h⟩
    · exact .pipeline rfl hdescription
    · split at h
      · cases h
      · rename_i hsource
        cases h
        exact .notSqlSource rfl hdescription hsource

/-- **Preparation finds the statement** of the query that a deferred query stands for. -/
theorem prepare_eq_ok {preparation : Preparation} : deferred.prepare = .ok preparation
    ↔ ∃ baseSql query plan, deferred.StandsFor baseSql query
      ∧ deferred.table.plan baseSql query = .ok plan
      ∧ preparation = ⟨plan.statement deferred.shape, deferred.origin.projector⟩ := by
  simp only [prepare, bind_eq_ok, mapError_eq_ok, Except.ok.injEq, Prod.exists, asked_eq_ok]
  constructor
  · rintro ⟨baseSql, query, _, ⟨hquery, rfl⟩, plan, hplan, rfl⟩
    exact ⟨baseSql, query, plan, hquery, hplan, rfl⟩
  · rintro ⟨baseSql, query, plan, hquery, hplan, rfl⟩
    exact ⟨baseSql, query, _, ⟨hquery, rfl⟩, plan, hplan, rfl⟩

/-- **Preparation fails** as the deferred query is refused. -/
theorem prepare_eq_error {error : PreparationError} :
    deferred.prepare = .error error ↔ deferred.Refuses error := by
  constructor
  · intro h
    simp only [prepare, bind_eq_error, mapError_eq_error, reduceCtorEq, and_false, exists_false,
      or_false, Prod.exists, asked_eq_ok] at h
    rcases h with h | ⟨baseSql, query, _, ⟨hquery, -⟩, cause, hplan, rfl⟩
    · exact asked_eq_error h
    · exact .sql hquery hplan
  · obtain ⟨table, schema, origin⟩ := deferred
    rw [prepare, bind_eq_error]
    rintro (⟨⟨⟩, hdescription⟩ | ⟨⟨⟩, hdescription, hsource⟩ | ⟨hquery, hplan⟩)
    · left
      exact bind_eq_error.2 (.inl (mapError_eq_error.2 ⟨_, hdescription, rfl⟩))
    · left
      refine bind_eq_error.2 (.inr ⟨_, mapError_eq_ok.2 hdescription, ?_⟩)
      rw [hsource]
    · right
      refine ⟨_, asked_eq_ok.2 ⟨hquery, rfl⟩, ?_⟩
      exact bind_eq_error.2 (.inl (mapError_eq_error.2 ⟨_, hplan, rfl⟩))

end DeferredQuery

/-! ## Execution -/

section Execution

variable {ρ ε : Type} (executor : Executor ρ ε)

namespace Preparation

variable (preparation : Preparation)

/-- What the caller gets of the call that a preparation makes. -/
def outcome : Except (ExecutionError ε) (Outcome ρ) := do
  let output ← (executor preparation.call.statement preparation.call.shape).mapError .executor
  preparation.projector.project output

/-- The last stage is entered if there is an outcome. -/
def lastStages : List Stage :=
  match preparation.outcome executor with
  | .ok _ => [.materialized]
  | .error _ => []

/-- **A statement is submitted by one call** of the executor. -/
theorem run_submit : (preparation.submit executor).run = ⟨preparation.outcome executor,
    [.entered .executing, .called preparation.call]
      ++ (preparation.lastStages executor).map .entered⟩ := by
  rw [submit, lastStages, outcome, Executor.call]
  cases executor preparation.call.statement preparation.call.shape with
  | error error => rfl
  | ok output =>
    -- the shapes alone decide whether there is an outcome
    obtain ⟨statement, projector⟩ := preparation
    cases projector <;> cases output <;> rfl

end Preparation

namespace DeferredQuery

variable {deferred : DeferredQuery}

/-- **Where there is no statement, nothing happens** after the attempt to find one. -/
theorem run_materialize_of_error {error : PreparationError} (h : deferred.prepare = .error error) :
    (deferred.materialize executor).run
      = ⟨.error (.preparation error), [.entered .unmaterialized, .entered .preparing]⟩ := by
  rw [materialize, h]
  rfl

/-- A statement is submitted as soon as it is found. -/
theorem run_materialize_of_ok {preparation : Preparation} (h : deferred.prepare = .ok preparation) :
    (deferred.materialize executor).run
      = ⟨preparation.outcome executor, [.entered .unmaterialized, .entered .preparing]
        ++ ([.entered .executing, .called preparation.call]
          ++ (preparation.lastStages executor).map .entered)⟩ := by
  rw [materialize, h]
  show Logged.mk (preparation.submit executor).run.value
    ([.entered .unmaterialized, .entered .preparing] ++ (preparation.submit executor).run.log) = _
  rw [Preparation.run_submit]

/-- An execution that is refused makes no call. -/
theorem execute_of_refuses {error : PreparationError} (h : deferred.Refuses error) :
    deferred.execute executor
      = ⟨[], [.unmaterialized, .preparing], .error (.preparation error)⟩ := by
  rw [execute, run_materialize_of_error executor (prepare_eq_error.2 h)]
  rfl

/-- **An execution with a statement makes one call**, whatever becomes of it. -/
theorem execute_of_ok {preparation : Preparation} (h : deferred.prepare = .ok preparation) :
    deferred.execute executor
      = ⟨[preparation.call],
        [.unmaterialized, .preparing, .executing] ++ preparation.lastStages executor,
        preparation.outcome executor⟩ := by
  rw [execute, run_materialize_of_ok executor h, Execution.ofLogged, Logged.calls, Logged.stages,
    Preparation.lastStages]
  cases preparation.outcome executor <;> rfl

/-- Any other execution makes one call, with the statement for the shape that is asked for. -/
theorem calls_execute {baseSql : String} {query : Query} {plan : Sql.Plan}
    (hquery : deferred.StandsFor baseSql query)
    (hplan : deferred.table.plan baseSql query = .ok plan) :
    (deferred.execute executor).calls = [⟨plan.statement deferred.shape, deferred.shape⟩] := by
  rw [execute_of_ok executor (prepare_eq_ok.2 ⟨baseSql, query, plan, hquery, hplan, rfl⟩)]
  rfl

theorem shape_of_mem_calls {call : Call} (h : call ∈ (deferred.execute executor).calls) :
    call.shape = deferred.shape := by
  cases hprepare : deferred.prepare with
  | error error =>
    rw [execute_of_refuses executor (prepare_eq_error.1 hprepare)] at h
    cases h
  | ok preparation =>
    obtain ⟨_, _, _, hquery, hplan, -⟩ := prepare_eq_ok.1 hprepare
    rw [calls_execute executor hquery hplan] at h
    rw [List.mem_singleton.1 h]

end DeferredQuery

end Execution

end ODataQuery
