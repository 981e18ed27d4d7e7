import ODataQuery.Deferred.Session
import ODataQuery.Proofs.Deferred.Preparation

/-!
# When the executor is called

The executor is called by executions only, and by an execution once, with the statement that the
description of the query shows; or not at all, if there is no statement.  It does not matter when a
query is executed, how often, or what else has been made of it.

* `Call.ShownIn`: a description shows the statement of a call.
* `Execution.Disciplined`: all that an execution has to keep to; `DeferredQuery.execute_disciplined`
  says that every execution does.
* `Session.after`: the queries after some steps; `SessionStep.Grounded`: the steps name none but
  queries built before them.
* `SessionStep.Keeps`: what a step has to answer; `Session.perform_keeps` is about one step, and
  `Session.trace_keeps` about any number of them, by induction: a query stays at its handle.
* `Session.run_disciplined`: so a session calls the executor in its executions only, and in those of
  one query alike.
-/

set_option autoImplicit false

namespace ODataQuery

variable {ρ ε : Type}

/-! ## Executions -/

/-- The description shows the statement of the call: the values of its parameters by their names,
and its text below them. -/
def Call.ShownIn (call : Call) (description : String) : Prop :=
  ∃ heading, description = "\n".intercalate
    (["/*", heading]
      ++ call.statement.parameters.map (fun parameter =>
        " * " ++ parameter.name ++ " = " ++ Sql.BoundValue.describe parameter.value)
      ++ [" */", call.statement.text])

/-- The one call that the execution of a query makes, and what becomes of it. -/
structure Execution.Answers (executor : Executor ρ ε) (deferred : DeferredQuery) (plan : Sql.Plan)
    (call : Call) (execution : Execution ρ ε) : Prop where
  calls : execution.calls = [call]
  shape : call.shape = .count ↔ deferred.origin.AsksForCount
  statement : call.statement = plan.statement call.shape
  shown : call.ShownIn deferred.describe
  executing : .executing ∈ execution.stages
  materialized : .materialized ∈ execution.stages ↔ ∃ outcome, execution.result = .ok outcome
  result : (∃ outcome, execution.result = .ok outcome)
    ↔ ∃ output, executor call.statement call.shape = .ok output ∧ output.shape = call.shape

/-- What an execution of a query has to keep to. -/
structure Execution.Disciplined (executor : Executor ρ ε) (deferred : DeferredQuery)
    (execution : Execution ρ ε) : Prop where
  /-- A query that is refused is not executed. -/
  refused : ∀ error, deferred.Refuses error → execution.calls = []
    ∧ execution.stages = [.unmaterialized, .preparing]
    ∧ execution.result = .error (.preparation error)
  /-- A query with a plan is answered by one call. -/
  answered : ∀ baseSql query plan, deferred.StandsFor baseSql query →
    deferred.table.plan baseSql query = .ok plan →
      ∃ call, execution.Answers executor deferred plan call
  /-- There are no other queries. -/
  total : (∃ error, deferred.Refuses error) ∨ ∃ baseSql query plan, deferred.StandsFor baseSql query
    ∧ deferred.table.plan baseSql query = .ok plan

/-- An output can be projected if it has the expected shape. -/
theorem Projector.exists_project_iff {projector : Projector} {output : Output ρ} :
    (∃ outcome, (projector.project output : Except (ExecutionError ε) _) = .ok outcome)
      ↔ output.shape = projector.expectedShape := by
  unfold project
  cases projector.expectedShape <;> cases output <;> simp [Output.shape]

namespace DeferredQuery

variable {deferred : DeferredQuery} {executor : Executor ρ ε}

theorem exists_outcome_iff {preparation : Preparation} :
    (∃ result, preparation.outcome executor = .ok result)
      ↔ ∃ output, executor preparation.statement preparation.shape = .ok output
        ∧ output.shape = preparation.shape := by
  simp only [Preparation.outcome, bind_eq_ok, mapError_eq_ok]
  rw [exists_comm]
  refine exists_congr fun output => ?_
  rw [exists_and_left, Projector.exists_project_iff]
  rfl

/-- A description shows the statement of the query. -/
theorem shownIn_describe {preparation : Preparation} (h : deferred.prepare = .ok preparation) :
    preparation.call.ShownIn deferred.describe := by
  refine ⟨" * Materialize as " ++ preparation.projector.description, ?_⟩
  simp only [describe, h, header, List.append_assoc]
  rfl

theorem stages_execute {preparation : Preparation} (h : deferred.prepare = .ok preparation) :
    .executing ∈ (deferred.execute executor).stages
      ∧ (.materialized ∈ (deferred.execute executor).stages
        ↔ ∃ outcome, (deferred.execute executor).result = .ok outcome) := by
  rw [execute_of_ok executor h, Preparation.lastStages]
  cases preparation.outcome executor <;> simp

theorem execute_answers {baseSql : String} {query : Query} {plan : Sql.Plan}
    (hquery : deferred.StandsFor baseSql query)
    (hplan : deferred.table.plan baseSql query = .ok plan) :
    (deferred.execute executor).Answers executor deferred plan
      ⟨plan.statement deferred.shape, deferred.shape⟩ := by
  have hprepare := prepare_eq_ok.2 ⟨baseSql, query, plan, hquery, hplan, rfl⟩
  exact {
    calls := calls_execute executor hquery hplan
    shape := Origin.asksForCount_iff.symm
    statement := rfl
    shown := shownIn_describe hprepare
    executing := (stages_execute hprepare).1
    materialized := (stages_execute hprepare).2
    result := by
      rw [execute_of_ok executor hprepare]
      exact exists_outcome_iff }

/-- **Every execution is disciplined.** -/
theorem execute_disciplined (executor : Executor ρ ε) (deferred : DeferredQuery) :
    (deferred.execute executor).Disciplined executor deferred where
  refused error h := by
    rw [execute_of_refuses executor h]
    exact ⟨rfl, rfl, rfl⟩
  answered _ _ _ hquery hplan := ⟨_, execute_answers hquery hplan⟩
  total := by
    cases hprepare : deferred.prepare with
    | error error => exact .inl ⟨error, prepare_eq_error.1 hprepare⟩
    | ok preparation =>
      obtain ⟨baseSql, query, plan, hquery, hplan, -⟩ := prepare_eq_ok.1 hprepare
      exact .inr ⟨baseSql, query, plan, hquery, hplan⟩

end DeferredQuery

namespace Execution

variable {executor : Executor ρ ε} {deferred : DeferredQuery} {execution execution' : Execution ρ ε}

/-- Disciplined executions of one query make the same calls. -/
theorem Disciplined.calls_eq (h : execution.Disciplined executor deferred)
    (h' : execution'.Disciplined executor deferred) : execution.calls = execution'.calls := by
  rcases h.total with ⟨error, hrefused⟩ | ⟨baseSql, query, plan, hquery, hplan⟩
  · rw [(h.refused error hrefused).1, (h'.refused error hrefused).1]
  · obtain ⟨⟨statement, shape⟩, hcall⟩ := h.answered baseSql query plan hquery hplan
    obtain ⟨⟨statement', shape'⟩, hcall'⟩ := h'.answered baseSql query plan hquery hplan
    have hshape : shape = .count ↔ shape' = .count := hcall.shape.trans hcall'.shape.symm
    obtain rfl : shape = shape' := by cases shape <;> cases shape' <;> simp_all
    rw [hcall.calls, hcall'.calls, show statement = _ from hcall.statement,
      show statement' = _ from hcall'.statement]

end Execution

/-! ## Sessions -/

namespace SessionStep

/-- How many queries the step adds. -/
def additions : SessionStep → Nat
  | andThen _ _ => 1
  | describe _ | execute _ => 0

/-- The steps name none but queries built before them, of which there are so many at first. -/
def Grounded : (known : Nat) → List SessionStep → Prop
  | _, [] => True
  | known, step :: rest => step.handle < known ∧ Grounded (known + step.additions) rest

/-- What a step has to answer and what may happen in it, if these are the queries of the session in
the end.  Nothing happens but in executions. -/
inductive Keeps (executor : Executor ρ ε) (queries : Session) :
    SessionStep → Logged Event (SessionAnswer ρ ε) → Prop where
  | andThen {of handle : Nat} {operation : Operation} {deferred : DeferredQuery}
    (hof : queries[of]? = some deferred)
    (hnew : queries[handle]? = some (deferred.andThen operation)) :
    Keeps executor queries (.andThen of operation) ⟨.added handle, []⟩
  | describe {of : Nat} {deferred : DeferredQuery} (hof : queries[of]? = some deferred) :
    Keeps executor queries (.describe of) ⟨.described deferred.describe, []⟩
  | execute {of : Nat} {deferred : DeferredQuery}
    {logged : Logged Event (Except (ExecutionError ε) (Outcome ρ))}
    (hof : queries[of]? = some deferred)
    (hexecution : (Execution.ofLogged logged).Disciplined executor deferred) :
    Keeps executor queries (.execute of) ⟨.executed (.ofLogged logged), logged.log⟩

end SessionStep

namespace Session

/-- The queries after a step. -/
def grown (session : Session) : SessionStep → Session
  | .andThen of operation =>
    session ++ (session[of]?.map fun deferred => deferred.andThen operation).toList
  | .describe _ | .execute _ => session

/-- The queries after some steps. -/
def after (session : Session) : List SessionStep → Session
  | [] => session
  | step :: rest => after (session.grown step) rest

variable {executor : Executor ρ ε} {session : Session} {step : SessionStep}

theorem getElem?_of_isPrefix {queries : Session} (h : session <+: queries) {handle : Nat}
    {deferred : DeferredQuery} (hof : session[handle]? = some deferred) :
    queries[handle]? = some deferred := by
  obtain ⟨more, rfl⟩ := h
  rw [List.getElem?_append_left (List.getElem?_eq_some_iff.1 hof).1, hof]

theorem isPrefix_grown (session : Session) (step : SessionStep) :
    session <+: session.grown step := by
  cases step with
  | andThen of operation => exact List.prefix_append _ _
  | describe of | execute of => exact List.prefix_rfl

/-- A query stays at its handle. -/
theorem isPrefix_after (session : Session) (steps : List SessionStep) :
    session <+: session.after steps := by
  induction steps generalizing session with
  | nil => exact List.prefix_rfl
  | cons step rest ih => exact (session.isPrefix_grown step).trans (ih _)

/-- What a step has to answer does not change when there are more queries. -/
theorem keeps_of_isPrefix {queries : Session} (h : session <+: queries)
    {answer : Logged Event (SessionAnswer ρ ε)} (hkeeps : step.Keeps executor session answer) :
    step.Keeps executor queries answer := by
  cases hkeeps with
  | andThen hof hnew => exact .andThen (getElem?_of_isPrefix h hof) (getElem?_of_isPrefix h hnew)
  | describe hof => exact .describe (getElem?_of_isPrefix h hof)
  | execute hof hexecution => exact .execute (getElem?_of_isPrefix h hof) hexecution

/-- **A step keeps to what it has to answer**, if its handle names a query. -/
theorem perform_keeps (executor : Executor ρ ε) (h : step.handle < session.length) :
    ∃ answer : Logged Event (SessionAnswer ρ ε),
      perform executor session step = some ⟨(answer.value, session.grown step), answer.log⟩
      ∧ step.Keeps executor (session.grown step) answer
      ∧ (session.grown step).length = session.length + step.additions := by
  have hof : session[step.handle]? = some session[step.handle] := List.getElem?_eq_getElem h
  generalize session[step.handle] = deferred at hof
  rw [perform, hof]
  cases step with
  | andThen of operation =>
    have hof : session[of]? = some deferred := hof
    have hgrown : session.grown (.andThen of operation)
        = session ++ [deferred.andThen operation] := by
      rw [grown, hof]
      rfl
    have hkept := getElem?_of_isPrefix (isPrefix_grown _ (.andThen of operation)) hof
    refine ⟨⟨.added session.length, []⟩, ?_, .andThen hkept ?_, ?_⟩
    · rw [hgrown]
      rfl
    · rw [hgrown, List.getElem?_concat_length]
    · rw [hgrown, List.length_append]
      rfl
  | describe of => exact ⟨⟨_, _⟩, rfl, .describe hof, rfl⟩
  | execute of =>
    refine ⟨⟨.executed (deferred.execute executor), (deferred.materialize executor).run.log⟩, ?_,
      .execute hof (DeferredQuery.execute_disciplined executor _), rfl⟩
    exact congrArg some (Logged.bind_of_silent rfl)

/-- **Every step of a session keeps to what it has to answer**, by induction on the steps. -/
theorem trace_keeps (executor : Executor ρ ε) {steps : List SessionStep}
    (h : SessionStep.Grounded session.length steps) :
    ∃ answers, trace executor session steps = some answers
      ∧ List.Forall₂ (SessionStep.Keeps executor (session.after steps)) steps answers := by
  induction steps generalizing session with
  | nil => exact ⟨[], rfl, .nil⟩
  | cons step rest ih =>
    obtain ⟨answer, hperform, hkeeps, hlength⟩ := perform_keeps executor h.1
    obtain ⟨answers, htrace, hanswers⟩ := ih (hlength ▸ h.2)
    refine ⟨answer :: answers, ?_, .cons ?_ hanswers⟩
    · rw [trace, hperform]
      show (trace executor (session.grown step) rest >>= _) = _
      rw [htrace]
      rfl
    · exact keeps_of_isPrefix (isPrefix_after _ rest) hkeeps

theorem calls_of_keeps {queries : Session} {answer : Logged Event (SessionAnswer ρ ε)}
    (h : step.Keeps executor queries answer) (hstep : ∀ of, step ≠ .execute of) :
    answer.calls = [] := by
  cases h with
  | andThen _ _ | describe _ => rfl
  | execute _ _ => exact absurd rfl (hstep _)

theorem calls_eq_of_keeps {queries : Session} {of : Nat}
    {answer answer' : Logged Event (SessionAnswer ρ ε)}
    (h : SessionStep.Keeps executor queries (.execute of) answer)
    (h' : SessionStep.Keeps executor queries (.execute of) answer') :
    answer.calls = answer'.calls := by
  cases h with
  | execute hof hexecution =>
    cases h' with
    | execute hof' hexecution' =>
      obtain rfl := Option.some.inj (hof.symm.trans hof')
      exact hexecution.calls_eq hexecution'

/-- **The executor is called by executions only**, by each of them as the query that it executes
demands, and by all executions of one query alike. -/
theorem run_disciplined (executor : Executor ρ ε) (start : DeferredQuery) {steps : List SessionStep}
    (h : SessionStep.Grounded 1 steps) :
    ∃ answers : List (Logged Event (SessionAnswer ρ ε)),
      trace executor [start] steps = some answers
      ∧ run executor [start] steps = some (answers.map Logged.value)
      ∧ (after [start] steps)[0]? = some start
      ∧ List.Forall₂ (SessionStep.Keeps executor (after [start] steps)) steps answers
      ∧ (∀ step answer, (step, answer) ∈ steps.zip answers →
        (∀ of, step ≠ SessionStep.execute of) → answer.calls = [])
      ∧ ∀ of answer answer', (SessionStep.execute of, answer) ∈ steps.zip answers →
        (SessionStep.execute of, answer') ∈ steps.zip answers → answer.calls = answer'.calls := by
  have hgrounded : SessionStep.Grounded [start].length steps := h
  obtain ⟨answers, htrace, hanswers⟩ := trace_keeps executor hgrounded
  have hrun : run executor [start] steps = some (answers.map Logged.value) := by
    rw [run, htrace, Option.map_some]
  have hkeeps {step : SessionStep} {answer : Logged Event (SessionAnswer ρ ε)}
      (hmem : (step, answer) ∈ steps.zip answers) :
      step.Keeps executor (after [start] steps) answer :=
    (List.forall₂_iff_zip.1 hanswers).2 hmem
  refine ⟨answers, htrace, hrun, getElem?_of_isPrefix (isPrefix_after [start] steps) rfl, hanswers,
    fun step answer hmem => calls_of_keeps (hkeeps hmem), ?_⟩
  intro of answer answer' hmem hmem'
  exact calls_eq_of_keeps (hkeeps hmem) (hkeeps hmem')

/-- A session that continues a table twice, by a count and by an operation that no query has: the
calls of its steps. -/
theorem run_disciplined_of_count_and_reverse :
    let start : DeferredQuery := .ofTable ⟨.sqlite, .ofList [("Id", "item_id")], none⟩
      ⟨"Item", .ofList [("Id", { type := .integer })]⟩ "items"
    let steps : List SessionStep :=
      [.execute 0, .andThen 0 .count, .describe 1, .execute 1, .execute 0, .andThen 0 .reverse,
        .execute 2, .execute 1]
    let executor : Executor Unit String := .alwaysRows []
    SessionStep.Grounded 1 steps ∧ ∃ answers, trace executor [start] steps = some answers
      ∧ List.Forall₂ (SessionStep.Keeps executor (after [start] steps)) steps answers
      ∧ answers.map (fun answer => answer.calls.map Call.shape)
        = [[.rows], [], [], [.count], [.rows], [], [], [.count]] := by
  intro start steps executor
  have hgrounded : SessionStep.Grounded 1 steps := by
    simp [steps, SessionStep.Grounded, SessionStep.handle, SessionStep.additions]
  obtain ⟨answers, htrace, -, -, hanswers, -, -⟩ := run_disciplined executor start hgrounded
  have hshapes : (trace executor [start] steps).map (fun answers =>
      answers.map fun answer => answer.calls.map Call.shape)
        = some [[.rows], [], [], [.count], [.rows], [], [], [.count]] := by
    decide
  rw [htrace] at hshapes
  exact ⟨hgrounded, answers, htrace, hanswers, Option.some.inj hshapes⟩

end Session
end ODataQuery
