import ODataQuery.Proofs.Deferred.Preparation

/-!
# Inline counts and paging

A query with an inline count is executed as the count of its matches, whose statement does not
depend on paging.  But the statement is found together with the one for the page, and a page needs
an ordering that a count does not.

* `Execution.Alike`: two executions make the same call, or fail alike before any.
* `DeferredQuery.calls_of_inlineCount`: the call of an inline count mentions no page.
* `DeferredQuery.execute_unpaged_alike_iff`: so an inline count is executed like that of the whole
  result exactly if no keys are missing for a page that nobody asks for.
* `DeferredQuery.not_alike_of_unordered_page`: they can be missing.
-/

set_option autoImplicit false

namespace ODataQuery

variable {ρ ε : Type}

/-- Two executions make the same call, or both fail with the same error before any call. -/
def Execution.Alike (first second : Execution ρ ε) : Prop :=
  (∃ call, first.calls = [call] ∧ second.calls = [call])
    ∨ ∃ error, first.calls = [] ∧ first.result = .error (.preparation error)
      ∧ second.calls = [] ∧ second.result = .error (.preparation error)

theorem Execution.not_alike {first second : Execution ρ ε} {call : Call} (h : first.calls = [])
    (hcall : second.calls = [call]) : ¬ first.Alike second := by
  rintro (⟨_, hfirst, -⟩ | ⟨-, -, -, hsecond, -⟩)
  · rw [h] at hfirst
    cases hfirst
  · rw [hcall] at hsecond
    cases hsecond

namespace DeferredQuery

open Sql Table

variable {table : Table} {schema : Schema} {baseSql : String} {query : Query}

variable (executor : Executor ρ ε)

/-- **The call of an inline count** is that of the number of the matches. -/
theorem calls_of_inlineCount (hcount : query.inlineCount = .allPages)
    (hbase : Text.isBlankText baseSql = false) {condition : Term}
    (hcondition : table.filterCondition query.filter = .ok condition)
    {keys : List (Term × Direction)} (hkeys : table.pageKeys query = .ok keys) :
    (execute executor ⟨table, schema, .query baseSql query⟩).calls
      = [⟨((rowsWhere baseSql condition).counting "q_count").toStatement table.dialect,
        .count⟩] := by
  have hplan := plan_eq_ok.2 ⟨hbase, condition, keys, hcondition, hkeys, rfl⟩
  have hshape : shape ⟨table, schema, .query baseSql query⟩ = .count := by
    rw [shape, Origin.projector, hcount]
    rfl
  rw [calls_execute executor (.query rfl) hplan, hshape]
  rfl

theorem execute_of_plan_eq_error {error : SqlError} (h : table.plan baseSql query = .error error) :
    execute executor ⟨table, schema, .query baseSql query⟩
      = ⟨[], [.unmaterialized, .preparing], .error (.preparation (.sql error))⟩ :=
  execute_of_refuses executor (.sql (.query rfl) h)

/-- The statement of the count could be found, but not the one of the page: the page has no
ordering, neither of its own nor from the table. -/
structure LosesCount (table : Table) (baseSql : String) (query : Query) : Prop where
  base : Text.isBlankText baseSql = false
  condition : ∃ condition, table.filterCondition query.filter = .ok condition
  unordered : query.needsFallback = true
  keys : ∃ error, table.fallbackKeys = .error error

/-- A query whose count is lost fails, and without its paging it makes its call. -/
theorem LosesCount.execute_eq (schema : Schema) (hlost : LosesCount table baseSql query)
    (hcount : query.inlineCount = .allPages) :
    ∃ error call, table.fallbackKeys = .error error
      ∧ execute executor ⟨table, schema, .query baseSql query⟩
        = ⟨[], [.unmaterialized, .preparing], .error (.preparation (.sql error))⟩
      ∧ (execute executor ⟨table, schema, .query baseSql query.unpaged⟩).calls = [call] := by
  obtain ⟨hbase, ⟨condition, hcondition⟩, hneeds, error, hkeys⟩ := hlost
  have hcount' : query.unpaged.inlineCount = .allPages := hcount
  have hpage : table.pageKeys query = .error error := by rw [pageKeys, if_pos hneeds, hkeys]
  refine ⟨error, _, hkeys, execute_of_plan_eq_error executor ?_,
    calls_of_inlineCount executor hcount' hbase hcondition
      (table.pageKeys_unpaged_of_needsFallback hneeds)⟩
  exact plan_eq_error.2 (.inr ⟨hbase, .inr ⟨⟨condition, hcondition⟩, hpage⟩⟩)

/-- Queries that fail alike are executed alike. -/
theorem alike_of_plan_eq_error {error : SqlError} (h : table.plan baseSql query = .error error)
    (hunpaged : table.plan baseSql query.unpaged = .error error) :
    (execute executor ⟨table, schema, .query baseSql query⟩).Alike
      (execute executor ⟨table, schema, .query baseSql query.unpaged⟩) := by
  rw [execute_of_plan_eq_error executor h, execute_of_plan_eq_error executor hunpaged]
  exact .inr ⟨_, rfl, rfl, rfl, rfl⟩

/-- Queries that have their keys are executed alike: both ask for the number of the same rows. -/
theorem alike_of_pageKeys (hcount : query.inlineCount = .allPages)
    (hbase : Text.isBlankText baseSql = false) {condition : Term}
    (hcondition : table.filterCondition query.filter = .ok condition)
    {keys keys' : List (Term × Direction)} (hkeys : table.pageKeys query = .ok keys)
    (hunpaged : table.pageKeys query.unpaged = .ok keys') :
    (execute executor ⟨table, schema, .query baseSql query⟩).Alike
      (execute executor ⟨table, schema, .query baseSql query.unpaged⟩) := by
  have hcount' : query.unpaged.inlineCount = .allPages := hcount
  exact .inl ⟨_, calls_of_inlineCount executor hcount hbase hcondition hkeys,
    calls_of_inlineCount executor hcount' hbase hcondition hunpaged⟩

theorem alike_of_not_losesCount (hlost : ¬ LosesCount table baseSql query)
    (hcount : query.inlineCount = .allPages) :
    (execute executor ⟨table, schema, .query baseSql query⟩).Alike
      (execute executor ⟨table, schema, .query baseSql query.unpaged⟩) := by
  cases hbase : Text.isBlankText baseSql with
  | true =>
    exact alike_of_plan_eq_error executor (plan_eq_error.2 (.inl ⟨hbase, rfl⟩))
      (plan_eq_error.2 (.inl ⟨hbase, rfl⟩))
  | false =>
    cases hcondition : table.filterCondition query.filter with
    | error error =>
      exact alike_of_plan_eq_error executor (plan_eq_error.2 (.inr ⟨hbase, .inl hcondition⟩))
        (plan_eq_error.2 (.inr ⟨hbase, .inl hcondition⟩))
    | ok condition =>
      -- both have the same condition, so all depends on the keys
      have hexists : ∃ condition, table.filterCondition query.filter = .ok condition :=
        ⟨condition, hcondition⟩
      cases hneeds : query.needsFallback with
      | true =>
        cases hfallback : table.fallbackKeys with
        | error error => exact absurd ⟨hbase, hexists, hneeds, error, hfallback⟩ hlost
        | ok keys =>
          exact alike_of_pageKeys executor hcount hbase hcondition
            (by rw [pageKeys, if_pos hneeds, hfallback])
            (table.pageKeys_unpaged_of_needsFallback hneeds)
      | false =>
        have hkeys : table.pageKeys query = table.pageKeys query.unpaged := by
          rw [pageKeys_unpaged, pageKeys, hneeds]
          rfl
        cases hunpaged : table.pageKeys query.unpaged with
        | error error =>
          exact alike_of_plan_eq_error executor
            (plan_eq_error.2 (.inr ⟨hbase, .inr ⟨hexists, hkeys.trans hunpaged⟩⟩))
            (plan_eq_error.2 (.inr ⟨hbase, .inr ⟨hexists, hunpaged⟩⟩))
        | ok keys =>
          exact alike_of_pageKeys executor hcount hbase hcondition (hkeys.trans hunpaged) hunpaged

/-- **An inline count ignores paging** in its call, and in its outcome unless the page has no
ordering: the count of the page is lost then, although no page is asked for. -/
theorem execute_unpaged_alike_iff (table : Table) (schema : Schema) (baseSql : String)
    (hcount : query.inlineCount = .allPages) :
    let paged := execute executor ⟨table, schema, .query baseSql query⟩
    let unpaged := execute executor ⟨table, schema, .query baseSql query.unpaged⟩
    (∀ call, call ∈ paged.calls ∨ call ∈ unpaged.calls → call.shape = .count)
      ∧ (paged.Alike unpaged ↔ ¬ LosesCount table baseSql query)
      ∧ (LosesCount table baseSql query → ∃ error call, table.fallbackKeys = .error error
        ∧ paged.calls = [] ∧ paged.result = .error (.preparation (.sql error))
        ∧ unpaged.calls = [call]) := by
  intro paged unpaged
  have hlosing (hlost : LosesCount table baseSql query) : ∃ error call,
      table.fallbackKeys = .error error ∧ paged.calls = []
        ∧ paged.result = .error (.preparation (.sql error)) ∧ unpaged.calls = [call] := by
    obtain ⟨error, call, hkeys, hpaged, hunpaged⟩ := hlost.execute_eq executor schema hcount
    have hpaged : paged = _ := hpaged
    exact ⟨error, call, hkeys, by rw [hpaged], by rw [hpaged], hunpaged⟩
  refine ⟨?_, ⟨?_, fun hlost => alike_of_not_losesCount executor hlost hcount⟩, hlosing⟩
  · rintro call (h | h)
    · exact (shape_of_mem_calls executor h).trans (Origin.asksForCount_iff.1 (.inlineCount hcount))
    · exact (shape_of_mem_calls executor h).trans (Origin.asksForCount_iff.1 (.inlineCount hcount))
  · intro halike hlost
    obtain ⟨_, _, -, hpaged, -, hunpaged⟩ := hlosing hlost
    exact Execution.not_alike hpaged hunpaged halike

/-- A page that the table orders by a property. -/
theorem execute_unpaged_alike_iff_of_fallback :
    let table : Table := ⟨.sqlServer, .ofList [("Id", "item_id")], some ["Id"]⟩
    let schema : Schema := ⟨"Item", .ofList [("Id", { type := .integer })]⟩
    let query : Query := { top := some 2, inlineCount := .allPages }
    let executor : Executor Unit String := .answering [] 7
    query.inlineCount = .allPages
      ∧ (execute executor ⟨table, schema, .query "items" query⟩).Alike
        (execute executor ⟨table, schema, .query "items" query.unpaged⟩) := by
  intro table schema query executor
  refine ⟨rfl, (execute_unpaged_alike_iff executor table schema "items" rfl).2.1.2 fun hlost => ?_⟩
  obtain ⟨error, herror⟩ := hlost.keys
  cases herror

/-- The first two of the items of a table without an ordering: they cannot be counted, and all of
them can. -/
theorem not_alike_of_unordered_page :
    let table : Table := ⟨.sqlite, .ofList [("Id", "Id")], none⟩
    let schema : Schema := ⟨"Item", .ofList [("Id", { type := .integer })]⟩
    let query : Query := { top := some 2, inlineCount := .allPages }
    let executor : Executor Unit String := .answering [] 7
    let paged := execute executor ⟨table, schema, .query "items" query⟩
    let unpaged := execute executor ⟨table, schema, .query "items" query.unpaged⟩
    query.inlineCount = .allPages ∧ paged.calls = []
      ∧ paged.result = .error (.preparation (.sql .unorderedPage))
      ∧ unpaged.calls = [⟨⟨"SELECT COUNT(*) AS \"count\" FROM (SELECT \"q\".* FROM items AS \"q\") "
          ++ "AS \"q_count\"", []⟩, .count⟩]
      ∧ ¬ paged.Alike unpaged := by
  intro table schema query executor paged unpaged
  have hpaged : paged.calls = [] := rfl
  have hunpaged : unpaged.calls = [⟨⟨"SELECT COUNT(*) AS \"count\" FROM (SELECT \"q\".* FROM items "
      ++ "AS \"q\") AS \"q_count\"", []⟩, .count⟩] := by decide
  exact ⟨rfl, hpaged, rfl, hunpaged, Execution.not_alike hpaged hunpaged⟩

end DeferredQuery
end ODataQuery
