import Mathlib.Data.List.Forall2
import ODataQuery.Proofs.Outcomes
import ODataQuery.Sql.Plan

/-!
# How a plan is put together

Two things can be missing for the selects of a query: the condition of its filter, and the keys that
a page of it is sorted by.  Once both are there, the selects are put together from them without
fail.

* `Query.needsFallback`: the query takes a page and does not say in which order.
* `Table.filterCondition`, `Table.pageKeys`: the two things that can be missing.
* `Table.assemble`: the plan, given both.
* `Table.page_eq`, `Table.matching_eq`: the steps of planning, by what can be missing in each.
* `Table.plan_eq`: so a plan is assembled from both; `Table.plan_eq_ok` and `Table.plan_eq_error`
  say when there is one, and how it fails otherwise.
-/

set_option autoImplicit false

namespace ODataQuery

/-- The query takes a page of its matches and does not say in which order. -/
def Query.needsFallback (query : Query) : Bool :=
  query.isPaged && query.top != some 0 && query.orderBy.isEmpty

theorem Query.needsFallback_iff {query : Query} : query.needsFallback = true
    ↔ query.isPaged = true ∧ query.top ≠ some 0 ∧ query.orderBy = [] := by
  simp [needsFallback, and_assoc]

namespace Sql
namespace Table

variable {table : Table} {baseSql : String} {query : Query}

/-! ## Orderings -/

theorem keys_cons_eq_ok {key : SortKey} {rest : List SortKey} {terms : List (Term × Direction)} :
    table.keys (key :: rest) = .ok terms
      ↔ ∃ column restTerms, table.column key.property = .ok column
        ∧ table.keys rest = .ok restTerms ∧ terms = (column, key.direction) :: restTerms := by
  rw [keys]
  simp only [bind_eq_ok, Except.ok.injEq]
  constructor
  · rintro ⟨column, hcolumn, restTerms, hrest, rfl⟩
    exact ⟨column, restTerms, hcolumn, hrest, rfl⟩
  · rintro ⟨column, restTerms, hcolumn, hrest, rfl⟩
    exact ⟨column, hcolumn, restTerms, hrest, rfl⟩

theorem isEmpty_of_keys {keys : List SortKey} {terms : List (Term × Direction)}
    (h : table.keys keys = .ok terms) : terms.isEmpty = keys.isEmpty := by
  cases keys with
  | nil =>
    rw [Table.keys] at h
    cases h
    rfl
  | cons key rest =>
    obtain ⟨column, restTerms, -, -, rfl⟩ := keys_cons_eq_ok.1 h
    rfl

/-- The keys of an ordering are the columns of its properties, in its directions. -/
theorem keys_eq_ok {keys : List SortKey} {terms : List (Term × Direction)} :
    table.keys keys = .ok terms
      ↔ List.Forall₂ (fun key term => ∃ column, table.column key.property = .ok column
        ∧ term = (column, key.direction)) keys terms := by
  induction keys generalizing terms with
  | nil =>
    rw [Table.keys, List.forall₂_nil_left_iff]
    simp [eq_comm]
  | cons key rest ih =>
    rw [keys_cons_eq_ok, List.forall₂_cons_left_iff]
    simp only [ih]
    constructor
    · rintro ⟨column, restTerms, hcolumn, hrest, rfl⟩
      exact ⟨_, restTerms, ⟨column, hcolumn, rfl⟩, hrest, rfl⟩
    · rintro ⟨_, restTerms, ⟨column, hcolumn, rfl⟩, hrest, rfl⟩
      exact ⟨column, restTerms, hcolumn, hrest, rfl⟩

/-- The ordering of a table has keys if there is one, and they are those of its properties,
ascending. -/
theorem fallbackKeys_eq_ok {terms : List (Term × Direction)} : table.fallbackKeys = .ok terms
    ↔ ∃ properties, table.fallback = some properties ∧ properties ≠ []
      ∧ table.keys (properties.map fun property => ⟨property, .asc⟩) = .ok terms := by
  rw [fallbackKeys]
  split
  · rename_i hnone
    simp [hnone]
  · rename_i hempty
    simp [hempty]
  · rename_i properties hnonempty hproperties
    have hne : properties ≠ [] := hnonempty
    simp [hproperties, hne]

/-- The keys that a query is sorted by: its own, or those of the table where it takes a page and has
none. -/
def pageKeys (table : Table) (query : Query) : Except SqlError (List (Term × Direction)) :=
  if query.needsFallback then table.fallbackKeys else table.keys query.orderBy

theorem pageKeys_unpaged (table : Table) (query : Query) :
    table.pageKeys query.unpaged = table.keys query.orderBy := by
  have hneeds : query.unpaged.needsFallback = false := by
    simp [Query.needsFallback, query.isPaged_unpaged]
  rw [pageKeys, hneeds]
  rfl

/-- Without its page, a query that names no ordering needs none. -/
theorem pageKeys_unpaged_of_needsFallback (table : Table) (h : query.needsFallback = true) :
    table.pageKeys query.unpaged = .ok [] := by
  rw [pageKeys_unpaged, (Query.needsFallback_iff.1 h).2.2, Table.keys]

/-! ## Pages -/

/-- The page of a select that is sorted by some keys. -/
def sortedPage (table : Table) (select : Select) (query : Query) (keys : List (Term × Direction)) :
    Select :=
  if !query.isPaged then { select with orderBy := keys }
  else if query.top = some 0 then { select with condition := .bool false, orderBy := keys }
  else
    let offset := query.skip.filter (0 < ·)
    match table.dialect.paging with
    | .limitOffset _ | .offsetFetch =>
      { select with orderBy := keys, limit := query.top, offset := offset }
    | .rowNumber => numberedPage select keys query.top offset

/-- **The page of a select** sorts all rows, has none of them, limits them by its clauses, or numbers
them. -/
theorem sortedPage_cases (table : Table) (select : Select) (query : Query)
    (keys : List (Term × Direction)) :
    (query.isPaged = false ∧ table.sortedPage select query keys = { select with orderBy := keys })
      ∨ (query.top = some 0 ∧ table.sortedPage select query keys
        = { select with condition := .bool false, orderBy := keys })
      ∨ (query.isPaged = true ∧ query.top ≠ some 0)
        ∧ (table.sortedPage select query keys = { select with
            orderBy := keys, limit := query.top, offset := query.skip.filter (0 < ·) }
          ∨ table.sortedPage select query keys
            = numberedPage select keys query.top (query.skip.filter (0 < ·))) := by
  rw [sortedPage]
  split
  · rename_i hpaged
    exact .inl ⟨by simpa using hpaged, rfl⟩
  · split
    · rename_i htop
      exact .inr (.inl ⟨htop, rfl⟩)
    · rename_i hpaged htop
      refine .inr (.inr ⟨⟨by simpa using hpaged, htop⟩, ?_⟩)
      cases table.dialect.paging with
      | limitOffset | offsetFetch => exact .inl rfl
      | rowNumber => exact .inr rfl

/-- **A page lacks nothing but its keys.** -/
theorem page_eq (table : Table) (select : Select) (query : Query) :
    table.page select query = (table.pageKeys query).map (table.sortedPage select query) := by
  have hpages (keys : List (Term × Direction)) (hpaged : query.isPaged = true)
      (htop : query.top ≠ some 0) :
      (match table.dialect.paging with
        | .limitOffset _ | .offsetFetch =>
          (Except.ok { select with
            orderBy := keys, limit := query.top, offset := query.skip.filter (0 < ·) } :
            Except SqlError Select)
        | .rowNumber => .ok (numberedPage select keys query.top (query.skip.filter (0 < ·))))
        = .ok (table.sortedPage select query keys) := by
    rw [sortedPage, if_neg (by simp [hpaged]), if_neg htop]
    cases table.dialect.paging <;> rfl
  rw [page, pageKeys, Query.needsFallback]
  cases hkeys : table.keys query.orderBy with
  | error error =>
    -- only an ordering of the query's own can fail here, so it is no query without one
    have hnonempty : query.orderBy.isEmpty = false := by
      cases horder : query.orderBy with
      | nil => rw [horder, Table.keys] at hkeys; cases hkeys
      | cons key rest => rfl
    rw [if_neg (by simp [hnonempty]), Except.map]
    rfl
  | ok keys =>
    rw [← isEmpty_of_keys hkeys]
    show (if !query.isPaged then _ else _) = _
    by_cases hpaged : query.isPaged = true
    · by_cases htop : query.top = some 0
      · rw [if_neg (by simp [hpaged]), if_pos htop, if_neg (by simp [htop]), Except.map, sortedPage,
          if_neg (by simp [hpaged]), if_pos htop]
      · rw [if_neg (by simp [hpaged]), if_neg htop]
        by_cases hempty : keys.isEmpty = true
        · rw [if_pos hempty, if_pos (by simpa [hpaged, htop] using hempty)]
          cases table.fallbackKeys with
          | error error => rfl
          | ok keys => exact hpages keys hpaged htop
        · rw [if_neg hempty, if_neg (by simp [hempty])]
          exact hpages keys hpaged htop
    · rw [if_pos (by simpa using hpaged), if_neg (by simp [hpaged]), Except.map, sortedPage,
        if_pos (by simpa using hpaged)]

/-! ## Plans -/

/-- The condition of the filter of a query; without a filter, every row meets it. -/
def filterCondition (table : Table) : Option Expression → Except SqlError Term
  | none => .ok (.bool true)
  | some filter => table.condition filter

theorem exists_filterCondition_iff {filter : Option Expression} :
    (∃ condition, table.filterCondition filter = .ok condition)
      ↔ ∀ e ∈ filter, ∃ condition, table.condition e = .ok condition := by
  cases filter with
  | none => exact ⟨fun _ _ h => (nomatch h), fun _ => ⟨_, rfl⟩⟩
  | some e => exact ⟨fun h _ he => Option.some.inj he ▸ h, fun h => h e rfl⟩

/-- The rows of a table that meet a condition. -/
def rowsWhere (baseSql : String) (condition : Term) : Select :=
  { Select.all tableAlias (baseRelation baseSql tableAlias) with condition := condition }

/-- **The matches lack nothing but their condition.** -/
theorem matching_eq (table : Table) (baseSql : String) (query : Query) :
    table.matching baseSql query
      = (table.filterCondition query.filter).map (rowsWhere baseSql) := by
  rw [matching]
  cases query.filter with
  | none => rfl
  | some filter =>
    show (table.condition filter >>= _) = (table.condition filter).map _
    cases table.condition filter <;> rfl

/-- The plan of a query whose matches meet a condition and are sorted by some keys. -/
def assemble (table : Table) (baseSql : String) (query : Query) (condition : Term)
    (keys : List (Term × Direction)) : Plan where
  dialect := table.dialect
  rows := table.sortedPage (rowsWhere baseSql condition) query keys
  count := (rowsWhere baseSql condition).counting "q_count"

/-- **A plan is assembled** from the condition of the filter and the keys of the page, unless its
base is blank. -/
theorem plan_eq (table : Table) (baseSql : String) (query : Query) : table.plan baseSql query
    = (if Text.isBlankText baseSql then .error .blankBase
      else do
        let condition ← table.filterCondition query.filter
        let keys ← table.pageKeys query
        .ok (table.assemble baseSql query condition keys)) := by
  rw [plan, matching_eq]
  cases table.filterCondition query.filter with
  | error error => rfl
  | ok condition =>
    show (if _ then _ else (table.page _ query >>= _))
      = if _ then _ else (table.pageKeys query >>= _)
    rw [page_eq]
    cases table.pageKeys query <;> rfl

theorem plan_eq_ok {plan : Plan} : table.plan baseSql query = .ok plan
    ↔ Text.isBlankText baseSql = false
      ∧ ∃ condition keys, table.filterCondition query.filter = .ok condition
        ∧ table.pageKeys query = .ok keys ∧ plan = table.assemble baseSql query condition keys := by
  rw [plan_eq]
  cases Text.isBlankText baseSql with
  | true => simp
  | false =>
    simp only [Bool.false_eq_true, if_false, true_and, bind_eq_ok, Except.ok.injEq]
    constructor
    · rintro ⟨condition, hcondition, keys, hkeys, rfl⟩
      exact ⟨condition, keys, hcondition, hkeys, rfl⟩
    · rintro ⟨condition, keys, hcondition, hkeys, rfl⟩
      exact ⟨condition, hcondition, keys, hkeys, rfl⟩

/-- **A query has no plan** if its base is blank, its filter has no condition or its page no keys,
whichever comes first. -/
theorem plan_eq_error {error : SqlError} : table.plan baseSql query = .error error
    ↔ (Text.isBlankText baseSql = true ∧ error = .blankBase)
      ∨ Text.isBlankText baseSql = false
        ∧ (table.filterCondition query.filter = .error error
          ∨ (∃ condition, table.filterCondition query.filter = .ok condition)
            ∧ table.pageKeys query = .error error) := by
  rw [plan_eq]
  cases Text.isBlankText baseSql with
  | true => simp [eq_comm]
  | false =>
    simp only [Bool.false_eq_true, if_false, false_and, false_or, true_and, bind_eq_error,
      reduceCtorEq, and_false, exists_false, or_false, exists_and_right]

end Table
end Sql
end ODataQuery
