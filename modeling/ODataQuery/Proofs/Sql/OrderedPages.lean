import ODataQuery.Proofs.Sql.Faults

/-!
# Pages are cut in an order

A page of unordered rows is whichever rows the database happens to come across first.  Planning
rather fails than cuts such a page: rows are left out by their place only where an ordering says
what their places are, and no select that another one takes its rows from is ordered or cut, since
databases are free to forget the order of such rows or refuse it.

* `Table.FirstFault`: what keeps a query from having a plan, the first fault deciding.
* `Table.plan_eq_error_iff_firstFault`: so planning fails, and for no other reason.
* `Select.CutBy`: a select leaves rows out by their places in an ordering.
* `Select.nested`: the selects that a select takes its rows from.
* `Table.cutBy_sortedPage`: a page is cut by the keys that it is sorted by.
* `Table.pages_are_ordered`: so pages are cut in the ordering of the query, or that of the table.
-/

set_option autoImplicit false

namespace ODataQuery

theorem Query.isPaged_iff {query : Query} : query.isPaged = true
    ↔ query.top.isSome = true ∨ (query.skip.filter (0 < ·)).isSome = true := by
  rw [isPaged, Bool.or_eq_true, or_comm]
  cases query.skip with
  | none => simp
  | some skip => simp [Option.filter_some]

namespace Sql

/-! ## What a select consists of -/

namespace Term

mutual

/-- The columns that a term is about. -/
def columns : Term → List (TableRef × String)
  | .and left right | .or left right | .binary left _ right | .like left right _ =>
    left.columns ++ right.columns
  | .not operand | .isNull operand | .isNotNull operand | .part _ operand => operand.columns
  | .call _ args => columnsOfArgs args
  | .column table name => [(table, name)]
  | .bool _ | .integer _ | .parameter _ | .countAll => []
  | .rowNumber keys => columnsOfKeys keys

/-- The columns that the arguments of a call are about. -/
def columnsOfArgs : List Term → List (TableRef × String)
  | [] => []
  | arg :: rest => arg.columns ++ columnsOfArgs rest

/-- The columns that the keys of an ordering are about. -/
def columnsOfKeys : List (Term × Direction) → List (TableRef × String)
  | [] => []
  | (target, _) :: rest => target.columns ++ columnsOfKeys rest

end

end Term

/-- The columns that a selection names itself, with what is in them. -/
def Selection.named : Selection → List (String × Term)
  | .columns named => named
  | .star | .starOf _ => []
  | .both first second => first.named ++ second.named

namespace Select

/-- The selects that a select takes its rows from, directly or through one another. -/
def nested : Select → List Select
  | ⟨_, relation, _, _, _, _⟩ =>
    match relation with
    | some (.select inner _) => inner :: inner.nested
    | _ => []

/-- The select neither sorts its rows nor takes only some of them by their places. -/
def IsUnordered (select : Select) : Prop :=
  select.orderBy = [] ∧ select.limit = none ∧ select.offset = none

/-- The select leaves out rows by their places in the ordering by some keys: it does so by its
clauses, or by a condition on the numbers that an inner select gives them. -/
inductive CutBy (select : Select) : List (Term × Direction) → Prop where
  | limit (h : select.limit.isSome = true) : CutBy select select.orderBy
  | offset (h : select.offset.isSome = true) : CutBy select select.orderBy
  | number {inner : Select} {aliasName name : String} {keys : List (Term × Direction)}
    (hrelation : select.relation = some (.select inner aliasName))
    (hnumber : (name, .rowNumber keys) ∈ inner.selection.named)
    (hcondition : (.byAlias aliasName, name) ∈ select.condition.columns) : CutBy select keys

theorem nested_of_baseRelation {select : Select} {sql aliasName : String}
    (h : select.relation = some (baseRelation sql aliasName)) : select.nested = [] := by
  obtain ⟨selection, relation, condition, orderBy, limit, offset⟩ := select
  cases h
  rw [baseRelation]
  split <;> rw [nested] <;> nofun

theorem nested_of_select {select inner : Select} {aliasName : String}
    (h : select.relation = some (.select inner aliasName)) :
    select.nested = inner :: inner.nested := by
  obtain ⟨selection, relation, condition, orderBy, limit, offset⟩ := select
  cases h
  rw [nested]

/-- A select of a table has no numbers to go by, so it cuts by its clauses. -/
theorem cutBy_of_baseRelation {select : Select} {sql aliasName : String}
    (h : select.relation = some (baseRelation sql aliasName)) {keys : List (Term × Direction)} :
    select.CutBy keys
      ↔ (select.limit.isSome = true ∨ select.offset.isSome = true) ∧ keys = select.orderBy := by
  constructor
  · rintro (hlimit | hoffset | ⟨hrelation, -, -⟩)
    · exact ⟨.inl hlimit, rfl⟩
    · exact ⟨.inr hoffset, rfl⟩
    · rw [h, baseRelation] at hrelation
      split at hrelation <;> cases hrelation
  · rintro ⟨hlimit | hoffset, rfl⟩
    · exact .limit hlimit
    · exact .offset hoffset

end Select

namespace Table

variable {table : Table} {baseSql : String} {query : Query} {error : SqlError}

/-! ## Faults -/

/-- What keeps a query from having a plan.  Each fault takes that none of the earlier ones is
there. -/
inductive FirstFault (table : Table) (baseSql : String) (query : Query) : SqlError → Prop where
  | blank (hblank : Text.isBlankText baseSql = true) : FirstFault table baseSql query .blankBase
  | filter {filter : Expression} {error : SqlError} (hbase : Text.isBlankText baseSql = false)
    (hfilter : query.filter = some filter) (herror : table.condition filter = .error error) :
    FirstFault table baseSql query error
  | ordering {property : String} (hbase : Text.isBlankText baseSql = false)
    (hfilter : ∀ filter ∈ query.filter, ∃ condition, table.condition filter = .ok condition)
    (hfirst : table.firstUnmapped? (query.orderBy.map SortKey.property) = some property) :
    FirstFault table baseSql query (.unmappedProperty property)
  | unordered (hbase : Text.isBlankText baseSql = false)
    (hfilter : ∀ filter ∈ query.filter, ∃ condition, table.condition filter = .ok condition)
    (hpaged : query.isPaged = true) (htop : query.top ≠ some 0) (horder : query.orderBy = [])
    (hfallback : table.fallback = none ∨ table.fallback = some []) :
    FirstFault table baseSql query .unorderedPage
  | fallback {properties : List String} {property : String}
    (hbase : Text.isBlankText baseSql = false)
    (hfilter : ∀ filter ∈ query.filter, ∃ condition, table.condition filter = .ok condition)
    (hpaged : query.isPaged = true) (htop : query.top ≠ some 0) (horder : query.orderBy = [])
    (hfallback : table.fallback = some properties)
    (hfirst : table.firstUnmapped? properties = some property) :
    FirstFault table baseSql query (.unmappedProperty property)

theorem filterCondition_eq_error {filter : Option Expression} :
    table.filterCondition filter = .error error
      ↔ ∃ e, filter = some e ∧ table.condition e = .error error := by
  cases filter <;> simp [filterCondition]

/-- The keys of a page fail by the ordering of the query, or by that of the table where it is
needed. -/
theorem pageKeys_eq_error : table.pageKeys query = .error error
    ↔ (∃ property, table.firstUnmapped? (query.orderBy.map SortKey.property) = some property
        ∧ error = .unmappedProperty property)
      ∨ (query.isPaged = true ∧ query.top ≠ some 0 ∧ query.orderBy = [])
        ∧ table.fallbackKeys = .error error := by
  rw [pageKeys, ← keys_eq_error, ← Query.needsFallback_iff]
  split
  · rename_i hneeds
    -- the query has no ordering of its own that could fail
    simp [hneeds, (Query.needsFallback_iff.1 hneeds).2.2, Table.keys]
  · rename_i hneeds
    simp [hneeds]

/-- **Planning fails by the first fault** there is, and by nothing else. -/
theorem plan_eq_error_iff_firstFault :
    table.plan baseSql query = .error error ↔ table.FirstFault baseSql query error := by
  rw [plan_eq_error, filterCondition_eq_error, exists_filterCondition_iff, pageKeys_eq_error,
    fallbackKeys_eq_error]
  constructor
  · rintro (⟨hblank, rfl⟩ | ⟨hbase, ⟨filter, hfilter, herror⟩ | ⟨hfilter, hkeys⟩⟩)
    · exact .blank hblank
    · exact .filter hbase hfilter herror
    · rcases hkeys with ⟨property, hfirst, rfl⟩ | ⟨⟨hpaged, htop, horder⟩, hkeys⟩
      · exact .ordering hbase hfilter hfirst
      · rcases hkeys with ⟨hfallback, rfl⟩ | ⟨properties, property, hfallback, hfirst, rfl⟩
        · exact .unordered hbase hfilter hpaged htop horder hfallback
        · exact .fallback hbase hfilter hpaged htop horder hfallback hfirst
  · rintro (hblank | ⟨hbase, hfilter, herror⟩ | ⟨hbase, hfilter, hfirst⟩
      | ⟨hbase, hfilter, hpaged, htop, horder, hfallback⟩
      | ⟨hbase, hfilter, hpaged, htop, horder, hfallback, hfirst⟩)
    · exact .inl ⟨hblank, rfl⟩
    · exact .inr ⟨hbase, .inl ⟨_, hfilter, herror⟩⟩
    · exact .inr ⟨hbase, .inr ⟨hfilter, .inl ⟨_, hfirst, rfl⟩⟩⟩
    · exact .inr ⟨hbase, .inr ⟨hfilter, .inr ⟨⟨hpaged, htop, horder⟩, .inl ⟨hfallback, rfl⟩⟩⟩⟩
    · exact .inr ⟨hbase, .inr ⟨hfilter, .inr ⟨⟨hpaged, htop, horder⟩,
        .inr ⟨_, _, hfallback, hfirst, rfl⟩⟩⟩⟩

/-- A query without a fault has a plan. -/
theorem exists_plan_iff : (∃ plan, table.plan baseSql query = .ok plan)
    ↔ ∀ error, ¬ table.FirstFault baseSql query error := by
  simp only [← plan_eq_error_iff_firstFault]
  cases table.plan baseSql query <;> simp

/-! ## Orderings -/

/-- The ordering that a page of a query is cut in: that of the query, or the ascending one of the
table if the query has none. -/
def pageOrdering (table : Table) (query : Query) : List SortKey :=
  if query.orderBy = [] then (table.fallback.getD []).map fun property => ⟨property, .asc⟩
  else query.orderBy

/-- A page that is not empty by itself has keys, those of its ordering. -/
theorem keys_of_pageKeys (hpaged : query.isPaged = true) (htop : query.top ≠ some 0)
    {keys : List (Term × Direction)} (h : table.pageKeys query = .ok keys) :
    keys ≠ [] ∧ table.keys (table.pageOrdering query) = .ok keys := by
  have hkeys : table.pageOrdering query ≠ []
      ∧ table.keys (table.pageOrdering query) = .ok keys := by
    rw [pageKeys] at h
    rw [pageOrdering]
    split at h
    · rename_i hneeds
      obtain ⟨properties, hproperties, hnonempty, hkeys⟩ := fallbackKeys_eq_ok.1 h
      rw [if_pos (Query.needsFallback_iff.1 hneeds).2.2, hproperties]
      exact ⟨by simpa using hnonempty, hkeys⟩
    · rename_i hneeds
      have horder : query.orderBy ≠ [] := fun horder =>
        hneeds (Query.needsFallback_iff.2 ⟨hpaged, htop, horder⟩)
      rw [if_neg horder]
      exact ⟨horder, h⟩
  refine ⟨?_, hkeys.2⟩
  rintro rfl
  have hempty := isEmpty_of_keys hkeys.2
  rw [List.isEmpty_nil, eq_comm, List.isEmpty_iff] at hempty
  exact hkeys.1 hempty

/-! ## Pages -/

/-- A page by numbers is cut by the keys that number its rows. -/
theorem cutBy_numberedPage {condition : Term} {keys cut : List (Term × Direction)}
    {top offset : Option UInt64} :
    (numberedPage (rowsWhere baseSql condition) keys top offset).CutBy cut ↔ cut = keys := by
  constructor
  · rintro (hlimit | hoffset | ⟨hrelation, hnumber, -⟩)
    · cases hlimit
    · cases hoffset
    · cases hrelation
      change (_, _) ∈ [(rowNumberName, Term.rowNumber keys)] at hnumber
      cases List.mem_singleton.1 hnumber
      rfl
  · rintro rfl
    have hnumber : (rowNumberName, Term.rowNumber cut) ∈ [(rowNumberName, .rowNumber cut)] :=
      List.mem_singleton.2 rfl
    refine .number rfl hnumber ?_
    cases top <;> exact List.mem_cons_self

/-- **A page is cut by the keys that it is sorted by**, and only if the query takes one. -/
theorem cutBy_sortedPage {condition : Term} {keys cut : List (Term × Direction)} :
    (table.sortedPage (rowsWhere baseSql condition) query keys).CutBy cut
      ↔ (query.isPaged = true ∧ query.top ≠ some 0) ∧ cut = keys := by
  rcases table.sortedPage_cases (rowsWhere baseSql condition) query keys with
    ⟨hpaged, h⟩ | ⟨htop, h⟩ | ⟨hpage, h | h⟩ <;> rw [h]
  · refine (Select.cutBy_of_baseRelation rfl).trans ?_
    simp [rowsWhere, Select.all, hpaged]
  · refine (Select.cutBy_of_baseRelation rfl).trans ?_
    simp [rowsWhere, Select.all, htop]
  · refine (Select.cutBy_of_baseRelation rfl).trans ?_
    rw [← Query.isPaged_iff, and_iff_left hpage.2]
  · rw [cutBy_numberedPage, and_iff_right hpage]

/-- What a page takes its rows from is neither sorted nor cut. -/
theorem isUnordered_of_mem_nested {condition : Term} {keys : List (Term × Direction)}
    {inner : Select}
    (h : inner ∈ (table.sortedPage (rowsWhere baseSql condition) query keys).nested) :
    inner.IsUnordered := by
  have hbase {select : Select}
      (hrelation : select.relation = some (baseRelation baseSql tableAlias))
      (h : inner ∈ select.nested) : inner.IsUnordered := by
    rw [Select.nested_of_baseRelation hrelation] at h
    cases h
  rcases table.sortedPage_cases (rowsWhere baseSql condition) query keys with
    ⟨-, heq⟩ | ⟨-, heq⟩ | ⟨-, heq | heq⟩ <;> rw [heq] at h
  · exact hbase rfl h
  · exact hbase rfl h
  · exact hbase rfl h
  · rw [Select.nested_of_select rfl] at h
    rcases List.mem_cons.1 h with rfl | h
    · exact ⟨rfl, rfl, rfl⟩
    · exact hbase rfl h

/-- What a count takes its rows from is neither sorted nor cut. -/
theorem isUnordered_of_mem_nested_counting {condition : Term} {aliasName : String}
    {inner : Select} (h : inner ∈ ((rowsWhere baseSql condition).counting aliasName).nested) :
    inner.IsUnordered := by
  rw [Select.nested_of_select rfl, Select.nested_of_baseRelation rfl, List.mem_singleton] at h
  rw [h]
  exact ⟨rfl, rfl, rfl⟩

/-! ## Plans -/

/-- **Pages are never ambiguous.**  A query has a plan unless there is a fault, and the first one
decides how planning fails.  The rows of a plan are cut only for a query that takes a page; each
ordering that they are cut in has keys, which are those of the ordering of the query, or of the
ascending one of the table if the query has none.  No select inside the plan is sorted or cut. -/
theorem pages_are_ordered (table : Table) (baseSql : String) (query : Query) :
    (∀ error, table.plan baseSql query = .error error ↔ table.FirstFault baseSql query error)
      ∧ ((∃ plan, table.plan baseSql query = .ok plan)
        ↔ ∀ error, ¬ table.FirstFault baseSql query error)
      ∧ ∀ plan, table.plan baseSql query = .ok plan →
        ((∃ keys, plan.rows.CutBy keys) ↔ query.isPaged = true ∧ query.top ≠ some 0)
          ∧ (∀ keys, plan.rows.CutBy keys → keys ≠ []
            ∧ List.Forall₂ (fun key term => ∃ column, table.column key.property = .ok column
              ∧ term = (column, key.direction)) (table.pageOrdering query) keys)
          ∧ ∀ select ∈ plan.rows.nested ++ plan.count.nested, select.IsUnordered := by
  refine ⟨fun error => plan_eq_error_iff_firstFault, exists_plan_iff, fun plan hplan => ?_⟩
  obtain ⟨-, condition, keys, -, hkeys, rfl⟩ := plan_eq_ok.1 hplan
  refine ⟨?_, fun cut hcut => ?_, fun select hselect => ?_⟩
  · constructor
    · rintro ⟨cut, hcut⟩
      exact (cutBy_sortedPage.1 hcut).1
    · intro hpage
      exact ⟨keys, cutBy_sortedPage.2 ⟨hpage, rfl⟩⟩
  · obtain ⟨⟨hpaged, htop⟩, rfl⟩ := cutBy_sortedPage.1 hcut
    obtain ⟨hnonempty, hordering⟩ := keys_of_pageKeys hpaged htop hkeys
    exact ⟨hnonempty, keys_eq_ok.1 hordering⟩
  · rcases List.mem_append.1 hselect with h | h
    · exact isUnordered_of_mem_nested h
    · exact isUnordered_of_mem_nested_counting h

/-- The rule at a page of notes in a dialect that numbers rows.  The query names no ordering, so its
page is cut in that of the table; a table that orders by a property without a column has no plan for
it. -/
theorem pages_are_ordered_of_numbered_notes :
    let columns : Dictionary String := .ofList [("Id", "id"), ("Text", "body")]
    let ordered : Table := ⟨.sqlServerLegacy, columns, some ["Id", "Text"]⟩
    let unmapped : Table := ⟨.sqlServerLegacy, columns, some ["Id", "Created"]⟩
    let query : Query := { skip := some 20, top := some 10 }
    (∃ plan, ordered.plan "notes" query = .ok plan
        ∧ plan.rows.CutBy
          [(.column (.byAlias "q") "id", .asc), (.column (.byAlias "q") "body", .asc)])
      ∧ unmapped.plan "notes" query = .error (.unmappedProperty "Created") := by
  intro columns ordered unmapped query
  refine ⟨⟨_, rfl, ?_⟩, ?_⟩
  · obtain ⟨hcut, hkeys, -⟩ := (pages_are_ordered ordered "notes" query).2.2 _ rfl
    obtain ⟨keys, hcutBy⟩ := hcut.2 ⟨rfl, by decide⟩
    have hordering := keys_eq_ok.2 (hkeys keys hcutBy).2
    cases hordering
    exact hcutBy
  · refine ((pages_are_ordered unmapped "notes" query).1 _).2 ?_
    exact .fallback rfl nofun rfl (by decide) rfl rfl rfl

end Table
end Sql
end ODataQuery
