import ODataQuery.Proofs.Pipeline.SortKeys
import ODataQuery.Proofs.Sql.Constructs
import ODataQuery.Proofs.Sql.OrderedPages
import ODataQuery.Proofs.Sql.Paging

/-!
# Which orderings name a column twice

Some databases refuse an ordering that names a column twice.  A plan sorts by all the keys of its
query, however often one of them is given.  The operations of a pipeline drop the repeats among
their keys, while a query string is read with all of them.

* `Select.orderings`: the orderings inside a select, in its clauses and in the numbers of its rows.
* `Table.closed_orderings`, `Table.orderings_sortedPage`: no filter brings any, so those of a page
  are by its keys or by the numbers of its rows.
* `Table.nodup_columnsOfKeys_iff`: distinct columns hold distinct properties.
* `Table.nodup_orderings_of_plan`: so only a query string can name a column twice, and does exactly
  if it names a property twice.
-/

set_option autoImplicit false

namespace ODataQuery

/-- A fallback without repeats brings no property twice into the ordering of a query. -/
theorem Query.nodup_withFallback_iff {query : Query} {fallback : Option (List String)}
    (hfallback : ∀ properties ∈ fallback, properties.Nodup) :
    ((query.withFallback fallback).orderBy.map SortKey.property).Nodup
      ↔ (query.orderBy.map SortKey.property).Nodup := by
  rw [withFallback]
  split
  · rename_i hneeds
    have hempty : query.orderBy = [] := (needsFallback_iff.1 hneeds).2.2
    rw [hempty, List.map_map]
    refine iff_of_true ?_ List.nodup_nil
    cases fallback with
    | none => exact List.nodup_nil
    | some properties =>
      show (properties.map id).Nodup
      rw [List.map_id]
      exact hfallback properties rfl
  · rfl

namespace Sql

/-! ## Orderings inside a select -/

namespace Term

mutual

/-- The orderings that rows are numbered in by a term. -/
def orderings : Term → List (List (Term × Direction))
  | .and left right | .or left right | .binary left _ right | .like left right _ =>
    left.orderings ++ right.orderings
  | .not operand | .isNull operand | .isNotNull operand | .part _ operand => operand.orderings
  | .call _ args => orderingsOfArgs args
  | .column _ _ | .bool _ | .integer _ | .parameter _ | .countAll => []
  | .rowNumber keys => keys :: orderingsOfKeys keys

/-- The orderings that rows are numbered in by the arguments of a call. -/
def orderingsOfArgs : List Term → List (List (Term × Direction))
  | [] => []
  | arg :: rest => arg.orderings ++ orderingsOfArgs rest

/-- The orderings that rows are numbered in by the keys of an ordering. -/
def orderingsOfKeys : List (Term × Direction) → List (List (Term × Direction))
  | [] => []
  | (target, _) :: rest => target.orderings ++ orderingsOfKeys rest

end

end Term

/-- The orderings that rows are numbered in by a selection. -/
def Selection.orderings : Selection → List (List (Term × Direction))
  | .columns named => named.flatMap fun column => column.2.orderings
  | .star | .starOf _ => []
  | .both first second => first.orderings ++ second.orderings

/-- The orderings of a select: its own, those that rows are numbered in by its parts, and those of
the select that it takes its rows from. -/
def Select.orderings : Select → List (List (Term × Direction))
  | ⟨selection, relation, condition, orderBy, _, _⟩ =>
    orderBy :: (Term.orderingsOfKeys orderBy ++ selection.orderings ++ condition.orderings
      ++ match relation with
        | some (.select inner _) => inner.orderings
        | _ => [])

namespace Select

/-- A select of a table has no orderings but its own and those of its parts. -/
theorem orderings_of_baseRelation {select : Select} {sql aliasName : String}
    (h : select.relation = some (baseRelation sql aliasName)) :
    select.orderings = select.orderBy :: (Term.orderingsOfKeys select.orderBy
      ++ select.selection.orderings ++ select.condition.orderings) := by
  obtain ⟨selection, relation, condition, orderBy, limit, offset⟩ := select
  cases h
  rw [baseRelation]
  split <;> rw [orderings] <;> simp

/-- A select of a select has the orderings of that one, too. -/
theorem orderings_of_select {select inner : Select} {aliasName : String}
    (h : select.relation = some (.select inner aliasName)) :
    select.orderings = select.orderBy :: (Term.orderingsOfKeys select.orderBy
      ++ select.selection.orderings ++ select.condition.orderings ++ inner.orderings) := by
  obtain ⟨selection, relation, condition, orderBy, limit, offset⟩ := select
  cases h
  rw [orderings]

end Select

namespace Table

variable {table : Table} {baseSql : String} {query : Query}

/-! ## Conditions and keys -/

/-- Constructs number no rows, so no filter does. -/
theorem closed_orderings (table : Table) : table.Closed fun term => term.orderings = [] where
  parameter _ := rfl
  column _ := rfl
  bool _ := rfl
  unary construct _ hoperand := by
    match construct with
    | .not | .nullTest false | .nullTest true | .part _ => exact hoperand
    | .call _ => exact (List.append_nil _).trans hoperand
  binary construct _ _ hleft hright := by
    match construct with
    | .connective .and | .connective .or | .comparison _ | .arithmetic _ | .like =>
      exact List.append_eq_nil_iff.2 ⟨hleft, hright⟩

/-- The keys of an ordering are columns, so they number no rows. -/
theorem orderingsOfKeys_of_keys {keys : List SortKey} {terms : List (Term × Direction)}
    (h : table.keys keys = .ok terms) : Term.orderingsOfKeys terms = [] := by
  induction keys generalizing terms with
  | nil =>
    rw [Table.keys] at h
    cases h
    rfl
  | cons key rest ih =>
    obtain ⟨name, restTerms, -, hrest, rfl⟩ := exists_of_keys_cons_eq_ok h
    rw [Term.orderingsOfKeys, ih hrest]
    rfl

/-- The columns of the table. -/
def columnNames (table : Table) : List String :=
  table.columns.entries.map Prod.snd

/-- If no column comes twice, each holds one property. -/
theorem eq_of_column (hcolumns : table.columnNames.Nodup) {name name' column : String}
    (h : table.columns.get? name = some column) (h' : table.columns.get? name' = some column) :
    name = name' := by
  have hentry : (name, column) = (name', column) := List.inj_on_of_nodup_map hcolumns
    (Dictionary.mem_entries_of_get? h) (Dictionary.mem_entries_of_get? h') rfl
  exact congrArg Prod.fst hentry

/-- The columns of an ordering are those that hold its properties. -/
theorem mem_columnsOfKeys_iff (hcolumns : table.columnNames.Nodup) {keys : List SortKey}
    {terms : List (Term × Direction)} (h : table.keys keys = .ok terms) {property name : String}
    (hname : table.columns.get? property = some name) :
    (.byAlias tableAlias, name) ∈ Term.columnsOfKeys terms
      ↔ property ∈ keys.map SortKey.property := by
  induction keys generalizing terms with
  | nil =>
    rw [Table.keys] at h
    cases h
    simp [Term.columnsOfKeys]
  | cons key rest ih =>
    obtain ⟨own, restTerms, hown, hrest, rfl⟩ := exists_of_keys_cons_eq_ok h
    rw [Term.columnsOfKeys, Term.columns, List.singleton_append, List.mem_cons, ih hrest,
      List.map_cons, List.mem_cons, Prod.mk.injEq, and_iff_right rfl]
    refine or_congr_left ⟨?_, ?_⟩
    · rintro rfl
      exact eq_of_column hcolumns hname hown
    · rintro rfl
      exact Option.some.inj (hname.symm.trans hown)

/-- **Distinct columns hold distinct properties**: an ordering names a column twice exactly if it
names a property twice. -/
theorem nodup_columnsOfKeys_iff (hcolumns : table.columnNames.Nodup) {keys : List SortKey}
    {terms : List (Term × Direction)} (h : table.keys keys = .ok terms) :
    (Term.columnsOfKeys terms).Nodup ↔ (keys.map SortKey.property).Nodup := by
  induction keys generalizing terms with
  | nil =>
    rw [Table.keys] at h
    cases h
    exact iff_of_true List.nodup_nil List.nodup_nil
  | cons key rest ih =>
    obtain ⟨own, restTerms, hown, hrest, rfl⟩ := exists_of_keys_cons_eq_ok h
    rw [Term.columnsOfKeys, Term.columns, List.singleton_append, List.nodup_cons, List.map_cons,
      List.nodup_cons, ih hrest, mem_columnsOfKeys_iff hcolumns hrest hown]

/-! ## Pages -/

/-- **A page is sorted by its keys**, either by its clauses or, where it numbers its rows, inside
the select that it takes them from; it is sorted by the numbers then. -/
theorem orderings_sortedPage {condition : Term} (hcondition : condition.orderings = [])
    {keys : List (Term × Direction)} (hkeys : Term.orderingsOfKeys keys = []) :
    (table.sortedPage (rowsWhere baseSql condition) query keys).orderings = [keys]
      ∨ (table.sortedPage (rowsWhere baseSql condition) query keys).orderings
        = [[(.column (.byAlias numberedAlias) rowNumberName, .asc)], [], keys] := by
  rcases table.sortedPage_cases (rowsWhere baseSql condition) query keys with
    ⟨-, h⟩ | ⟨-, h⟩ | ⟨-, h | h⟩ <;> rw [h]
  · refine .inl ((Select.orderings_of_baseRelation rfl).trans ?_)
    simp [hkeys, rowsWhere, Select.all, Selection.orderings, hcondition]
  · refine .inl ((Select.orderings_of_baseRelation rfl).trans ?_)
    simp [hkeys, rowsWhere, Select.all, Selection.orderings, Term.orderings]
  · refine .inl ((Select.orderings_of_baseRelation rfl).trans ?_)
    simp [hkeys, rowsWhere, Select.all, Selection.orderings, hcondition]
  · refine .inr ((Select.orderings_of_select rfl).trans ?_)
    rw [Select.orderings_of_baseRelation rfl]
    cases query.top <;>
      simp [hkeys, rowsWhere, Select.all, Selection.orderings, hcondition, Term.orderings,
        Term.orderingsOfKeys, numberedPage, countTerm]

/-- No ordering of a page names a column twice exactly if its keys do not. -/
theorem nodup_orderings_sortedPage_iff {condition : Term} (hcondition : condition.orderings = [])
    {keys : List (Term × Direction)} (hkeys : Term.orderingsOfKeys keys = []) :
    (∀ ordering ∈ (table.sortedPage (rowsWhere baseSql condition) query keys).orderings,
        (Term.columnsOfKeys ordering).Nodup)
      ↔ (Term.columnsOfKeys keys).Nodup := by
  rcases orderings_sortedPage hcondition hkeys with h | h <;> rw [h]
  · exact List.forall_mem_singleton
  · simp [Term.columnsOfKeys, Term.columns]

/-! ## Plans -/

/-- **The rows of a query about a schema** are sorted by a column twice exactly if the ordering of
the query names a property twice. -/
theorem nodup_orderings_iff {schema : Schema} (hcolumns : table.columnNames.Nodup)
    (hfallback : ∀ properties ∈ table.fallback, properties.Nodup) (hsuits : query.Suits schema)
    {plan : Plan} (hplan : table.plan baseSql query = .ok plan) :
    (∀ ordering ∈ plan.rows.orderings, (Term.columnsOfKeys ordering).Nodup)
      ↔ (query.orderBy.map SortKey.property).Nodup := by
  obtain ⟨-, condition, keys, hcondition, hkeys, rfl⟩ := plan_eq_ok.1 hplan
  have hnumbers : condition.orderings = [] :=
    table.closed_orderings.of_filterCondition hcondition fun e he => ⟨schema, hsuits.filter e he⟩
  have hkeys := keys_withFallback hkeys
  have hnone : Term.orderingsOfKeys keys = [] := orderingsOfKeys_of_keys hkeys
  show (∀ ordering ∈ (table.sortedPage (rowsWhere baseSql condition) query keys).orderings, _) ↔ _
  rw [nodup_orderings_sortedPage_iff hnumbers hnone, nodup_columnsOfKeys_iff hcolumns hkeys,
    Query.nodup_withFallback_iff hfallback]

theorem columnNames_ofSchema (dialect : Dialect) (schema : Schema) :
    (ofSchema dialect schema).columnNames = schema.columnNames :=
  List.map_map

/-- **Only a query string can sort by a column twice.**  If no column of a schema holds two
properties and the fallback has no repeats, then no ordering of the rows of a pipeline names a
column twice, in any dialect; and the orderings of the rows of a query string name none twice
exactly if the query string names no property twice in its ordering. -/
theorem nodup_orderings_of_plan (dialect : Dialect) {schema : Schema}
    (hcolumns : schema.columnNames.Nodup) {fallback : Option (List String)}
    (hfallback : ∀ properties ∈ fallback, properties.Nodup) (baseSql : String) :
    (∀ (pipeline : Pipeline) description plan, pipeline.describe schema = .ok description →
        Table.plan { ofSchema dialect schema with fallback := fallback } baseSql description.query
          = .ok plan →
        ∀ ordering ∈ plan.rows.orderings, (Term.columnsOfKeys ordering).Nodup)
      ∧ ∀ pairs query plan, Query.parse schema pairs = .ok query →
        Table.plan { ofSchema dialect schema with fallback := fallback } baseSql query = .ok plan →
        ((∀ ordering ∈ plan.rows.orderings, (Term.columnsOfKeys ordering).Nodup)
          ↔ (query.orderBy.map SortKey.property).Nodup) := by
  let table : Table := { ofSchema dialect schema with fallback := fallback }
  have hnames : table.columnNames.Nodup := by
    rwa [← columnNames_ofSchema dialect] at hcolumns
  constructor
  · intro pipeline description plan hdescribe hplan
    exact (nodup_orderings_iff hnames hfallback (Pipeline.suits_of_describe hdescribe)
      hplan).2 (Pipeline.nodup_of_describe hdescribe)
  · intro pairs query plan hparse hplan
    exact nodup_orderings_iff hnames hfallback (Query.suits_of_parse hparse) hplan

/-- The rule at notes in a dialect that numbers rows: a page in the order of a pipeline that sorts
by a property three times, and a page of a query string in the order of the fallback. -/
theorem nodup_orderings_of_numbered_notes :
    let schema : Schema := ⟨"Note", .ofList
      [("Id", { type := .integer }), ("Text", { column := some "body", type := .string })]⟩
    let table : Table :=
      { ofSchema .sqlServerLegacy schema with fallback := some ["Text", "Id"] }
    let pipeline : Pipeline := ⟨.sql "notes", [.orderBy ⟨"Id", .asc⟩, .orderBy ⟨"Text", .desc⟩,
      .thenBy ⟨"Id", .desc⟩, .orderBy ⟨"Id", .desc⟩, .skip 20, .take 10]⟩
    let number : Term := .column (.byAlias "q_paged") "row_number"
    let id : Term := .column (.byAlias "q") "Id"
    let body : Term := .column (.byAlias "q") "body"
    (∃ description plan, pipeline.describe schema = .ok description
        ∧ table.plan "notes" description.query = .ok plan
        ∧ plan.rows.orderings = [[(number, .asc)], [], [(id, .desc), (body, .desc)]]
        ∧ ∀ ordering ∈ plan.rows.orderings, (Term.columnsOfKeys ordering).Nodup)
      ∧ ∃ query plan, Query.parse schema [("$top", "10")] = .ok query
        ∧ table.plan "notes" query = .ok plan
        ∧ plan.rows.orderings = [[(number, .asc)], [], [(body, .asc), (id, .asc)]]
        ∧ ∀ ordering ∈ plan.rows.orderings, (Term.columnsOfKeys ordering).Nodup := by
  intro schema table pipeline number id body
  have hcolumns : schema.columnNames.Nodup := by decide
  have hfallback : ∀ properties ∈ some ["Text", "Id"], properties.Nodup := by
    rintro properties ⟨⟩
    decide
  obtain ⟨hpipeline, hquery⟩ :=
    nodup_orderings_of_plan .sqlServerLegacy hcolumns hfallback "notes"
  refine ⟨⟨_, _, rfl, rfl, ?_, ?_⟩, _, _, rfl, rfl, ?_, ?_⟩
  · rfl
  · exact hpipeline pipeline _ _ rfl rfl
  · rfl
  · exact (hquery [("$top", "10")] _ _ rfl rfl).2 List.nodup_nil

/-- A query string that names a property in both directions sorts by its column twice, where a
pipeline that does so sorts by it once. -/
theorem exists_ordering_not_nodup :
    let schema : Schema := ⟨"Note", .ofList [("Id", { type := .integer })]⟩
    let table : Table := ofSchema .sqlServer schema
    let pipeline : Pipeline := ⟨.sql "notes", [.orderBy ⟨"Id", .asc⟩, .thenBy ⟨"Id", .desc⟩]⟩
    let id : Term := .column (.byAlias "q") "Id"
    schema.columnNames.Nodup ∧ table.fallback = none
      ∧ (∃ query plan, Query.parse schema [("$orderby", "Id,Id desc")] = .ok query
        ∧ table.plan "notes" query = .ok plan
        ∧ (plan.statement .rows).text
          = "SELECT [q].* FROM notes AS [q] ORDER BY [q].[Id] ASC, [q].[Id] DESC"
        ∧ [(id, .asc), (id, .desc)] ∈ plan.rows.orderings
        ∧ ¬ (Term.columnsOfKeys [(id, .asc), (id, .desc)]).Nodup)
      ∧ ∃ description plan, pipeline.describe schema = .ok description
        ∧ table.plan "notes" description.query = .ok plan
        ∧ plan.rows.orderings = [[(id, .asc)]] := by
  intro schema table pipeline id
  have hread : OrderBy.parse schema "Id,Id desc" = .ok [⟨"Id", .asc⟩, ⟨"Id", .desc⟩] := by
    decide +kernel
  refine ⟨by decide, rfl, ⟨_, _, Query.parse_orderBy hread, rfl, ?_, ?_, ?_⟩, _, _, rfl, rfl, rfl⟩
  · decide
  · exact List.mem_cons_self
  · decide

end Table
end Sql
end ODataQuery
