import Mathlib.Algebra.Group.Nat.Defs
import ODataQuery.Proofs.Places
import ODataQuery.Proofs.Records.Selection
import ODataQuery.Proofs.Sql.Condition
import ODataQuery.Proofs.Sql.Plan
import ODataQuery.Proofs.Sql.SelectMeaning

/-!
# The selects of a query mean the query

The rows of a plan are those of the records that the query asks for, and its count is the number of
all matches, in every dialect.  A dialect without a clause for pages numbers the rows and compares
the numbers with the bounds of the page; since numbers in a statement are cut off at the greatest
integer, this takes that there are no more rows than integers.

* `Query.withFallback`: the query with the ordering that its page is taken in.
* `Table.page_eq_ok`: the four shapes that the select of a page has.
* `Table.rows_clauses`, `Table.rows_numberedPage`: the rows of a page with clauses and with numbers.
* `Table.plan_means_query`: the plan of a query means the query.
-/

set_option autoImplicit false

namespace ODataQuery

variable {ρ : Type}

namespace Query

/-- The query with the ordering that its page is taken in: an ordering of properties is used where a
page is taken of a query without one. -/
def withFallback (query : Query) (fallback : Option (List String)) : Query :=
  if query.isPaged && query.top != some 0 && query.orderBy.isEmpty then
    { query with orderBy := (fallback.getD []).map fun property => ⟨property, .asc⟩ }
  else query

variable (query : Query) (fallback : Option (List String))

@[simp] theorem filter_withFallback : (query.withFallback fallback).filter = query.filter := by
  rw [withFallback]
  split <;> rfl

@[simp] theorem pageOf_withFallback {α : Type} (elements : List α) :
    (query.withFallback fallback).pageOf elements = query.pageOf elements := by
  rw [withFallback]
  split <;> rfl

theorem orderBy_subset_withFallback : query.orderBy ⊆ (query.withFallback fallback).orderBy := by
  rw [withFallback]
  split
  · rename_i h
    simp only [Bool.and_eq_true, List.isEmpty_iff] at h
    rw [h.2]
    exact List.nil_subset _
  · exact List.Subset.refl _

/-- A query that is not paged asks for all matches. -/
theorem pageOf_of_not_isPaged {query : Query} {α : Type} (h : query.isPaged = false)
    (elements : List α) : query.pageOf elements = elements := by
  rw [isPaged, Bool.or_eq_false_iff, Option.isSome_eq_false_iff, Option.isNone_iff_eq_none] at h
  obtain ⟨hskip, htop⟩ := h
  rw [pageOf, htop]
  cases hsome : query.skip with
  | none => rfl
  | some skip =>
    simp only [hsome, decide_eq_false_iff_not] at hskip
    have hzero : skip.toNat = 0 :=
      Nat.eq_zero_of_not_pos fun h => hskip (UInt64.lt_iff_toNat_lt.2 h)
    rw [Option.getD_some, hzero, List.drop_zero]

/-- The clauses of a page leave out what the query does. -/
theorem pageRows_eq_pageOf {α : Type} (elements : List α) :
    Sql.pageRows query.top (query.skip.filter (0 < ·)) elements = query.pageOf elements := by
  have hskip : ((query.skip.filter (0 < ·)).getD 0).toNat = (query.skip.getD 0).toNat := by
    cases query.skip with
    | none => rfl
    | some skip =>
      rw [Option.filter_some]
      split
      · rfl
      · rename_i hzero
        rw [decide_eq_true_eq, UInt64.lt_iff_toNat_lt] at hzero
        exact (Nat.eq_zero_of_not_pos hzero).symm
  rw [pageOf]
  cases query.top with
  | none => rw [Sql.pageRows, hskip]
  | some top => rw [Sql.pageRows, hskip]

end Query

namespace Sql
namespace Table

/-! ## The shapes of a page -/

/-- A page has the keys of the query with the ordering that it is taken in. -/
theorem keys_withFallback {table : Table} {query : Query} {terms : List (Term × Direction)}
    (h : table.pageKeys query = .ok terms) :
    table.keys (query.withFallback table.fallback).orderBy = .ok terms := by
  rw [pageKeys, Query.needsFallback] at h
  rw [Query.withFallback]
  split at h
  · rename_i hneeds
    obtain ⟨properties, hproperties, -, hkeys⟩ := fallbackKeys_eq_ok.1 h
    rw [if_pos hneeds, hproperties]
    exact hkeys
  · rename_i hneeds
    rw [if_neg hneeds]
    exact h

/-- **The select of a page** sorts all matches, has none of them, limits them by its clauses, or
numbers them.  Its ordering is that of the query, or the one of the table where a page needs it. -/
theorem page_eq_ok {table : Table} {select rows : Select} {query : Query}
    (h : table.page select query = .ok rows) :
    ∃ terms, table.keys (query.withFallback table.fallback).orderBy = .ok terms
      ∧ ((query.isPaged = false ∧ rows = { select with orderBy := terms })
        ∨ (query.top = some 0 ∧ rows = { select with condition := .bool false, orderBy := terms })
        ∨ rows = { select with
            orderBy := terms, limit := query.top, offset := query.skip.filter (0 < ·) }
        ∨ rows = numberedPage select terms query.top (query.skip.filter (0 < ·))) := by
  rw [page_eq, map_eq_ok] at h
  obtain ⟨terms, hterms, rfl⟩ := h
  refine ⟨terms, keys_withFallback hterms, ?_⟩
  rcases table.sortedPage_cases select query terms with hall | hnone | ⟨-, hclauses | hnumbers⟩
  · exact .inl hall
  · exact .inr (.inl hnone)
  · exact .inr (.inr (.inl hclauses))
  · exact .inr (.inr (.inr hnumbers))

/-! ## Rows of relations -/

section

variable {style : FunctionStyle} {base : List Row} {select : Select} {aliasName : String}

/-- The rows of a select of a table are its clauses on the rows of the table. -/
theorem rows_of_baseRelation {sql : String}
    (h : select.relation = some (baseRelation sql aliasName)) :
    select.rows style base = select.run style aliasName base := by
  obtain ⟨selection, relation, condition, orderBy, limit, offset⟩ := select
  cases h
  rw [baseRelation]
  split <;> rw [Select.rows]

/-- The rows of a select of another are its clauses on the rows of the other. -/
theorem rows_of_select {inner : Select} (h : select.relation = some (.select inner aliasName)) :
    select.rows style base = select.run style aliasName (inner.rows style base) := by
  obtain ⟨selection, relation, condition, orderBy, limit, offset⟩ := select
  cases h
  rw [Select.rows]

end

/-! ## Matching rows -/

section

variable {binding : Binding ρ} (hdistinct : binding.schema.columnNames.Nodup) {table : Table}
  {dialect : Dialect} (hcolumns : table.columns = (ofSchema dialect binding.schema).columns)
include hdistinct hcolumns

/-- The column of a property has what is read from the record. -/
theorem value_of_column_row {property : String} {term : Term}
    (hterm : table.column property = .ok term) (record : ρ)
    (rowNumber : List (Term × Direction) → Value) :
    term.value { aliasName := tableAlias, row := binding.row record, rowNumber := rowNumber }
      = binding.read property record := by
  have hdeclared : ∃ declared, binding.schema.property? property = some declared := by
    obtain ⟨column, hcolumn, -⟩ := column_eq_ok.1 hterm
    rw [hcolumns, ofSchema, Dictionary.get?_mapValues, Option.map_eq_some_iff] at hcolumn
    obtain ⟨declared, hdeclared, -⟩ := hcolumn
    exact ⟨declared, hdeclared⟩
  obtain ⟨declared, hdeclared⟩ := hdeclared
  obtain ⟨read, hread, hvalue⟩ := value_of_column
    (Scope.shows_row hdistinct hcolumns record rowNumber .null) hterm hdeclared
  rw [hvalue, Binding.read_of_reader hread]

/-- Rows are put in the order in which their records are. -/
theorem compareBy_of_keys {keys : List SortKey} {terms : List (Term × Direction)}
    (hkeys : table.keys keys = .ok terms) (a b : ρ) (m n : List (Term × Direction) → Value) :
    Scope.compareBy terms
        { aliasName := tableAlias, row := binding.row a, rowNumber := m }
        { aliasName := tableAlias, row := binding.row b, rowNumber := n }
      = binding.compareBy keys a b := by
  induction keys generalizing terms with
  | nil =>
    rw [Table.keys] at hkeys
    cases hkeys
    rfl
  | cons key rest ih =>
    obtain ⟨column, restTerms, hcolumn, hrest, rfl⟩ := keys_cons_eq_ok.1 hkeys
    rw [Scope.compareBy, ih hrest, value_of_column_row hdistinct hcolumns hcolumn,
      value_of_column_row hdistinct hcolumns hcolumn, sortOrder_eq]
    rfl

/-- The select of the matching rows has a condition that holds for the rows of matching records. -/
theorem matching_eq_ok {baseSql : String} {query : Query} {select : Select}
    (hfilter : ∀ filter ∈ query.filter, filter.checkPredicate binding.schema = .ok ())
    (h : table.matching baseSql query = .ok select) :
    ∃ condition, select = { Select.all tableAlias (baseRelation baseSql tableAlias) with
        condition := condition }
      ∧ ∀ record, (condition.truth table.dialect.functions
          { aliasName := tableAlias, row := binding.row record } == some true)
        = binding.accepts query.filter record := by
  rw [matching] at h
  cases hsome : query.filter with
  | none =>
    simp only [hsome] at h
    cases h
    exact ⟨.bool true, rfl, fun record => rfl⟩
  | some filter =>
    simp only [hsome, bind_eq_ok, Except.ok.injEq] at h
    obtain ⟨condition, hcondition, rfl⟩ := h
    refine ⟨condition, rfl, fun record => ?_⟩
    obtain ⟨node, hnode, htruth⟩ :=
      truth_of_condition (Scope.shows_row hdistinct hcolumns record _ _) hcondition
        (Expression.checkPredicate_eq_ok.1 (hfilter filter hsome))
    rw [htruth, Binding.accepts, Option.all_some, Binding.selects_of_resolve hnode]
    rfl

/-! ## Pages by clauses -/

/-- The clauses of a select of the matching rows sort them and take a part of them. -/
theorem rows_clauses {baseSql : String} {condition : Term} {p : ρ → Bool} {records : List ρ}
    (hcondition : ∀ record, (condition.truth table.dialect.functions
      { aliasName := tableAlias, row := binding.row record } == some true) = p record)
    {keys : List SortKey} {terms : List (Term × Direction)} (hkeys : table.keys keys = .ok terms)
    (limit offset : Option UInt64) :
    Select.rows table.dialect.functions (records.map binding.row)
        { Select.all tableAlias (baseRelation baseSql tableAlias) with
          condition := condition, orderBy := terms, limit := limit, offset := offset }
      = (pageRows limit offset (arrange (binding.compareBy keys) (records.filter p))).map
          binding.row := by
  rw [rows_of_baseRelation rfl, Select.run_starOf rfl (fun record _ => hcondition record)
    fun a _ b _ m n => compareBy_of_keys hdistinct hcolumns hkeys a b m n]

end

/-! ## Numbers of rows -/

/-- A row with its number. -/
def numberedRow (row : Row) (number : Nat) : Row :=
  row ++ [(rowNumberName, .int (Int64.ofNat number))]

/-- A row without its number. -/
def withoutNumber (row : Row) : Row :=
  row.filter fun column => column.1 != rowNumberName

theorem withoutNumber_row {row : Row} (h : rowNumberName ∉ row.map Prod.fst) :
    withoutNumber row = row := by
  refine List.filter_eq_self.2 fun column hcolumn => ?_
  rw [bne_iff_ne]
  exact fun heq => h (heq ▸ List.mem_map_of_mem hcolumn)

theorem withoutNumber_numberedRow {row : Row} (h : rowNumberName ∉ row.map Prod.fst)
    (number : Nat) : withoutNumber (numberedRow row number) = row := by
  have hrow := withoutNumber_row h
  rw [withoutNumber] at hrow
  rw [withoutNumber, numberedRow, List.filter_append, hrow,
    List.filter_cons_of_neg (by simp), List.filter_nil, List.append_nil]

/-- The column with the number of a row. -/
def numberTerm : Term := .column (.byAlias numberedAlias) rowNumberName

theorem value_numberTerm {row : Row} (h : rowNumberName ∉ row.map Prod.fst) (number : Nat)
    (rowNumber : List (Term × Direction) → Value) :
    numberTerm.value
        { aliasName := numberedAlias, row := numberedRow row number, rowNumber := rowNumber }
      = .int (Int64.ofNat number) := by
  have hnone : row.lookup rowNumberName = none :=
    List.lookup_eq_none_iff.2 fun column hcolumn => by
      rw [bne_iff_ne]
      exact fun heq => h (heq ▸ List.mem_map_of_mem hcolumn)
  rw [numberTerm, Term.value, Scope.column, if_pos rfl]
  show ((numberedRow row number).lookup rowNumberName).getD .null = _
  rw [numberedRow, List.lookup_append, hnone]
  rfl

/-- A number in a statement is cut off at the greatest integer. -/
theorem value_countTerm (n : Nat) (scope : Scope) :
    ∃ i : Int64, (countTerm n).value scope = .int i ∧ i.toInt = min n (2 ^ 63 - 1) := by
  refine ⟨_, by rw [countTerm, Term.value], ?_⟩
  cases hinteger : Number.integer? n with
  | some i =>
    have hi := Number.integer?_eq_some_iff.1 hinteger
    have hle := i.toInt_le
    rw [Int64.toInt_maxValue] at hle
    rw [Option.getD_some]
    omega
  | none =>
    have hrange := Number.integer?_eq_none_iff.1 hinteger
    rw [Int64.toInt_minValue, Int64.toInt_maxValue] at hrange
    rw [Option.getD_none, Int64.toInt_maxValue]
    omega

theorem compare_natCast_succ (m n : Nat) :
    compare ((m + 1 : Nat) : Int) ((n + 1 : Nat) : Int) = compare m n := by
  rw [Int.compare_eq_ite_lt, Nat.compare_eq_ite_lt]
  simp only [Int.ofNat_lt, Nat.add_lt_add_iff_right]

section

variable {style : FunctionStyle} {scope : Scope} {place : Nat} (hplace : place + 1 < 2 ^ 63)
  (hnumber : numberTerm.value scope = .int (Int64.ofNat (place + 1)))
include hplace hnumber

/-- The place of a row is not before the offset if its number is greater. -/
theorem truth_after (offset : Nat) :
    (Term.binary numberTerm (.comparison .gt) (countTerm offset)).truth style scope
      = some (decide (offset ≤ place)) := by
  obtain ⟨i, hvalue, hi⟩ := value_countTerm offset scope
  rw [Term.truth, hnumber, hvalue]
  show some (compare (Int64.ofNat (place + 1)).toInt i.toInt == .gt) = _
  rw [Int64.toInt_ofNat_of_lt hplace, hi, Option.some_inj, Bool.eq_iff_iff, beq_iff_eq,
    Int.compare_eq_gt, decide_eq_true_eq]
  omega

/-- The place of a row is before the end of the page if its number is not greater. -/
theorem truth_upto (last : Nat) :
    (Term.binary numberTerm (.comparison .le) (countTerm last)).truth style scope
      = some (decide (place < last)) := by
  obtain ⟨i, hvalue, hi⟩ := value_countTerm last scope
  rw [Term.truth, hnumber, hvalue]
  show some (compare (Int64.ofNat (place + 1)).toInt i.toInt != .gt) = _
  rw [Int64.toInt_ofNat_of_lt hplace, hi, Option.some_inj, Bool.eq_iff_iff, bne_iff_ne,
    Int.compare_ne_gt, decide_eq_true_eq]
  omega

/-- The condition on the numbers of a page holds for the places on the page. -/
theorem truth_numberedPage (select : Select) (keys : List (Term × Direction))
    (top offset : Option UInt64) :
    ((numberedPage select keys top offset).condition.truth style scope == some true)
      = (decide ((offset.getD 0).toNat ≤ place)
          && (top.map fun n => (offset.getD 0).toNat + n.toNat).all
            fun hi => decide (place < hi)) := by
  cases top with
  | none =>
    show (Term.truth style scope (.binary numberTerm _ _) == some true) = _
    rw [truth_after hplace hnumber]
    simp
  | some n =>
    -- no place comes near the greatest number of 64 bits, so the sum need not be exact there
    have hsum : decide (place < saturatingSum (offset.getD 0) n)
        = decide (place < (offset.getD 0).toNat + n.toNat) := by
      have hsize : UInt64.size = 2 ^ 64 := rfl
      rw [saturatingSum, hsize, decide_eq_decide]
      omega
    show (Truth.and (Term.truth style scope (.binary numberTerm _ _))
      (Term.truth style scope (.binary numberTerm _ _)) == some true) = _
    rw [truth_after hplace hnumber, truth_upto hplace hnumber, hsum, Option.map_some,
      Option.all_some]
    cases decide ((offset.getD 0).toNat ≤ place) <;>
      cases decide (place < (offset.getD 0).toNat + n.toNat) <;> rfl

/-- Rows that are sorted by their numbers are sorted by their places. -/
theorem compareBy_numberTerm {scope' : Scope} {place' : Nat} (hplace' : place' + 1 < 2 ^ 63)
    (hnumber' : numberTerm.value scope' = .int (Int64.ofNat (place' + 1))) :
    Scope.compareBy [(numberTerm, .asc)] scope scope' = compare place place' := by
  show (sortOrder .asc (numberTerm.value scope) (numberTerm.value scope')).then .eq = _
  rw [hnumber, hnumber']
  show (compare (Int64.ofNat _).toInt (Int64.ofNat _).toInt).then .eq = _
  rw [Int64.toInt_ofNat_of_lt hplace, Int64.toInt_ofNat_of_lt hplace', Ordering.then_eq,
    compare_natCast_succ]

end

/-! ## Pages by numbers -/

section

variable {binding : Binding ρ} (hdistinct : binding.schema.columnNames.Nodup) {table : Table}
  {dialect : Dialect} (hcolumns : table.columns = (ofSchema dialect binding.schema).columns)
include hdistinct hcolumns

/-- The matching rows have the numbers of the places that their records have in the ordering. -/
theorem rows_numbered {baseSql : String} {condition : Term} {p : ρ → Bool} {records : List ρ}
    (hcondition : ∀ record, (condition.truth table.dialect.functions
      { aliasName := tableAlias, row := binding.row record } == some true) = p record)
    {keys : List SortKey} {terms : List (Term × Direction)} (hkeys : table.keys keys = .ok terms) :
    Select.rows table.dialect.functions (records.map binding.row)
        { Select.all tableAlias (baseRelation baseSql tableAlias) with
          condition := condition
          selection := .both (.starOf (.byAlias tableAlias))
            (.columns [(rowNumberName, .rowNumber terms)]) }
      = (records.filter p).zipIdx.map fun a =>
          numberedRow (binding.row a.1)
            (placeOf (binding.compareBy keys) (records.filter p) a.2 + 1) := by
  have hplaces : Scope.places terms ((records.filter p).map fun record =>
        { aliasName := tableAlias, row := binding.row record })
      = (arrangeIndexed (binding.compareBy keys) (records.filter p)).map Prod.snd :=
    Scope.places_map fun a _ b _ => compareBy_of_keys hdistinct hcolumns hkeys a b _ _
  rw [rows_of_baseRelation rfl, Select.run_map rfl (fun record _ => hcondition record)
    fun a _ b _ m n => rfl]
  have hunordered : arrange (fun _ _ : ρ × Nat => .eq) (records.filter p).zipIdx
      = (records.filter p).zipIdx :=
    arrange_of_ordered (List.pairwise_of_forall fun _ _ => rfl)
  show (pageRows none none (arrange (fun _ _ : ρ × Nat => .eq) (records.filter p).zipIdx)).map _ = _
  rw [hunordered]
  refine List.map_congr_left fun a _ => ?_
  show binding.row a.1 ++ _ = _
  rw [numberedRow, placeOf, ← hplaces]
  rfl

/-- **A page by numbers is a page**: the rows whose numbers are on it, sorted by their numbers, are
those that the clauses of another dialect would leave. -/
theorem rows_numberedPage (hfree : rowNumberName ∉ binding.schema.columnNames) {baseSql : String}
    {condition : Term} {p : ρ → Bool} {records : List ρ} (hlength : records.length < 2 ^ 63)
    (hcondition : ∀ record, (condition.truth table.dialect.functions
      { aliasName := tableAlias, row := binding.row record } == some true) = p record)
    {keys : List SortKey} {terms : List (Term × Direction)} (hkeys : table.keys keys = .ok terms)
    (top offset : Option UInt64) :
    (Select.rows table.dialect.functions (records.map binding.row)
        (numberedPage { Select.all tableAlias (baseRelation baseSql tableAlias) with
          condition := condition } terms top offset)).map withoutNumber
      = (pageRows top offset (arrange (binding.compareBy keys) (records.filter p))).map
          binding.row := by
  let matching := records.filter p
  let place (a : ρ × Nat) := placeOf (binding.compareBy keys) matching a.2
  have hrow (record : ρ) : rowNumberName ∉ (binding.row record).map Prod.fst := by
    rwa [Binding.map_fst_row]
  have hplace : ∀ a ∈ matching.zipIdx, place a + 1 < 2 ^ 63 := fun a ha => by
    have hlt : place a < matching.length := placeOf_lt _ _ ha
    have hle : matching.length ≤ records.length := List.length_filter_le p records
    omega
  let byPlace (a b : ρ × Nat) := compare (place a) (place b)
  let onPage (a : ρ × Nat) := decide ((offset.getD 0).toNat ≤ place a)
    && (top.map fun n => (offset.getD 0).toNat + n.toNat).all fun hi => decide (place a < hi)
  let row (a : ρ × Nat) := numberedRow (binding.row a.1) (place a + 1)
  let page := numberedPage { Select.all tableAlias (baseRelation baseSql tableAlias) with
    condition := condition } terms top offset
  have honPage : ∀ a ∈ matching.zipIdx, (page.condition.truth table.dialect.functions
      { aliasName := numberedAlias, row := row a } == some true) = onPage a := fun a ha =>
    truth_numberedPage (hplace a ha) (value_numberTerm (hrow a.1) _ _) _ _ _ _
  have hbyPlace : ∀ a ∈ matching.zipIdx, ∀ b ∈ matching.zipIdx, ∀ m n,
      Scope.compareBy page.orderBy
        { aliasName := numberedAlias, row := row a, rowNumber := m }
        { aliasName := numberedAlias, row := row b, rowNumber := n } = byPlace a b := by
    intro a ha b hb m n
    exact compareBy_numberTerm (hplace a ha) (value_numberTerm (hrow a.1) _ _)
      (hplace b hb) (value_numberTerm (hrow b.1) _ _)
  have hsource : page.rows table.dialect.functions (records.map binding.row)
      = page.run table.dialect.functions numberedAlias (matching.zipIdx.map row) :=
    (rows_of_select rfl).trans
      (congrArg (page.run _ _) (rows_numbered hdistinct hcolumns hcondition hkeys))
  calc (page.rows table.dialect.functions (records.map binding.row)).map withoutNumber
      = ((arrange byPlace (matching.zipIdx.filter onPage)).map row).map withoutNumber := by
        rw [hsource, Select.run_starOf rfl honPage hbyPlace]
        rfl
    _ = ((arrange byPlace (matching.zipIdx.filter onPage)).map Prod.fst).map binding.row := by
        rw [List.map_map, List.map_map]
        exact List.map_congr_left fun a _ => withoutNumber_numberedRow (hrow a.1) _
    _ = (pageRows top offset (arrange (binding.compareBy keys) matching)).map binding.row := by
        rw [page_by_place (binding.compareBy keys) matching (fun _ _ _ _ => rfl)
          (offset.getD 0).toNat (top.map fun n => (offset.getD 0).toNat + n.toNat)]
        cases top with
        | none => rfl
        | some n =>
          show (List.drop _ (List.take _ _)).map binding.row = (List.take _ (List.drop _ _)).map _
          rw [List.drop_take, Nat.add_sub_cancel_left]

/-! ## Plans -/

omit hdistinct in
/-- A property that has a column is one of the schema. -/
theorem isSome_property_of_keys {keys : List SortKey} {terms : List (Term × Direction)}
    (h : table.keys keys = .ok terms) :
    ∀ key ∈ keys, (binding.schema.property? key.property).isSome := by
  induction keys generalizing terms with
  | nil => exact fun _ hkey => nomatch hkey
  | cons key rest ih =>
    obtain ⟨column, restTerms, hcolumn, hrest, -⟩ := keys_cons_eq_ok.1 h
    intro other hother
    rcases List.mem_cons.1 hother with rfl | hother
    · obtain ⟨name, hname, -⟩ := column_eq_ok.1 hcolumn
      rw [hcolumns, ofSchema, Dictionary.get?_mapValues, Option.map_eq_some_iff] at hname
      obtain ⟨declared, hdeclared, -⟩ := hname
      exact Option.isSome_iff_exists.2 ⟨declared, hdeclared⟩
    · exact ih hrest other hother

/-- The rows of a page are those of the records that the query asks for, whatever its shape is. -/
theorem rows_of_page (hfree : rowNumberName ∉ binding.schema.columnNames) {baseSql : String}
    {query : Query} {records : List ρ} (hlength : records.length < 2 ^ 63) {condition : Term}
    (hcondition : ∀ record, (condition.truth table.dialect.functions
      { aliasName := tableAlias, row := binding.row record } == some true)
        = binding.accepts query.filter record)
    {page : Select}
    (hpage : table.page { Select.all tableAlias (baseRelation baseSql tableAlias) with
      condition := condition } query = .ok page) :
    (page.rows table.dialect.functions (records.map binding.row)).map withoutNumber
      = ((query.withFallback table.fallback).answer binding records).map binding.row := by
  obtain ⟨terms, hkeys, hshape⟩ := page_eq_ok hpage
  have hplain {select : Select} {answer : List ρ}
      (h : select.rows table.dialect.functions (records.map binding.row)
        = answer.map binding.row) :
      (select.rows table.dialect.functions (records.map binding.row)).map withoutNumber
        = answer.map binding.row := by
    rw [h, List.map_map]
    exact List.map_congr_left fun record _ =>
      withoutNumber_row (by rwa [Binding.map_fst_row])
  rw [Query.answer, Query.pageOf_withFallback, Query.filter_withFallback]
  rcases hshape with ⟨hpaged, rfl⟩ | ⟨htop, rfl⟩ | rfl | rfl
  · rw [Query.pageOf_of_not_isPaged hpaged]
    exact hplain (rows_clauses hdistinct hcolumns hcondition hkeys none none)
  · have hnone : ∀ record, (Term.truth table.dialect.functions
        { aliasName := tableAlias, row := binding.row record } (.bool false) == some true)
          = false := fun _ => by rw [Term.truth]; rfl
    refine hplain ((rows_clauses hdistinct hcolumns hnone hkeys none none).trans ?_)
    rw [Query.pageOf, htop, List.filter_false, arrange_of_ordered .nil]
    show [] = (List.take 0 _).map binding.row
    rw [List.take_zero, List.map_nil]
  · rw [← Query.pageRows_eq_pageOf]
    exact hplain (rows_clauses hdistinct hcolumns hcondition hkeys _ _)
  · rw [← Query.pageRows_eq_pageOf]
    exact rows_numberedPage hdistinct hcolumns hfree hlength hcondition hkeys _ _

/-- The number of matching rows is the number of all matches. -/
theorem length_rows_matching {baseSql : String} {query : Query} {records : List ρ}
    {condition : Term}
    (hcondition : ∀ record, (condition.truth table.dialect.functions
      { aliasName := tableAlias, row := binding.row record } == some true)
        = binding.accepts query.filter record) :
    (Select.rows table.dialect.functions (records.map binding.row)
        { Select.all tableAlias (baseRelation baseSql tableAlias) with
          condition := condition }).length
      = (query.unpaged.answer binding records).length := by
  have hkeys : table.keys [] = .ok [] := by rw [keys]
  rw [Query.length_answer_unpaged]
  refine (congrArg List.length
    (rows_clauses hdistinct hcolumns hcondition hkeys none none)).trans ?_
  rw [List.length_map]
  exact (arrange_perm _ _).length_eq

end

/-- **The plan of a query means the query**, in every dialect: its rows are those of the records
that the query asks for, in their order, and its count is the number of all matches.  A page of a
query without an ordering is the one of the query in the ordering of the table. -/
theorem plan_means_query (dialect : Dialect) (fallback : Option (List String)) (binding : Binding ρ)
    (hdistinct : binding.schema.columnNames.Nodup)
    (hfree : rowNumberName ∉ binding.schema.columnNames) {baseSql : String} {query : Query}
    (hfilter : ∀ filter ∈ query.filter, filter.checkPredicate binding.schema = .ok ())
    {plan : Plan} (hplan : Table.plan { ofSchema dialect binding.schema with fallback := fallback }
      baseSql query = .ok plan)
    (records : List ρ) (hlength : records.length < 2 ^ 63)
    (hsortable : binding.Sortable (query.withFallback fallback).orderBy records) :
    ∃ application ordered, query.apply binding = .ok application
      ∧ (query.withFallback fallback).apply binding = .ok ordered
      ∧ (plan.rows.rows dialect.functions (records.map binding.row)).map withoutNumber
        = (ordered.result.result records).map binding.row
      ∧ plan.count.rows dialect.functions (records.map binding.row)
        = [[("count", .int (Int64.ofNat (application.countSource.result records).length))]] := by
  let table : Table := { ofSchema dialect binding.schema with fallback := fallback }
  have hcolumns : table.columns = (ofSchema dialect binding.schema).columns := rfl
  rw [Table.plan] at hplan
  split at hplan
  · cases hplan
  obtain ⟨select, hselect, hplan⟩ := bind_eq_ok.1 hplan
  obtain ⟨page, hpage, hplan⟩ := bind_eq_ok.1 hplan
  cases hplan
  obtain ⟨condition, rfl, hcondition⟩ := matching_eq_ok hdistinct hcolumns hfilter hselect
  obtain ⟨terms, hkeys, -⟩ := page_eq_ok hpage
  have hknown := isSome_property_of_keys hcolumns hkeys
  obtain ⟨application, happlication⟩ := Query.exists_apply hfilter fun key hkey =>
    hknown key (query.orderBy_subset_withFallback fallback hkey)
  have hfilter' : ∀ filter ∈ (query.withFallback fallback).filter,
      filter.checkPredicate binding.schema = .ok () := by
    rwa [Query.filter_withFallback]
  obtain ⟨ordered, hordered⟩ := Query.exists_apply hfilter' hknown
  refine ⟨application, ordered, happlication, hordered, ?_, ?_⟩
  · rw [Selection.result_of_ofQuery (Query.apply_eq_ok.1 hordered).1 hsortable]
    exact rows_of_page hdistinct hcolumns hfree hlength hcondition hpage
  · have hsortable' : binding.Sortable query.unpaged.orderBy records := fun key hkey =>
      hsortable key (query.orderBy_subset_withFallback fallback hkey)
    rw [Select.rows_counting, Selection.result_of_ofQuery (Query.apply_eq_ok.1 happlication).2
      hsortable', ← length_rows_matching hdistinct hcolumns hcondition]
    rfl

/-- The rule for a page of numbered rows that ends past the greatest number of 64 bits, of a query
that names no ordering. -/
theorem plan_means_query_of_numbered_page :
    let binding : Binding (Int64 × String) := ⟨"Note", .ofList
      [("Id", ⟨{ type := .integer }, fun note => .int note.1⟩),
        ("Text", ⟨{ column := some "body", type := .string }, fun note => .string note.2⟩)]⟩
    let table : Table := { ofSchema .sqlServerLegacy binding.schema with fallback := some ["Id"] }
    let query : Query :=
      { filter := some (.call (.test .startsWith) [.property "Text", .literal (.string "a")])
        skip := some 1
        top := some 18446744073709551615 }
    let records : List (Int64 × String) := [(3, "ab"), (1, "a"), (2, "b")]
    let base := records.map binding.row
    ∃ plan application ordered, table.plan "notes" query = .ok plan
      ∧ query.apply binding = .ok application
      ∧ (query.withFallback table.fallback).apply binding = .ok ordered
      ∧ (plan.rows.rows .transactSql base).map withoutNumber
        = (ordered.result.result records).map binding.row
      ∧ plan.count.rows .transactSql base
        = [[("count", .int (Int64.ofNat (application.countSource.result records).length))]] := by
  intro binding table query records base
  have hfilter : ∀ filter ∈ query.filter, filter.checkPredicate binding.schema = .ok () := by
    rintro filter ⟨rfl⟩
    rfl
  have hsortable : binding.Sortable (query.withFallback table.fallback).orderBy records := by
    intro key hkey
    obtain rfl := List.mem_singleton.1 hkey
    exact ⟨.integer, by decide, by simp [records]; decide⟩
  have hplan : ∃ plan, table.plan "notes" query = .ok plan := ⟨_, rfl⟩
  obtain ⟨plan, hplan⟩ := hplan
  obtain ⟨application, ordered, h⟩ := plan_means_query .sqlServerLegacy (some ["Id"]) binding
    (by decide) (by decide) hfilter hplan records (by decide) hsortable
  exact ⟨plan, application, ordered, hplan, h⟩

end Table
end Sql
end ODataQuery
