import ODataQuery.Proofs.Sql.Meaning
import ODataQuery.Proofs.StableSort
import ODataQuery.Records.Selection

/-!
# What selects mean

A select turns a list of rows into another one.  Its clauses work one after the other: the condition
leaves rows out, the ones that are left are numbered or counted, they are sorted, a page is taken of
them, and the columns of what is left are worked out.

* `Scope.compareBy`: which of two rows an ordering puts first; an absent value is the lowest.
* `Scope.numbered`: rows with the numbers that they have in orderings.
* `Select.run`: the clauses of a select on the rows of its relation.
* `Select.rows`: the rows of a select over a table.
-/

set_option autoImplicit false

namespace ODataQuery
namespace Sql

/-! ## Orderings -/

/-- Which of two values an ordering puts first.  An absent value is the lowest, and values that
cannot be compared are equal. -/
def sortOrder (direction : Direction) (left right : Value) : Ordering :=
  let order := match left, right with
    | .null, .null => .eq
    | .null, _ => .lt
    | _, .null => .gt
    | left, right => (left.compare right).getD .eq
  match direction with
  | .asc => order
  | .desc => order.swap

theorem sortOrder_eq (direction : Direction) (left right : Value) :
    sortOrder direction left right
      = ODataQuery.Selection.compareValues direction left right := by
  cases direction <;> cases left <;> cases right <;> rfl

namespace Scope

/-- Which of two rows an ordering puts first: the first key that tells them apart decides. -/
def compareBy : List (Term × Direction) → Scope → Scope → Ordering
  | [], _, _ => .eq
  | (term, direction) :: rest, a, b =>
    (sortOrder direction (term.value a) (term.value b)).then (compareBy rest a b)

/-- The places of rows in a list, in the order in which an ordering puts the rows. -/
def places (keys : List (Term × Direction)) (scopes : List Scope) : List Nat :=
  (arrange (fun a b => compareBy keys a.1 b.1) scopes.zipIdx).map Prod.snd

/-- Rows with the numbers that they have in orderings, from one on. -/
def numbered (scopes : List Scope) : List Scope :=
  scopes.zipIdx.map fun (scope, place) =>
    { scope with
      rowNumber := fun keys => .int (Int64.ofNat ((places keys scopes).idxOf place + 1)) }

/-- What stands for all rows where they are counted. -/
def counted (aliasName : String) (scopes : List Scope) : Scope :=
  { aliasName := aliasName, row := [], rowCount := .int (Int64.ofNat scopes.length) }

end Scope

/-! ## Columns -/

/-- Is the term the number of all rows. -/
def Term.isCount : Term → Bool
  | countAll => true
  | _ => false

namespace Selection

/-- Are the rows counted.  Then there is one row for all of them. -/
def counts : Selection → Bool
  | columns terms => terms.any fun column => column.2.isCount
  | star | starOf _ => false
  | both first second => first.counts || second.counts

/-- The columns that a select returns of a row. -/
def row (scope : Scope) : Selection → Row
  | columns terms => terms.map fun column => (column.1, column.2.value scope)
  | star => scope.row
  | starOf table => if table = .byAlias scope.aliasName then scope.row else []
  | both first second => first.row scope ++ second.row scope

end Selection

/-! ## Clauses -/

/-- A part of a list: some elements are left out, and then there is a limit on how many stay. -/
def pageRows {α : Type} (limit offset : Option UInt64) (rows : List α) : List α :=
  match limit with
  | none => rows.drop (offset.getD 0).toNat
  | some limit => (rows.drop (offset.getD 0).toNat).take limit.toNat

theorem map_pageRows {α β : Type} (f : α → β) (limit offset : Option UInt64) (rows : List α) :
    (pageRows limit offset rows).map f = pageRows limit offset (rows.map f) := by
  cases limit <;> simp [pageRows, List.map_drop, List.map_take]

namespace Select

/-- The clauses of a select on the rows of its relation, which has an alias. -/
def run (style : FunctionStyle) (aliasName : String) (source : List Row) (select : Select) :
    List Row :=
  let scopes : List Scope := source.map fun row => { aliasName := aliasName, row := row }
  let matching := scopes.filter fun scope => select.condition.truth style scope == some true
  let ready := if select.selection.counts then [Scope.counted aliasName matching]
    else Scope.numbered matching
  (pageRows select.limit select.offset (arrange (Scope.compareBy select.orderBy) ready)).map
    fun scope => select.selection.row scope

/-- The rows of a select over a table.  A select of no relation has one row without columns. -/
def rows (style : FunctionStyle) (base : List Row) : Select → List Row
  | ⟨selection, relation, condition, orderBy, limit, offset⟩ =>
    let select : Select := ⟨selection, relation, condition, orderBy, limit, offset⟩
    match relation with
    | none => select.run style "" [[]]
    | some (.table _ aliasName) | some (.raw _ aliasName) => select.run style aliasName base
    | some (.select inner aliasName) => select.run style aliasName (inner.rows style base)

end Select

/-- **Counting the rows of a select** gives their number in one row. -/
theorem Select.rows_counting (style : FunctionStyle) (base : List Row) (select : Select)
    (aliasName : String) :
    (select.counting aliasName).rows style base
      = [[("count", .int (Int64.ofNat (select.rows style base).length))]] := by
  have hall : ∀ scopes : List Scope,
      scopes.filter (fun scope => Term.truth style scope (.bool true) == some true) = scopes :=
    fun scopes => List.filter_eq_self.2 fun _ _ => by rw [Term.truth]; rfl
  rw [counting, rows, run, hall]
  show (pageRows none none (arrange _ [Scope.counted aliasName _])).map _ = _
  rw [arrange_of_ordered (List.pairwise_singleton _ _), Scope.counted, List.length_map]
  rfl

/-! ## Places -/

theorem Scope.numbered_map {α : Type} (scopeOf : α → Scope) (elements : List α) :
    Scope.numbered (elements.map scopeOf)
      = elements.zipIdx.map fun (a, place) =>
          { scopeOf a with
            rowNumber := fun keys =>
              .int (Int64.ofNat ((places keys (elements.map scopeOf)).idxOf place + 1)) } := by
  rw [numbered, List.zipIdx_map, List.map_map]
  rfl

/-- The places of rows that compare as some other elements do are those of the elements. -/
theorem Scope.places_map {α : Type} {scopeOf : α → Scope} {keys : List (Term × Direction)}
    {cmp : α → α → Ordering} {elements : List α}
    (h : ∀ a ∈ elements, ∀ b ∈ elements, compareBy keys (scopeOf a) (scopeOf b) = cmp a b) :
    places keys (elements.map scopeOf)
      = (arrange (fun a b => cmp a.1 b.1) elements.zipIdx).map Prod.snd := by
  have hmem : ∀ p ∈ elements.zipIdx, p.1 ∈ elements := fun p hp =>
    (List.mem_zipIdx' hp).2 ▸ List.getElem_mem _
  have harrange : (arrange (fun a b => cmp a.1 b.1) elements.zipIdx).map (Prod.map scopeOf id)
      = arrange (fun a b => compareBy keys a.1 b.1) (elements.zipIdx.map (Prod.map scopeOf id)) :=
    map_arrange fun a ha b hb => (h a.1 (hmem a ha) b.1 (hmem b hb)).symm
  rw [places, List.zipIdx_map, ← harrange, List.map_map]
  rfl

/-- Rows are numbered before they are sorted, and what is sorted is what they are numbered for. -/
theorem Select.run_map {α : Type} {style : FunctionStyle} {aliasName : String} {select : Select}
    (hcounts : select.selection.counts = false) {rowOf : α → Row} {elements : List α}
    {p : α → Bool} {cmp : α → α → Ordering}
    (hcondition : ∀ a ∈ elements,
      (select.condition.truth style { aliasName := aliasName, row := rowOf a } == some true) = p a)
    (hcmp : ∀ a ∈ elements, ∀ b ∈ elements, ∀ m n,
      Scope.compareBy select.orderBy { aliasName := aliasName, row := rowOf a, rowNumber := m }
        { aliasName := aliasName, row := rowOf b, rowNumber := n } = cmp a b) :
    select.run style aliasName (elements.map rowOf)
      = (pageRows select.limit select.offset
            (arrange (fun a b => cmp a.1 b.1) (elements.filter p).zipIdx)).map fun (a, place) =>
          select.selection.row
            { aliasName := aliasName, row := rowOf a
              rowNumber := fun keys => .int (Int64.ofNat
                ((Scope.places keys ((elements.filter p).map fun a =>
                  { aliasName := aliasName, row := rowOf a })).idxOf place + 1)) } := by
  have hmatching : ((elements.map rowOf).map fun row =>
        ({ aliasName := aliasName, row := row } : Scope)).filter
          (fun scope => select.condition.truth style scope == some true)
      = (elements.filter p).map fun a => { aliasName := aliasName, row := rowOf a } := by
    rw [List.map_map, List.filter_map]
    exact congrArg _ (List.filter_congr hcondition)
  have hmem : ∀ q ∈ (elements.filter p).zipIdx, q.1 ∈ elements := fun q hq =>
    List.mem_of_mem_filter ((List.mem_zipIdx' hq).2 ▸ List.getElem_mem _)
  rw [run, hmatching, hcounts, if_neg Bool.false_ne_true, Scope.numbered_map,
    ← map_arrange fun a ha b hb => (hcmp a.1 (hmem a ha) b.1 (hmem b hb) _ _).symm,
    ← map_pageRows, List.map_map]
  rfl

/-- Where every column is returned, the numbers of rows do not matter. -/
theorem Select.run_starOf {α : Type} {style : FunctionStyle} {aliasName : String} {select : Select}
    (hselection : select.selection = .starOf (.byAlias aliasName)) {rowOf : α → Row}
    {elements : List α} {p : α → Bool} {cmp : α → α → Ordering}
    (hcondition : ∀ a ∈ elements,
      (select.condition.truth style { aliasName := aliasName, row := rowOf a } == some true) = p a)
    (hcmp : ∀ a ∈ elements, ∀ b ∈ elements, ∀ m n,
      Scope.compareBy select.orderBy { aliasName := aliasName, row := rowOf a, rowNumber := m }
        { aliasName := aliasName, row := rowOf b, rowNumber := n } = cmp a b) :
    select.run style aliasName (elements.map rowOf)
      = (pageRows select.limit select.offset (arrange cmp (elements.filter p))).map rowOf := by
  have hfst : (arrange (fun a b => cmp a.1 b.1) (elements.filter p).zipIdx).map Prod.fst
      = arrange cmp ((elements.filter p).zipIdx.map Prod.fst) :=
    map_arrange fun _ _ _ _ => rfl
  rw [run_map (by rw [hselection]; rfl) hcondition hcmp]
  rw [List.zipIdx_map_fst] at hfst
  rw [← hfst, ← map_pageRows, List.map_map]
  refine List.map_congr_left fun a _ => ?_
  show select.selection.row _ = rowOf a.1
  rw [hselection, Selection.row, if_pos rfl]

end Sql
end ODataQuery
