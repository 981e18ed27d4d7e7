import ODataQuery.Proofs.Expression.Parts
import ODataQuery.Proofs.Sql.Constructs
import ODataQuery.Proofs.Sql.Paging

/-!
# Placeholders and their parameters

Which value belongs to a placeholder is decided by writing: parameters are numbered in the order in
which the text of a statement comes to them.  That order is the one of the literals of the filter,
in every dialect and every shape of a page.

* `Fragment.toStatement_placeholder`: a placeholder is spelled for the number of its parameter.
* `Unary.parameters_fragment`, `Binary.parameters_fragment`: the constructs bind the values of their
  operands, from left to right.
* `Expression.literals`, `Table.boundValues`: the values that an operand, and a filter, bind.
* `Table.parameters_of_scalar`, `Table.parameters_of_condition`: writing comes to them in this
  order.
* `Select.parameters_fragment`: a select binds the values of its parts.
* `Table.parameters_match_placeholders`: so the parameters of a plan are the values that its filter
  binds.
-/

set_option autoImplicit false

namespace ODataQuery

/-! ## Literals -/

namespace Expression

/-- The value of a literal. -/
def value? : Expression → Option Value
  | literal value => some value
  | _ => none

/-- The values of the literals of an expression, from left to right. -/
def literals (e : Expression) : List Value :=
  e.parts.filterMap value?

theorem literals_literal (value : Value) : (literal value).literals = [value] := by
  rw [literals, parts]
  rfl

theorem literals_property (name : String) : (property name).literals = [] := by
  rw [literals, parts]
  rfl

theorem literals_binary (left : Expression) (operator : Operator) (right : Expression) :
    (binary left operator right).literals = left.literals ++ right.literals := by
  rw [literals, parts, List.filterMap_cons_none rfl, List.filterMap_append]
  rfl

theorem literals_call_singleton (function : Function) (arg : Expression) :
    (call function [arg]).literals = arg.literals := by
  rw [literals, parts, List.filterMap_cons_none rfl, partsOfArgs, partsOfArgs, List.append_nil]
  rfl

end Expression

namespace Sql

/-! ## Numbers of parameters -/

theorem nameParameters_eq_mapIdx (number : Nat) (values : List Value) :
    nameParameters number values
      = values.mapIdx fun i value => ⟨s!"p{number + i}", value⟩ := by
  induction values generalizing number with
  | nil => rfl
  | cons value rest ih =>
    rw [nameParameters, ih, List.mapIdx_cons]
    simp only [Nat.add_zero, Nat.add_assoc, Nat.add_comm 1]

/-- The parameters of a statement are the values of its fragment, with their numbers for names. -/
theorem Fragment.parameters_toStatement (dialect : Dialect) (fragment : Fragment) :
    (fragment.toStatement dialect).parameters
      = fragment.parameters.mapIdx fun i value => ⟨s!"p{i + 1}", value⟩ := by
  rw [toStatement, nameParameters_eq_mapIdx]
  simp only [Nat.add_comm]

/-- **A placeholder is spelled for the number of its parameter**, and the parameter of this number
has its value. -/
theorem Fragment.toStatement_placeholder (dialect : Dialect) (before : Fragment) (value : Value)
    (after : Fragment) :
    let statement := toStatement dialect (before ++ .parameter value :: after)
    let place := before.parameters.length
    statement.text.toList = (Fragment.text dialect before).toList
        ++ (dialect.placeholder.write (place + 1)).toList ++ charsFrom dialect (place + 2) after
      ∧ statement.parameters[place]? = some ⟨s!"p{place + 1}", value⟩ := by
  intro statement place
  constructor
  · show (text dialect _).toList = _
    rw [text, text, String.toList_ofList, String.toList_ofList, charsFrom_append, charsFrom,
      Nat.add_comm 1, List.append_assoc]
  · rw [show statement.parameters = _ from parameters_toStatement .., parameters_append,
      List.getElem?_mapIdx, List.getElem?_append_right (Nat.le_refl _), Nat.sub_self]
    rfl

/-! ## Parameters of terms -/

/-- A construct of one operand binds the values of its operand. -/
theorem Unary.parameters_fragment (style : FunctionStyle) (construct : Unary) (operand : Term) :
    ((construct.term operand).fragment style).parameters
      = (operand.fragment style).parameters := by
  have hsymbols := congrArg Symbol.values (construct.symbols_term_append style operand [])
  simpa [Fragment.parameters_eq_values, Term.symbols, Symbol.values_append,
    Symbol.values_plainSymbols, Symbol.values] using hsymbols

/-- A construct of two operands binds the values of the left one and then those of the right one. -/
theorem Binary.parameters_fragment (style : FunctionStyle) (construct : Binary)
    (left right : Term) :
    ((construct.term left right).fragment style).parameters
      = (left.fragment style).parameters ++ (right.fragment style).parameters := by
  have hsymbols := congrArg Symbol.values (construct.symbols_term_append style left right [])
  simpa [Fragment.parameters_eq_values, Term.symbols, Symbol.values_append,
    Symbol.values_plainSymbols, Symbol.values] using hsymbols

theorem Term.parameters_fragment_parameter (style : FunctionStyle) (value : Value) :
    ((Term.parameter value).fragment style).parameters = [value] := by
  rw [Term.fragment]
  rfl

theorem Term.parameters_fragment_column (style : FunctionStyle) (table : TableRef) (name : String) :
    ((Term.column table name).fragment style).parameters = [] := by
  rw [Term.fragment]
  cases table <;> rfl

namespace Table

variable {table : Table} {schema : Schema}

/-- **The scalar of an operand binds its literals**, from left to right. -/
theorem parameters_of_scalar (style : FunctionStyle) {e : Expression} {term : Term}
    (h : table.BecomesScalar e term) : (term.fragment style).parameters = e.literals := by
  induction h with
  | literal value => rw [Atom.term, Term.parameters_fragment_parameter, Expression.literals_literal]
  | property _ => rw [Atom.term, Term.parameters_fragment_column, Expression.literals_property]
  | arithmetic a _ _ ihleft ihright =>
    rw [Binary.parameters_fragment, ihleft, ihright, Expression.literals_binary]
  | call _ _ ih => rw [Unary.parameters_fragment, ih, Expression.literals_call_singleton]

/-! ## Parameters of filters -/

/-- The values that the condition of a filter binds, from left to right.  A property that stands as
a condition is compared with true; a test binds the values of its subject and then its pattern; a
comparison that asks whether an operand is null binds only the values of that operand. -/
def boundValues (table : Table) : Expression → List Value
  | .property _ => [.bool true]
  | .not operand => boundValues table operand
  | .binary left (.connective _) right => boundValues table left ++ boundValues table right
  | .binary left (.comparison c) right =>
    match c.nullTest? left right with
    | some (.left, _) => left.literals
    | some (.right, _) => right.literals
    | none => left.literals ++ right.literals
  | .call (.test test) args =>
    match testOperands? test args with
    | some (subject, pattern) => subject.literals ++ pattern.literals.map (table.patternValue test)
    | none => []
  | .literal _ | .binary _ (.arithmetic _) _ | .call _ _ => []

/-- A test binds its subject before its pattern, also where the pattern stands first. -/
theorem boundValues_test (table : Table) (test : TextTest) (subject : Expression) (value : Value) :
    table.boundValues (.call (.test test) (testArguments test subject (.literal value)))
      = subject.literals ++ [table.patternValue test value] := by
  cases test <;> simp [boundValues, testArguments, testOperands?, Expression.literals_literal]

/-- **The condition of a filter binds the values of the filter**, from left to right. -/
theorem parameters_of_condition (style : FunctionStyle) {e : Expression} {term : Term}
    (h : table.BecomesCondition e term) :
    (term.fragment style).parameters = table.boundValues e := by
  induction h with
  | bool b =>
    rw [Atom.term, Term.fragment, boundValues]
    rfl
  | property _ =>
    rw [Binary.parameters_fragment, Atom.term, Atom.term, Term.parameters_fragment_column,
      Term.parameters_fragment_parameter, boundValues]
    rfl
  | not _ ih => rw [Unary.parameters_fragment, ih, boundValues]
  | @nullTest left right c side negated operand htest hoperand =>
    rw [Unary.parameters_fragment, boundValues, htest]
    cases side with
    | left => exact parameters_of_scalar style hoperand
    | right => exact parameters_of_scalar style hoperand
  | comparison htest hleft hright =>
    rw [Binary.parameters_fragment, parameters_of_scalar style hleft,
      parameters_of_scalar style hright, boundValues, htest]
  | connective c _ _ ihleft ihright =>
    rw [Binary.parameters_fragment, ihleft, ihright, boundValues]
  | test test value hsubject =>
    rw [Binary.parameters_fragment, parameters_of_scalar style hsubject, Atom.term,
      Term.parameters_fragment_parameter, boundValues_test]

end Table

/-! ## Parameters of selects -/

theorem parameters_conditionFragment (style : FunctionStyle) (condition : Term) :
    (conditionFragment style condition).parameters = (condition.fragment style).parameters := by
  rw [conditionFragment.eq_def]
  split
  · rw [Term.fragment]
    rfl
  · rfl

theorem parameters_orderByFragment (style : FunctionStyle) (keys : List (Term × Direction)) :
    (orderByFragment style keys).parameters = (keysFragment style keys).parameters := by
  cases keys with
  | nil => rw [keysFragment]; rfl
  | cons => rfl

/-- The values that the rows of a select bind. -/
def Relation.parameters (dialect : Dialect) : Option (Relation Select) → List Value
  | some (.select inner _) => (inner.fragment dialect).parameters
  | _ => []

/-- **A select binds the values of its parts**, in the order in which they are written. -/
theorem Select.parameters_fragment (dialect : Dialect) (select : Select) :
    (select.fragment dialect).parameters
      = (select.selection.fragment dialect.functions).parameters
        ++ Relation.parameters dialect select.relation
        ++ (select.condition.fragment dialect.functions).parameters
        ++ (keysFragment dialect.functions select.orderBy).parameters := by
  rw [← parameters_conditionFragment, ← parameters_orderByFragment]
  match select with
  | ⟨_, none, _, _, _, _⟩ | ⟨_, some (.table (.table _) _), _, _, _, _⟩
  | ⟨_, some (.table (.byAlias _) _), _, _, _, _⟩ | ⟨_, some (.select _ _), _, _, _, _⟩
  | ⟨_, some (.raw _ _), _, _, _, _⟩ =>
    simp [Select.fragment, Relation.parameters, TableRef.fragment, Fragment.parameters,
      Fragment.parameters_append, Fragment.ofText]

namespace Table

variable {table : Table}

/-- The keys of an ordering are columns, so they bind no values. -/
theorem parameters_keysFragment (style : FunctionStyle) {keys : List SortKey}
    {terms : List (Term × Direction)} (hkeys : table.keys keys = .ok terms) :
    (keysFragment style terms).parameters = [] := by
  induction keys generalizing terms with
  | nil =>
    rw [Table.keys] at hkeys
    cases hkeys
    rw [keysFragment]
    rfl
  | cons key rest ih =>
    obtain ⟨column, restTerms, -, hrest, rfl⟩ := exists_of_keys_cons_eq_ok hkeys
    have hnone := ih hrest
    cases restTerms <;>
      simp [keysFragment, Fragment.parameters, Fragment.parameters_append, Fragment.ofText,
        Term.parameters_fragment_column, hnone]

/-- The rows of a table bind no values. -/
theorem parameters_baseRelation (dialect : Dialect) (baseSql aliasName : String) :
    Relation.parameters dialect (some (baseRelation baseSql aliasName)) = [] := by
  rw [baseRelation]
  split <;> rfl

/-- The rows of a table that meet a condition bind the values of the condition, however they are
sorted and limited. -/
theorem parameters_rowsWhere (dialect : Dialect) (baseSql : String) (condition : Term)
    {keys : List (Term × Direction)}
    (hkeys : (keysFragment dialect.functions keys).parameters = []) (limit offset : Option UInt64) :
    (Select.fragment dialect { rowsWhere baseSql condition with
      orderBy := keys, limit := limit, offset := offset }).parameters
      = (condition.fragment dialect.functions).parameters := by
  rw [Select.parameters_fragment, hkeys]
  simp only [rowsWhere, Select.all, parameters_baseRelation, List.append_nil]
  rw [Selection.fragment]
  rfl

/-- The bounds of a page of numbered rows stand in the text of the statement, so the page binds the
values of the rows that it is taken of. -/
theorem parameters_numberedPage (dialect : Dialect) (baseSql : String) (condition : Term)
    {keys : List (Term × Direction)}
    (hkeys : (keysFragment dialect.functions keys).parameters = []) (top offset : Option UInt64) :
    ((numberedPage (rowsWhere baseSql condition) keys top offset).fragment dialect).parameters
      = (condition.fragment dialect.functions).parameters := by
  have hbounds : ((numberedPage (rowsWhere baseSql condition) keys top offset).condition.fragment
      dialect.functions).parameters = [] := by
    cases top <;>
      simp [numberedPage, countTerm, Term.fragment, Fragment.parameters, TableRef.fragment,
        Fragment.ofText]
  have hnumbered : (Select.fragment dialect { rowsWhere baseSql condition with
      selection := .both (rowsWhere baseSql condition).selection
        (.columns [(rowNumberName, .rowNumber keys)]) }).parameters
      = (condition.fragment dialect.functions).parameters := by
    rw [Select.parameters_fragment]
    simp only [rowsWhere, Select.all, parameters_baseRelation]
    simp [Selection.fragment, Fragment.commaSeparated, Term.fragment, keysFragment,
      Fragment.parameters, Fragment.parameters_append, Fragment.ofText, TableRef.fragment, hkeys]
  rw [Select.parameters_fragment, hbounds]
  simp only [numberedPage, Select.all, Relation.parameters]
  rw [hnumbered]
  simp [Selection.fragment, Term.fragment, keysFragment, Fragment.parameters, Fragment.ofText,
    TableRef.fragment]

/-- **A page binds the values of the condition** of its rows, and an empty page binds none. -/
theorem parameters_sortedPage (baseSql : String) (condition : Term) (query : Query)
    {keys : List (Term × Direction)}
    (hkeys : (keysFragment table.dialect.functions keys).parameters = []) :
    ((table.sortedPage (rowsWhere baseSql condition) query keys).fragment table.dialect).parameters
      = if query.top = some 0 then []
        else (condition.fragment table.dialect.functions).parameters := by
  rw [sortedPage]
  split
  · rename_i hunpaged
    have htop : query.top ≠ some 0 := by
      intro htop
      simp [Query.isPaged, htop] at hunpaged
    rw [if_neg htop]
    exact parameters_rowsWhere _ _ _ hkeys _ _
  · split
    · refine (parameters_rowsWhere table.dialect baseSql (.bool false) hkeys none none).trans ?_
      rw [Term.fragment]
      rfl
    · cases table.dialect.paging with
      | limitOffset | offsetFetch => exact parameters_rowsWhere _ _ _ hkeys _ _
      | rowNumber => exact parameters_numberedPage _ _ _ hkeys _ _

/-- The number of the rows of a select binds the values of the select. -/
theorem parameters_counting (dialect : Dialect) (select : Select) (aliasName : String) :
    ((select.counting aliasName).fragment dialect).parameters
      = (select.fragment dialect).parameters := by
  rw [Select.parameters_fragment]
  simp [Select.counting, Relation.parameters, Selection.fragment, Fragment.commaSeparated,
    Term.fragment, keysFragment, Fragment.parameters, Fragment.ofText]

/-- **Parameters match placeholders**: in the statements of a plan, the parameters are the values
that the filter binds, from left to right, and each placeholder is spelled for the number of its
value.  Only a page that is empty from the start binds nothing. -/
theorem parameters_match_placeholders (table : Table) (baseSql : String) (query : Query)
    {plan : Plan} (hplan : table.plan baseSql query = .ok plan)
    (hfilter : ∀ filter ∈ query.filter, ∃ schema, filter.checkPredicate schema = .ok ()) :
    let bound := (query.filter.elim [] table.boundValues).mapIdx fun i value =>
      BoundValue.mk s!"p{i + 1}" value
    (plan.statement .count).parameters = bound
      ∧ (plan.statement .rows).parameters = (if query.top = some 0 then [] else bound)
      ∧ ∀ select ∈ [plan.rows, plan.count], ∀ (before : Fragment) value (after : Fragment),
        select.fragment plan.dialect = before ++ .parameter value :: after →
          let statement := select.toStatement plan.dialect
          let place := (Fragment.parameters before).length
          statement.text.toList = (Fragment.text plan.dialect before).toList
              ++ (plan.dialect.placeholder.write (place + 1)).toList
              ++ Fragment.charsFrom plan.dialect (place + 2) after
            ∧ statement.parameters[place]? = some ⟨s!"p{place + 1}", value⟩ := by
  obtain ⟨-, condition, keys, hcondition, hkeys, rfl⟩ := plan_eq_ok.1 hplan
  have hnone : (keysFragment table.dialect.functions keys).parameters = [] :=
    parameters_keysFragment _ (keys_withFallback hkeys)
  have hvalues : (condition.fragment table.dialect.functions).parameters
      = query.filter.elim [] table.boundValues := by
    cases hsome : query.filter with
    | none =>
      rw [hsome] at hcondition
      cases hcondition
      rw [Term.fragment]
      rfl
    | some filter =>
      rw [hsome] at hcondition
      obtain ⟨schema, hcheck⟩ := hfilter filter hsome
      exact parameters_of_condition _
        (becomesCondition_of_typed hcondition (Expression.checkPredicate_eq_ok.1 hcheck))
  refine ⟨?_, ?_, ?_⟩
  · refine (Fragment.parameters_toStatement _ _).trans (congrArg _ ?_)
    rw [← hvalues]
    refine (parameters_counting ..).trans ?_
    have hunsorted : (keysFragment table.dialect.functions []).parameters = [] := by
      rw [keysFragment]
      rfl
    exact parameters_rowsWhere table.dialect baseSql condition hunsorted none none
  · refine (Fragment.parameters_toStatement _ _).trans ?_
    show (Fragment.parameters ((table.sortedPage _ query keys).fragment table.dialect)).mapIdx _ = _
    rw [parameters_sortedPage baseSql condition query hnone, hvalues]
    split <;> rfl
  · intro select _ before value after hwritten
    rw [Select.toStatement, hwritten]
    exact Fragment.toStatement_placeholder ..

/-- The rule for a page of numbered rows, in which a property stands as a condition, a pattern is
looked for that has to be escaped, and a comparison asks for null. -/
theorem parameters_match_placeholders_of_numbered_page :
    let schema : Schema := ⟨"Note", .ofList [("Done", { type := .boolean }),
      ("Id", { type := .integer }), ("Text", { column := some "body", type := .string })]⟩
    let table : Table := { ofSchema .sqlServerLegacy schema with fallback := some ["Id"] }
    let filter : Expression := .binary
      (.binary (.property "Done") (.connective .and)
        (.call (.test .substringOf) [.literal (.string "5%"), .property "Text"]))
      (.connective .or)
      (.not (.binary
        (.binary (.property "Text") (.comparison .ne) (.literal .null)) (.connective .and)
        (.binary (.binary (.property "Id") (.arithmetic .add) (.literal (.int 1)))
          (.comparison .gt) (.literal (.int 2)))))
    let query : Query := { filter := some filter, skip := some 1, top := some 2 }
    let bound : List BoundValue := [⟨"p1", .bool true⟩, ⟨"p2", .string "%5\\%%"⟩,
      ⟨"p3", .int 1⟩, ⟨"p4", .int 2⟩]
    ∃ plan, table.plan "notes" query = .ok plan
      ∧ (plan.statement .count).parameters = bound ∧ (plan.statement .rows).parameters = bound
      ∧ ∀ before value after,
        plan.rows.fragment plan.dialect = before ++ .parameter value :: after →
          (plan.statement .rows).parameters[(Fragment.parameters before).length]?
            = some ⟨s!"p{(Fragment.parameters before).length + 1}", value⟩ := by
  intro schema table filter query bound
  have hfilter : ∀ e ∈ query.filter, ∃ schema, e.checkPredicate schema = .ok () := by
    rintro e ⟨rfl⟩
    exact ⟨schema, rfl⟩
  have hplan : ∃ plan, table.plan "notes" query = .ok plan := ⟨_, rfl⟩
  obtain ⟨plan, hplan⟩ := hplan
  obtain ⟨hcount, hrows, hplaces⟩ :=
    parameters_match_placeholders table "notes" query hplan hfilter
  have hbound : (query.filter.elim [] table.boundValues).mapIdx
      (fun i value => BoundValue.mk s!"p{i + 1}" value) = bound := by decide
  refine ⟨plan, hplan, hcount.trans hbound, hrows.trans hbound, ?_⟩
  intro before value after hwritten
  exact (hplaces _ List.mem_cons_self before value after hwritten).2

end Table
end Sql
end ODataQuery
