import ODataQuery.Proofs.Expression.Outline
import ODataQuery.Proofs.Sql.ParameterValues
import ODataQuery.Proofs.Sql.Plan

/-!
# Literals never reach the text

The numbers, strings and points of time of a filter become parameters and nothing else.  Planning
looks at the outline of a filter only, and so does the text of the statements: two queries with one
outline fail alike, or get the same text with the same placeholders.

Terms are compared by their outlines too, not by equality: the pattern of a test on strings depends
on the text that it looks for.

* `Table.scalar_outline`, `Table.condition_outline`: the outline of an expression has the condition
  of the expression, up to the values of parameters.
* `Plan.outline`, `Table.plan_outline`: so it is with the plan of a query.
* `Plan.statement_outline`: the plan without values has the statements of the plan, but for the
  values.
* `Table.plan_indifferent_to_literals`: so queries with one outline have the same text, or the same
  error.
-/

set_option autoImplicit false

namespace ODataQuery
namespace Sql

/-- What is left of a term when the values of its parameters are forgotten. -/
abbrev Term.outline (term : Term) : Term := term.mapValues Value.outline

namespace Table

variable (table : Table)

/-! ## Scalars -/

theorem scalars_outline {args : List Expression}
    (h : ∀ arg ∈ args, (table.scalar arg.outline).map Term.outline
      = (table.scalar arg).map Term.outline) :
    (table.scalars (args.map Expression.outline)).map (List.map Term.outline)
      = (table.scalars args).map (List.map Term.outline) := by
  induction args with
  | nil => rfl
  | cons arg rest ih =>
    have hrest := ih fun other hother => h other (List.mem_cons_of_mem _ hother)
    rw [List.map_cons, scalars, scalars]
    refine map_bind_congr (h arg List.mem_cons_self) fun term term' hterm => ?_
    refine map_bind_congr hrest fun terms terms' hterms => ?_
    simp [Except.map, hterm, hterms]

theorem scalarCall_outline (function : Function) {args args' : List Term}
    (h : args.map Term.outline = args'.map Term.outline) :
    (scalarCall function args).map Term.outline = (scalarCall function args').map Term.outline := by
  cases function with
  | length | change | whole =>
    simp [scalarCall, Except.map, Term.mapValues, argsMapValues_eq_map, h]
  | part part =>
    have hlast : args.getLast?.map Term.outline = args'.getLast?.map Term.outline := by
      rw [← List.getLast?_map, h, List.getLast?_map]
    rw [scalarCall, scalarCall]
    cases hargs : args.getLast? <;> cases hargs' : args'.getLast? <;>
      simp_all [Except.map, Term.mapValues]
  | test test => rfl

/-- **The scalar of an operand depends on its literals in the values of its parameters only.** -/
theorem scalar_outline (e : Expression) :
    (table.scalar e.outline).map Term.outline = (table.scalar e).map Term.outline := by
  induction e using Expression.induction with
  | literal value =>
    simp [Expression.outline, scalar, Except.map, Term.mapValues, value.outline_outline]
  | property name => rfl
  | not operand _ => rfl
  | binary left operator right ihLeft ihRight =>
    cases operator with
    | comparison c | connective c => rfl
    | arithmetic a =>
      rw [Expression.outline, scalar, scalar]
      refine map_bind_congr ihLeft fun leftTerm leftTerm' hleft => ?_
      refine map_bind_congr ihRight fun rightTerm rightTerm' hright => ?_
      simp [Except.map, Term.mapValues, hleft, hright]
  | call function args ih =>
    rw [Expression.outline, scalar, scalar, Expression.argsOutline_eq_map]
    exact map_bind_congr (table.scalars_outline ih) fun _ _ => scalarCall_outline function

/-! ## Conditions -/

theorem testOperands?_outline (test : TextTest) (args : List Expression) :
    testOperands? test (args.map Expression.outline)
      = (testOperands? test args).map (Prod.map Expression.outline Expression.outline) := by
  match args with
  | [] | [_] | _ :: _ :: _ :: _ => rfl
  | [first, second] => cases test <;> rfl

/-- The pattern of a test is null or some text, whatever the text. -/
theorem likeCondition_outline (test : TextTest) (args : List Expression) :
    (table.likeCondition test (args.map Expression.outline)).map Term.outline
      = (table.likeCondition test args).map Term.outline := by
  rw [likeCondition, likeCondition, testOperands?_outline]
  cases testOperands? test args with
  | none => simp
  | some operands =>
    obtain ⟨subject, pattern⟩ := operands
    have hsubject (value value' : Value) (hvalue : value.outline = value'.outline) :
        (do
          let subject ← table.scalar subject.outline
          Except.ok (Term.like subject (.parameter value) Like.escapeCharacter)).map Term.outline
        = (do
          let subject ← table.scalar subject
          Except.ok (Term.like subject (.parameter value') Like.escapeCharacter)).map
            Term.outline := by
      refine map_bind_congr (table.scalar_outline subject) fun term term' hterm => ?_
      simp [Except.map, Term.mapValues, hterm, hvalue]
    cases pattern with
    | literal value =>
      cases value with
      | string text => exact hsubject _ _ rfl
      | null => exact hsubject _ _ rfl
      | _ => rfl
    | _ => rfl

/-- Which operand is asked about, and whether two are compared, depends on the outlines only. -/
theorem comparison_outline (left : Expression) (c : Comparison) (right : Expression) :
    (table.comparison left.outline c right.outline).map Term.outline
      = (table.comparison left c right).map Term.outline := by
  rw [comparison, comparison, Comparison.nullTest?_outline]
  cases c.nullTest? left right with
  | none =>
    refine map_bind_congr (table.scalar_outline left) fun leftTerm leftTerm' hleft => ?_
    refine map_bind_congr (table.scalar_outline right) fun rightTerm rightTerm' hright => ?_
    simp [Except.map, Term.mapValues, hleft, hright]
  | some asked =>
    obtain ⟨side, negated⟩ := asked
    have hasked (operand : Expression) :
        (do
          let term ← table.scalar operand.outline
          Except.ok (if negated then Term.isNotNull term else .isNull term)).map Term.outline
        = (do
          let term ← table.scalar operand
          Except.ok (if negated then Term.isNotNull term else .isNull term)).map Term.outline := by
      refine map_bind_congr (table.scalar_outline operand) fun term term' hterm => ?_
      cases negated <;> simp [Except.map, Term.mapValues, hterm]
    cases side with
    | left => exact hasked left
    | right => exact hasked right

/-- **The condition of a filter depends on its literals in the values of its parameters only.** -/
theorem condition_outline (e : Expression) :
    (table.condition e.outline).map Term.outline = (table.condition e).map Term.outline := by
  induction e using Expression.induction with
  | literal value => cases value <;> rfl
  | property name => rfl
  | not operand ih =>
    rw [Expression.outline, condition, condition]
    exact map_bind_congr ih fun term term' hterm => by simp [Except.map, Term.mapValues, hterm]
  | binary left operator right ihLeft ihRight =>
    cases operator with
    | comparison c =>
      rw [Expression.outline, condition, condition]
      exact table.comparison_outline left c right
    | arithmetic a => rfl
    | connective c =>
      cases c <;>
        · rw [Expression.outline, condition, condition]
          refine map_bind_congr ihLeft fun leftTerm leftTerm' hleft => ?_
          refine map_bind_congr ihRight fun rightTerm rightTerm' hright => ?_
          simp [Except.map, Term.mapValues, hleft, hright]
  | call function args _ =>
    rw [Expression.outline, Expression.argsOutline_eq_map]
    cases function with
    | test test =>
      rw [condition, condition]
      exact table.likeCondition_outline test args
    | length | change | part | whole => rfl

theorem filterCondition_outline (query : Query) :
    (table.filterCondition query.outline.filter).map Term.outline
      = (table.filterCondition query.filter).map Term.outline := by
  rw [Query.outline]
  cases query.filter with
  | none => rfl
  | some filter => exact table.condition_outline filter

end Table

/-! ## Plans -/

/-- A plan without the values of its parameters. -/
def Plan.outline (plan : Plan) : Plan :=
  { plan with
    rows := plan.rows.mapValues Value.outline
    count := plan.count.mapValues Value.outline }

theorem Plan.statement_outline (plan : Plan) (shape : ExpectedShape) :
    plan.outline.statement shape = (plan.statement shape).mapValues Value.outline := by
  cases shape with
  | rows => exact Select.toStatement_mapValues _ _ _
  | count => exact Select.toStatement_mapValues _ _ _

namespace Table

theorem rowsWhere_mapValues (f : Value → Value) (baseSql : String) (condition : Term) :
    (rowsWhere baseSql condition).mapValues f = rowsWhere baseSql (condition.mapValues f) := by
  rw [rowsWhere, rowsWhere, Select.all, baseRelation]
  split <;> rfl

theorem numberedPage_mapValues (f : Value → Value) (select : Select)
    (keys : List (Term × Direction)) (top offset : Option UInt64) :
    (numberedPage select keys top offset).mapValues f
      = numberedPage (select.mapValues f) (keysMapValues f keys) top offset := by
  have hnumbered : Select.mapValues f { select with
        selection := .both select.selection (.columns [(rowNumberName, .rowNumber keys)]) }
      = { select.mapValues f with
        selection := .both (select.mapValues f).selection
          (.columns [(rowNumberName, .rowNumber (keysMapValues f keys))]) } := by
    rw [Select.mapValues_eq, Select.mapValues_eq]
    rfl
  simp only [numberedPage, Select.all]
  rw [Select.mapValues_eq]
  simp only [Option.map_some, Relation.map, hnumbered]
  cases top <;> rfl

/-- A page is taken in the same way whatever the values are. -/
theorem sortedPage_mapValues (table : Table) (f : Value → Value) (select : Select) (query : Query)
    (keys : List (Term × Direction)) :
    (table.sortedPage select query keys).mapValues f
      = table.sortedPage (select.mapValues f) query (keysMapValues f keys) := by
  cases hpaged : query.isPaged with
  | false =>
    simp only [sortedPage, hpaged, Bool.not_false, if_true]
    rw [Select.mapValues_eq, Select.mapValues_eq f select]
  | true =>
    by_cases htop : query.top = some 0
    · simp only [sortedPage, hpaged, Bool.not_true, Bool.false_eq_true, if_false, htop, if_true]
      rw [Select.mapValues_eq, Select.mapValues_eq f select, Term.mapValues]
    · simp only [sortedPage, hpaged, Bool.not_true, Bool.false_eq_true, if_false, htop]
      cases table.dialect.paging with
      | limitOffset _ | offsetFetch =>
        show Select.mapValues f _ = _
        rw [Select.mapValues_eq, Select.mapValues_eq f select]
      | rowNumber => exact numberedPage_mapValues f select keys query.top _

theorem assemble_outline (table : Table) (baseSql : String) (query : Query) (condition : Term)
    (keys : List (Term × Direction)) :
    (table.assemble baseSql query condition keys).outline
      = table.assemble baseSql query condition.outline (keysMapValues Value.outline keys) := by
  rw [assemble, Plan.outline, sortedPage_mapValues, rowsWhere_mapValues, Select.mapValues_eq]
  simp only [Select.counting, Option.map_some, Relation.map, rowsWhere_mapValues]
  rfl

/-- **Planning looks at the outline of a filter only**, up to the values of parameters. -/
theorem plan_outline (table : Table) (baseSql : String) (query : Query) :
    (table.plan baseSql query.outline).map Plan.outline
      = (table.plan baseSql query).map Plan.outline := by
  rw [plan_eq, plan_eq]
  cases Text.isBlankText baseSql with
  | true => rfl
  | false =>
    refine map_bind_congr (table.filterCondition_outline query) fun condition condition' h => ?_
    -- the outline of a query takes the same page of it
    show (table.pageKeys query >>= fun keys =>
        Except.ok (table.assemble baseSql query condition keys)).map Plan.outline = _
    cases table.pageKeys query with
    | error error => rfl
    | ok keys =>
      show Except.ok _ = Except.ok _
      rw [assemble_outline, assemble_outline, h]

/-- **The literals of a filter never reach the text.**  Queries that differ only in the values of
their literals have no plan for the same reason, or their statements have one text and the same
parameters by number and name. -/
theorem plan_indifferent_to_literals (table : Table) (baseSql : String) {first second : Query}
    (h : first.outline = second.outline) :
    (∃ error, table.plan baseSql first = .error error ∧ table.plan baseSql second = .error error)
      ∨ ∃ plan plan', table.plan baseSql first = .ok plan ∧ table.plan baseSql second = .ok plan'
        ∧ ∀ shape, (plan.statement shape).text = (plan'.statement shape).text
          ∧ (plan.statement shape).parameters.length = (plan'.statement shape).parameters.length
          ∧ (plan.statement shape).parameters.map BoundValue.name
            = (plan'.statement shape).parameters.map BoundValue.name := by
  have hplans : (table.plan baseSql first).map Plan.outline
      = (table.plan baseSql second).map Plan.outline := by
    rw [← plan_outline, h, plan_outline]
  cases hfirst : table.plan baseSql first with
  | error error =>
    rw [hfirst] at hplans
    exact .inl ⟨error, rfl, map_eq_error.1 hplans.symm⟩
  | ok plan =>
    rw [hfirst] at hplans
    obtain ⟨plan', hsecond, houtline⟩ := map_eq_ok.1 hplans.symm
    refine .inr ⟨plan, plan', rfl, hsecond, fun shape => ?_⟩
    have hstatement : (plan.statement shape).mapValues Value.outline
        = (plan'.statement shape).mapValues Value.outline := by
      rw [← Plan.statement_outline, ← houtline, Plan.statement_outline]
    have hnames : (plan.statement shape).parameters.map BoundValue.name
        = (plan'.statement shape).parameters.map BoundValue.name := by
      rw [← Statement.names_mapValues Value.outline, hstatement, Statement.names_mapValues]
    have htext : (plan.statement shape).text = (plan'.statement shape).text := by
      simpa [Statement.mapValues] using congrArg Statement.text hstatement
    exact ⟨htext, by simpa using congrArg List.length hnames, hnames⟩

/-- Two searches in one text: what the first looks for holds wildcards and a quotation mark, and the
placeholders of the page are numbered. -/
theorem plan_indifferent_to_literals_of_searches :
    let table : Table :=
      ⟨.postgres, .ofList [("Title", "title"), ("Year", "year"), ("Price", "price")], none⟩
    let search (text : String) (year : Int64) (price : Float) : Query :=
      { filter := some (.binary
          (.call (.test .substringOf) [.literal (.string text), .property "Title"])
          (.connective .and)
          (.binary
            (.binary (.property "Year") (.comparison .ge) (.literal (.int year)))
            (.connective .or)
            (.binary (.property "Price") (.comparison .ne) (.literal (.float price)))))
        orderBy := [⟨"Year", .desc⟩]
        top := some 5
        inlineCount := .allPages }
    (search "50%' OR 1=1" 1995 0.5).outline = (search "" 2024 12).outline
      ∧ ∃ plan plan', table.plan "books" (search "50%' OR 1=1" 1995 0.5) = .ok plan
        ∧ table.plan "books" (search "" 2024 12) = .ok plan'
        ∧ ∀ shape, (plan.statement shape).text = (plan'.statement shape).text
          ∧ (plan.statement shape).parameters.length = (plan'.statement shape).parameters.length
          ∧ (plan.statement shape).parameters.map BoundValue.name
            = (plan'.statement shape).parameters.map BoundValue.name := by
  intro table search
  have houtline : (search "50%' OR 1=1" 1995 0.5).outline = (search "" 2024 12).outline := rfl
  refine ⟨houtline, (plan_indifferent_to_literals table "books" houtline).resolve_left ?_⟩
  rintro ⟨error, herror, -⟩
  have hplan : (table.plan "books" (search "50%' OR 1=1" 1995 0.5)).isOk = true := by decide
  rw [herror] at hplan
  cases hplan

end Table
end Sql
end ODataQuery
