import ODataQuery.Proofs.Sql.Row
import ODataQuery.Proofs.Sql.Translation

/-!
# The condition of a filter means the filter

A filter becomes SQL construct by construct, and it is evaluated on records node by node.  On a row
that shows a record, each construct does what the node does.

* `Table.value_of_scalar`: the scalar of an operand has the value of the operand.
* `Table.truth_of_condition`: the condition of a filter has the truth value of the filter.
* `Table.truth_condition_iff`: so the condition is true, false or unknown exactly when the filter
  gives true, false, or anything else.
-/

set_option autoImplicit false

namespace ODataQuery
namespace Sql

variable {ρ : Type}

namespace Table

variable {table : Table} {binding : Binding ρ} {record : ρ} {scope : Scope}

/-- The column of a property has the value of the property. -/
theorem value_of_column (hshows : scope.Shows table binding record) {name : String} {term : Term}
    (hterm : table.column name = .ok term) {declared : Property}
    (hdeclared : binding.schema.property? name = some declared) :
    ∃ read, binding.reader name = .ok read ∧ term.value scope = read record := by
  obtain ⟨column, hcolumn, rfl⟩ := column_eq_ok.1 hterm
  obtain ⟨read, hread⟩ := Binding.exists_reader hdeclared
  refine ⟨read, hread, ?_⟩
  rw [Term.value]
  exact hshows name column read hcolumn (Binding.reader_eq_ok.1 hread)

/-- The construct of a function on a scalar has the value of the function on its value. -/
theorem value_of_construct {function : Function} {construct : Unary}
    (hconstruct : Unary.ofFunction? function = some construct) (operand : Term) :
    (construct.term operand).value scope = Value.call function [operand.value scope] := by
  cases function with
  | test test => cases hconstruct
  | length | change | whole =>
    cases hconstruct
    rw [Unary.term, Term.value]
    rfl
  | part p =>
    cases hconstruct
    rw [Unary.term, Term.value]

/-- **The scalar of an operand has the value of the operand.** -/
theorem value_of_scalar (hshows : scope.Shows table binding record) {e : Expression} {term : Term}
    (h : table.BecomesScalar e term) {type : StaticType}
    (htype : e.infer binding.schema = .ok type) :
    ∃ node, Node.resolve binding e = .ok node ∧ term.value scope = node.evaluate record := by
  induction h generalizing type with
  | literal value =>
    exact ⟨.literal value, by rw [Node.resolve],
      by rw [Atom.term, Term.value, Node.evaluate_literal]⟩
  | @property name _ hcolumn =>
    obtain ⟨declared, hdeclared, -⟩ := Expression.infer_property_eq_ok.1 htype
    obtain ⟨read, hread, hvalue⟩ :=
      value_of_column hshows (column_eq_ok.2 ⟨_, hcolumn, rfl⟩) hdeclared
    exact ⟨.property name read, by rw [Node.resolve, hread]; rfl,
      by rw [Atom.term, hvalue, Node.evaluate_property]⟩
  | arithmetic a _ _ ihleft ihright =>
    obtain ⟨leftType, rightType, hleft, hright, -⟩ := Expression.infer_binary_eq_ok.1 htype
    obtain ⟨leftNode, hleftNode, hleftValue⟩ := ihleft hleft
    obtain ⟨rightNode, hrightNode, hrightValue⟩ := ihright hright
    refine ⟨.arithmetic leftNode a rightNode,
      by rw [Node.resolve, hleftNode, hrightNode]; rfl, ?_⟩
    rw [Binary.term, Term.value, Node.evaluate_arithmetic, hleftValue, hrightValue]
  | @call function _ _ _ hconstruct _ ih =>
    obtain ⟨argType, hargType⟩ := Expression.infer_arg_of_infer_call htype List.mem_cons_self
    obtain ⟨node, hnode, hvalue⟩ := ih hargType
    refine ⟨.call function [node], Node.resolve_call_eq_ok.2 ⟨_, .cons hnode .nil, rfl⟩, ?_⟩
    rw [value_of_construct hconstruct, hvalue, Node.evaluate_call]
    rfl

/-! ## Tests on strings -/

/-- Matching the pattern of a test is the test itself, also on what is no string. -/
theorem truth_like_string (table : Table) (test : TextTest) (subject : Value) (text : String) :
    Truth.like table.dialect.functions Like.escapeCharacter subject
        (.string (table.likePattern test text))
      = (Value.call (.test test) (testArguments test subject (.string text))).truth? := by
  cases subject with
  | string s =>
    rw [Truth.like, Like.holds_likePattern]
    cases test <;> rfl
  | _ => cases test <;> rfl

/-- Matching what a test looks for is the test itself.  Both are unknown of anything but strings. -/
theorem truth_like_patternValue (table : Table) (test : TextTest) (subject value : Value) :
    Truth.like table.dialect.functions Like.escapeCharacter subject (table.patternValue test value)
      = (Value.call (.test test) (testArguments test subject value)).truth? := by
  cases value with
  | string text => exact truth_like_string table test subject text
  | _ => cases subject <;> cases test <;> rfl

/-- The arguments of a test are resolved and evaluated in the order in which they stand. -/
theorem resolveArgs_testArguments (record : ρ) (test : TextTest) {subject pattern : Expression}
    {subjectNode patternNode : Node ρ} (hsubject : Node.resolve binding subject = .ok subjectNode)
    (hpattern : Node.resolve binding pattern = .ok patternNode) :
    Node.resolveArgs binding (testArguments test subject pattern)
        = .ok (testArguments test subjectNode patternNode)
      ∧ Node.evaluateArgs record (testArguments test subjectNode patternNode)
        = testArguments test (subjectNode.evaluate record) (patternNode.evaluate record) := by
  cases test <;>
    exact ⟨Node.resolveArgs_eq_ok.2 (by simp [testArguments, hsubject, hpattern]), rfl⟩

/-- The condition of a test has the truth value of the test. -/
theorem truth_of_test (hshows : scope.Shows table binding record) (test : TextTest)
    {subject : Expression} (value : Value) {subjectTerm : Term}
    (hsubject : table.BecomesScalar subject subjectTerm) {type : StaticType}
    (htype : (Expression.call (.test test) (testArguments test subject (.literal value))).infer
      binding.schema = .ok type) :
    ∃ node,
      Node.resolve binding (.call (.test test) (testArguments test subject (.literal value)))
          = .ok node
        ∧ (Binary.like.term subjectTerm (Atom.parameter (table.patternValue test value)).term).truth
            table.dialect.functions scope = (node.evaluate record).truth? := by
  obtain ⟨subjectType, hsubjectType⟩ :=
    Expression.infer_arg_of_infer_call htype (subject_mem_testArguments test subject _)
  obtain ⟨subjectNode, hsubjectNode, hvalue⟩ := value_of_scalar hshows hsubject hsubjectType
  have hpatternNode : Node.resolve binding (.literal value) = .ok (.literal value) := by
    rw [Node.resolve]
  obtain ⟨hnodes, hvalues⟩ := resolveArgs_testArguments record test hsubjectNode hpatternNode
  refine ⟨.call (.test test) (testArguments test subjectNode (.literal value)),
    by rw [Node.resolve, hnodes]; rfl, ?_⟩
  rw [Binary.term, Atom.term, Term.truth, Term.value, truth_like_patternValue,
    Node.evaluate_call, hvalues, hvalue, Node.evaluate_literal]

/-! ## Filters -/

/-- The construct that asks whether an operand is null is true or false as the null test is. -/
theorem truth_nullTest (style : FunctionStyle) {node : Node ρ} {operand : Term}
    (hvalue : operand.value scope = node.evaluate record) (negated : Bool) :
    ((Unary.nullTest negated).term operand).truth style scope
      = ((Node.nullTest node negated).evaluate record).truth? := by
  rw [Node.evaluate_nullTest, ← hvalue]
  cases negated <;> simp [Unary.term, Term.truth, Value.truth?]

/-- The construct of a connective connects the truth values of its operands. -/
theorem truth_connective (style : FunctionStyle) (scope : Scope) (c : Connective)
    (left right : Term) : ((Binary.connective c).term left right).truth style scope
      = Value.connect c (left.truth style scope) (right.truth style scope) := by
  cases c with
  | and => rw [Binary.term, Term.truth, Truth.and_eq_connect]
  | or => rw [Binary.term, Term.truth, Truth.or_eq_connect]

/-- **What a filter becomes has the truth value of the filter.** -/
theorem truth_of_becomesCondition (hshows : scope.Shows table binding record) {e : Expression}
    {term : Term} (h : table.BecomesCondition e term) {type : StaticType}
    (htype : e.infer binding.schema = .ok type) :
    ∃ node, Node.resolve binding e = .ok node
      ∧ term.truth table.dialect.functions scope = (node.evaluate record).truth? := by
  induction h generalizing type with
  | bool b =>
    exact ⟨.literal (.bool b), by rw [Node.resolve],
      by rw [Atom.term, Term.truth, Node.evaluate_literal]; rfl⟩
  | @property name _ hcolumn =>
    obtain ⟨node, hnode, hvalue⟩ := value_of_scalar hshows (.property hcolumn) htype
    refine ⟨node, hnode, ?_⟩
    rw [Binary.term, Term.truth, hvalue, Atom.term, Term.value, Truth.comparison_eq_true]
  | not _ ih =>
    obtain ⟨node, hnode, htruth⟩ := ih (Expression.infer_not_eq_ok.1 htype).1
    refine ⟨.not node, by rw [Node.resolve, hnode]; rfl, ?_⟩
    rw [Unary.term, Term.truth, htruth, Truth.not_eq_negation, Node.evaluate_not]
  | @nullTest _ _ _ side negated _ htest hoperand =>
    obtain ⟨leftType, rightType, hleft, hright, -⟩ := Expression.infer_binary_eq_ok.1 htype
    cases side with
    | left =>
      obtain ⟨node, hnode, hvalue⟩ := value_of_scalar hshows hoperand hleft
      exact ⟨.nullTest node negated, by rw [Node.resolve, htest, hnode]; rfl,
        truth_nullTest _ hvalue negated⟩
    | right =>
      obtain ⟨node, hnode, hvalue⟩ := value_of_scalar hshows hoperand hright
      exact ⟨.nullTest node negated, by rw [Node.resolve, htest, hnode]; rfl,
        truth_nullTest _ hvalue negated⟩
  | @comparison _ _ c _ _ htest hleftTerm hrightTerm =>
    obtain ⟨leftType, rightType, hleft, hright, -⟩ := Expression.infer_binary_eq_ok.1 htype
    obtain ⟨leftNode, hleftNode, hleftValue⟩ := value_of_scalar hshows hleftTerm hleft
    obtain ⟨rightNode, hrightNode, hrightValue⟩ := value_of_scalar hshows hrightTerm hright
    refine ⟨.comparison leftNode c rightNode,
      by rw [Node.resolve, htest, hleftNode, hrightNode]; rfl, ?_⟩
    rw [Binary.term, Term.truth, Node.evaluate_comparison, ← hleftValue, ← hrightValue,
      Truth.comparison_eq]
  | connective c _ _ ihleft ihright =>
    obtain ⟨leftType, rightType, hleft, hright, -⟩ := Expression.infer_binary_eq_ok.1 htype
    obtain ⟨leftNode, hleftNode, hleftTruth⟩ := ihleft hleft
    obtain ⟨rightNode, hrightNode, hrightTruth⟩ := ihright hright
    refine ⟨.connective leftNode c rightNode,
      by rw [Node.resolve, hleftNode, hrightNode]; rfl, ?_⟩
    rw [truth_connective, hleftTruth, hrightTruth, Node.evaluate_connective, Value.truth?_ofTruth]
  | test test value hsubject => exact truth_of_test hshows test value hsubject htype

/-- **The condition of a filter has the truth value of the filter.** -/
theorem truth_of_condition (hshows : scope.Shows table binding record) {e : Expression}
    {term : Term} (hterm : table.condition e = .ok term) {type : StaticType}
    (htype : e.infer binding.schema = .ok type) :
    ∃ node, Node.resolve binding e = .ok node
      ∧ term.truth table.dialect.functions scope = (node.evaluate record).truth? :=
  truth_of_becomesCondition hshows (becomesCondition_of_typed hterm htype) htype

/-- **A filter and its condition decide alike** on every record of every schema and every row that
shows it, whatever the values of its properties are. -/
theorem truth_condition_iff (schema : Schema) (dialect : Dialect) {filter : Expression}
    (hcheck : filter.checkPredicate schema = .ok ()) {condition : Term}
    (hcondition : (ofSchema dialect schema).condition filter = .ok condition)
    (binding : Binding ρ) (hbinding : binding.schema = schema) (record : ρ) (scope : Scope)
    (hshows : scope.Shows (ofSchema dialect schema) binding record) :
    ∃ node, Node.resolve binding filter = .ok node
      ∧ (condition.truth dialect.functions scope = some true
          ↔ node.evaluate record = .bool true)
      ∧ (condition.truth dialect.functions scope = some false
          ↔ node.evaluate record = .bool false)
      ∧ (condition.truth dialect.functions scope = none
          ↔ ∀ b, node.evaluate record ≠ .bool b) := by
  subst hbinding
  obtain ⟨node, hnode, htruth⟩ :=
    truth_of_condition hshows hcondition (Expression.checkPredicate_eq_ok.1 hcheck)
  have htruth : condition.truth dialect.functions scope = (node.evaluate record).truth? := htruth
  refine ⟨node, hnode, ?_⟩
  rw [htruth]
  cases node.evaluate record <;> simp [Value.truth?]

/-- The rule at a filter whose pattern is full of wildcards, in a dialect that has classes of
characters: it starts with `50%_[` or its count is no multiple of three. -/
theorem truth_condition_iff_of_wildcards :
    let schema : Schema := ⟨"Note", .ofList [("Count", { type := .integer }),
      ("Text", { column := some "body", type := .string })]⟩
    let filter : Expression :=
      .binary (.call (.test .startsWith) [.property "Text", .literal (.string "50%_[")])
        (.connective .or)
        (.not (.binary
          (.binary (.property "Count") (.arithmetic .mod) (.literal (.int 3)))
          (.comparison .eq) (.literal (.int 0))))
    let binding : Binding (String → Value) := .ofSchema schema fun name record => record name
    let record : String → Value := fun name => if name = "Text" then .string "50%_[a" else .null
    let scope : Scope := { aliasName := Table.tableAlias, row := binding.row record }
    ∃ condition node, (ofSchema .sqlServer schema).condition filter = .ok condition
      ∧ Node.resolve binding filter = .ok node
      ∧ (condition.truth .transactSql scope = some true ↔ node.evaluate record = .bool true)
      ∧ (condition.truth .transactSql scope = some false ↔ node.evaluate record = .bool false)
      ∧ (condition.truth .transactSql scope = none ↔ ∀ b, node.evaluate record ≠ .bool b) := by
  intro schema filter binding record scope
  have hcheck : filter.checkPredicate schema = .ok () := rfl
  obtain ⟨node, h⟩ := truth_condition_iff schema .sqlServer hcheck rfl binding rfl
    record scope (Scope.shows_row (by decide) rfl record _ _)
  exact ⟨_, node, rfl, h⟩

end Table
end Sql
end ODataQuery
