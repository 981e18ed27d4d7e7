import ODataQuery.Proofs.Sql.Constructs
import ODataQuery.Proofs.Sql.Faults

/-!
# Conditions and scalars stay apart

SQL asks for conditions in some places and for scalars in others, and not every database takes one
for the other.  A filter is translated by two functions, one for each kind of place, and each of
them refuses what belongs to the other.  The types of a filter leave few such misplaced forms: a
condition can only have got among the operands of a comparison.

* `Expression.isCondition`, `Expression.conditions`: the forms that are conditions, and the parts of
  a filter that stand where a condition is asked for.
* `Expression.ComparesCondition`, `Expression.HasOpenPattern`: what can have no SQL in a typed
  filter.
* `Expression.isCondition_eq_false_of_mem_parts`: a typed value has no condition among its parts.
* `Table.exists_scalar_iff`, `Table.exists_condition_iff`: so every other typed filter has SQL.
* `Term.IsScalar`, `Term.IsCondition`: terms with scalars and conditions where they belong.
* `Table.condition_supported_iff`: what has SQL, and what the SQL is like.
-/

set_option autoImplicit false

namespace ODataQuery

/-! ## Positions in a filter -/

namespace Expression

/-- Is the expression a condition by its form.  A literal or a property can stand for a truth value
too, but each of them is a value by its form. -/
def isCondition : Expression → Bool
  | not _ | binary _ (.connective _) _ | binary _ (.comparison _) _ | call (.test _) _ => true
  | _ => false

/-- The parts that stand where a condition is asked for: the expression itself, and those of what it
negates or connects. -/
def conditions : Expression → List Expression
  | not operand => operand.not :: operand.conditions
  | binary left (.connective c) right =>
    binary left (.connective c) right :: (left.conditions ++ right.conditions)
  | e => [e]

/-- A comparison in the expression has a condition among its operands. -/
def ComparesCondition (e : Expression) : Prop :=
  ∃ left c right, binary left (.comparison c) right ∈ e.parts
    ∧ (left.isCondition = true ∨ right.isCondition = true)

/-- A test that stands where a condition is asked for looks for something other than a literal. -/
def HasOpenPattern (e : Expression) : Prop :=
  ∃ test subject pattern,
    call (.test test) (Sql.Table.testArguments test subject pattern) ∈ e.conditions
      ∧ ∀ value, pattern ≠ literal value

/-! ### Where they are -/

theorem comparesCondition_not {operand : Expression} :
    operand.not.ComparesCondition ↔ operand.ComparesCondition := by
  simp [ComparesCondition, mem_parts_not]

theorem comparesCondition_connective {left right : Expression} {c : Connective} :
    (binary left (.connective c) right).ComparesCondition
      ↔ left.ComparesCondition ∨ right.ComparesCondition := by
  simp only [ComparesCondition, mem_parts_binary, binary.injEq, reduceCtorEq,
    false_and, and_false, false_or, or_and_right, exists_or]

theorem hasOpenPattern_not {operand : Expression} :
    operand.not.HasOpenPattern ↔ operand.HasOpenPattern := by
  simp [HasOpenPattern, conditions]

theorem hasOpenPattern_connective {left right : Expression} {c : Connective} :
    (binary left (.connective c) right).HasOpenPattern
      ↔ left.HasOpenPattern ∨ right.HasOpenPattern := by
  simp only [HasOpenPattern, conditions, List.mem_cons, List.mem_append, reduceCtorEq, false_or,
    or_and_right, exists_or]

/-- Only a test has an open pattern itself. -/
theorem not_hasOpenPattern {e : Expression} (hconditions : e.conditions = [e])
    (htest : ∀ test args, e ≠ call (.test test) args) : ¬ e.HasOpenPattern := by
  rintro ⟨test, subject, pattern, hmem, -⟩
  rw [hconditions, List.mem_singleton] at hmem
  exact htest test _ hmem.symm

theorem hasOpenPattern_test {test : TextTest} {subject pattern : Expression} :
    (call (.test test) (Sql.Table.testArguments test subject pattern)).HasOpenPattern
      ↔ ∀ value, pattern ≠ literal value := by
  simp only [HasOpenPattern, conditions, List.mem_singleton, call.injEq, Function.test.injEq]
  constructor
  · rintro ⟨test', subject', pattern', ⟨rfl, hargs⟩, hpattern⟩
    rw [← (Sql.Table.testArguments_injective hargs).2]
    exact hpattern
  · intro hpattern
    exact ⟨test, subject, pattern, ⟨rfl, rfl⟩, hpattern⟩

/-! ### What types say about them -/

variable {schema : Schema}

/-- A condition has the type of conditions. -/
theorem type_of_isCondition {e : Expression} (he : e.isCondition = true) {type : StaticType}
    (htype : e.infer schema = .ok type) : type = .boolean := by
  unfold isCondition at he
  split at he
  · exact (infer_not_eq_ok.1 htype).2
  · obtain ⟨_, _, -, -, hresult⟩ := infer_binary_eq_ok.1 htype
    exact (Operator.resultType_connective_eq_ok.1 hresult).2.2
  · obtain ⟨_, _, -, -, hresult⟩ := infer_binary_eq_ok.1 htype
    exact (Operator.resultType_comparison_eq_ok hresult).1
  · obtain ⟨_, -, hresult⟩ := infer_call_eq_ok.1 htype
    exact (Function.resultType_eq_ok.1 hresult).2.2
  · cases he

theorem isCondition_eq_false {e : Expression} {type : StaticType}
    (htype : e.infer schema = .ok type) (hvalue : type ≠ .boolean) : e.isCondition = false := by
  rw [← Bool.not_eq_true]
  intro he
  exact hvalue (type_of_isCondition he htype)

end Expression

/-- Nothing is calculated from truth values. -/
theorem Arithmetic.ne_boolean_of_resultType? {left right type : StaticType}
    (h : Arithmetic.resultType? left right = some type) :
    left ≠ .boolean ∧ right ≠ .boolean ∧ type ≠ .boolean := by
  refine ⟨?_, ?_, ?_⟩ <;> rintro rfl
  · rcases right with _ | right
    · cases h
    · cases right <;> cases h
  · rcases left with _ | left
    · cases h
    · cases left <;> cases h
  · rcases left with _ | left <;> rcases right with _ | right
    · cases h
    · cases right <;> cases h
    · cases left <;> cases h
    · cases left <;> cases right <;> cases h

/-- No function takes truth values. -/
theorem Function.ne_boolean_of_resultType {function : Function} {args : List StaticType}
    {type argType : StaticType} (h : function.resultType args = .ok type)
    (hmem : argType ∈ args) : argType ≠ .boolean := by
  rintro rfl
  have haccepts := (resultType_eq_ok.1 h).2.1 .boolean hmem
  cases hkind : function.argumentKind <;>
    simp [hkind, ArgumentKind.accepts, ScalarType.isNumeric] at haccepts

namespace Expression

variable {schema : Schema}

/-- The arguments of a typed call have types other than that of conditions. -/
theorem infer_arg_ne_boolean {function : Function} {args : List Expression} {type : StaticType}
    (htype : (call function args).infer schema = .ok type) {arg : Expression} (hmem : arg ∈ args) :
    ∃ argType, arg.infer schema = .ok argType ∧ argType ≠ .boolean := by
  obtain ⟨types, hargs, hresult⟩ := infer_call_eq_ok.1 htype
  obtain ⟨argType, hargType, harg⟩ := infer_arg_of_inferArgs hargs hmem
  exact ⟨argType, harg, Function.ne_boolean_of_resultType hresult hargType⟩

/-- The operands of typed arithmetic have types other than that of conditions. -/
theorem infer_arithmetic_ne_boolean {left right : Expression} {a : Arithmetic} {type : StaticType}
    (htype : (binary left (.arithmetic a) right).infer schema = .ok type) :
    type ≠ .boolean
      ∧ (∃ leftType, left.infer schema = .ok leftType ∧ leftType ≠ .boolean)
      ∧ ∃ rightType, right.infer schema = .ok rightType ∧ rightType ≠ .boolean := by
  obtain ⟨leftType, rightType, hleft, hright, hresult⟩ := infer_binary_eq_ok.1 htype
  obtain ⟨hleftType, hrightType, hresultType⟩ :=
    Arithmetic.ne_boolean_of_resultType? (Operator.resultType_arithmetic_eq_ok.1 hresult)
  exact ⟨hresultType, ⟨leftType, hleft, hleftType⟩, rightType, hright, hrightType⟩

/-- **A typed value has no condition among its parts**: neither arithmetic nor functions take
conditions, and nothing else that is a value has operands. -/
theorem isCondition_eq_false_of_mem_parts {e : Expression} {type : StaticType}
    (htype : e.infer schema = .ok type) (he : e.isCondition = false) {part : Expression}
    (hpart : part ∈ e.parts) : part.isCondition = false := by
  induction e using Expression.induction generalizing type with
  | literal value =>
    rw [parts, List.mem_singleton] at hpart
    rw [hpart, he]
  | property name =>
    rw [parts, List.mem_singleton] at hpart
    rw [hpart, he]
  | not operand _ => cases he
  | binary left operator right ihLeft ihRight =>
    cases operator with
    | comparison c | connective c => cases he
    | arithmetic a =>
      obtain ⟨-, ⟨leftType, hleft, hleftType⟩, rightType, hright, hrightType⟩ :=
        infer_arithmetic_ne_boolean htype
      rcases mem_parts_binary.1 hpart with rfl | hpart | hpart
      · exact he
      · exact ihLeft hleft (isCondition_eq_false hleft hleftType) hpart
      · exact ihRight hright (isCondition_eq_false hright hrightType) hpart
  | call function args ih =>
    rcases mem_parts_call.1 hpart with rfl | ⟨arg, harg, hpart⟩
    · exact he
    · obtain ⟨argType, hargType, hvalue⟩ := infer_arg_ne_boolean htype harg
      exact ih arg harg hargType (isCondition_eq_false hargType hvalue) hpart

/-- A typed value compares no conditions. -/
theorem not_comparesCondition {e : Expression} {type : StaticType}
    (htype : e.infer schema = .ok type) (he : e.isCondition = false) : ¬ e.ComparesCondition := by
  rintro ⟨left, c, right, hpart, -⟩
  cases isCondition_eq_false_of_mem_parts htype he hpart

/-- A typed comparison compares conditions if one of its own operands is one. -/
theorem comparesCondition_comparison {left right : Expression} {c : Comparison} {type : StaticType}
    (htype : (binary left (.comparison c) right).infer schema = .ok type) :
    (binary left (.comparison c) right).ComparesCondition
      ↔ left.isCondition = true ∨ right.isCondition = true := by
  obtain ⟨leftType, rightType, hleft, hright, -⟩ := infer_binary_eq_ok.1 htype
  constructor
  · rintro ⟨left', c', right', hpart, hoperand⟩
    by_contra hnone
    simp only [not_or, Bool.not_eq_true] at hnone
    rcases mem_parts_binary.1 hpart with heq | hpart | hpart
    · cases heq
      simp [hnone] at hoperand
    · exact not_comparesCondition hleft hnone.1 ⟨left', c', right', hpart, hoperand⟩
    · exact not_comparesCondition hright hnone.2 ⟨left', c', right', hpart, hoperand⟩
  · intro hoperand
    exact ⟨left, c, right, self_mem_parts _, hoperand⟩

/-- A typed test compares no conditions. -/
theorem not_comparesCondition_test {test : TextTest} {args : List Expression} {type : StaticType}
    (htype : (call (.test test) args).infer schema = .ok type) :
    ¬ (call (.test test) args).ComparesCondition := by
  rintro ⟨left, c, right, hpart, hoperand⟩
  rcases mem_parts_call.1 hpart with heq | ⟨arg, harg, hpart⟩
  · cases heq
  · obtain ⟨argType, hargType, hvalue⟩ := infer_arg_ne_boolean htype harg
    exact not_comparesCondition hargType (isCondition_eq_false hargType hvalue)
      ⟨left, c, right, hpart, hoperand⟩

/-- A typed test has no other literals among its arguments than strings and null. -/
theorem literal_of_infer_test {test : TextTest} {args : List Expression} {type : StaticType}
    (htype : (call (.test test) args).infer schema = .ok type) {value : Value}
    (hmem : literal value ∈ args) : (∃ text, value = .string text) ∨ value = .null := by
  obtain ⟨types, hargs, hresult⟩ := infer_call_eq_ok.1 htype
  obtain ⟨argType, hargType, harg⟩ := infer_arg_of_inferArgs hargs hmem
  rw [infer_literal] at harg
  cases harg
  have haccepts := (Function.resultType_eq_ok.1 hresult).2.1
  cases value with
  | null => exact .inr rfl
  | string text => exact .inl ⟨text, rfl⟩
  | bool _ | int _ | float _ | dateTime _ => cases haccepts _ hargType

/-- A call that has the type of conditions is a test. -/
theorem function_of_infer_boolean {function : Function} {args : List Expression}
    (htype : (call function args).infer schema = .ok .boolean) : ∃ test, function = .test test := by
  obtain ⟨types, -, hresult⟩ := infer_call_eq_ok.1 htype
  obtain ⟨-, haccepts, htype⟩ := Function.resultType_eq_ok.1 hresult
  cases function with
  | test test => exact ⟨test, rfl⟩
  | length | change | part => cases htype
  | whole w =>
    rcases types with _ | ⟨_ | argType, rest⟩
    · cases htype
    · cases htype
    · cases htype
      cases haccepts .boolean List.mem_cons_self

end Expression

/-- The operand that a null test does not ask about is a literal null. -/
theorem Comparison.literal_of_nullTest? {c : Comparison} {left right : Expression} {side : Side}
    {negated : Bool} (h : c.nullTest? left right = some (side, negated)) :
    (side = .left ∧ right = .literal .null) ∨ (side = .right ∧ left = .literal .null) := by
  have hside : (if right.isNullLiteral then some Side.left
      else if left.isNullLiteral then some .right else none) = some side := by
    cases c <;> simp only [nullTest?, Option.map_eq_some_iff, Prod.mk.injEq, reduceCtorEq] at h
    all_goals
      obtain ⟨side, hside, rfl, -⟩ := h
      exact hside
  split at hside
  · rename_i hright
    cases hside
    exact .inl ⟨rfl, Expression.isNullLiteral_iff.1 hright⟩
  · split at hside
    · rename_i hleft
      cases hside
      exact .inr ⟨rfl, Expression.isNullLiteral_iff.1 hleft⟩
    · cases hside

namespace Sql
namespace Table

variable {table : Table} {schema : Schema}

/-! ## What has SQL -/

/-- Arguments that have scalars one by one have them together. -/
theorem exists_scalars {args : List Expression}
    (h : ∀ arg ∈ args, ∃ term, table.scalar arg = .ok term) :
    ∃ terms, table.scalars args = .ok terms := by
  induction args with
  | nil => exact ⟨[], by rw [scalars]⟩
  | cons arg rest ih =>
    obtain ⟨term, hterm⟩ := h arg List.mem_cons_self
    obtain ⟨terms, hterms⟩ := ih fun other hother => h other (List.mem_cons_of_mem _ hother)
    exact ⟨term :: terms, by rw [scalars, hterm, hterms]; rfl⟩

/-- A connective has SQL if both of its operands have. -/
theorem exists_connective_iff {left right : Expression} {c : Connective} :
    (∃ term, table.condition (.binary left (.connective c) right) = .ok term)
      ↔ (∃ term, table.condition left = .ok term) ∧ ∃ term, table.condition right = .ok term := by
  constructor
  · rintro ⟨term, hterm⟩
    obtain ⟨leftTerm, rightTerm, hleft, hright, -⟩ := connective_eq_ok hterm
    exact ⟨⟨leftTerm, hleft⟩, rightTerm, hright⟩
  · rintro ⟨⟨leftTerm, hleft⟩, rightTerm, hright⟩
    cases c <;> exact ⟨_, by rw [condition, hleft, hright]; rfl⟩

section Mapped

variable (hmapped : ∀ name, (schema.property? name).isSome → (table.columns.get? name).isSome)

include hmapped

theorem exists_column {name : String} {type : StaticType}
    (htype : (Expression.property name).infer schema = .ok type) :
    ∃ term, table.column name = .ok term := by
  obtain ⟨declared, hdeclared, -⟩ := Expression.infer_property_eq_ok.1 htype
  obtain ⟨column, hcolumn⟩ := Option.isSome_iff_exists.1 (hmapped name (by rw [hdeclared]; rfl))
  exact ⟨_, column_eq_ok.2 ⟨column, hcolumn, rfl⟩⟩

/-- **A typed operand has a scalar unless it is a condition by its form.** -/
theorem exists_scalar_iff {e : Expression} {type : StaticType}
    (htype : e.infer schema = .ok type) :
    (∃ term, table.scalar e = .ok term) ↔ e.isCondition = false := by
  induction e using Expression.induction generalizing type with
  | literal value => simp [scalar, Expression.isCondition]
  | property name =>
    rw [scalar]
    exact iff_of_true (exists_column hmapped htype) rfl
  | not operand _ => simp [scalar, Expression.isCondition]
  | binary left operator right ihLeft ihRight =>
    cases operator with
    | comparison c | connective c => simp [scalar, Expression.isCondition]
    | arithmetic a =>
      obtain ⟨-, ⟨leftType, hleft, hleftType⟩, rightType, hright, hrightType⟩ :=
        Expression.infer_arithmetic_ne_boolean htype
      obtain ⟨leftTerm, hleftTerm⟩ :=
        (ihLeft hleft).2 (Expression.isCondition_eq_false hleft hleftType)
      obtain ⟨rightTerm, hrightTerm⟩ :=
        (ihRight hright).2 (Expression.isCondition_eq_false hright hrightType)
      exact iff_of_true ⟨_, by rw [scalar, hleftTerm, hrightTerm]; rfl⟩ rfl
  | call function args ih =>
    have hargs (arg : Expression) (harg : arg ∈ args) : ∃ term, table.scalar arg = .ok term := by
      obtain ⟨argType, hargType, hvalue⟩ := Expression.infer_arg_ne_boolean htype harg
      exact (ih arg harg hargType).2 (Expression.isCondition_eq_false hargType hvalue)
    obtain ⟨terms, hterms⟩ := exists_scalars hargs
    have hlength : terms.length = function.arity := by
      rw [← (scalars_eq_ok.1 hterms).length_eq, Expression.length_eq_arity_of_infer htype]
    cases function with
    | test test => simp [scalar, hterms, bind_eq_ok, scalarCall, Expression.isCondition]
    | length | change | whole => exact iff_of_true ⟨_, by rw [scalar, hterms]; rfl⟩ rfl
    | part p =>
      obtain ⟨operand, rfl⟩ := List.length_eq_one_iff.1 hlength
      exact iff_of_true ⟨_, by rw [scalar, hterms]; rfl⟩ rfl

/-- A typed comparison has SQL unless a condition is among its operands. -/
theorem exists_comparison_iff {left right : Expression} {c : Comparison}
    {leftType rightType : StaticType} (hleft : left.infer schema = .ok leftType)
    (hright : right.infer schema = .ok rightType) :
    (∃ term, table.comparison left c right = .ok term)
      ↔ left.isCondition = false ∧ right.isCondition = false := by
  rw [← exists_scalar_iff hmapped hleft, ← exists_scalar_iff hmapped hright]
  constructor
  · rintro ⟨term, hterm⟩
    rcases comparison_eq_ok hterm with ⟨side, negated, operand, htest, hoperand, -⟩
      | ⟨leftTerm, rightTerm, -, hleftTerm, hrightTerm, -⟩
    · -- the operand that is not asked about is a literal, so it has a scalar too
      rcases Comparison.literal_of_nullTest? htest with ⟨rfl, rfl⟩ | ⟨rfl, rfl⟩
      · exact ⟨⟨operand, hoperand⟩, .parameter .null, by rw [scalar]⟩
      · exact ⟨⟨.parameter .null, by rw [scalar]⟩, operand, hoperand⟩
    · exact ⟨⟨leftTerm, hleftTerm⟩, rightTerm, hrightTerm⟩
  · rintro ⟨⟨leftTerm, hleftTerm⟩, rightTerm, hrightTerm⟩
    rw [comparison]
    rcases c.nullTest? left right with _ | ⟨_ | _, negated⟩
    · exact ⟨_, by simp only [hleftTerm, hrightTerm]; rfl⟩
    · exact ⟨_, by simp only [hleftTerm]; rfl⟩
    · exact ⟨_, by simp only [hrightTerm]; rfl⟩

/-- A typed test has SQL if it looks for a literal. -/
theorem exists_likeCondition_iff {test : TextTest} {subject pattern : Expression}
    {type : StaticType}
    (htype : (Expression.call (.test test) (testArguments test subject pattern)).infer schema
      = .ok type) :
    (∃ term, table.likeCondition test (testArguments test subject pattern) = .ok term)
      ↔ ∃ value, pattern = .literal value := by
  constructor
  · rintro ⟨term, hterm⟩
    obtain ⟨subject', value, -, hargs, -⟩ := likeCondition_eq_ok hterm
    exact ⟨value, (testArguments_injective hargs).2⟩
  · rintro ⟨value, rfl⟩
    obtain ⟨subjectType, hsubjectType, hvalue⟩ :=
      Expression.infer_arg_ne_boolean htype (subject_mem_testArguments test subject _)
    obtain ⟨subjectTerm, hsubjectTerm⟩ := (exists_scalar_iff hmapped hsubjectType).2
      (Expression.isCondition_eq_false hsubjectType hvalue)
    have hliteral := Expression.literal_of_infer_test htype
      (pattern_mem_testArguments test subject (.literal value))
    rw [likeCondition, testOperands?_testArguments]
    rcases hliteral with ⟨text, rfl⟩ | rfl
    · exact ⟨_, by simp only [hsubjectTerm]; rfl⟩
    · exact ⟨_, by simp only [hsubjectTerm]; rfl⟩

/-- **A typed filter has SQL** unless it compares a condition or looks for something open. -/
theorem exists_condition_iff {e : Expression} (htype : e.infer schema = .ok .boolean) :
    (∃ term, table.condition e = .ok term) ↔ ¬ e.ComparesCondition ∧ ¬ e.HasOpenPattern := by
  induction e using Expression.induction with
  | literal value =>
    have hopen : ¬ (Expression.literal value).HasOpenPattern :=
      Expression.not_hasOpenPattern rfl (by simp)
    refine iff_of_true ?_ ⟨Expression.not_comparesCondition htype rfl, hopen⟩
    rw [Expression.infer_literal] at htype
    cases value with
    | bool b => exact ⟨.bool b, by rw [condition]⟩
    | _ => cases htype
  | property name =>
    have hopen : ¬ (Expression.property name).HasOpenPattern :=
      Expression.not_hasOpenPattern rfl (by simp)
    refine iff_of_true ?_ ⟨Expression.not_comparesCondition htype rfl, hopen⟩
    obtain ⟨column, hcolumn⟩ := exists_column hmapped htype
    exact ⟨_, by rw [condition, hcolumn]; rfl⟩
  | not operand ih =>
    rw [Expression.comparesCondition_not, Expression.hasOpenPattern_not,
      ← ih (Expression.infer_not_eq_ok.1 htype).1]
    simp [condition, map_eq_ok]
  | binary left operator right ihLeft ihRight =>
    cases operator with
    | comparison c =>
      obtain ⟨leftType, rightType, hleft, hright, -⟩ := Expression.infer_binary_eq_ok.1 htype
      have hopen : ¬ (Expression.binary left (.comparison c) right).HasOpenPattern :=
        Expression.not_hasOpenPattern rfl (by simp)
      rw [condition, exists_comparison_iff hmapped hleft hright,
        Expression.comparesCondition_comparison htype, not_or, Bool.not_eq_true, Bool.not_eq_true,
        and_iff_left hopen]
    | connective c =>
      obtain ⟨leftType, rightType, hleft, hright, hresult⟩ := Expression.infer_binary_eq_ok.1 htype
      obtain ⟨rfl, rfl, -⟩ := Operator.resultType_connective_eq_ok.1 hresult
      rw [exists_connective_iff, ihLeft hleft, ihRight hright,
        Expression.comparesCondition_connective, Expression.hasOpenPattern_connective]
      tauto
    | arithmetic a => exact absurd rfl (Expression.infer_arithmetic_ne_boolean htype).1
  | call function args _ =>
    obtain ⟨test, rfl⟩ := Expression.function_of_infer_boolean htype
    obtain ⟨subject, pattern, rfl⟩ :=
      exists_testArguments test (Expression.length_eq_arity_of_infer htype)
    rw [condition, exists_likeCondition_iff hmapped htype, Expression.hasOpenPattern_test]
    have hcompares := Expression.not_comparesCondition_test htype
    simp [hcompares]

end Mapped

end Table

/-! ## What the SQL is like -/

namespace Term

/-- The term is a scalar that is calculated from scalars only. -/
inductive IsScalar : Term → Prop where
  | parameter (value : Value) : IsScalar (.parameter value)
  | column (table : TableRef) (name : String) : IsScalar (.column table name)
  | arithmetic (a : Arithmetic) {left right : Term} (hleft : IsScalar left)
    (hright : IsScalar right) : IsScalar (.binary left (.arithmetic a) right)
  | call (f : ScalarFunction) {args : List Term} (hargs : ∀ arg ∈ args, IsScalar arg) :
    IsScalar (.call f args)
  | part (p : TimePart) {operand : Term} (hoperand : IsScalar operand) :
    IsScalar (.part p operand)

/-- The term is a condition that connects conditions only, and asks about scalars only. -/
inductive IsCondition : Term → Prop where
  | bool (b : Bool) : IsCondition (.bool b)
  | and {left right : Term} (hleft : IsCondition left) (hright : IsCondition right) :
    IsCondition (.and left right)
  | or {left right : Term} (hleft : IsCondition left) (hright : IsCondition right) :
    IsCondition (.or left right)
  | not {operand : Term} (hoperand : IsCondition operand) : IsCondition (.not operand)
  | comparison (c : Comparison) {left right : Term} (hleft : left.IsScalar)
    (hright : right.IsScalar) : IsCondition (.binary left (.comparison c) right)
  | isNull {operand : Term} (hoperand : operand.IsScalar) : IsCondition (.isNull operand)
  | isNotNull {operand : Term} (hoperand : operand.IsScalar) : IsCondition (.isNotNull operand)
  | like (escape : Char) {subject pattern : Term} (hsubject : subject.IsScalar)
    (hpattern : pattern.IsScalar) : IsCondition (.like subject pattern escape)

/-- No term is both. -/
theorem IsCondition.not_isScalar {term : Term} (h : term.IsCondition) : ¬ term.IsScalar := by
  cases h <;> nofun

end Term

namespace Table

variable {table : Table}

/-- **What stands for a value is a scalar.** -/
theorem isScalar_of_becomesScalar {e : Expression} {term : Term} (h : table.BecomesScalar e term) :
    term.IsScalar := by
  induction h with
  | literal value => exact .parameter value
  | @property _ column _ => exact .column _ column
  | arithmetic a _ _ ihLeft ihRight => exact .arithmetic a ihLeft ihRight
  | @call function _ _ operand hconstruct _ ih =>
    cases function with
    | test test => cases hconstruct
    | part p => cases hconstruct; exact .part p ih
    | length | change | whole =>
      cases hconstruct
      exact .call _ fun term hterm => List.mem_singleton.1 hterm ▸ ih

/-- **What stands for a condition is a condition.** -/
theorem isCondition_of_becomesCondition {e : Expression} {term : Term}
    (h : table.BecomesCondition e term) : term.IsCondition := by
  induction h with
  | bool b => exact .bool b
  | @property _ column _ => exact .comparison .eq (.column _ column) (.parameter _)
  | not _ ih => exact .not ih
  | @nullTest _ _ _ _ negated _ _ hoperand =>
    cases negated with
    | false => exact .isNull (isScalar_of_becomesScalar hoperand)
    | true => exact .isNotNull (isScalar_of_becomesScalar hoperand)
  | comparison _ hleft hright =>
    exact .comparison _ (isScalar_of_becomesScalar hleft) (isScalar_of_becomesScalar hright)
  | connective c _ _ ihLeft ihRight =>
    cases c with
    | and => exact .and ihLeft ihRight
    | or => exact .or ihLeft ihRight
  | test _ _ hsubject => exact .like _ (isScalar_of_becomesScalar hsubject) (.parameter _)

/-! ## Both together -/

/-- The table of a schema has a column for every property of it. -/
theorem isSome_column_ofSchema (dialect : Dialect) (schema : Schema) (name : String)
    (hname : (schema.property? name).isSome) :
    ((ofSchema dialect schema).columns.get? name).isSome := by
  rw [ofSchema, Dictionary.get?_mapValues, Option.isSome_map]
  exact hname

/-- **What SQL supports.**  A filter over the schema of a table can only fail to become SQL by a
form that has none, and does exactly if a comparison has a condition among its operands, or a test
that stands where a condition is asked for looks for something other than a literal.  If it becomes
SQL, conditions and scalars stand where SQL asks for them. -/
theorem condition_supported_iff (schema : Schema) (dialect : Dialect) {filter : Expression}
    (hcheck : filter.checkPredicate schema = .ok ()) :
    (∀ error, (ofSchema dialect schema).condition filter = .error error →
        ∃ what, error = .unsupported what)
      ∧ ((∃ what, (ofSchema dialect schema).condition filter = .error (.unsupported what))
        ↔ filter.ComparesCondition ∨ filter.HasOpenPattern)
      ∧ ∀ term, (ofSchema dialect schema).condition filter = .ok term →
        term.IsCondition ∧ ¬ term.IsScalar := by
  have htype := Expression.checkPredicate_eq_ok.1 hcheck
  have hunsupported (error : SqlError)
      (h : (ofSchema dialect schema).condition filter = .error error) :
      ∃ what, error = .unsupported what :=
    unsupported_of_condition (isSome_column_ofSchema dialect schema) htype h
  have hexists := exists_condition_iff (isSome_column_ofSchema dialect schema) htype
  refine ⟨hunsupported, ?_, fun term hterm => ?_⟩
  · rw [← not_iff_not, not_or, ← hexists]
    constructor
    · intro hnone
      cases hterm : (ofSchema dialect schema).condition filter with
      | ok term => exact ⟨term, rfl⟩
      | error error =>
        obtain ⟨what, rfl⟩ := hunsupported error hterm
        exact absurd ⟨what, hterm⟩ hnone
    · rintro ⟨term, hterm⟩ ⟨what, hwhat⟩
      rw [hterm] at hwhat
      cases hwhat
  · have hcondition := isCondition_of_becomesCondition (becomesCondition_of_typed hterm htype)
    exact ⟨hcondition, hcondition.not_isScalar⟩

/-- The rule at two filters.  A truth value is compared with a comparison in one of them, so it has
no SQL; the other negates a test and has a condition. -/
theorem condition_supported_iff_of_notes :
    let schema : Schema := ⟨"Note", .ofList [("Count", { type := .integer }),
      ("Text", { column := some "body", type := .string })]⟩
    let compared : Expression := .binary (.binary
        (.binary (.property "Count") (.comparison .gt) (.literal (.int 3)))
        (.comparison .eq) (.literal (.bool true)))
      (.connective .or) (.call (.test .substringOf) [.literal (.string "a"), .property "Text"])
    let negated : Expression :=
      .not (.call (.test .startsWith) [.call (.change .toLower) [.property "Text"], .literal .null])
    (∃ what, (ofSchema .sqlServer schema).condition compared = .error (.unsupported what))
      ∧ ∃ term, (ofSchema .postgres schema).condition negated = .ok term ∧ term.IsCondition := by
  intro schema compared negated
  have hcompared : compared.ComparesCondition :=
    Expression.comparesCondition_connective.2
      (.inl ⟨_, .eq, _, Expression.self_mem_parts _, .inl rfl⟩)
  have hnegated : negated.checkPredicate schema = .ok () := rfl
  refine ⟨(condition_supported_iff schema .sqlServer rfl).2.1.2 (.inl hcompared), ?_⟩
  exact ⟨_, rfl, ((condition_supported_iff schema .postgres hnegated).2.2 _ rfl).1⟩

end Table
end Sql
end ODataQuery
