import Mathlib.Data.List.Forall2
import ODataQuery.Proofs.Expression.Typing
import ODataQuery.Sql.Condition

/-!
# What filters become

A filter is translated by recursion in two positions, where SQL wants a condition and where it wants
a scalar.  Each form of expression becomes a construct of SQL, which is built on what the operands of
the expression become.

* `Atom`, `Unary`, `Binary`: what terms are built from, and the constructs that build them.
* `Table.scalar_call_eq_ok`, `Table.comparison_eq_ok`, `Table.connective_eq_ok`,
  `Table.likeCondition_eq_ok`: the construct that each kind of expression becomes.
* `Table.BecomesScalar`, `Table.BecomesCondition`: what an expression becomes, construct by
  construct.
* `Table.becomesScalar_of_typed`, `Table.becomesCondition_of_typed`: the translation of a typed
  expression is what it becomes, so what holds of translated filters is proved by induction on this.
-/

set_option autoImplicit false

namespace ODataQuery
namespace Sql

/-! ## Constructs -/

/-- What needs no operands. -/
inductive Atom where
  | parameter (value : Value)
  | column (name : String)
  | bool (b : Bool)
  deriving DecidableEq

/-- The term of an atom. -/
def Atom.term : Atom → Term
  | parameter value => .parameter value
  | column name => .column (.byAlias Table.tableAlias) name
  | bool b => .bool b

/-- The constructs of one operand. -/
inductive Unary where
  | not
  | nullTest (negated : Bool)
  | call (f : ScalarFunction)
  | part (p : TimePart)
  deriving DecidableEq

/-- The term of a construct and its operand. -/
def Unary.term : Unary → Term → Term
  | not, operand => .not operand
  | nullTest false, operand => .isNull operand
  | nullTest true, operand => .isNotNull operand
  | call f, operand => .call f [operand]
  | part p, operand => .part p operand

/-- The constructs of two operands. -/
inductive Binary where
  | connective (c : Connective)
  | comparison (c : Comparison)
  | arithmetic (a : Arithmetic)
  | like
  deriving DecidableEq

/-- The term of a construct and its operands. -/
def Binary.term : Binary → Term → Term → Term
  | connective .and, left, right => .and left right
  | connective .or, left, right => .or left right
  | comparison c, left, right => .binary left (.comparison c) right
  | arithmetic a, left, right => .binary left (.arithmetic a) right
  | like, left, right => .like left right Like.escapeCharacter

/-- The construct that a call of the function becomes where it stands for a scalar. -/
def Unary.ofFunction? : Function → Option Unary
  | .length => some (.call .length)
  | .change c => some (.call (.change c))
  | .whole w => some (.call (.whole w))
  | .part p => some (.part p)
  | .test _ => none

namespace Table

/-! ## Columns, arguments and tests -/

theorem column_eq_ok {table : Table} {name : String} {term : Term} :
    table.column name = .ok term
      ↔ ∃ column, table.columns.get? name = some column
          ∧ term = .column (.byAlias tableAlias) column := by
  rw [column]
  cases table.columns.get? name <;> simp [eq_comm]

/-- The operands of the arguments of a call are translated one by one. -/
theorem scalars_eq_ok {table : Table} {args : List Expression} {terms : List Term} :
    table.scalars args = .ok terms
      ↔ List.Forall₂ (fun arg term => table.scalar arg = .ok term) args terms := by
  induction args generalizing terms with
  | nil =>
    rw [scalars, List.forall₂_nil_left_iff]
    simp [eq_comm]
  | cons arg rest ih =>
    rw [scalars, List.forall₂_cons_left_iff]
    simp only [bind_eq_ok, ih, Except.ok.injEq]
    constructor
    · rintro ⟨term, hterm, terms, hterms, rfl⟩
      exact ⟨term, terms, hterm, hterms, rfl⟩
    · rintro ⟨term, terms, hterm, hterms, rfl⟩
      exact ⟨term, hterm, terms, hterms, rfl⟩

/-- The arguments of a test, in the order in which a filter has them. -/
def testArguments {α : Type} (test : TextTest) (subject pattern : α) : List α :=
  match test with
  | .substringOf => [pattern, subject]
  | _ => [subject, pattern]

theorem subject_mem_testArguments {α : Type} (test : TextTest) (subject pattern : α) :
    subject ∈ testArguments test subject pattern := by
  cases test <;> simp [testArguments]

theorem pattern_mem_testArguments {α : Type} (test : TextTest) (subject pattern : α) :
    pattern ∈ testArguments test subject pattern := by
  cases test <;> simp [testArguments]

/-- As many arguments as a test takes are those of a test. -/
theorem exists_testArguments {α : Type} (test : TextTest) {args : List α}
    (h : args.length = 2) : ∃ subject pattern, args = testArguments test subject pattern := by
  obtain ⟨first, second, rfl⟩ := List.length_eq_two.1 h
  cases test with
  | substringOf => exact ⟨second, first, rfl⟩
  | startsWith | endsWith => exact ⟨first, second, rfl⟩

theorem testOperands?_testArguments (test : TextTest) (subject pattern : Expression) :
    testOperands? test (testArguments test subject pattern) = some (subject, pattern) := by
  cases test <;> rfl

/-- The arguments of a test tell what it looks at and what it looks for. -/
theorem testArguments_injective {test : TextTest} {subject pattern subject' pattern' : Expression}
    (h : testArguments test subject pattern = testArguments test subject' pattern') :
    subject = subject' ∧ pattern = pattern' := by
  have hoperands := congrArg (testOperands? test) h
  rw [testOperands?_testArguments, testOperands?_testArguments] at hoperands
  cases hoperands
  exact ⟨rfl, rfl⟩

theorem testOperands?_eq_some {test : TextTest} {args : List Expression}
    {subject pattern : Expression} (h : testOperands? test args = some (subject, pattern)) :
    args = testArguments test subject pattern := by
  rcases args with _ | ⟨first, _ | ⟨second, _ | ⟨third, rest⟩⟩⟩
  · cases h
  · cases h
  · cases test <;> cases h <;> rfl
  · cases h

variable {table : Table} {schema : Schema}

/-! ## The construct of an expression -/

/-- A call on one scalar becomes a construct of one operand. -/
theorem scalar_call_eq_ok {function : Function} {args : List Expression} {term : Term}
    (hterm : table.scalar (.call function args) = .ok term)
    (harity : args.length = function.arity) :
    ∃ arg operand construct, args = [arg] ∧ Unary.ofFunction? function = some construct
      ∧ table.scalar arg = .ok operand ∧ term = construct.term operand := by
  simp only [scalar, bind_eq_ok] at hterm
  obtain ⟨terms, hterms, hcall⟩ := hterm
  have hsingle (hone : args.length = 1) : ∃ arg operand, args = [arg] ∧ terms = [operand]
      ∧ table.scalar arg = .ok operand := by
    obtain ⟨arg, rfl⟩ := List.length_eq_one_iff.1 hone
    obtain ⟨operand, _, hoperand, hrest, rfl⟩ :=
      List.forall₂_cons_left_iff.1 (scalars_eq_ok.1 hterms)
    rw [List.forall₂_nil_left_iff.1 hrest]
    exact ⟨arg, operand, rfl, rfl, hoperand⟩
  cases function with
  | test test => cases hcall
  | length | change | whole =>
    obtain ⟨arg, operand, rfl, rfl, hoperand⟩ := hsingle harity
    cases hcall
    exact ⟨arg, operand, .call _, rfl, rfl, hoperand, rfl⟩
  | part p =>
    obtain ⟨arg, operand, rfl, rfl, hoperand⟩ := hsingle harity
    cases hcall
    exact ⟨arg, operand, .part p, rfl, rfl, hoperand, rfl⟩

/-- A connective connects two conditions. -/
theorem connective_eq_ok {left right : Expression} {c : Connective} {term : Term}
    (hterm : table.condition (.binary left (.connective c) right) = .ok term) :
    ∃ leftTerm rightTerm, table.condition left = .ok leftTerm
      ∧ table.condition right = .ok rightTerm
      ∧ term = (Binary.connective c).term leftTerm rightTerm := by
  cases c <;> simp only [condition, bind_eq_ok, Except.ok.injEq] at hterm <;>
    obtain ⟨leftTerm, hleft, rightTerm, hright, rfl⟩ := hterm <;>
    exact ⟨leftTerm, rightTerm, hleft, hright, rfl⟩

/-- A comparison asks about one operand, or compares both. -/
theorem comparison_eq_ok {left right : Expression} {c : Comparison} {term : Term}
    (hterm : table.comparison left c right = .ok term) :
    (∃ side negated operand, c.nullTest? left right = some (side, negated)
        ∧ table.scalar (match side with
          | .left => left
          | .right => right) = .ok operand
        ∧ term = (Unary.nullTest negated).term operand)
      ∨ ∃ leftTerm rightTerm, c.nullTest? left right = none
        ∧ table.scalar left = .ok leftTerm ∧ table.scalar right = .ok rightTerm
        ∧ term = (Binary.comparison c).term leftTerm rightTerm := by
  rw [comparison] at hterm
  rcases htest : c.nullTest? left right with _ | ⟨side, negated⟩ <;> rw [htest] at hterm
  · simp only [bind_eq_ok, Except.ok.injEq] at hterm
    obtain ⟨leftTerm, hleft, rightTerm, hright, rfl⟩ := hterm
    exact .inr ⟨leftTerm, rightTerm, rfl, hleft, hright, rfl⟩
  · simp only [bind_eq_ok, Except.ok.injEq] at hterm
    obtain ⟨operand, hoperand, rfl⟩ := hterm
    exact .inl ⟨side, negated, operand, rfl, hoperand, by cases negated <;> rfl⟩

/-- What a test on strings looks for, as the pattern that the subject is matched against. -/
def patternValue (table : Table) (test : TextTest) : Value → Value
  | .string text => .string (table.likePattern test text)
  | value => value

/-- A test matches its subject against a pattern that is known. -/
theorem likeCondition_eq_ok {test : TextTest} {args : List Expression} {term : Term}
    (hterm : table.likeCondition test args = .ok term) :
    ∃ subject value subjectTerm, args = testArguments test subject (.literal value)
      ∧ table.scalar subject = .ok subjectTerm
      ∧ term = Binary.like.term subjectTerm (.parameter (table.patternValue test value)) := by
  rw [likeCondition] at hterm
  split at hterm
  · cases hterm
  · rename_i subject pattern hoperands
    obtain rfl := testOperands?_eq_some hoperands
    split at hterm <;> simp only [bind_eq_ok, Except.ok.injEq, exists_eq_left'] at hterm
    · obtain ⟨subjectTerm, hsubject, rfl⟩ := hterm
      exact ⟨subject, _, subjectTerm, rfl, hsubject, rfl⟩
    · obtain ⟨subjectTerm, hsubject, rfl⟩ := hterm
      exact ⟨subject, _, subjectTerm, rfl, hsubject, rfl⟩
    · simp at hterm

/-! ## What expressions become -/

/-- The constructs of the expression, from its atoms on, make the term as its scalar. -/
inductive BecomesScalar (table : Table) : Expression → Term → Prop where
  | literal (value : Value) : BecomesScalar table (.literal value) (Atom.parameter value).term
  | property {name column : String} (hcolumn : table.columns.get? name = some column) :
    BecomesScalar table (.property name) (Atom.column column).term
  | arithmetic (a : Arithmetic) {left right : Expression} {leftTerm rightTerm : Term}
    (hleft : BecomesScalar table left leftTerm) (hright : BecomesScalar table right rightTerm) :
    BecomesScalar table (.binary left (.arithmetic a) right)
      ((Binary.arithmetic a).term leftTerm rightTerm)
  | call {function : Function} {construct : Unary} {arg : Expression} {operand : Term}
    (hconstruct : Unary.ofFunction? function = some construct)
    (harg : BecomesScalar table arg operand) :
    BecomesScalar table (.call function [arg]) (construct.term operand)

/-- The constructs of the expression, from its atoms on, make the term as its condition. -/
inductive BecomesCondition (table : Table) : Expression → Term → Prop where
  | bool (b : Bool) : BecomesCondition table (.literal (.bool b)) (Atom.bool b).term
  | property {name column : String} (hcolumn : table.columns.get? name = some column) :
    BecomesCondition table (.property name)
      ((Binary.comparison .eq).term (Atom.column column).term (Atom.parameter (.bool true)).term)
  | not {operand : Expression} {operandTerm : Term}
    (hoperand : BecomesCondition table operand operandTerm) :
    BecomesCondition table operand.not (Unary.not.term operandTerm)
  | nullTest {left right : Expression} {c : Comparison} {side : Side} {negated : Bool}
    {operand : Term} (htest : c.nullTest? left right = some (side, negated))
    (hoperand : BecomesScalar table (match side with
      | .left => left
      | .right => right) operand) :
    BecomesCondition table (.binary left (.comparison c) right)
      ((Unary.nullTest negated).term operand)
  | comparison {left right : Expression} {c : Comparison} {leftTerm rightTerm : Term}
    (htest : c.nullTest? left right = none) (hleft : BecomesScalar table left leftTerm)
    (hright : BecomesScalar table right rightTerm) :
    BecomesCondition table (.binary left (.comparison c) right)
      ((Binary.comparison c).term leftTerm rightTerm)
  | connective (c : Connective) {left right : Expression} {leftTerm rightTerm : Term}
    (hleft : BecomesCondition table left leftTerm)
    (hright : BecomesCondition table right rightTerm) :
    BecomesCondition table (.binary left (.connective c) right)
      ((Binary.connective c).term leftTerm rightTerm)
  | test (test : TextTest) {subject : Expression} (value : Value) {subjectTerm : Term}
    (hsubject : BecomesScalar table subject subjectTerm) :
    BecomesCondition table (.call (.test test) (testArguments test subject (.literal value)))
      (Binary.like.term subjectTerm (Atom.parameter (table.patternValue test value)).term)

/-- **The scalar of a typed operand** is what the operand becomes. -/
theorem becomesScalar_of_typed {e : Expression} {term : Term} (hterm : table.scalar e = .ok term)
    {type : StaticType} (htype : e.infer schema = .ok type) : table.BecomesScalar e term := by
  induction e using Expression.induction generalizing term type with
  | literal value =>
    rw [scalar] at hterm
    cases hterm
    exact .literal value
  | property name =>
    rw [scalar] at hterm
    obtain ⟨column, hcolumn, rfl⟩ := column_eq_ok.1 hterm
    exact .property hcolumn
  | not operand _ => rw [scalar] at hterm; cases hterm
  | binary left operator right ihleft ihright =>
    obtain ⟨leftType, rightType, hleft, hright, -⟩ := Expression.infer_binary_eq_ok.1 htype
    cases operator with
    | comparison c | connective c => rw [scalar] at hterm; cases hterm
    | arithmetic a =>
      simp only [scalar, bind_eq_ok, Except.ok.injEq] at hterm
      obtain ⟨leftTerm, hleftTerm, rightTerm, hrightTerm, rfl⟩ := hterm
      exact .arithmetic a (ihleft hleftTerm hleft) (ihright hrightTerm hright)
  | call function args ih =>
    obtain ⟨arg, operand, construct, rfl, hconstruct, hoperand, rfl⟩ :=
      scalar_call_eq_ok hterm (Expression.length_eq_arity_of_infer htype)
    obtain ⟨argType, hargType⟩ := Expression.infer_arg_of_infer_call htype List.mem_cons_self
    exact .call hconstruct (ih arg List.mem_cons_self hoperand hargType)

/-- **The condition of a typed filter** is what the filter becomes. -/
theorem becomesCondition_of_typed {e : Expression} {term : Term}
    (hterm : table.condition e = .ok term) {type : StaticType}
    (htype : e.infer schema = .ok type) : table.BecomesCondition e term := by
  induction e using Expression.induction generalizing term type with
  | literal value =>
    cases value with
    | bool b =>
      rw [condition] at hterm
      cases hterm
      exact .bool b
    | _ => rw [condition] at hterm <;> cases hterm
  | property name =>
    simp only [condition, bind_eq_ok, Except.ok.injEq] at hterm
    obtain ⟨_, hmapped, rfl⟩ := hterm
    obtain ⟨column, hcolumn, rfl⟩ := column_eq_ok.1 hmapped
    exact .property hcolumn
  | not operand ih =>
    rw [condition, map_eq_ok] at hterm
    obtain ⟨operandTerm, hoperand, rfl⟩ := hterm
    exact .not (ih hoperand (Expression.infer_not_eq_ok.1 htype).1)
  | binary left operator right ihleft ihright =>
    obtain ⟨leftType, rightType, hleft, hright, -⟩ := Expression.infer_binary_eq_ok.1 htype
    cases operator with
    | comparison c =>
      rw [condition] at hterm
      rcases comparison_eq_ok hterm with ⟨side, negated, operand, htest, hoperand, rfl⟩
        | ⟨leftTerm, rightTerm, htest, hleftTerm, hrightTerm, rfl⟩
      · cases side with
        | left => exact .nullTest htest (becomesScalar_of_typed hoperand hleft)
        | right => exact .nullTest htest (becomesScalar_of_typed hoperand hright)
      · exact .comparison htest (becomesScalar_of_typed hleftTerm hleft)
          (becomesScalar_of_typed hrightTerm hright)
    | connective c =>
      obtain ⟨leftTerm, rightTerm, hleftTerm, hrightTerm, rfl⟩ := connective_eq_ok hterm
      exact .connective c (ihleft hleftTerm hleft) (ihright hrightTerm hright)
    | arithmetic a => rw [condition] at hterm; cases hterm
  | call function args _ =>
    cases function with
    | test test =>
      rw [condition] at hterm
      obtain ⟨subject, value, subjectTerm, rfl, hsubject, rfl⟩ := likeCondition_eq_ok hterm
      obtain ⟨subjectType, hsubjectType⟩ :=
        Expression.infer_arg_of_infer_call htype (subject_mem_testArguments test subject _)
      exact .test test value (becomesScalar_of_typed hsubject hsubjectType)
    | _ => rw [condition] at hterm <;> cases hterm

end Table
end Sql
end ODataQuery
