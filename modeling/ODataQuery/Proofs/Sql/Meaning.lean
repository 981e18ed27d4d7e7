import ODataQuery.Proofs.Records.Resolution
import ODataQuery.Proofs.Sql.Like

/-!
# What SQL terms mean

A term is evaluated on one row.  A scalar has a value, with null for an absent one, and a condition
has a truth value, which is unknown where the answer hangs on an absent value.

* `Truth.and`, `Truth.or`, `Truth.not`: Kleene's tables.
* `Row`, `Scope`: the columns of a row, and what else a term may look at.
* `Term.value`: the value of a scalar.  Arithmetic, functions and parts of points of time are those
  of values in general; a condition has no value.
* `Term.truth`: the truth value of a condition; a scalar has none.
-/

set_option autoImplicit false

namespace ODataQuery
namespace Sql

/-! ## Truth values -/

/-- The truth value of a condition; none is "unknown". -/
abbrev Truth := Option Bool

namespace Truth

/-- A conjunction is false if either operand is, and true if both are. -/
def and : Truth → Truth → Truth
  | some false, _ => some false
  | _, some false => some false
  | some true, some true => some true
  | _, _ => none

/-- A disjunction is true if either operand is, and false if both are. -/
def or : Truth → Truth → Truth
  | some true, _ => some true
  | _, some true => some true
  | some false, some false => some false
  | _, _ => none

/-- The negation of what is unknown is unknown. -/
def not : Truth → Truth
  | some b => some !b
  | none => none

/-- The comparison of two values.  It is unknown if one of them is absent, or if they cannot be
compared. -/
def comparison (c : Comparison) : Value → Value → Truth
  | .null, _ => none
  | _, .null => none
  | left, right =>
    match left.compare right with
    | some order => some (c.holds order)
    | none => none

/-- Does a string match a pattern; it is unknown of anything but strings. -/
def like (style : FunctionStyle) (escape : Char) : Value → Value → Truth
  | .string subject, .string pattern => some (Like.holds style escape subject.toList pattern.toList)
  | _, _ => none

end Truth

/-! ## Rows -/

/-- A row: its columns in order. -/
abbrev Row := List (String × Value)

/-- What a term is evaluated in: a row of an aliased relation and, where rows are numbered or
counted, the number of the row in an ordering and the number of all rows. -/
structure Scope where
  aliasName : String
  row : Row
  rowNumber : List (Term × Direction) → Value := fun _ => .null
  rowCount : Value := .null

/-- The value of a column.  Only the columns of the aliased relation can be seen. -/
def Scope.column (scope : Scope) (table : TableRef) (name : String) : Value :=
  if table = .byAlias scope.aliasName then (scope.row.lookup name).getD .null else .null

/-! ## Terms -/

/-- The function of filters that a function of scalars computes. -/
def ScalarFunction.function : ScalarFunction → Function
  | length => .length
  | change c => .change c
  | whole w => .whole w

namespace Term

mutual

/-- The value of a scalar on a row. -/
def value (scope : Scope) : Term → Value
  | binary left (.arithmetic a) right => Value.arithmetic a (left.value scope) (right.value scope)
  | call function args => Value.call function.function (values scope args)
  | part p operand => Value.call (.part p) [operand.value scope]
  | column table name => scope.column table name
  | integer i => .int i
  | parameter value => value
  | countAll => scope.rowCount
  | rowNumber keys => scope.rowNumber keys
  | and _ _ | or _ _ | not _ | binary _ (.comparison _) _ | binary _ (.other _) _ | isNull _
  | isNotNull _ | like _ _ _ | bool _ => .null

/-- The values of the arguments of a function. -/
def values (scope : Scope) : List Term → List Value
  | [] => []
  | arg :: rest => arg.value scope :: values scope rest

end

/-- The truth value of a condition on a row, in the dialects of a family. -/
def truth (style : FunctionStyle) (scope : Scope) : Term → Truth
  | and left right => (left.truth style scope).and (right.truth style scope)
  | or left right => (left.truth style scope).or (right.truth style scope)
  | not operand => (operand.truth style scope).not
  | binary left (.comparison c) right =>
    Truth.comparison c (left.value scope) (right.value scope)
  | isNull operand => some (operand.value scope).isNull
  | isNotNull operand => some !(operand.value scope).isNull
  | like subject pattern escape =>
    Truth.like style escape (subject.value scope) (pattern.value scope)
  | bool b => some b
  | binary _ (.arithmetic _) _ | binary _ (.other _) _ | call _ _ | part _ _ | column _ _
  | integer _ | parameter _ | countAll | rowNumber _ => none

end Term

/-! ## The operations on records give the same answers -/

namespace Truth

theorem and_eq_connect (left right : Truth) : left.and right = Value.connect .and left right := by
  rcases left with _ | _ | _ <;> rcases right with _ | _ | _ <;> decide

theorem or_eq_connect (left right : Truth) : left.or right = Value.connect .or left right := by
  rcases left with _ | _ | _ <;> rcases right with _ | _ | _ <;> decide

theorem not_eq_negation (operand : Value) : not operand.truth? = operand.negation.truth? := by
  rw [Value.negation, Value.truth?_ofTruth]
  cases operand.truth? <;> rfl

theorem comparison_eq (c : Comparison) (left right : Value) :
    comparison c left right = (Value.comparison c left right).truth? := by
  have hordered (hleft : left ≠ .null) (hright : right ≠ .null) :
      Value.comparison c left right = .ofTruth ((left.compare right).map c.holds) := by
    cases left <;> cases right <;> simp_all [Value.comparison, Value.isNull]
  by_cases hleft : left = .null
  · subst hleft
    simp [comparison, Value.comparison, Value.isNull, Value.truth?]
  · by_cases hright : right = .null
    · subst hright
      simp [comparison, Value.comparison, Value.isNull, Value.truth?]
    · rw [hordered hleft hright, Value.truth?_ofTruth, comparison]
      · cases left.compare right <;> rfl
      · exact hleft
      · exact hright

/-- Is a boolean equal to true: it is what it says itself. -/
theorem comparison_eq_true (v : Value) : comparison .eq v (.bool true) = v.truth? := by
  cases v with
  | bool b => cases b <;> rfl
  | _ => rfl

end Truth

end Sql
end ODataQuery
