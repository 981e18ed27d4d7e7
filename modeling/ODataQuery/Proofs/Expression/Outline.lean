import ODataQuery.Query.Basic

/-!
# What the values of literals leave

The outline of a filter is what is left of it when its numbers, strings and points of time are
forgotten, all but their kind.  Null and the truth values stay: they are not data that somebody
typed in but forms of a filter.  Two filters that differ only in such values have one outline.

* `Value.outline`, `Expression.outline`, `Query.outline`: one fixed value for each kind.
* `Value.outline_eq_outline_iff`: what it means for two values to have one outline.
* `Comparison.nullTest?_outline`: the question whether a comparison asks for null does not depend on
  the values.
-/

set_option autoImplicit false

namespace ODataQuery

/-! ## Values -/

/-- What is left of a value when a number, a string or a point of time is forgotten: one fixed value
of the same kind. -/
def Value.outline : Value → Value
  | null => null
  | bool b => bool b
  | int _ => int 0
  | float _ => float 0
  | string _ => string ""
  | dateTime _ => dateTime ⟨1970, 1, 1, 0, 0, 0, 0, by decide, by decide⟩

/-- **Values have one outline** if they are of one kind and not different truth values. -/
theorem Value.outline_eq_outline_iff {first second : Value} : first.outline = second.outline
    ↔ first.scalarType? = second.scalarType?
      ∧ (first.scalarType? = some .boolean → first = second) := by
  cases first <;> cases second <;> simp [outline, scalarType?]

theorem Value.outline_outline (value : Value) : value.outline.outline = value.outline := by
  cases value <;> rfl

/-! ## Expressions -/

namespace Expression

mutual

/-- What is left of an expression when the values of its literals are forgotten. -/
def outline : Expression → Expression
  | literal value => literal value.outline
  | property name => property name
  | not operand => not operand.outline
  | binary left operator right => binary left.outline operator right.outline
  | call function args => call function (argsOutline args)

/-- The arguments of a call without the values of their literals. -/
def argsOutline : List Expression → List Expression
  | [] => []
  | arg :: rest => arg.outline :: argsOutline rest

end

theorem argsOutline_eq_map (args : List Expression) : argsOutline args = args.map outline := by
  induction args with
  | nil => rfl
  | cons arg rest ih => rw [argsOutline, ih, List.map_cons]

theorem isNullLiteral_outline (e : Expression) : e.outline.isNullLiteral = e.isNullLiteral := by
  cases e with
  | literal value => cases value <;> rfl
  | _ => rfl

end Expression

theorem Comparison.nullTest?_outline (c : Comparison) (left right : Expression) :
    c.nullTest? left.outline right.outline = c.nullTest? left right := by
  cases c <;> simp only [nullTest?, Expression.isNullLiteral_outline]

/-! ## Queries -/

/-- A query without the values of the literals of its filter. -/
def Query.outline (query : Query) : Query :=
  { query with filter := query.filter.map Expression.outline }

end ODataQuery
