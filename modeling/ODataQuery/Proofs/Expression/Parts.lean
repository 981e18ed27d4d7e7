import ODataQuery.Expression.Basic

/-!
# The parts of an expression

What holds of an expression often depends on what it contains: no null literal, no arithmetic, no
negation in a certain place.  Such conditions are about its parts, which are the expression itself
and the parts of its operands.

* `Expression.parts`: the parts, from the root down.
* `Expression.mem_parts_not`, `mem_parts_binary`, `mem_parts_call`: those of one kind of node.
* `Expression.operand_parts_subset` and its like: an operand has no other parts than the whole.
-/

set_option autoImplicit false

namespace ODataQuery
namespace Expression

mutual

/-- The expression and the parts of its operands. -/
def parts : Expression → List Expression
  | literal value => [literal value]
  | property name => [property name]
  | not operand => operand.not :: operand.parts
  | binary left operator right => binary left operator right :: (left.parts ++ right.parts)
  | call function args => call function args :: partsOfArgs args

/-- The parts of the arguments of a call. -/
def partsOfArgs : List Expression → List Expression
  | [] => []
  | arg :: rest => arg.parts ++ partsOfArgs rest

end

theorem self_mem_parts (e : Expression) : e ∈ e.parts := by
  cases e <;> rw [parts] <;> exact List.mem_cons_self

theorem mem_parts_not {part operand : Expression} :
    part ∈ operand.not.parts ↔ part = operand.not ∨ part ∈ operand.parts := by
  rw [parts, List.mem_cons]

theorem mem_parts_binary {part left right : Expression} {operator : Operator} :
    part ∈ (binary left operator right).parts
      ↔ part = binary left operator right ∨ part ∈ left.parts ∨ part ∈ right.parts := by
  rw [parts, List.mem_cons, List.mem_append]

theorem mem_partsOfArgs {part : Expression} {args : List Expression} :
    part ∈ partsOfArgs args ↔ ∃ arg ∈ args, part ∈ arg.parts := by
  induction args with
  | nil => simp [partsOfArgs]
  | cons arg rest ih => simp [partsOfArgs, ih]

theorem mem_parts_call {part : Expression} {function : Function} {args : List Expression} :
    part ∈ (call function args).parts
      ↔ part = call function args ∨ ∃ arg ∈ args, part ∈ arg.parts := by
  rw [parts, List.mem_cons, mem_partsOfArgs]

/-! ## Operands -/

theorem operand_parts_subset (operand : Expression) : operand.parts ⊆ operand.not.parts := by
  intro part hpart
  exact mem_parts_not.2 (.inr hpart)

theorem left_parts_subset (left : Expression) (operator : Operator) (right : Expression) :
    left.parts ⊆ (binary left operator right).parts := by
  intro part hpart
  exact mem_parts_binary.2 (.inr (.inl hpart))

theorem right_parts_subset (left : Expression) (operator : Operator) (right : Expression) :
    right.parts ⊆ (binary left operator right).parts := by
  intro part hpart
  exact mem_parts_binary.2 (.inr (.inr hpart))

theorem arg_parts_subset (function : Function) {args : List Expression} {arg : Expression}
    (h : arg ∈ args) : arg.parts ⊆ (call function args).parts := by
  intro part hpart
  exact mem_parts_call.2 (.inr ⟨arg, h, hpart⟩)

end Expression
end ODataQuery
