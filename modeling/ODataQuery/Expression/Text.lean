import ODataQuery.Expression.Basic
import ODataQuery.Value.Text

/-!
# Written expressions

Expressions are written in the filter language with every operator in parentheses.
-/

set_option autoImplicit false

namespace ODataQuery
namespace Expression

mutual

/-- The filter text of an expression. -/
def text : Expression → String
  | literal value => value.text
  | property name => name
  | not operand => "not " ++ operand.text
  | binary left operator right =>
    "(" ++ left.text ++ " " ++ operator.keyword ++ " " ++ right.text ++ ")"
  | call function args => function.name ++ "(" ++ argsText args ++ ")"

/-- The filter text of the arguments of a call. -/
def argsText : List Expression → String
  | [] => ""
  | [arg] => arg.text
  | arg :: rest => arg.text ++ ", " ++ argsText rest

end

end Expression
end ODataQuery
