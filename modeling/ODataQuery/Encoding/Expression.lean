import ODataQuery.Encoding.Value
import ODataQuery.Expression.Basic

/-!
# Expressions in JSON

An expression is an object with one field, named for the kind of the expression.
-/

set_option autoImplicit false

namespace ODataQuery
namespace Expression

mutual

/-- The JSON form of an expression. -/
def toJson : Expression → Json
  | literal value => .object [("literal", value.toJson)]
  | property name => .object [("property", .string name)]
  | not operand => .object [("not", operand.toJson)]
  | binary left operator right =>
    .object [("binary", .object [
      ("left", left.toJson), ("operator", .string operator.keyword), ("right", right.toJson)])]
  | call function args =>
    .object [("call", .object [
      ("function", .string function.name), ("args", .array (argsToJson args))])]

/-- The JSON forms of the arguments of a call. -/
def argsToJson : List Expression → List Json
  | [] => []
  | arg :: rest => arg.toJson :: argsToJson rest

end

/-- The expression of a kind, given how to read the expressions inside it. -/
def ofContent? (strictness : Json.Strictness) (inner : Json → Option Expression) (kind : String)
    (content : Json) : Option Expression :=
  if kind = "literal" then (Value.ofJson? strictness content).map literal
  else if kind = "property" then content.toText?.map property
  else if kind = "not" then (inner content).map not
  else if kind = "binary" then
    match content.choiceMembers? strictness ["left", "operator", "right"] with
    | some [left, operator, right] => do
      let left ← left.required? inner
      let operator ← operator.required? (Json.oneOf? strictness Operator.all Operator.keyword)
      let right ← right.required? inner
      some (binary left operator right)
    | _ => none
  else if kind = "call" then
    match content.choiceMembers? strictness ["function", "args"] with
    | some [function, args] => do
      let function ← function.required? (Json.oneOf? strictness Function.all Function.name)
      let args ← args.required? (Json.toList? inner)
      some (call function args)
    | _ => none
  else none

/-- The expression of a JSON form of at most a given depth. -/
def ofJsonWithin? (strictness : Json.Strictness) : (depth : Nat) → Json → Option Expression
  | 0, _ => none
  | depth + 1, json =>
    json.choiceWith?.bind fun (kind, content) =>
      ofContent? strictness (ofJsonWithin? strictness depth) kind content

/-- The expression of a JSON form. -/
def ofJson? (strictness : Json.Strictness) (json : Json) : Option Expression :=
  ofJsonWithin? strictness json.depth json

end Expression
end ODataQuery
