import ODataQuery.Sql.Like
import ODataQuery.Sql.Table

/-!
# Filters as SQL conditions

A filter becomes a condition.  Inside it, an expression stands either where SQL wants a condition or
where it wants a scalar; only boolean properties may stand in both places.

* `Table.condition`: the condition of a filter.
* `Table.scalar`: the scalar of an operand.
* `Table.likeCondition`: tests on strings are `LIKE` conditions on an escaped pattern, so the pattern
  has to be known.
-/

set_option autoImplicit false

namespace ODataQuery
namespace Sql
namespace Table

/-- The function of a scalar, and whether a call of it is a part of a point of time or a test. -/
def scalarCall (function : Function) (args : List Term) : Except SqlError Term :=
  match function with
  | .length => .ok (.call .length args)
  | .change c => .ok (.call (.change c) args)
  | .whole w => .ok (.call (.whole w) args)
  | .part p =>
    match args.getLast? with
    | some operand => .ok (.part p operand)
    | none => .error (.unsupported (.missingArgument function))
  | .test _ => .error (.unsupported (.functionValue function))

mutual

/-- The scalar of an expression that stands for a value. -/
def scalar (table : Table) : Expression → Except SqlError Term
  | .literal value => .ok (.parameter value)
  | .property name => table.column name
  | .binary left (.arithmetic a) right => do
    let left ← scalar table left
    let right ← scalar table right
    .ok (.binary left (.arithmetic a) right)
  | .call function args => do
    let args ← scalars table args
    scalarCall function args
  | .not _ | .binary _ (.comparison _) _ | .binary _ (.connective _) _ =>
    .error (.unsupported .conditionValue)

/-- The scalars of the arguments of a call. -/
def scalars (table : Table) : List Expression → Except SqlError (List Term)
  | [] => .ok []
  | arg :: rest => do
    let term ← scalar table arg
    let terms ← scalars table rest
    .ok (term :: terms)

end

/-- The pattern of a test on strings: the text it looks for, escaped, before or after anything. -/
def likePattern (table : Table) (test : TextTest) (text : String) : String :=
  let escaped := Like.escape table.dialect.likeWildcards text.toList
  String.ofList <|
    match test with
    | .startsWith => escaped ++ ['%']
    | .endsWith => '%' :: escaped
    | .substringOf => '%' :: escaped ++ ['%']

/-- What a test on strings looks at, and what it looks for. -/
def testOperands? (test : TextTest) : List Expression → Option (Expression × Expression)
  | [first, second] =>
    match test with
    | .substringOf => some (second, first)
    | _ => some (first, second)
  | _ => none

/-- The condition of a test on strings. -/
def likeCondition (table : Table) (test : TextTest) (args : List Expression) :
    Except SqlError Term :=
  match testOperands? test args with
  | none => .error (.unsupported (.argumentCount test args.length))
  | some (subject, pattern) => do
    let pattern ← match pattern with
      | .literal (.string text) => .ok (Value.string (table.likePattern test text))
      | .literal .null => .ok Value.null
      | _ => .error (.unsupported (.openPattern test))
    let subject ← table.scalar subject
    .ok (.like subject (.parameter pattern) Like.escapeCharacter)

/-- The condition of a comparison.  A comparison with null by equality asks whether a value is
there. -/
def comparison (table : Table) (left : Expression) (c : Comparison) (right : Expression) :
    Except SqlError Term :=
  match c.nullTest? left right with
  | some (side, negated) => do
    let operand ← table.scalar (match side with
      | .left => left
      | .right => right)
    .ok (if negated then .isNotNull operand else .isNull operand)
  | none => do
    let left ← table.scalar left
    let right ← table.scalar right
    .ok (.binary left (.comparison c) right)

/-- The condition of a filter. -/
def condition (table : Table) : Expression → Except SqlError Term
  | .literal (.bool b) => .ok (.bool b)
  | .literal _ => .error (.unsupported .literalCondition)
  | .property name => do
    let column ← table.column name
    .ok (.binary column (.comparison .eq) (.parameter (.bool true)))
  | .not operand => (condition table operand).map .not
  | .binary left (.connective .and) right => do
    let left ← condition table left
    let right ← condition table right
    .ok (.and left right)
  | .binary left (.connective .or) right => do
    let left ← condition table left
    let right ← condition table right
    .ok (.or left right)
  | .binary left (.comparison c) right => comparison table left c right
  | .binary _ (.arithmetic _) _ => .error (.unsupported .arithmeticCondition)
  | .call (.test test) args => likeCondition table test args
  | .call function _ => .error (.unsupported (.functionCondition function))

end Table
end Sql
end ODataQuery
