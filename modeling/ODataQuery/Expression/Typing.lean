import ODataQuery.Expression.Text
import ODataQuery.Schema.Basic

/-!
# Static types of expressions

A null literal has a type of its own, which fits every operand position but that of a connective.

* `Operator.resultType`, `StaticType.ofNot`, `Function.resultType`: the rules for one node, given
  the types of its operands.
* `Expression.infer`: the type of a tree over a schema.
* `Expression.checkPredicate`: is the tree usable as a filter.
-/

set_option autoImplicit false

namespace ODataQuery

/-- The static type of an expression: that of null, or a scalar type. -/
inductive StaticType where
  | null
  | scalar (type : ScalarType)
  deriving DecidableEq, Repr

namespace StaticType

/-- The type of conditions. -/
def boolean : StaticType := scalar .boolean

/-- The name of the type in messages. -/
def name : StaticType → String
  | null => "null"
  | scalar type => type.name

/-- The type of a literal. -/
def ofValue (value : Value) : StaticType :=
  match value.scalarType? with
  | none => null
  | some type => scalar type

end StaticType

/-- What a function asks of an argument. -/
inductive ArgumentKind where
  | string
  | dateTime
  | number
  deriving DecidableEq, Repr

namespace ArgumentKind

/-- What is asked, in the words of messages. -/
def description : ArgumentKind → String
  | string => "a string"
  | dateTime => "a datetime"
  | number => "a number"

/-- Does a type meet what is asked. -/
def accepts : ArgumentKind → ScalarType → Bool
  | string, type => type == .string
  | dateTime, type => type == .dateTime
  | number, type => type.isNumeric

end ArgumentKind

/-- An operator or a function applied to operands that do not fit. -/
inductive TypeError where
  | operator (operator : Operator) (left right : StaticType)
  | not (operand : StaticType)
  | arity (function : Function) (found : Nat)
  /-- The argument at an index counted from zero. -/
  | argument (function : Function) (index : Nat) (expected : ArgumentKind) (found : StaticType)
  | notAPredicate (found : StaticType)
  deriving DecidableEq, Repr

/-- The text of the error. -/
def TypeError.message : TypeError → String
  | operator op left right =>
    s!"operator '{op.keyword}' cannot be applied to {left.name} and {right.name}"
  | not operand => s!"'not' cannot be applied to {operand.name}"
  | arity function found =>
    s!"'{function.name}' takes {function.arity} argument(s), found {found}"
  | argument function index expected found =>
    s!"argument {index + 1} of '{function.name}' must be {expected.description}, " ++
      s!"found {found.name}"
  | notAPredicate found => s!"a filter must be a boolean expression, found {found.name}"

/-- What can be wrong with a tree over a schema. -/
inductive CheckError where
  | schema (error : SchemaError)
  | type (error : TypeError)
  deriving DecidableEq, Repr

/-- The text of the error. -/
def CheckError.message : CheckError → String
  | schema error => error.message
  | type error => error.message

/-! ## The rules for one node -/

/-- The type of a comparison.  Types that are equal or both numeric can be compared, by size only if
they are ordered.  With null, anything can be compared. -/
def Comparison.resultType? (c : Comparison) : StaticType → StaticType → Option StaticType
  | .null, _ => some .boolean
  | _, .null => some .boolean
  | .scalar a, .scalar b =>
    let compatible := a = b ∨ (a.isNumeric ∧ b.isNumeric)
    let ordered := c.isEquality ∨ (a.isOrdered ∧ b.isOrdered)
    if compatible ∧ ordered then some .boolean else none

/-- The type of a connective: both operands are conditions. -/
def Connective.resultType? : StaticType → StaticType → Option StaticType
  | .scalar .boolean, .scalar .boolean => some .boolean
  | _, _ => none

/-- The type of an arithmetic operation.  Integers stay integers; a double among the operands makes
the result one; null leaves the type to the other operand. -/
def Arithmetic.resultType? : StaticType → StaticType → Option StaticType
  | .null, .null => some .null
  | .null, .scalar type | .scalar type, .null => if type.isNumeric then some (.scalar type) else none
  | .scalar .integer, .scalar .integer => some (.scalar .integer)
  | .scalar a, .scalar b => if a.isNumeric ∧ b.isNumeric then some (.scalar .double) else none

/-- The type of `left operator right`. -/
def Operator.resultType (operator : Operator) (left right : StaticType) :
    Except TypeError StaticType :=
  let type? := match operator with
    | .comparison c => c.resultType? left right
    | .connective _ => Connective.resultType? left right
    | .arithmetic _ => Arithmetic.resultType? left right
  match type? with
  | some type => .ok type
  | none => .error (.operator operator left right)

/-- The type of `not operand`. -/
def StaticType.ofNot (operand : StaticType) : Except TypeError StaticType :=
  if operand = .boolean then .ok .boolean else .error (.not operand)

namespace Function

/-- What the function asks of every argument. -/
def argumentKind : Function → ArgumentKind
  | test _ | length | change _ => .string
  | part _ => .dateTime
  | whole _ => .number

/-- The first argument that is not of the kind asked for, by its index. -/
def misfit? (kind : ArgumentKind) : List StaticType → Option (Nat × StaticType)
  | [] => none
  | .null :: rest => (misfit? kind rest).map fun (index, type) => (index + 1, type)
  | .scalar type :: rest =>
    if kind.accepts type then (misfit? kind rest).map fun (index, type) => (index + 1, type)
    else some (0, .scalar type)

/-- The type of a call whose arguments fit.  Whole parts keep the type of their argument. -/
def typeOfFitting : Function → List StaticType → StaticType
  | test _, _ => .boolean
  | length, _ => .scalar .integer
  | change _, _ => .scalar .string
  | part _, _ => .scalar .integer
  | whole _, .scalar type :: _ => .scalar type
  | whole _, _ => .scalar .double

/-- The type of a call. -/
def resultType (function : Function) (args : List StaticType) : Except TypeError StaticType :=
  if args.length ≠ function.arity then .error (.arity function args.length)
  else
    match misfit? function.argumentKind args with
    | some (index, found) => .error (.argument function index function.argumentKind found)
    | none => .ok (function.typeOfFitting args)

end Function

/-! ## Trees -/

namespace Expression

mutual

/-- The type of an expression over a schema.  Operands are judged from left to right, before their
operator. -/
def infer (schema : Schema) : Expression → Except CheckError StaticType
  | literal value => .ok (.ofValue value)
  | property name =>
    match schema.lookup name with
    | .ok declared => .ok (.scalar declared.type)
    | .error error => .error (.schema error)
  | not operand => do
    let operand ← operand.infer schema
    (StaticType.ofNot operand).mapError .type
  | binary left operator right => do
    let left ← left.infer schema
    let right ← right.infer schema
    (operator.resultType left right).mapError .type
  | call function args => do
    let args ← inferArgs schema args
    (function.resultType args).mapError .type

/-- The types of the arguments of a call. -/
def inferArgs (schema : Schema) : List Expression → Except CheckError (List StaticType)
  | [] => .ok []
  | arg :: rest => do
    let type ← arg.infer schema
    let types ← inferArgs schema rest
    .ok (type :: types)

end

/-- Is the expression usable as a filter: do its properties exist, and is it a condition. -/
def checkPredicate (schema : Schema) (e : Expression) : Except CheckError Unit := do
  let type ← e.infer schema
  if type = .boolean then .ok () else .error (.type (.notAPredicate type))

end Expression
end ODataQuery
