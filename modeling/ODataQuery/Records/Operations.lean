import ODataQuery.Expression.Basic
import ODataQuery.Number.Integer
import ODataQuery.Text.Blank
import ODataQuery.Text.Casing

/-!
# Operations on values

What comparisons, arithmetic and functions give for values.  Null stands for an absent value and for
the truth value "unknown"; an operation that has no other answer gives null.
-/

set_option autoImplicit false

namespace ODataQuery
namespace Value

/-- The truth value of a condition, if it is known. -/
def truth? : Value → Option Bool
  | bool b => some b
  | _ => none

/-- A truth value as a value. -/
def ofTruth : Option Bool → Value
  | some b => bool b
  | none => null

/-- The negation of a condition. -/
def negation (operand : Value) : Value :=
  ofTruth (operand.truth?.map (!·))

/-- The truth value that decides a connective on its own. -/
def decisive : Connective → Bool
  | .and => false
  | .or => true

/-- The connective of two truth values: the decisive one if either is, its opposite if both are, and
otherwise unknown. -/
def connect (c : Connective) (left right : Option Bool) : Option Bool :=
  if left = some (decisive c) ∨ right = some (decisive c) then some (decisive c)
  else if left = some (!decisive c) ∧ right = some (!decisive c) then some (!decisive c)
  else none

/-- The decisive truth value on the left decides, whatever is on the right. -/
theorem connect_decisive (c : Connective) (right : Option Bool) :
    connect c (some (decisive c)) right = some (decisive c) :=
  if_pos (.inl rfl)

/-- The comparison of two values.  With null, and of values that cannot be compared, it is
unknown. -/
def comparison (c : Comparison) (left right : Value) : Value :=
  if left.isNull || right.isNull then null
  else ofTruth ((left.compare right).map c.holds)

/-! ## Arithmetic -/

/-- The exact result on integers.  Division goes toward zero, and the remainder is what it leaves;
there is none by zero, nor a remainder whose quotient does not have 64 bits. -/
def integerResult? (a : Arithmetic) (x y : Int) : Option Int :=
  match a with
  | .add => some (x + y)
  | .sub => some (x - y)
  | .mul => some (x * y)
  | .div => if y = 0 then none else some (x.tdiv y)
  | .mod => if y = 0 ∨ (Number.integer? (x.tdiv y)).isNone then none else some (x.tmod y)

/-- The result on doubles. -/
def floatResult (a : Arithmetic) (x y : Float) : Float :=
  match a with
  | .add => x + y
  | .sub => x - y
  | .mul => x * y
  | .div => x / y
  | .mod => Number.remainder x y

/-- The arithmetic of two values: exact on integers, as long as the result has 64 bits, and on
doubles if one of the operands is a double. -/
def arithmetic (a : Arithmetic) (left right : Value) : Value :=
  match left, right with
  | int x, int y =>
    match (integerResult? a x.toInt y.toInt).bind Number.integer? with
    | some i => int i
    | none => null
  | left, right =>
    match left.toFloat?, right.toFloat? with
    | some x, some y => float (floatResult a x y)
    | _, _ => null

/-! ## Functions -/

/-- Does a text occur inside another. -/
def occursIn (text : List Char) : List Char → Bool
  | [] => text.isEmpty
  | c :: rest => text.isPrefixOf (c :: rest) || occursIn text rest

/-- The result of a test on two strings. -/
def testResult (t : TextTest) (first second : String) : Bool :=
  match t with
  | .startsWith => second.toList.isPrefixOf first.toList
  | .endsWith => second.toList.isSuffixOf first.toList
  | .substringOf => occursIn first.toList second.toList

/-- The result of a change of a string. -/
def changeResult (c : TextChange) (s : String) : String :=
  match c with
  | .toLower => Text.toLower s
  | .toUpper => Text.toUpper s
  | .trim => String.ofList (Text.trim s.toList)

/-- A part of a point of time. -/
def partResult (p : TimePart) (t : DateTime) : Int :=
  match p with
  | .year => t.year
  | .month => t.month
  | .day => t.day
  | .hour => t.hour
  | .minute => t.minute
  | .second => t.clockSecond

/-- A whole number near a number. -/
def wholeResult (w : WholePart) (x : Float) : Float :=
  match w with
  | .round => Number.round x
  | .floor => Number.floor x
  | .ceiling => Number.ceiling x

/-- The result of a call. -/
def call (function : Function) (args : List Value) : Value :=
  match function, args with
  | .test t, [string first, string second] => bool (testResult t first second)
  | .length, [string s] => int ((Number.integer? s.length).getD Int64.maxValue)
  | .change c, [string s] => string (changeResult c s)
  | .part p, [dateTime t] => int (Int64.ofInt (partResult p t))
  | .whole w, [float x] => float (wholeResult w x)
  | .whole _, [int i] => int i
  | _, _ => null

end Value
end ODataQuery
