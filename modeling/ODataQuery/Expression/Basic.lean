import ODataQuery.Value.Basic

/-!
# Filter expressions

The tree of a filter: literals, properties, negation, binary operators and function calls.

* Operators fall into comparisons, connectives and arithmetic, and functions into tests on strings,
  changes of strings, parts of points of time, and whole parts of numbers, because typing and
  meaning are the same within each of these.
* Every operator and function has a keyword; `ofKeyword?` and `ofName?` read them back.
* `Expression.induction` is induction over the tree, with a hypothesis for each argument of a call.
-/

set_option autoImplicit false

namespace ODataQuery

/-! ## Operators -/

/-- Comparisons by equality and by size. -/
inductive Comparison where
  | eq
  | ne
  | lt
  | le
  | gt
  | ge
  deriving DecidableEq, Repr

namespace Comparison

/-- Every comparison. -/
def all : List Comparison := [eq, ne, lt, le, gt, ge]

/-- The word that stands for the comparison in a filter. -/
def keyword : Comparison → String
  | eq => "eq"
  | ne => "ne"
  | lt => "lt"
  | le => "le"
  | gt => "gt"
  | ge => "ge"

/-- Does the comparison hold between two values in this order. -/
def holds : Comparison → Ordering → Bool
  | eq, order => order == .eq
  | ne, order => order != .eq
  | lt, order => order == .lt
  | le, order => order != .gt
  | gt, order => order == .gt
  | ge, order => order != .lt

/-- Is the comparison one by equality. -/
def isEquality : Comparison → Bool
  | eq | ne => true
  | _ => false

end Comparison

/-- The connectives between conditions. -/
inductive Connective where
  | and
  | or
  deriving DecidableEq, Repr

namespace Connective

/-- Every connective. -/
def all : List Connective := [and, or]

/-- The word that stands for the connective in a filter. -/
def keyword : Connective → String
  | and => "and"
  | or => "or"

end Connective

/-- The arithmetic operations. -/
inductive Arithmetic where
  | add
  | sub
  | mul
  | div
  | mod
  deriving DecidableEq, Repr

namespace Arithmetic

/-- Every arithmetic operation. -/
def all : List Arithmetic := [add, sub, mul, div, mod]

/-- The word that stands for the operation in a filter. -/
def keyword : Arithmetic → String
  | add => "add"
  | sub => "sub"
  | mul => "mul"
  | div => "div"
  | mod => "mod"

end Arithmetic

/-- The binary operators. -/
inductive Operator where
  | comparison (c : Comparison)
  | connective (c : Connective)
  | arithmetic (a : Arithmetic)
  deriving DecidableEq, Repr

namespace Operator

/-- Every operator. -/
def all : List Operator :=
  Comparison.all.map comparison ++ Connective.all.map connective ++ Arithmetic.all.map arithmetic

theorem mem_all (operator : Operator) : operator ∈ all := by
  rcases operator with c | c | a
  · cases c <;> decide
  · cases c <;> decide
  · cases a <;> decide

/-- The word that stands for the operator in a filter. -/
def keyword : Operator → String
  | comparison c => c.keyword
  | connective c => c.keyword
  | arithmetic a => a.keyword

/-- The operator that a word stands for. -/
def ofKeyword? (word : String) : Option Operator :=
  all.find? (·.keyword == word)

theorem ofKeyword?_keyword (operator : Operator) : ofKeyword? operator.keyword = some operator := by
  have hall : ∀ operator ∈ all, ofKeyword? operator.keyword = some operator := by decide
  exact hall operator operator.mem_all

end Operator

/-! ## Functions -/

/-- Tests on two strings. -/
inductive TextTest where
  | startsWith
  | endsWith
  | substringOf
  deriving DecidableEq, Repr

/-- Changes of a string. -/
inductive TextChange where
  | toLower
  | toUpper
  | trim
  deriving DecidableEq, Repr

/-- Parts of a point of time. -/
inductive TimePart where
  | year
  | month
  | day
  | hour
  | minute
  | second
  deriving DecidableEq, Repr

/-- Whole numbers near a number. -/
inductive WholePart where
  | round
  | floor
  | ceiling
  deriving DecidableEq, Repr

/-- The functions a filter may call. -/
inductive Function where
  | test (t : TextTest)
  | length
  | change (c : TextChange)
  | part (p : TimePart)
  | whole (w : WholePart)
  deriving DecidableEq, Repr

namespace Function

/-- Every function. -/
def all : List Function := [
  test .startsWith, test .endsWith, test .substringOf, length,
  change .toLower, change .toUpper, change .trim,
  part .year, part .month, part .day, part .hour, part .minute, part .second,
  whole .round, whole .floor, whole .ceiling]

theorem mem_all (function : Function) : function ∈ all := by
  rcases function with t | - | c | p | w
  · cases t <;> decide
  · decide
  · cases c <;> decide
  · cases p <;> decide
  · cases w <;> decide

/-- The name of the function in a filter. -/
def name : Function → String
  | test .startsWith => "startswith"
  | test .endsWith => "endswith"
  | test .substringOf => "substringof"
  | length => "length"
  | change .toLower => "tolower"
  | change .toUpper => "toupper"
  | change .trim => "trim"
  | part .year => "year"
  | part .month => "month"
  | part .day => "day"
  | part .hour => "hour"
  | part .minute => "minute"
  | part .second => "second"
  | whole .round => "round"
  | whole .floor => "floor"
  | whole .ceiling => "ceiling"

/-- The function of a given name.  Names are case-sensitive. -/
def ofName? (name : String) : Option Function :=
  all.find? (·.name == name)

theorem ofName?_name (function : Function) : ofName? function.name = some function := by
  have hall : ∀ function ∈ all, ofName? function.name = some function := by decide
  exact hall function function.mem_all

/-- How many arguments the function takes. -/
def arity : Function → Nat
  | test _ => 2
  | _ => 1

end Function

/-! ## Expressions -/

/-- A filter, or a part of one. -/
inductive Expression where
  | literal (value : Value)
  | property (name : String)
  | not (operand : Expression)
  | binary (left : Expression) (operator : Operator) (right : Expression)
  | call (function : Function) (args : List Expression)

namespace Expression

/-- Induction over the tree, with a hypothesis for each argument of a call. -/
theorem induction {motive : Expression → Prop}
    (literal : ∀ value, motive (.literal value))
    (property : ∀ name, motive (.property name))
    (not : ∀ operand, motive operand → motive (.not operand))
    (binary : ∀ left operator right, motive left → motive right →
      motive (.binary left operator right))
    (call : ∀ function args, (∀ arg ∈ args, motive arg) → motive (.call function args))
    (e : Expression) : motive e :=
  @Expression.rec motive (fun args => ∀ arg ∈ args, motive arg)
    literal property not binary call (by simp)
    (fun _ _ head tail => by
      intro arg hmem
      rcases List.mem_cons.1 hmem with rfl | hmem
      · exact head
      · exact tail arg hmem)
    e

/-- Is the expression a literal null. -/
def isNullLiteral : Expression → Bool
  | literal .null => true
  | _ => false

theorem isNullLiteral_iff {e : Expression} : e.isNullLiteral = true ↔ e = literal .null := by
  cases e with
  | literal value => cases value <;> simp [isNullLiteral]
  | _ => simp [isNullLiteral]

end Expression

/-- One of the two operands of an operator. -/
inductive Side where
  | left
  | right
  deriving DecidableEq, Repr

/-- A comparison by equality with a literal null asks whether the other operand is null.  The answer
says which operand is asked about, and whether the question is negated. -/
def Comparison.nullTest? (c : Comparison) (left right : Expression) : Option (Side × Bool) :=
  let side? :=
    if right.isNullLiteral then some Side.left
    else if left.isNullLiteral then some Side.right
    else none
  match c with
  | .eq => side?.map fun side => (side, false)
  | .ne => side?.map fun side => (side, true)
  | _ => none

instance : Inhabited Expression := ⟨.literal .null⟩

end ODataQuery
