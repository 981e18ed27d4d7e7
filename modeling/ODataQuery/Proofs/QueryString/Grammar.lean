import ODataQuery.QueryString.Filter

/-!
# The grammar of filters

The grammar by itself, as a relation between tokens and trees, without any way to read it.

* `Level`, `Level.tighter?`, `Level.chained`: the levels of the grammar, and the operators of their
  chains.
* `Marked`: a token with the number of parentheses, `not`s and calls that enclose it.
* `Derives`: the tokens of a level are those of a tree.
* `Expression.height`: how tall a tree is.
-/

set_option autoImplicit false

namespace ODataQuery

/-! ## The height of a tree -/

mutual

/-- The height of a tree: a leaf has height one. -/
def Expression.height : Expression → Nat
  | .literal _ | .property _ => 1
  | .not operand => operand.height + 1
  | .binary left _ right => max left.height right.height + 1
  | .call _ args => tallest args + 1

/-- The height of the tallest of some trees. -/
def tallest : List Expression → Nat
  | [] => 0
  | e :: rest => max e.height (tallest rest)

end

namespace Filter

/-! ## Levels -/

/-- The levels of the grammar, the loosest first. -/
inductive Level where
  | disjunction
  | conjunction
  | negation
  | comparison
  | sum
  | product
  | operand
  deriving DecidableEq

namespace Level

/-- The level whose phrases are the parts of the phrases of this one. -/
def tighter? : Level → Option Level
  | disjunction => some conjunction
  | conjunction => some negation
  | negation => some comparison
  | comparison => some sum
  | sum => some product
  | product => some operand
  | operand => none

/-- The operators that chain the parts of a phrase, grouping to the left. -/
def chained : Level → List Operator
  | disjunction => [.connective .or]
  | conjunction => [.connective .and]
  | sum => [.arithmetic .add, .arithmetic .sub]
  | product => [.arithmetic .mul, .arithmetic .div, .arithmetic .mod]
  | negation | comparison | operand => []

end Level

/-! ## Phrases -/

/-- A token with the number of parentheses, `not`s and calls that enclose it. -/
abbrev Marked := TokenKind × Nat

/-- Tokens inside one more parenthesis, `not` or call. -/
def enclosed (tokens : List Marked) : List Marked :=
  tokens.map fun token => (token.1, token.2 + 1)

/-- The token of an operator. -/
def operatorToken (operator : Operator) : Marked :=
  (.identifier operator.keyword, 0)

/-- Phrases with commas between them. -/
def commaSeparated (phrases : List (List Marked)) : List Marked :=
  [(.comma, 0)].intercalate phrases

theorem map_fst_enclosed (tokens : List Marked) :
    (enclosed tokens).map Prod.fst = tokens.map Prod.fst := by
  rw [enclosed, List.map_map]
  rfl

theorem map_fst_parenthesized (tokens : List Marked) :
    ((.openParen, 0) :: (enclosed tokens ++ [(.closeParen, 0)]) : List Marked).map Prod.fst
      = .openParen :: (tokens.map Prod.fst ++ [.closeParen]) := by
  rw [List.map_cons, List.map_append, map_fst_enclosed]
  rfl

theorem commaSeparated_singleton (phrase : List Marked) : commaSeparated [phrase] = phrase := by
  simp [commaSeparated, List.intercalate]

theorem commaSeparated_cons_cons (first second : List Marked) (rest : List (List Marked)) :
    commaSeparated (first :: second :: rest)
      = first ++ (.comma, 0) :: commaSeparated (second :: rest) := by
  simp [commaSeparated, List.intercalate]

/-- Tokens are enclosed one level deeper than they were. -/
theorem forall_mem_enclosed {tokens : List Marked} {levels : Nat} :
    (∀ token ∈ enclosed tokens, token.2 ≤ levels + 1) ↔ ∀ token ∈ tokens, token.2 ≤ levels := by
  rw [enclosed, List.forall_mem_map]
  simp only [Nat.add_le_add_iff_right]

/-- Tokens are those of a tree at a level of the grammar.  The words for literals and the operators
do not name properties. -/
inductive Derives : Level → List Marked → Expression → Prop
  | tighter {level inner : Level} {tokens : List Marked} {e : Expression}
      (hinner : level.tighter? = some inner) (h : Derives inner tokens e) : Derives level tokens e
  | chain {level inner : Level} {operator : Operator} {leftTokens rightTokens : List Marked}
      {left right : Expression} (hinner : level.tighter? = some inner)
      (hoperator : operator ∈ level.chained) (hleft : Derives level leftTokens left)
      (hright : Derives inner rightTokens right) :
      Derives level (leftTokens ++ operatorToken operator :: rightTokens)
        (.binary left operator right)
  | comparison {c : Comparison} {leftTokens rightTokens : List Marked} {left right : Expression}
      (hleft : Derives .sum leftTokens left) (hright : Derives .sum rightTokens right) :
      Derives .comparison (leftTokens ++ operatorToken (.comparison c) :: rightTokens)
        (.binary left (.comparison c) right)
  | not {tokens : List Marked} {e : Expression} (h : Derives .negation tokens e) :
      Derives .negation ((.identifier "not", 0) :: enclosed tokens) e.not
  | integer (i : Int64) : Derives .operand [(.integer i, 0)] (.literal (.int i))
  | decimal (x : Float) : Derives .operand [(.decimal x, 0)] (.literal (.float x))
  | string (s : String) : Derives .operand [(.string s, 0)] (.literal (.string s))
  | dateTime (t : DateTime) : Derives .operand [(.dateTime t, 0)] (.literal (.dateTime t))
  | word {word : String} {value : Value} (hvalue : wordValue? word = some value) :
      Derives .operand [(.identifier word, 0)] (.literal value)
  | property {name : String} (hword : wordValue? name = none) (hfree : name ∉ reservedWords) :
      Derives .operand [(.identifier name, 0)] (.property name)
  | call {name : String} {function : Function} {args : List (List Marked × Expression)}
      (hname : Function.ofName? name = some function)
      (hargs : ∀ arg ∈ args, Derives .disjunction arg.1 arg.2) :
      Derives .operand
        ((.identifier name, 0) :: (.openParen, 0)
          :: (enclosed (commaSeparated (args.map Prod.fst)) ++ [(.closeParen, 0)]))
        (.call function (args.map Prod.snd))
  | parenthesized {tokens : List Marked} {e : Expression} (h : Derives .disjunction tokens e) :
      Derives .operand ((.openParen, 0) :: (enclosed tokens ++ [(.closeParen, 0)])) e

end Filter
end ODataQuery
