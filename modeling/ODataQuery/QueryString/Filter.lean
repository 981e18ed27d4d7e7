import ODataQuery.QueryString.Lexer

/-!
# Reading filters

The grammar of filters, the loosest level first; a chain groups to the left.

* a disjunction is a chain of conjunctions with `or`, a conjunction a chain of negations with `and`;
* a negation is `not` before a negation, or a comparison;
* a comparison is a sum, or two sums with a comparison operator between them;
* a sum is a chain of products with `add` and `sub`, a product a chain of operands with `mul`, `div`
  and `mod`;
* an operand is a literal, a property, a call, or a disjunction in parentheses.

Types are checked as soon as a node is read, so a fault points at the operator or the argument that
caused it.

A parser takes the tokens that are left and returns those it leaves.  Parentheses, `not` and calls
may enclose one another `maxNesting` times.  The parsers of one level are given those of the next
inner one (`Inner`), none being left at the last; so the grammar is read by recursion on the number
of levels left, and each chain by recursion on the number of tokens left.
-/

set_option autoImplicit false

namespace ODataQuery
namespace Filter

/-- How many parentheses, `not`s and calls may enclose one another. -/
def maxNesting : Nat := 100

/-- How tall the tree of a filter may be. -/
def maxHeight : Nat := 1000

/-- Words that cannot name a property. -/
def reservedWords : List String :=
  Operator.all.map Operator.keyword ++ ["not", "asc", "desc"]

/-- A part of a filter that is read: its tree and type, the place it starts at, and the height of
the tree. -/
structure Parsed where
  expression : Expression
  type : StaticType
  position : Nat
  height : Nat

/-- What a filter is read against: the schema, and the place where the text ends. -/
structure Context where
  schema : Schema
  endPosition : Nat

/-- A parser of one level of the grammar. -/
abbrev Parser := List Token → Except Failure (Parsed × List Token)

/-- The parsers that may be used one nesting level further in. -/
structure Inner where
  disjunction : Parser
  negation : Parser

/-! ## Nodes -/

/-- The height of a node over operands of the given height. -/
def taller (position height : Nat) : Except Failure Nat :=
  if maxHeight ≤ height then .error ⟨position, .tooLong⟩ else .ok (height + 1)

/-- A type, or the fault that there is none, at a position. -/
def typed (position : Nat) : Except TypeError StaticType → Except Failure StaticType
  | .ok type => .ok type
  | .error error => .error ⟨position, .typeMismatch error⟩

/-- The node of a binary operator at a position. -/
def combine (left : Parsed) (operator : Operator) (position : Nat) (right : Parsed) :
    Except Failure Parsed := do
  let type ← typed position (operator.resultType left.type right.type)
  let height ← taller position (max left.height right.height)
  .ok ⟨.binary left.expression operator right.expression, type, left.position, height⟩

/-- The node of `not` at a position. -/
def negate (position : Nat) (operand : Parsed) : Except Failure Parsed := do
  let type ← typed position (StaticType.ofNot operand.type)
  let height ← taller position operand.height
  .ok ⟨.not operand.expression, type, position, height⟩

/-- The leaf of a literal. -/
def literal (value : Value) (position : Nat) : Parsed :=
  ⟨.literal value, .ofValue value, position, 1⟩

/-- The leaf of a property. -/
def property (context : Context) (name : String) (position : Nat) : Except Failure Parsed :=
  match context.schema.lookup name with
  | .ok declared => .ok ⟨.property name, .scalar declared.type, position, 1⟩
  | .error error => .error ⟨position, .unknownProperty error⟩

/-- The place that a type error of a call points at: the argument, if it is about one. -/
def callFaultPosition (args : List Parsed) (position : Nat) : TypeError → Nat
  | .argument _ index _ _ => (args[index]?.map Parsed.position).getD position
  | _ => position

/-- The node of a call of which the name stands at a position. -/
def applyFunction (function : Function) (args : List Parsed) (position : Nat) :
    Except Failure Parsed :=
  if args.length ≠ function.arity then .error ⟨position, .wrongArity function args.length⟩
  else do
    let type ← match function.resultType (args.map Parsed.type) with
      | .ok type => .ok type
      | .error error => .error ⟨callFaultPosition args position error, .typeMismatch error⟩
    let height ← taller position ((args.map Parsed.height).foldl max 0)
    .ok ⟨.call function (args.map Parsed.expression), type, position, height⟩

/-! ## Tokens -/

/-- The place of the next token, or of the end. -/
def Context.nextPosition (context : Context) : List Token → Nat
  | [] => context.endPosition
  | token :: _ => token.position

/-- The next token, if there is one. -/
def nextKind (tokens : List Token) : Option TokenKind :=
  tokens.head?.map Token.kind

/-- Read one of some operators: the operator, its place, and the tokens after it. -/
def operator? (operators : List Operator) : List Token → Option (Operator × Nat × List Token)
  | ⟨.identifier word, position⟩ :: rest =>
    (operators.find? (·.keyword = word)).map fun operator => (operator, position, rest)
  | _ => none

/-- Read the word `not`: its place, and the tokens after it. -/
def not? : List Token → Option (Nat × List Token)
  | ⟨.identifier word, position⟩ :: rest => if word = "not" then some (position, rest) else none
  | _ => none

/-! ## Chains -/

/-- Read on in a chain whose start is read, over at most the given number of operators. -/
def chainFrom (operators : List Operator) (next : Parser) : Nat → Parsed → Parser
  | 0, left, tokens => .ok (left, tokens)
  | count + 1, left, tokens =>
    match operator? operators tokens with
    | none => .ok (left, tokens)
    | some (operator, position, rest) => do
      let (right, rest) ← next rest
      let left ← combine left operator position right
      chainFrom operators next count left rest

/-- Read a chain that groups to the left.  Every operator in it is a token, so there are no more
than tokens. -/
def chain (operators : List Operator) (next : Parser) : Parser := fun tokens => do
  let (left, rest) ← next tokens
  chainFrom operators next rest.length left rest

/-! ## Operands -/

/-- Read one or more arguments of a call, at most the given number of them, and the parenthesis that
follows them. -/
def argumentsFrom (context : Context) (disjunction : Parser) :
    Nat → List Token → Except Failure (List Parsed × List Token)
  | 0, _ => .error ⟨context.endPosition, .unexpectedEnd⟩
  | count + 1, tokens => do
    let (arg, rest) ← disjunction tokens
    match rest with
    | ⟨.closeParen, _⟩ :: rest => .ok ([arg], rest)
    | ⟨.comma, _⟩ :: rest => do
      let (args, rest) ← argumentsFrom context disjunction count rest
      .ok (arg :: args, rest)
    | rest => .error ⟨context.nextPosition rest, .expectedSeparator (nextKind rest)⟩

/-- Read the arguments of a call after its opening parenthesis, up to the closing one.  Every argument
has a token, so there are no more than tokens. -/
def arguments (context : Context) (disjunction : Parser) :
    List Token → Except Failure (List Parsed × List Token)
  | ⟨.closeParen, _⟩ :: rest => .ok ([], rest)
  | tokens => argumentsFrom context disjunction (tokens.length + 1) tokens

/-- Read a call whose name and opening parenthesis are read. -/
def call (context : Context) (inner : Option Inner) (name : String) (position : Nat) : Parser :=
  fun tokens =>
    match Function.ofName? name with
    | none => .error ⟨position, .unknownFunction name⟩
    | some function =>
      match inner with
      | none => .error ⟨position, .nestsTooDeeply⟩
      | some inner => do
        let (args, rest) ← arguments context inner.disjunction tokens
        let node ← applyFunction function args position
        .ok (node, rest)

/-- Read a disjunction whose opening parenthesis is read, and the closing one. -/
def parenthesized (context : Context) (inner : Option Inner) (position : Nat) : Parser :=
  fun tokens =>
    match inner with
    | none => .error ⟨position, .nestsTooDeeply⟩
    | some inner => do
      let (parsed, rest) ← inner.disjunction tokens
      match rest with
      | ⟨.closeParen, _⟩ :: rest => .ok ({ parsed with position := position }, rest)
      | rest => .error ⟨context.nextPosition rest, .expectedClosing (nextKind rest)⟩

/-- The value that a word stands for. -/
def wordValue? (word : String) : Option Value :=
  if word = "true" then some (.bool true)
  else if word = "false" then some (.bool false)
  else if word = "null" then some .null
  else none

/-- Read what a word stands for: a literal, a call, or a property. -/
def named (context : Context) (inner : Option Inner) (name : String) (position : Nat) : Parser :=
  fun tokens =>
    match wordValue? name with
    | some value => .ok (literal value position, tokens)
    | none =>
      match tokens with
      | ⟨.openParen, _⟩ :: rest => call context inner name position rest
      | tokens =>
        if reservedWords.contains name then
          .error ⟨position, .expectedExpression (.identifier name)⟩
        else (property context name position).map fun parsed => (parsed, tokens)

/-- Read an operand. -/
def operand (context : Context) (inner : Option Inner) : Parser
  | [] => .error ⟨context.endPosition, .unexpectedEnd⟩
  | ⟨kind, position⟩ :: rest =>
    match kind with
    | .openParen => parenthesized context inner position rest
    | .integer i => .ok (literal (.int i) position, rest)
    | .decimal x => .ok (literal (.float x) position, rest)
    | .string s => .ok (literal (.string s) position, rest)
    | .dateTime t => .ok (literal (.dateTime t) position, rest)
    | .identifier name => named context inner name position rest
    | .closeParen | .comma => .error ⟨position, .expectedExpression kind⟩

/-! ## Levels -/

/-- The operators of sums. -/
def sumOperators : List Operator := [.arithmetic .add, .arithmetic .sub]

/-- The operators of products. -/
def productOperators : List Operator := [.arithmetic .mul, .arithmetic .div, .arithmetic .mod]

/-- The operators of comparisons. -/
def comparisonOperators : List Operator := Comparison.all.map .comparison

/-- Read a product. -/
def product (context : Context) (inner : Option Inner) : Parser :=
  chain productOperators (operand context inner)

/-- Read a sum. -/
def sum (context : Context) (inner : Option Inner) : Parser :=
  chain sumOperators (product context inner)

/-- Read a comparison.  Comparisons do not chain. -/
def comparison (context : Context) (inner : Option Inner) : Parser := fun tokens => do
  let (left, rest) ← sum context inner tokens
  match operator? comparisonOperators rest with
  | none => .ok (left, rest)
  | some (operator, position, rest) => do
    let (right, rest) ← sum context inner rest
    let parsed ← combine left operator position right
    .ok (parsed, rest)

/-- Read a disjunction, given how to read a negation. -/
def disjunctionOf (negation : Parser) : Parser :=
  chain [.connective .or] (chain [.connective .and] negation)

/-- The parsers of the next inner level. -/
def innerOf (negation : Parser) : Inner := ⟨disjunctionOf negation, negation⟩

/-- Read a negation, given the parsers of the next inner level. -/
def negationOf (context : Context) (inner : Option Inner) : Parser := fun tokens =>
  match not? tokens with
  | none => comparison context inner tokens
  | some (position, rest) =>
    match inner with
    | none => .error ⟨position, .nestsTooDeeply⟩
    | some inner => do
      let (operand, rest) ← inner.negation rest
      let parsed ← negate position operand
      .ok (parsed, rest)

/-- Read a negation within which the given number of levels may be nested. -/
def negation (context : Context) : Nat → Parser
  | 0 => negationOf context none
  | levels + 1 => negationOf context (some (innerOf (negation context levels)))

/-- Read a disjunction within which the given number of levels may be nested. -/
def disjunction (context : Context) (levels : Nat) : Parser :=
  disjunctionOf (negation context levels)

/-- Read the tokens of a filter. -/
def ofTokens (context : Context) (tokens : List Token) : Except Failure Expression := do
  let (parsed, rest) ← disjunction context maxNesting tokens
  match rest with
  | token :: _ => .error ⟨token.position, .expectedEnd token.kind⟩
  | [] =>
    if parsed.type = .boolean then .ok parsed.expression
    else .error ⟨parsed.position, .typeMismatch (.notAPredicate parsed.type)⟩

/-- Read the value of a filter. -/
def parse (schema : Schema) (text : String) : Except Failure Expression := do
  let tokens ← Lexer.tokenize text
  ofTokens ⟨schema, text.length⟩ tokens

end Filter
end ODataQuery
