import ODataQuery.Proofs.QueryString.Completeness

/-!
# Reading filters with a cursor

The parsers of filters hand on the tokens that are left, bound every chain by the number of them,
and know the levels that may still be nested.  The same grammar can be read by a descent that is
given none of this: it moves a cursor over the tokens, counts the levels it is inside of, and goes
on in its loops for as long as it finds an operator or a comma.

* `Cursor`, `Input`, `Descent`: computations that move a cursor over tokens.  Behind the last token
  is the end, and what looks there finds nothing.
* `answerFrom`: what a computation answers from a cursor, and where it stops, if it has an answer.
* `read`: the descent.  It is given the number of calls that may be nested, and of rounds that a
  loop may have; with too few it has no answer.  That it comes to an end is thus to be proved: it
  has an answer from some number of calls on.
* `loop`, with `chainRound` and `argumentRound`: the loops, and what they do in one round.
* `filter`: the descent over all tokens of a filter.
* `answerFrom_advance_cons`, `answerFrom_nextOperator_of_some` and the like: what each step does, by
  the tokens that are left.
* `Extends`: a computation has all answers of another one; `extends_read`: more calls change no
  answer.
-/

set_option autoImplicit false

namespace ODataQuery

/-- What is told about a fault: its kind, its place and its text. -/
structure Report where
  kind : FaultKind
  position : Nat
  message : String
  deriving DecidableEq

/-- What is told about a failure. -/
def Failure.report (failure : Failure) : Report :=
  ⟨failure.fault.kind, failure.position, failure.fault.message⟩

namespace Filter

/-! ## Computations with a cursor -/

/-- Where a descent is: the number of tokens it has passed, and the number of parentheses, `not`s
and calls it is inside of. -/
structure Cursor where
  index : Nat
  nesting : Nat
  deriving DecidableEq

/-- The cursor behind the next token. -/
def Cursor.next (cursor : Cursor) : Cursor :=
  { cursor with index := cursor.index + 1 }

/-- The cursor one level further in. -/
def Cursor.inner (cursor : Cursor) : Cursor :=
  { cursor with nesting := cursor.nesting + 1 }

@[simp]
theorem Cursor.index_next (cursor : Cursor) : cursor.next.index = cursor.index + 1 := rfl

@[simp]
theorem Cursor.nesting_next (cursor : Cursor) : cursor.next.nesting = cursor.nesting := rfl

@[simp]
theorem Cursor.index_inner (cursor : Cursor) : cursor.inner.index = cursor.index := rfl

@[simp]
theorem Cursor.nesting_inner (cursor : Cursor) : cursor.inner.nesting = cursor.nesting + 1 := rfl

/-- What is read: tokens, up to the end, and what they are read against. -/
structure Input where
  context : Context
  tokens : List Token

/-- The tokens that are left behind a cursor. -/
def Input.rest (input : Input) (cursor : Cursor) : List Token :=
  input.tokens.drop cursor.index

/-- A computation that moves a cursor, and may fail or have no answer. -/
abbrev Descent := ExceptT Report (StateT Cursor Option)

namespace Descent

/-- What a computation answers that is started at a cursor, and the cursor it stops at. -/
def answerFrom {α : Type} (x : Descent α) (start : Cursor) : Option (Except Report α × Cursor) :=
  x.run.run start

/-- Fail as a computation that moves no cursor. -/
def ofOutcome {α : Type} : Except Failure α → Descent α
  | .ok a => pure a
  | .error failure => throw failure.report

/-- No answer. -/
def noAnswer {α : Type} : Descent α :=
  ExceptT.mk fun _ => none

/-- Go one level further in, if there is one. -/
def enter (position : Nat) : Descent Unit := do
  modify Cursor.inner
  let cursor ← get
  if maxNesting < cursor.nesting then throw (Failure.report ⟨position, .nestsTooDeeply⟩)
  else pure ()

/-- Come back from a level, if the descent is inside of one. -/
def leave : Descent Unit := do
  match ← get with
  | ⟨_, 0⟩ => noAnswer
  | ⟨index, nesting + 1⟩ => set (⟨index, nesting⟩ : Cursor)

section

variable (input : Input)

/-- The next token; there is none at the end. -/
def peek : Descent (Option Token) := do
  let cursor ← get
  pure input.tokens[cursor.index]?

/-- Pass the next token.  The end is not passed. -/
def advance : Descent (Option Token) := do
  match ← peek input with
  | none => pure none
  | some token => do
    modify Cursor.next
    pure (some token)

/-- The place of a token, or of the end. -/
def positionOf (token : Option Token) : Nat :=
  (token.map Token.position).getD input.context.endPosition

/-- Pass a token that has to be of some kind. -/
def expect (kind : TokenKind) (description : String) : Descent Unit := do
  let token ← advance input
  if token.map Token.kind = some kind then pure ()
  else
    throw ⟨.syntaxError, positionOf input token,
      "expected " ++ description ++ ", found " ++ describeFound (token.map Token.kind)⟩

/-- Pass the next token if it is one of some operators. -/
def nextOperator (operators : List Operator) : Descent (Option (Operator × Nat)) := do
  match ← peek input with
  | some ⟨.identifier word, position⟩ =>
    match operators.find? (·.keyword = word) with
    | some operator => do
      let _ ← advance input
      pure (some (operator, position))
    | none => pure none
  | _ => pure none

/-- Pass the next token if it is the word `not`. -/
def nextNot : Descent (Option Nat) := do
  match ← peek input with
  | some ⟨.identifier word, position⟩ =>
    if word = "not" then do
      let _ ← advance input
      pure (some position)
    else pure none
  | _ => pure none

/-! ## The descent -/

/-- Go on from round to round until one is the last. -/
def loop {α : Type} (round : α → Descent (ForInStep α)) : Nat → α → Descent α
  | 0, _ => noAnswer
  | rounds + 1, state => do
    match ← round state with
    | .done state => pure state
    | .yield state => loop round rounds state

/-- One round of a chain: it is over, or an operator and a phrase are read. -/
def chainRound (operators : List Operator) (next : Descent Parsed) (left : Parsed) :
    Descent (ForInStep Parsed) := do
  match ← nextOperator input operators with
  | none => pure (.done left)
  | some (operator, position) => do
    let right ← next
    let left ← ofOutcome (combine left operator position right)
    pure (.yield left)

/-- Read a chain that groups to the left. -/
def chain (rounds : Nat) (operators : List Operator) (next : Descent Parsed) : Descent Parsed := do
  let left ← next
  loop (chainRound input operators next) rounds left

/-- One more argument of a call, and the separator behind it, after which the arguments are over or
there is another. -/
def argumentRound (disjunction : Descent Parsed) (args : List Parsed) :
    Descent (ForInStep (List Parsed)) := do
  let arg ← disjunction
  let separator ← advance input
  match separator.map Token.kind with
  | some .comma => pure (.yield (args ++ [arg]))
  | some .closeParen => pure (.done (args ++ [arg]))
  | found => throw (Failure.report ⟨positionOf input separator, .expectedSeparator found⟩)

/-- Read the arguments of a call after its opening parenthesis, up to the closing one. -/
def arguments (rounds : Nat) (disjunction : Descent Parsed) : Descent (List Parsed) := do
  let token ← peek input
  if token.map Token.kind = some .closeParen then do
    let _ ← advance input
    pure []
  else loop (argumentRound input disjunction) rounds []

/-- Read a call whose name is read. -/
def call (rounds : Nat) (disjunction : Descent Parsed) (name : String) (position : Nat) :
    Descent Parsed := do
  match Function.ofName? name with
  | none => throw (Failure.report ⟨position, .unknownFunction name⟩)
  | some function => do
    expect input .openParen "'('"
    enter position
    let args ← arguments input rounds disjunction
    leave
    ofOutcome (applyFunction function args position)

/-- Read what a word stands for that is read: a literal, a call, or a property. -/
def named (rounds : Nat) (disjunction : Descent Parsed) (name : String) (position : Nat) :
    Descent Parsed :=
  match wordValue? name with
  | some value => pure (literal value position)
  | none => do
    let token ← peek input
    if token.map Token.kind = some .openParen then call input rounds disjunction name position
    else if reservedWords.contains name then
      throw (Failure.report ⟨position, .expectedExpression (.identifier name)⟩)
    else ofOutcome (property input.context name position)

/-- Read an operand. -/
def operand (rounds : Nat) (disjunction : Descent Parsed) : Descent Parsed := do
  match ← advance input with
  | none => throw (Failure.report ⟨input.context.endPosition, .unexpectedEnd⟩)
  | some ⟨kind, position⟩ =>
    match kind with
    | .openParen => do
      enter position
      let inside ← disjunction
      expect input .closeParen "')'"
      leave
      pure { inside with position := position }
    | .integer i => pure (literal (.int i) position)
    | .decimal x => pure (literal (.float x) position)
    | .string s => pure (literal (.string s) position)
    | .dateTime t => pure (literal (.dateTime t) position)
    | .identifier name => named input rounds disjunction name position
    | .closeParen | .comma => throw (Failure.report ⟨position, .expectedExpression kind⟩)

/-- Read a comparison.  Comparisons do not chain. -/
def comparison (sum : Descent Parsed) : Descent Parsed := do
  let left ← sum
  match ← nextOperator input comparisonOperators with
  | none => pure left
  | some (operator, position) => do
    let right ← sum
    ofOutcome (combine left operator position right)

/-- Read a negation. -/
def negation (negation comparison : Descent Parsed) : Descent Parsed := do
  match ← nextNot input with
  | none => comparison
  | some position => do
    enter position
    let operand ← negation
    leave
    ofOutcome (negate position operand)

/-- Read a phrase of a level, nesting at most the given number of calls. -/
def read : Nat → Level → Descent Parsed
  | 0, _ => noAnswer
  | calls + 1, .disjunction => chain input calls [.connective .or] (read calls .conjunction)
  | calls + 1, .conjunction => chain input calls [.connective .and] (read calls .negation)
  | calls + 1, .negation => negation input (read calls .negation) (read calls .comparison)
  | calls + 1, .comparison => comparison input (read calls .sum)
  | calls + 1, .sum => chain input calls sumOperators (read calls .product)
  | calls + 1, .product => chain input calls productOperators (read calls .operand)
  | calls + 1, .operand => operand input calls (read calls .disjunction)

/-- Read a filter: a disjunction up to the end, which has to be a predicate. -/
def filter (calls : Nat) : Descent Expression := do
  let parsed ← read input calls .disjunction
  match ← peek input with
  | some token => throw (Failure.report ⟨token.position, .expectedEnd token.kind⟩)
  | none =>
    if parsed.type = .boolean then pure parsed.expression
    else throw (Failure.report ⟨parsed.position, .typeMismatch (.notAPredicate parsed.type)⟩)

end

/-! ## What is left -/

section

variable {input : Input} {cursor : Cursor} {token : Token} {more : List Token}

theorem getElem?_of_rest_cons (h : input.rest cursor = token :: more) :
    input.tokens[cursor.index]? = some token := by
  rw [← List.head?_drop, ← Input.rest, h, List.head?_cons]

/-- Behind the next token is what is left after it. -/
theorem rest_next (h : input.rest cursor = token :: more) : input.rest cursor.next = more := by
  rw [Input.rest, Cursor.next, ← List.tail_drop, ← Input.rest, h, List.tail_cons]

theorem next_le (h : input.rest cursor = token :: more) :
    cursor.next.index ≤ input.tokens.length :=
  (List.getElem?_eq_some_iff.1 (getElem?_of_rest_cons h)).1

/-- Each token that is passed is one less that is left. -/
theorem length_rest (input : Input) (cursor : Cursor) :
    (input.rest cursor).length = input.tokens.length - cursor.index :=
  List.length_drop

theorem exists_of_nextKind {tokens : List Token} {kind : TokenKind}
    (h : nextKind tokens = some kind) : ∃ position rest, tokens = ⟨kind, position⟩ :: rest := by
  obtain ⟨⟨_, position⟩, hhead, rfl⟩ := Option.map_eq_some_iff.1 h
  obtain ⟨rest, hrest⟩ := List.head?_eq_some_iff.1 hhead
  exact ⟨position, rest, hrest⟩

/-! ## What the steps do -/

variable {α β : Type} {start mid : Cursor}

theorem answerFrom_bind_ok {x : Descent α} {a : α}
    (h : answerFrom x start = some (.ok a, mid)) (f : α → Descent β) :
    answerFrom (x >>= f) start = answerFrom (f a) mid := by
  change (answerFrom x start).bind _ = _
  rw [h]
  rfl

theorem answerFrom_bind_error {x : Descent α} {report : Report}
    (h : answerFrom x start = some (.error report, mid)) (f : α → Descent β) :
    answerFrom (x >>= f) start = some (.error report, mid) := by
  change (answerFrom x start).bind _ = _
  rw [h]
  rfl

theorem answerFrom_peek (input : Input) (start : Cursor) :
    answerFrom (peek input) start = some (.ok (input.rest start).head?, start) := by
  rw [Input.rest, List.head?_drop]
  rfl

/-- At the end nothing is passed. -/
theorem answerFrom_advance_nil (h : input.rest start = []) :
    answerFrom (advance input) start = some (.ok none, start) := by
  rw [advance, answerFrom_bind_ok (answerFrom_peek input start), h]
  rfl

theorem answerFrom_advance_cons (h : input.rest start = token :: more) :
    answerFrom (advance input) start = some (.ok (some token), start.next) := by
  rw [advance, answerFrom_bind_ok (answerFrom_peek input start), h]
  rfl

theorem answerFrom_expect_nil (h : input.rest start = []) (kind : TokenKind)
    (description : String) :
    answerFrom (expect input kind description) start
      = some (.error ⟨.syntaxError, input.context.endPosition,
        "expected " ++ description ++ ", found " ++ describeFound none⟩, start) := by
  rw [expect, answerFrom_bind_ok (answerFrom_advance_nil h)]
  rfl

/-- A token is passed, and may have been the one expected. -/
theorem answerFrom_expect_cons (h : input.rest start = token :: more) (kind : TokenKind)
    (description : String) :
    answerFrom (expect input kind description) start
      = some (if token.kind = kind then .ok ()
        else .error ⟨.syntaxError, token.position,
          "expected " ++ description ++ ", found " ++ describeFound (some token.kind)⟩,
        start.next) := by
  rw [expect, answerFrom_bind_ok (answerFrom_advance_cons h), Option.map_some]
  by_cases hkind : token.kind = kind
  · rw [if_pos (congrArg some hkind), if_pos hkind]
    rfl
  · rw [if_neg fun heq => hkind (Option.some.inj heq), if_neg hkind]
    rfl

theorem answerFrom_nextOperator_of_none {operators : List Operator}
    (h : operator? operators (input.rest start) = none) :
    answerFrom (nextOperator input operators) start = some (.ok none, start) := by
  rw [nextOperator, answerFrom_bind_ok (answerFrom_peek input start)]
  rw [operator?.eq_def] at h
  split at h
  · rename_i word position rest hrest
    rw [Option.map_eq_none_iff] at h
    rw [hrest, List.head?_cons]
    dsimp only
    rw [h]
    rfl
  · rename_i hother
    split
    · rename_i word position hhead
      obtain ⟨more, hrest⟩ := List.head?_eq_some_iff.1 hhead
      exact absurd hrest (hother word position more)
    · rfl

theorem answerFrom_nextOperator_of_some {operators : List Operator} {operator : Operator}
    {position : Nat}
    (h : operator? operators (input.rest start) = some (operator, position, more)) :
    answerFrom (nextOperator input operators) start
      = some (.ok (some (operator, position)), start.next) := by
  rw [nextOperator, answerFrom_bind_ok (answerFrom_peek input start)]
  rw [operator?.eq_def] at h
  split at h
  · rename_i word _ rest hrest
    obtain ⟨_, hfound, heq⟩ := Option.map_eq_some_iff.1 h
    cases heq
    rw [hrest, List.head?_cons]
    dsimp only
    rw [hfound]
    dsimp only
    rw [answerFrom_bind_ok (answerFrom_advance_cons hrest)]
    rfl
  · cases h

theorem answerFrom_nextNot_of_none (h : not? (input.rest start) = none) :
    answerFrom (nextNot input) start = some (.ok none, start) := by
  rw [nextNot, answerFrom_bind_ok (answerFrom_peek input start)]
  rw [not?.eq_def] at h
  split at h
  · rename_i word position rest hrest
    have hword : word ≠ "not" := fun heq => by rw [if_pos heq] at h; cases h
    rw [hrest, List.head?_cons]
    dsimp only
    rw [if_neg hword]
    rfl
  · rename_i hother
    split
    · rename_i word position hhead
      obtain ⟨more, hrest⟩ := List.head?_eq_some_iff.1 hhead
      exact absurd hrest (hother word position more)
    · rfl

theorem answerFrom_nextNot_of_some {position : Nat}
    (h : not? (input.rest start) = some (position, more)) :
    answerFrom (nextNot input) start = some (.ok (some position), start.next) := by
  have hrest := not?_eq_some h
  rw [nextNot, answerFrom_bind_ok (answerFrom_peek input start), hrest, List.head?_cons]
  dsimp only
  rw [if_pos rfl, answerFrom_bind_ok (answerFrom_advance_cons hrest)]
  rfl

theorem answerFrom_enter_of_lt (h : start.nesting < maxNesting) (position : Nat) :
    answerFrom (enter position) start = some (.ok (), start.inner) := by
  have hroom : ¬ maxNesting < start.inner.nesting := Nat.not_lt.2 h
  change answerFrom (if maxNesting < start.inner.nesting then _ else _) start.inner = _
  rw [if_neg hroom]
  rfl

theorem answerFrom_enter_of_le (h : maxNesting ≤ start.nesting) (position : Nat) :
    answerFrom (enter position) start
      = some (.error (Failure.report ⟨position, .nestsTooDeeply⟩), start.inner) := by
  have hdeep : maxNesting < start.inner.nesting := Nat.lt_succ_of_le h
  change answerFrom (if maxNesting < start.inner.nesting then _ else _) start.inner = _
  rw [if_pos hdeep]
  rfl

theorem answerFrom_leave {nesting : Nat} (h : start.nesting = nesting + 1) :
    answerFrom leave start = some (.ok (), ⟨start.index, nesting⟩) := by
  obtain ⟨index, _⟩ := start
  obtain rfl := h
  rfl

end

/-! ## More calls -/

/-- Every answer of one computation is the answer of another. -/
def Extends {α : Type} (x y : Descent α) : Prop :=
  ∀ start answer, answerFrom x start = some answer → answerFrom y start = some answer

section

variable {α β : Type}

theorem Extends.refl (x : Descent α) : Extends x x :=
  fun _ _ h => h

theorem extends_noAnswer (x : Descent α) : Extends noAnswer x :=
  fun _ _ h => (nomatch h)

theorem Extends.bind {x y : Descent α} {f g : α → Descent β} (h : Extends x y)
    (hfg : ∀ a, Extends (f a) (g a)) : Extends (x >>= f) (y >>= g) := by
  intro start answer hanswer
  cases hx : answerFrom x start with
  | none =>
    change (answerFrom x start).bind _ = _ at hanswer
    rw [hx] at hanswer
    cases hanswer
  | some first =>
    obtain ⟨outcome, mid⟩ := first
    have hy := h start _ hx
    cases outcome with
    | ok a =>
      rw [answerFrom_bind_ok hx] at hanswer
      rw [answerFrom_bind_ok hy]
      exact hfg a mid answer hanswer
    | error report =>
      rw [answerFrom_bind_error hx] at hanswer
      rwa [answerFrom_bind_error hy]

/-- Only what follows a step has more answers. -/
theorem Extends.after (x : Descent α) {f g : α → Descent β} (hfg : ∀ a, Extends (f a) (g a)) :
    Extends (x >>= f) (x >>= g) :=
  (Extends.refl x).bind hfg

theorem extends_loop {round round' : α → Descent (ForInStep α)}
    (h : ∀ state, Extends (round state) (round' state)) {rounds more : Nat} (hle : rounds ≤ more)
    (state : α) : Extends (loop round rounds state) (loop round' more state) := by
  induction rounds generalizing more state with
  | zero => exact extends_noAnswer _
  | succ rounds ih =>
    obtain ⟨more, rfl⟩ : ∃ others, more = others + 1 := ⟨more - 1, by omega⟩
    refine (h state).bind fun step => ?_
    cases step with
    | done state => exact .refl _
    | yield state => exact ih (Nat.le_of_succ_le_succ hle) state

variable {input : Input} {x y : Descent Parsed} {rounds more : Nat}

theorem extends_chainRound (h : Extends x y) (operators : List Operator) (left : Parsed) :
    Extends (chainRound input operators x left) (chainRound input operators y left) := by
  refine .after _ fun found => ?_
  cases found with
  | none => exact .refl _
  | some found => exact h.bind fun right => .refl _

theorem extends_chain (h : Extends x y) (hle : rounds ≤ more) (operators : List Operator) :
    Extends (chain input rounds operators x) (chain input more operators y) :=
  h.bind fun left => extends_loop (extends_chainRound h operators) hle left

theorem extends_argumentRound (h : Extends x y) (args : List Parsed) :
    Extends (argumentRound input x args) (argumentRound input y args) :=
  h.bind fun _ => .refl _

theorem extends_arguments (h : Extends x y) (hle : rounds ≤ more) :
    Extends (arguments input rounds x) (arguments input more y) := by
  refine .after _ fun token => ?_
  split
  · exact .refl _
  · exact extends_loop (extends_argumentRound h) hle []

theorem extends_call (h : Extends x y) (hle : rounds ≤ more) (name : String) (position : Nat) :
    Extends (call input rounds x name position) (call input more y name position) := by
  rw [call, call]
  split
  · exact .refl _
  · exact .after _ fun _ => .after _ fun _ => (extends_arguments h hle).bind fun _ => .refl _

theorem extends_operand (h : Extends x y) (hle : rounds ≤ more) :
    Extends (operand input rounds x) (operand input more y) := by
  refine .after _ fun token => ?_
  split
  · exact .refl _
  · split
    · exact .after _ fun _ => h.bind fun _ => .refl _
    · exact .refl _
    · exact .refl _
    · exact .refl _
    · exact .refl _
    · rw [named, named]
      split
      · exact .refl _
      · refine .after _ fun next => ?_
        split
        · exact extends_call h hle _ _
        · exact .refl _
    · exact .refl _
    · exact .refl _

/-- **More calls change no answer.** -/
theorem extends_read {calls more : Nat} (hle : calls ≤ more) (level : Level) :
    Extends (read input calls level) (read input more level) := by
  induction calls generalizing more level with
  | zero => exact extends_noAnswer _
  | succ calls ih =>
    obtain ⟨more, rfl⟩ : ∃ others, more = others + 1 := ⟨more - 1, by omega⟩
    have hle := Nat.le_of_succ_le_succ hle
    cases level with
    | disjunction | conjunction | sum | product => exact extends_chain (ih hle _) hle _
    | negation =>
      refine .after _ fun found => ?_
      cases found with
      | none => exact ih hle _
      | some position => exact .after _ fun _ => (ih hle _).bind fun _ => .refl _
    | comparison =>
      refine (ih hle _).bind fun left => .after _ fun found => ?_
      cases found with
      | none => exact .refl _
      | some found => exact (ih hle _).bind fun _ => .refl _
    | operand => exact extends_operand (ih hle _) hle

theorem extends_filter {calls more : Nat} (hle : calls ≤ more) :
    Extends (filter input calls) (filter input more) :=
  (extends_read hle _).bind fun _ => .refl _

end

end Descent
end Filter
end ODataQuery
