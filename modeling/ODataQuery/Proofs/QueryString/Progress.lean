import ODataQuery.Proofs.QueryString.Descent

/-!
# The descent makes progress

The descent that reads filters with a cursor comes to an end, wherever it is started: every
phrase that it reads passes a token, so that neither its recursion nor its loops can go on without
end.  It never gets behind the end of the tokens, and comes back from every level it goes into.

* `Arrives`: where a computation may stop when it succeeds.
* `Mirrors`: from a cursor a computation has the outcome that a parser has with the tokens that are
  left, and stops in front of those that the parser leaves; `Mirrors.bind` goes through a sequence.
* `MirrorsFrom`: so it is from a place on; `mirrorsFrom_chain`, `mirrorsFrom_operand` and the like
  show it of each part of the descent, given it of those that it calls.  A part that is called after
  a token is passed need only mirror its parser further on: this is what ends the recursion.
* `mirrorsFrom_read`: seven calls for each token that is left, one for each level, are enough.
* `Ends`: a computation has one answer, however many more calls than enough it may nest.
* `answers_with_progress`: from everywhere, all parts of the descent end, and pass a token whenever
  they succeed or go on (`MakesProgress`).
* `answerFrom_filter`: over all tokens, the descent reads the filter that the parsers read.
-/

set_option autoImplicit false

namespace ODataQuery
namespace Filter

/-- The number of levels from this one to the tightest. -/
def Level.rank : Level → Nat
  | disjunction => 7
  | conjunction => 6
  | negation => 5
  | comparison => 4
  | sum => 3
  | product => 2
  | operand => 1

theorem Level.rank_pos (level : Level) : 0 < level.rank := by
  cases level <;> decide

theorem Level.rank_le (level : Level) : level.rank ≤ 7 := by
  cases level <;> decide

namespace Descent

variable {α β : Type} {input : Input}

/-! ## Mirroring a parser -/

/-- The cursor has reached a place, and is inside of some levels. -/
structure Arrives (place nesting : Nat) (cursor : Cursor) : Prop where
  reached : place ≤ cursor.index
  nesting : cursor.nesting = nesting

/-- What has reached a place has passed those in front of it. -/
theorem Arrives.mono {place front nesting : Nat} {cursor : Cursor}
    (h : Arrives place nesting cursor) (hle : front ≤ place) : Arrives front nesting cursor :=
  ⟨Nat.le_trans hle h.reached, h.nesting⟩

/-- Started at a cursor, a computation has the outcome of a parser, reaches a goal when it succeeds,
and stops in front of the tokens that the parser leaves.  It does not stop behind the end. -/
inductive Mirrors (input : Input) (x : Descent α) (start : Cursor) (goal : α → Cursor → Prop) :
    Except Failure (α × List Token) → Prop
  | ok {a : α} {stop : Cursor} (hanswer : answerFrom x start = some (.ok a, stop))
      (hend : stop.index ≤ input.tokens.length) (hgoal : goal a stop) :
      Mirrors input x start goal (.ok (a, input.rest stop))
  | error {failure : Failure} {stop : Cursor}
      (hanswer : answerFrom x start = some (.error failure.report, stop))
      (hend : stop.index ≤ input.tokens.length) :
      Mirrors input x start goal (.error failure)

namespace Mirrors

variable {x : Descent α} {f : α → Descent β} {start mid : Cursor} {goal : α → Cursor → Prop}
  {goal' : β → Cursor → Prop} {outcome : Except Failure (α × List Token)}
  {outcome' : Except Failure (β × List Token)}

/-- Only the answer of a computation matters. -/
theorem congr {y : Descent α} (h : Mirrors input y mid goal outcome)
    (heq : answerFrom x start = answerFrom y mid) : Mirrors input x start goal outcome := by
  cases h with
  | ok hanswer hend hgoal => exact .ok (heq.trans hanswer) hend hgoal
  | error hanswer hend => exact .error (heq.trans hanswer) hend

/-- After a step, what follows is started where the step stops. -/
theorem step {a : α} (hx : answerFrom x start = some (.ok a, mid))
    (h : Mirrors input (f a) mid goal' outcome') : Mirrors input (x >>= f) start goal' outcome' :=
  h.congr (answerFrom_bind_ok hx f)

/-- A step that fails is the last. -/
theorem fail {failure : Failure} (hx : answerFrom x start = some (.error failure.report, mid))
    (hend : mid.index ≤ input.tokens.length) :
    Mirrors input (x >>= f) start goal' (.error failure) :=
  .error (answerFrom_bind_error hx f) hend

/-- A sequence mirrors another if their first steps do, and what follows does wherever they stop. -/
theorem bind {g : α × List Token → Except Failure (β × List Token)}
    (h : Mirrors input x start goal outcome)
    (hfg : ∀ a stop, stop.index ≤ input.tokens.length → goal a stop →
      Mirrors input (f a) stop goal' (g (a, input.rest stop))) :
    Mirrors input (x >>= f) start goal' (outcome >>= g) := by
  cases h with
  | ok hanswer hend hgoal => exact .step hanswer (hfg _ _ hend hgoal)
  | error hanswer hend => exact .fail hanswer hend

theorem mono {goal' : α → Cursor → Prop} (h : Mirrors input x start goal outcome)
    (hgoal : ∀ a stop, goal a stop → goal' a stop) : Mirrors input x start goal' outcome := by
  cases h with
  | ok hanswer hend hreached => exact .ok hanswer hend (hgoal _ _ hreached)
  | error hanswer hend => exact .error hanswer hend

theorem exists_answer (h : Mirrors input x start goal outcome) :
    ∃ stop, answerFrom x start
      = some ((outcome.map Prod.fst).mapError Failure.report, stop) := by
  cases h with
  | ok hanswer => exact ⟨_, hanswer⟩
  | error hanswer => exact ⟨_, hanswer⟩

/-- The answer, by the tokens that are left. -/
theorem answer (h : Mirrors input x start goal outcome) :
    (answerFrom x start).map
        (fun (result, stop) => result.map fun a => (a, input.rest stop))
      = some (outcome.mapError Failure.report) := by
  cases h with
  | ok hanswer => rw [hanswer]; rfl
  | error hanswer => rw [hanswer]; rfl

end Mirrors

section

variable {x : Descent α} {f : α → Descent β} {start : Cursor} {goal : α → Cursor → Prop}
  {goal' : β → Cursor → Prop}

theorem mirrors_pure {a : α} (hend : start.index ≤ input.tokens.length) (hgoal : goal a start) :
    Mirrors input (pure a) start goal (.ok (a, input.rest start)) :=
  .ok rfl hend hgoal

theorem mirrors_throw (hend : start.index ≤ input.tokens.length) (failure : Failure) :
    Mirrors input (throw failure.report) start goal (.error failure) :=
  .error rfl hend

/-- What moves no cursor is done where it is started. -/
theorem mirrors_ofOutcome_bind (hend : start.index ≤ input.tokens.length)
    {g : α → Except Failure (β × List Token)}
    (h : ∀ a, Mirrors input (f a) start goal' (g a)) (result : Except Failure α) :
    Mirrors input (ofOutcome result >>= f) start goal' (result >>= g) := by
  cases result with
  | ok a => exact .step rfl (h a)
  | error failure => exact .fail rfl hend

/-- A node that is made at the end of a computation is its result. -/
theorem mirrors_ofOutcome (hend : start.index ≤ input.tokens.length)
    (hgoal : ∀ a, goal a start) (result : Except Failure α) :
    Mirrors input (ofOutcome result) start goal
      (result >>= fun a => .ok (a, input.rest start)) := by
  rw [← bind_pure (ofOutcome result)]
  exact mirrors_ofOutcome_bind hend (fun a => mirrors_pure hend (hgoal a)) result

/-! ## Nesting -/

theorem innerAt_of_lt (context : Context) {nesting : Nat} (h : nesting < maxNesting) :
    innerAt context (maxNesting - nesting)
      = some (innerOf (Filter.negation context (maxNesting - (nesting + 1)))) := by
  obtain ⟨levels, hlevels⟩ : ∃ levels, maxNesting - nesting = levels + 1 :=
    ⟨maxNesting - nesting - 1, by omega⟩
  rw [← Nat.sub_sub, hlevels]
  rfl

/-- One level further in, the parsers of the next inner level are mirrored, if there is one. -/
theorem mirrors_enter_bind (position : Nat) {f : Unit → Descent β}
    {inside : Inner → Except Failure (β × List Token)} (hend : start.index ≤ input.tokens.length)
    (h : start.inner.nesting ≤ maxNesting → Mirrors input (f ()) start.inner goal'
      (inside (innerOf (Filter.negation input.context (maxNesting - start.inner.nesting))))) :
    Mirrors input (enter position >>= f) start goal'
      (match innerAt input.context (maxNesting - start.nesting) with
      | none => .error ⟨position, .nestsTooDeeply⟩
      | some inner => inside inner) := by
  rcases Nat.lt_or_ge start.nesting maxNesting with hlt | hge
  · rw [innerAt_of_lt input.context hlt]
    exact .step (answerFrom_enter_of_lt hlt position) (h hlt)
  · rw [Nat.sub_eq_zero_of_le hge, innerAt]
    exact .fail (answerFrom_enter_of_le hge position) hend

/-- Back from a level, the descent is at the place where it left it. -/
theorem mirrors_leave_bind {f : Unit → Descent β}
    {outcome : Except Failure (β × List Token)} {place nesting : Nat}
    (hend : start.index ≤ input.tokens.length) (harrives : Arrives place (nesting + 1) start)
    (h : ∀ back, back.index ≤ input.tokens.length → Arrives place nesting back →
      input.rest back = input.rest start → Mirrors input (f ()) back goal' outcome) :
    Mirrors input (leave >>= f) start goal' outcome :=
  .step (answerFrom_leave harrives.nesting) (h _ hend ⟨harrives.reached, rfl⟩ rfl)

end

/-! ## Chains -/

/-- From a place on, up to the end and the deepest level, a computation mirrors a parser and passes
a token. -/
def MirrorsFrom (input : Input) (place : Nat) (x : Descent Parsed) (parser : Nat → Parser) : Prop :=
  ∀ cursor : Cursor, place ≤ cursor.index → cursor.index ≤ input.tokens.length →
    cursor.nesting ≤ maxNesting →
      Mirrors input x cursor (fun _ => Arrives (cursor.index + 1) cursor.nesting)
        (parser (maxNesting - cursor.nesting) (input.rest cursor))

variable {place rounds : Nat} {next : Descent Parsed} {parser : Nat → Parser} {cursor : Cursor}
  {goal : β → Cursor → Prop}

/-- Behind the end there is nothing to mirror. -/
theorem mirrorsFrom_of_lt (h : input.tokens.length < place) (x : Descent Parsed)
    (parser : Nat → Parser) : MirrorsFrom input place x parser :=
  fun _ hplace hend _ => absurd (Nat.le_trans hplace hend) (Nat.not_le.2 h)

/-- Where there is an operator, the descent goes on behind it. -/
theorem mirrors_nextOperator_bind (operators : List Operator)
    {f : Option (Operator × Nat) → Descent β} {absent : Except Failure (β × List Token)}
    {found : Operator → Nat → List Token → Except Failure (β × List Token)}
    (hnone : Mirrors input (f none) cursor goal absent)
    (hsome : ∀ operator position, cursor.next.index ≤ input.tokens.length →
      Mirrors input (f (some (operator, position))) cursor.next goal
        (found operator position (input.rest cursor.next))) :
    Mirrors input (nextOperator input operators >>= f) cursor goal
      (match operator? operators (input.rest cursor) with
      | none => absent
      | some (operator, position, rest) => found operator position rest) := by
  cases hoperator : operator? operators (input.rest cursor) with
  | none => exact .step (answerFrom_nextOperator_of_none hoperator) hnone
  | some given =>
    obtain ⟨operator, position, rest⟩ := given
    have hrest := (operator?_eq_some hoperator).2
    refine .step (answerFrom_nextOperator_of_some hoperator) ?_
    rw [← rest_next hrest]
    exact hsome operator position (next_le hrest)

/-- One round of a chain ends the chain where it is, or passes an operator and a phrase. -/
theorem mirrors_chainRound_bind (hnext : MirrorsFrom input place next parser)
    (hplace : place ≤ cursor.index + 1) (hnesting : cursor.nesting ≤ maxNesting)
    (operators : List Operator) (left : Parsed) {f : ForInStep Parsed → Descent β}
    {done : Except Failure (β × List Token)}
    (more : Parsed → List Token → Except Failure (β × List Token))
    (hdone : Mirrors input (f (.done left)) cursor goal done)
    (hyield : ∀ left stop, stop.index ≤ input.tokens.length →
      Arrives (cursor.index + 1) cursor.nesting stop →
      Mirrors input (f (.yield left)) stop goal (more left (input.rest stop))) :
    Mirrors input (chainRound input operators next left >>= f) cursor goal
      (match operator? operators (input.rest cursor) with
      | none => done
      | some (operator, position, rest) => do
        let (right, rest) ← parser (maxNesting - cursor.nesting) rest
        let left ← combine left operator position right
        more left rest) := by
  rw [chainRound, bind_assoc]
  refine mirrors_nextOperator_bind operators (hdone.congr rfl) fun operator position hnextEnd => ?_
  dsimp only
  rw [bind_assoc]
  refine (hnext cursor.next hplace hnextEnd hnesting).bind fun right stop hstop harrives => ?_
  rw [bind_assoc]
  refine mirrors_ofOutcome_bind hstop (fun left => ?_) _
  exact (hyield left stop hstop (harrives.mono (Nat.le_succ _))).congr rfl

/-- A chain that counts as many operators as there are tokens goes on as long as it finds one. -/
theorem chainFrom_eq {operators : List Operator} {next : Parser} {count : Nat} {left : Parsed}
    {tokens : List Token} (hcount : tokens.length ≤ count) :
    Filter.chainFrom operators next count left tokens
      = (match operator? operators tokens with
        | none => .ok (left, tokens)
        | some (operator, position, rest) => do
          let (right, rest) ← next rest
          let left ← combine left operator position right
          Filter.chainFrom operators next (count - 1) left rest) := by
  cases count with
  | zero =>
    rw [List.length_eq_zero_iff.1 (Nat.le_zero.1 hcount)]
    rfl
  | succ count => rfl

/-- Each round of a chain that goes on passes tokens, so that rounds for all of them are enough. -/
theorem mirrors_loop_chainRound (hnext : MirrorsFrom input place next parser)
    (hplace : place ≤ cursor.index + 1) (hend : cursor.index ≤ input.tokens.length)
    (hnesting : cursor.nesting ≤ maxNesting) (hrounds : input.tokens.length - cursor.index < rounds)
    {count : Nat} (hcount : (input.rest cursor).length ≤ count) (operators : List Operator)
    (left : Parsed) :
    Mirrors input (loop (chainRound input operators next) rounds left) cursor
      (fun _ => Arrives cursor.index cursor.nesting)
      (Filter.chainFrom operators (parser (maxNesting - cursor.nesting)) count left
        (input.rest cursor)) := by
  -- what decreases is the number of tokens that are left; `rounds` and `count` both bound it
  induction rounds generalizing cursor count left with
  | zero => exact absurd hrounds (Nat.not_lt_zero _)
  | succ rounds ih =>
    have hdone : Mirrors input (pure left) cursor (fun _ => Arrives cursor.index cursor.nesting)
        (.ok (left, input.rest cursor)) :=
      mirrors_pure hend ⟨Nat.le_refl _, rfl⟩
    rw [chainFrom_eq hcount]
    refine mirrors_chainRound_bind hnext hplace hnesting operators left _ hdone
      fun left stop hstop harrives => ?_
    have hpassed := harrives.reached
    have hfewer : (input.rest stop).length ≤ count - 1 := by
      rw [length_rest] at hcount ⊢
      omega
    rw [← harrives.nesting]
    exact (ih (by omega) hstop (harrives.nesting ▸ hnesting) (by omega) hfewer left).mono
      fun _ _ h => h.mono (Nat.le_of_succ_le hpassed)

/-- A chain passes what its first phrase passes, if not more. -/
theorem mirrorsFrom_chain (hnext : MirrorsFrom input place next parser)
    (hrounds : input.tokens.length - place ≤ rounds) (operators : List Operator) :
    MirrorsFrom input place (chain input rounds operators next)
      fun levels => Filter.chain operators (parser levels) := by
  intro cursor hplace hend hnesting
  refine (hnext cursor hplace hend hnesting).bind fun left stop hstop harrives => ?_
  have hpassed := harrives.reached
  rw [← harrives.nesting]
  refine (mirrors_loop_chainRound hnext (by omega) hstop (harrives.nesting ▸ hnesting) (by omega)
    (Nat.le_refl _) operators left).mono fun _ _ h => h.mono hpassed

/-! ## Operands -/

/-- One round of arguments passes a phrase, and the comma or the parenthesis behind it. -/
theorem mirrors_argumentRound_bind (hnext : MirrorsFrom input place next parser)
    (hplace : place ≤ cursor.index) (hend : cursor.index ≤ input.tokens.length)
    (hnesting : cursor.nesting ≤ maxNesting) (args : List Parsed)
    {f : ForInStep (List Parsed) → Descent β}
    (more : Parsed × List Token → Except Failure (β × List Token))
    (hclose : ∀ arg stop position, Arrives (cursor.index + 2) cursor.nesting stop →
      stop.index ≤ input.tokens.length →
      Mirrors input (f (.done (args ++ [arg]))) stop goal
        (more (arg, ⟨.closeParen, position⟩ :: input.rest stop)))
    (hcomma : ∀ arg stop position, Arrives (cursor.index + 2) cursor.nesting stop →
      stop.index ≤ input.tokens.length →
      Mirrors input (f (.yield (args ++ [arg]))) stop goal
        (more (arg, ⟨.comma, position⟩ :: input.rest stop)))
    (hother : ∀ arg rest, nextKind rest ≠ some .closeParen → nextKind rest ≠ some .comma →
      more (arg, rest)
        = .error ⟨input.context.nextPosition rest, .expectedSeparator (nextKind rest)⟩) :
    Mirrors input (argumentRound input next args >>= f) cursor goal
      (parser (maxNesting - cursor.nesting) (input.rest cursor) >>= more) := by
  rw [argumentRound, bind_assoc]
  refine (hnext cursor hplace hend hnesting).bind fun arg stop hstop harrives => ?_
  rw [bind_assoc]
  cases hrest : input.rest stop with
  | nil =>
    rw [hother arg [] (by decide) (by decide)]
    exact .step (answerFrom_advance_nil hrest) (.error rfl hstop)
  | cons token rest =>
    refine .step (answerFrom_advance_cons hrest) ?_
    have hnext := next_le hrest
    have harrives : Arrives (cursor.index + 2) cursor.nesting stop.next :=
      ⟨Nat.succ_le_succ harrives.reached, harrives.nesting⟩
    obtain ⟨kind, position⟩ := token
    rw [← rest_next hrest]
    dsimp only [Option.map_some]
    split
    · rename_i heq
      obtain rfl : kind = .comma := Option.some.inj heq
      exact (hcomma arg stop.next position harrives hnext).congr rfl
    · rename_i heq
      obtain rfl : kind = .closeParen := Option.some.inj heq
      exact (hclose arg stop.next position harrives hnext).congr rfl
    · rename_i hcomma hclose
      rw [hother arg (⟨kind, position⟩ :: _) hclose hcomma]
      exact .fail rfl hnext

/-- Each round of arguments that goes on passes tokens, so that rounds for all of them are
enough. -/
theorem mirrors_loop_argumentRound (hnext : MirrorsFrom input place next parser)
    (hplace : place ≤ cursor.index) (hend : cursor.index ≤ input.tokens.length)
    (hnesting : cursor.nesting ≤ maxNesting) (hrounds : input.tokens.length - cursor.index < rounds)
    {count : Nat} (hcount : (input.rest cursor).length < count) (args : List Parsed) :
    Mirrors input (loop (argumentRound input next) rounds args) cursor
      (fun _ => Arrives (cursor.index + 1) cursor.nesting)
      (Filter.argumentsFrom input.context (parser (maxNesting - cursor.nesting)) count
        (input.rest cursor) >>= fun (more, rest) => .ok (args ++ more, rest)) := by
  induction rounds generalizing cursor count args with
  | zero => exact absurd hrounds (Nat.not_lt_zero _)
  | succ rounds ih =>
    obtain ⟨count, rfl⟩ : ∃ fewer, count = fewer + 1 := ⟨count - 1, by omega⟩
    rw [Filter.argumentsFrom, bind_assoc]
    refine mirrors_argumentRound_bind hnext hplace hend hnesting args _ ?_ ?_ ?_
    · intro arg stop position harrives hstop
      exact mirrors_pure hstop (harrives.mono (Nat.le_succ _))
    · intro arg stop position harrives hstop
      have hpassed := harrives.reached
      have hfewer : (input.rest stop).length < count := by
        rw [length_rest] at hcount ⊢
        omega
      have hmore :=
        ih (by omega) hstop (harrives.nesting ▸ hnesting) (by omega) hfewer (args ++ [arg])
      simp only [List.append_assoc, List.singleton_append, harrives.nesting] at hmore
      dsimp only
      rw [bind_assoc]
      exact hmore.mono fun _ _ h => h.mono (by omega)
    · intro arg rest hclose hcomma
      dsimp only
      split
      · exact absurd rfl hclose
      · exact absurd rfl hcomma
      · rfl

/-- The arguments of a call pass the parenthesis behind them. -/
theorem mirrors_arguments (hnext : MirrorsFrom input place next parser)
    (hplace : place ≤ cursor.index) (hend : cursor.index ≤ input.tokens.length)
    (hnesting : cursor.nesting ≤ maxNesting)
    (hrounds : input.tokens.length - cursor.index < rounds) :
    Mirrors input (arguments input rounds next) cursor
      (fun _ => Arrives (cursor.index + 1) cursor.nesting)
      (Filter.arguments input.context (parser (maxNesting - cursor.nesting))
        (input.rest cursor)) := by
  refine .step (answerFrom_peek input cursor) ?_
  split
  · rename_i hkind
    obtain ⟨position, rest, hrest⟩ := exists_of_nextKind hkind
    refine .step (answerFrom_advance_cons hrest) ?_
    rw [hrest, Filter.arguments, ← rest_next hrest]
    exact mirrors_pure (next_le hrest) ⟨Nat.le_refl _, rfl⟩
  · rename_i hkind
    have hargs := mirrors_loop_argumentRound hnext hplace hend hnesting hrounds
      (Nat.lt_succ_self _) []
    simp only [List.nil_append] at hargs
    rw [Filter.arguments.eq_def]
    split
    · rename_i hrest
      rw [hrest] at hkind
      exact absurd rfl hkind
    · rwa [← bind_pure (Filter.argumentsFrom _ _ _ _)]

/-- A call passes its parentheses and what is between them. -/
theorem mirrors_call (hnext : MirrorsFrom input place next (Filter.disjunction input.context))
    (hplace : place ≤ cursor.index + 1) (hrounds : input.tokens.length - place < rounds)
    {openPosition : Nat} {rest : List Token}
    (hrest : input.rest cursor = ⟨.openParen, openPosition⟩ :: rest) (name : String)
    (position : Nat) :
    Mirrors input (call input rounds next name position) cursor
      (fun _ => Arrives (cursor.index + 1) cursor.nesting)
      (Filter.call input.context (innerAt input.context (maxNesting - cursor.nesting)) name position
        rest) := by
  have hend : cursor.next.inner.index ≤ input.tokens.length := next_le hrest
  have hfewer : input.tokens.length - cursor.next.inner.index < rounds := by
    simp only [Cursor.index_inner, Cursor.index_next]
    omega
  rw [call, Filter.call]
  cases Function.ofName? name with
  | none => exact mirrors_throw (Nat.le_of_succ_le hend) _
  | some function =>
    refine .step (answerFrom_expect_cons hrest _ _) ?_
    refine mirrors_enter_bind position hend fun hnesting => ?_
    rw [← rest_next hrest]
    refine (mirrors_arguments hnext hplace hend hnesting hfewer).bind
      fun args stop hstop harrives => ?_
    refine mirrors_leave_bind hstop harrives fun back hback harrived hsame => ?_
    rw [← hsame]
    exact mirrors_ofOutcome hback (fun _ => harrived.mono (Nat.le_succ _)) _

/-- What a word stands for passes no more than the parentheses of a call. -/
theorem mirrors_named (hnext : MirrorsFrom input place next (Filter.disjunction input.context))
    (hplace : place ≤ cursor.index + 1) (hend : cursor.index ≤ input.tokens.length)
    (hrounds : input.tokens.length - place < rounds) (name : String) (position : Nat) :
    Mirrors input (named input rounds next name position) cursor
      (fun _ => Arrives cursor.index cursor.nesting)
      (Filter.named input.context (innerAt input.context (maxNesting - cursor.nesting)) name
        position (input.rest cursor)) := by
  rw [named, Filter.named.eq_def]
  cases wordValue? name with
  | some value => exact mirrors_pure hend ⟨Nat.le_refl _, rfl⟩
  | none =>
    refine .step (answerFrom_peek input cursor) ?_
    split
    · rename_i hkind
      obtain ⟨openPosition, rest, hrest⟩ := exists_of_nextKind hkind
      rw [hrest]
      exact (mirrors_call hnext hplace hrounds hrest name position).mono
        fun _ _ h => h.mono (Nat.le_succ _)
    · rename_i hkind
      have hopen : ∀ position rest, input.rest cursor ≠ ⟨.openParen, position⟩ :: rest := by
        intro _ _ hrest
        rw [hrest] at hkind
        exact hkind rfl
      dsimp only
      split
      · split
        · exact absurd ‹_› (hopen _ _)
        · exact mirrors_throw hend _
      · split
        · exact absurd ‹_› (hopen _ _)
        · exact mirrors_ofOutcome hend (fun _ => ⟨Nat.le_refl _, rfl⟩) _

/-- A parenthesis that is missing is told of in the words of its fault. -/
theorem report_expectedClosing (position : Nat) (found : Option TokenKind) :
    (⟨.syntaxError, position, "expected " ++ "')'" ++ ", found " ++ describeFound found⟩ : Report)
      = Failure.report ⟨position, .expectedClosing found⟩ := by
  have hwords : "expected " ++ "')'" ++ ", found " = "expected ')', found " := by decide
  rw [hwords]
  rfl

/-- Where there is a closing parenthesis, the descent goes on behind it; else this is its fault. -/
theorem mirrors_expectClosing_bind {f : Unit → Descent β}
    {closed : List Token → Except Failure (β × List Token)}
    (hend : cursor.index ≤ input.tokens.length)
    (h : cursor.next.index ≤ input.tokens.length →
      Mirrors input (f ()) cursor.next goal (closed (input.rest cursor.next))) :
    Mirrors input (expect input .closeParen "')'" >>= f) cursor goal
      (match input.rest cursor with
      | ⟨.closeParen, _⟩ :: rest => closed rest
      | rest => .error ⟨input.context.nextPosition rest, .expectedClosing (nextKind rest)⟩) := by
  cases hrest : input.rest cursor with
  | nil =>
    have hmissing := answerFrom_expect_nil hrest .closeParen "')'"
    rw [report_expectedClosing] at hmissing
    exact .fail hmissing hend
  | cons token rest =>
    have hexpect := answerFrom_expect_cons hrest .closeParen "')'"
    rw [report_expectedClosing] at hexpect
    obtain ⟨kind, position⟩ := token
    by_cases hkind : kind = .closeParen
    · subst hkind
      rw [← rest_next hrest]
      exact .step hexpect (h (next_le hrest))
    · rw [if_neg hkind] at hexpect
      split
      · rename_i heq
        exact absurd (congrArg Token.kind (List.cons.inj heq).1) hkind
      · exact .fail hexpect (next_le hrest)

/-- An operand passes its first token, and what it encloses is read behind that. -/
theorem mirrorsFrom_operand
    (hnext : MirrorsFrom input (place + 1) next (Filter.disjunction input.context))
    (hrounds : input.tokens.length - place ≤ rounds) :
    MirrorsFrom input place (operand input rounds next)
      fun levels => Filter.operand input.context (innerAt input.context levels) := by
  intro cursor hplace hend hnesting
  cases hrest : input.rest cursor with
  | nil => exact .step (answerFrom_advance_nil hrest) (mirrors_throw hend _)
  | cons token rest =>
    obtain ⟨kind, position⟩ := token
    have hnextEnd := next_le hrest
    have hpassed : Arrives (cursor.index + 1) cursor.nesting cursor.next :=
      ⟨Nat.le_refl _, rfl⟩
    refine .step (answerFrom_advance_cons hrest) ?_
    rw [← rest_next hrest]
    cases kind with
    | integer | decimal | string | dateTime => exact mirrors_pure hnextEnd hpassed
    | closeParen | comma => exact mirrors_throw hnextEnd _
    | identifier name =>
      have hfewer : input.tokens.length - (place + 1) < rounds := by
        simp only [Cursor.index_next] at hnextEnd
        omega
      exact (mirrors_named hnext (Nat.le_succ_of_le (Nat.succ_le_succ hplace)) hnextEnd hfewer name
        position).mono fun _ _ h => h
    | openParen =>
      refine mirrors_enter_bind position hnextEnd fun hnesting => ?_
      refine (hnext cursor.next.inner (Nat.succ_le_succ hplace) hnextEnd hnesting).bind
        fun inside stop hstop harrives => ?_
      refine mirrors_expectClosing_bind hstop fun hclosed => ?_
      have harrives : Arrives (cursor.index + 1) (cursor.nesting + 1) stop.next :=
        ⟨Nat.le_succ_of_le (harrives.mono (Nat.le_succ _)).reached, harrives.nesting⟩
      refine mirrors_leave_bind hclosed harrives fun back hback harrived hsame => ?_
      rw [← hsame]
      exact mirrors_pure hback harrived

/-! ## Levels -/

theorem mirrorsFrom_comparison
    (hsum : MirrorsFrom input place next
      fun levels => Filter.sum input.context (innerAt input.context levels)) :
    MirrorsFrom input place (comparison input next)
      fun levels => Filter.comparison input.context (innerAt input.context levels) := by
  intro cursor hplace hend hnesting
  refine (hsum cursor hplace hend hnesting).bind fun left stop hstop harrives => ?_
  have hplaced : place ≤ stop.next.index :=
    Nat.le_succ_of_le (Nat.le_trans (Nat.le_succ_of_le hplace) harrives.reached)
  refine mirrors_nextOperator_bind _ (mirrors_pure hstop harrives)
    fun operator position hnextEnd => ?_
  have hright := hsum stop.next hplaced hnextEnd (harrives.nesting ▸ hnesting)
  rw [Cursor.nesting_next, harrives.nesting] at hright
  refine hright.bind fun right stop' hstop' harrives' => ?_
  have hpassed : cursor.index + 1 ≤ stop.next.index + 1 :=
    Nat.le_trans harrives.reached (Nat.le_add_right _ 2)
  exact mirrors_ofOutcome hstop' (fun _ => harrives'.mono hpassed) _

/-- The operand of `not` is read behind the word. -/
theorem mirrorsFrom_negation {inner : Descent Parsed}
    (hcomparison : MirrorsFrom input place next
      fun levels => Filter.comparison input.context (innerAt input.context levels))
    (hinner : MirrorsFrom input (place + 1) inner (Filter.negation input.context)) :
    MirrorsFrom input place (negation input inner next) (Filter.negation input.context) := by
  intro cursor hplace hend hnesting
  rw [negation_eq, negationOf]
  cases hnot : not? (input.rest cursor) with
  | none =>
    exact .step (answerFrom_nextNot_of_none hnot) (hcomparison cursor hplace hend hnesting)
  | some found =>
    obtain ⟨position, rest⟩ := found
    have hrest := not?_eq_some hnot
    refine .step (answerFrom_nextNot_of_some hnot) ?_
    refine mirrors_enter_bind position (next_le hrest) fun hnesting => ?_
    rw [← rest_next hrest]
    refine (hinner cursor.next.inner (Nat.succ_le_succ hplace) (next_le hrest) hnesting).bind
      fun operand stop hstop harrives => ?_
    refine mirrors_leave_bind hstop harrives fun back hback harrived hsame => ?_
    rw [← hsame]
    exact mirrors_ofOutcome hback (fun _ => harrived.mono (Nat.le_succ _)) _

/-- **The descent mirrors the parsers**, if it may nest a call for each level and each token that is
left. -/
theorem mirrorsFrom_read (input : Input) (calls place : Nat) (level : Level)
    (hcalls : 7 * (input.tokens.length - place) + level.rank ≤ calls) :
    MirrorsFrom input place (read input calls level)
      fun levels => parserAt input.context levels level := by
  have hrank := level.rank_pos
  induction calls generalizing place level with
  | zero => omega
  | succ calls ih =>
    -- what is called behind the next token has seven calls less to nest
    have hbehind : ∀ level : Level, MirrorsFrom input (place + 1) (read input calls level)
        fun levels => parserAt input.context levels level := by
      intro behind
      have hle := behind.rank_le
      rcases Nat.lt_or_ge place input.tokens.length with hlt | hge
      · exact ih (place + 1) behind (by omega) behind.rank_pos
      · exact mirrorsFrom_of_lt (Nat.lt_succ_of_le hge) _ _
    have htighter : ∀ inner : Level, inner.rank + 1 = level.rank →
        MirrorsFrom input place (read input calls inner)
          fun levels => parserAt input.context levels inner :=
      fun inner hinner => ih place inner (by omega) inner.rank_pos
    have hrounds : input.tokens.length - place ≤ calls := by omega
    cases level with
    | disjunction => exact mirrorsFrom_chain (htighter .conjunction rfl) hrounds _
    | conjunction => exact mirrorsFrom_chain (htighter .negation rfl) hrounds _
    | negation => exact mirrorsFrom_negation (htighter .comparison rfl) (hbehind .negation)
    | comparison => exact mirrorsFrom_comparison (htighter .sum rfl)
    | sum => exact mirrorsFrom_chain (htighter .product rfl) hrounds _
    | product => exact mirrorsFrom_chain (htighter .operand rfl) hrounds _
    | operand => exact mirrorsFrom_operand (hbehind .disjunction) hrounds

/-! ## Progress -/

/-- Calls that are enough from a cursor on: one at each level for each token that is left, and for
the end. -/
def callsFrom (input : Input) (start : Cursor) : Nat :=
  7 * (input.tokens.length - start.index + 1)

/-- From a cursor on, a computation comes to an end: all numbers of calls that are enough give the
same answer.  It does not stop behind the end of the tokens, and reaches a goal when it succeeds. -/
def Ends (input : Input) (x : Nat → Descent α) (start : Cursor) (goal : α → Cursor → Prop) : Prop :=
  ∃ outcome stop, (∀ calls, callsFrom input start ≤ calls →
      answerFrom (x calls) start = some (outcome, stop))
    ∧ stop.index ≤ input.tokens.length
    ∧ ∀ a, outcome = .ok a → goal a stop

variable {start : Cursor}

/-- What mirrors a parser when its calls are just enough comes to an end. -/
theorem Mirrors.ends {x : Nat → Descent α} {goal : α → Cursor → Prop}
    {outcome : Except Failure (α × List Token)}
    (h : Mirrors input (x (callsFrom input start)) start goal outcome)
    (hmore : ∀ calls more, calls ≤ more → Extends (x calls) (x more)) :
    Ends input x start goal := by
  cases h with
  | ok hanswer hend hgoal =>
    refine ⟨_, _, fun calls hcalls => hmore _ calls hcalls start _ hanswer, hend, ?_⟩
    rintro a ⟨rfl⟩
    exact hgoal
  | error hanswer hend =>
    refine ⟨_, _, fun calls hcalls => hmore _ calls hcalls start _ hanswer, hend, ?_⟩
    rintro a ⟨⟩

/-- The goal of reading a phrase: a token is passed, and the descent is inside of as many levels as
before. -/
def PassesToken (start stop : Cursor) : Prop :=
  start.index < stop.index ∧ stop.nesting = start.nesting

theorem Arrives.passesToken {start stop : Cursor}
    (h : Arrives (start.index + 1) start.nesting stop) : PassesToken start stop :=
  ⟨h.reached, h.nesting⟩

/-- The goal of one round of a loop: if it is not the last, a token is passed, and the descent is
inside of as many levels as before. -/
def GoesOnBehind (start : Cursor) (step : ForInStep α) (stop : Cursor) : Prop :=
  ∀ state, step = .yield state → PassesToken start stop

/-- The descent makes progress from a cursor on, in all its parts. -/
structure MakesProgress (input : Input) (start : Cursor) : Prop where
  /-- Every phrase that is read passes a token. -/
  level : ∀ level, Ends input (fun calls => read input calls level) start
    fun _ => PassesToken start
  /-- So does every call whose name is read. -/
  call : ∀ name position, Ends input
    (fun calls => call input calls (read input calls .disjunction) name position) start
    fun _ => PassesToken start
  /-- A chain does not go on without passing a token. -/
  chainRound : ∀ operators next left, Ends input
    (fun calls => chainRound input operators (read input calls next) left) start
    (GoesOnBehind start)
  /-- Nor do the arguments of a call. -/
  argumentRound : ∀ args, Ends input
    (fun calls => argumentRound input (read input calls .disjunction) args) start
    (GoesOnBehind start)
  /-- What is read, or the fault, is that of the parser of the level, and so are the tokens that are
  left. -/
  parser : ∀ level calls, callsFrom input start ≤ calls →
    (answerFrom (read input calls level) start).map
        (fun (outcome, stop) => outcome.map fun parsed => (parsed, input.rest stop))
      = some ((parserAt input.context (maxNesting - start.nesting) level
          (input.rest start)).mapError Failure.report)

theorem mirrors_read (hend : start.index ≤ input.tokens.length)
    (hnesting : start.nesting ≤ maxNesting) (level : Level) {calls : Nat}
    (hcalls : callsFrom input start ≤ calls) :
    Mirrors input (read input calls level) start
      (fun _ => Arrives (start.index + 1) start.nesting)
      (parserAt input.context (maxNesting - start.nesting) level (input.rest start)) := by
  have hrank := level.rank_le
  rw [callsFrom] at hcalls
  have hread := mirrorsFrom_read input calls start.index level (by omega)
  exact hread start (Nat.le_refl _) hend hnesting

/-- Behind the next token, the calls from a cursor on are enough as well. -/
theorem mirrorsFrom_read_behind (input : Input) (start : Cursor) (level : Level) :
    MirrorsFrom input (start.index + 1) (read input (callsFrom input start) level)
      fun levels => parserAt input.context levels level := by
  have hrank := level.rank_le
  refine mirrorsFrom_read input _ _ level ?_
  rw [callsFrom]
  omega

/-- A name that is not followed by a parenthesis is no call. -/
theorem exists_answerFrom_call (hend : start.index ≤ input.tokens.length)
    (hopen : nextKind (input.rest start) ≠ some .openParen) (name : String) (position : Nat) :
    ∃ report stop, stop.index ≤ input.tokens.length ∧ ∀ rounds disjunction,
      answerFrom (call input rounds disjunction name position) start
        = some (.error report, stop) := by
  cases hname : Function.ofName? name with
  | none =>
    refine ⟨Failure.report ⟨position, .unknownFunction name⟩, start, hend, fun rounds next => ?_⟩
    rw [call, hname]
    rfl
  | some function =>
    obtain ⟨report, stop, hstop, hexpect⟩ : ∃ report stop, stop.index ≤ input.tokens.length
        ∧ answerFrom (expect input .openParen "'('") start = some (.error report, stop) := by
      cases hrest : input.rest start with
      | nil => exact ⟨_, start, hend, answerFrom_expect_nil hrest _ _⟩
      | cons token rest =>
        have hkind : token.kind ≠ .openParen := by
          intro hkind
          rw [hrest, nextKind, List.head?_cons, Option.map_some, hkind] at hopen
          exact hopen rfl
        have hexpect := answerFrom_expect_cons hrest .openParen "'('"
        rw [if_neg hkind] at hexpect
        exact ⟨_, start.next, next_le hrest, hexpect⟩
    refine ⟨report, stop, hstop, fun rounds next => ?_⟩
    rw [call, hname]
    exact answerFrom_bind_error hexpect _

theorem ends_call (hend : start.index ≤ input.tokens.length) (name : String) (position : Nat) :
    Ends input (fun calls => call input calls (read input calls .disjunction) name position) start
      fun _ => PassesToken start := by
  by_cases hopen : nextKind (input.rest start) = some .openParen
  · obtain ⟨openPosition, rest, hrest⟩ := exists_of_nextKind hopen
    have hrounds : input.tokens.length - (start.index + 1) < callsFrom input start := by
      rw [callsFrom]
      omega
    have hcall := mirrors_call (mirrorsFrom_read_behind input start .disjunction) (Nat.le_refl _)
      hrounds hrest name position
    exact (hcall.mono fun _ _ h => h.passesToken).ends
      fun calls more hle => extends_call (extends_read hle _) hle name position
  · -- no phrase is read, and there is no parser to mirror
    obtain ⟨report, stop, hstop, hanswer⟩ := exists_answerFrom_call hend hopen name position
    refine ⟨.error report, stop, fun calls _ => hanswer _ _, hstop, ?_⟩
    rintro a ⟨⟩

theorem ends_chainRound (hend : start.index ≤ input.tokens.length)
    (hnesting : start.nesting ≤ maxNesting) (operators : List Operator) (next : Level)
    (left : Parsed) :
    Ends input (fun calls => chainRound input operators (read input calls next) left) start
      (GoesOnBehind start) := by
  have hdone : Mirrors input (pure (.done left)) start (GoesOnBehind start)
      (.ok (.done left, input.rest start)) :=
    mirrors_pure hend fun _ h => (nomatch h)
  have hround := mirrors_chainRound_bind (mirrorsFrom_read_behind input start next) (Nat.le_refl _)
    hnesting operators left (fun longer rest => .ok (.yield longer, rest)) hdone
    fun longer stop hstop harrives => mirrors_pure hstop
      fun _ _ => harrives.passesToken
  rw [bind_pure] at hround
  exact hround.ends fun calls more hle => extends_chainRound (extends_read hle _) _ _

/-- What a round of arguments makes of an argument and the tokens behind it. -/
def argumentStep (context : Context) (args : List Parsed) :
    Parsed × List Token → Except Failure (ForInStep (List Parsed) × List Token)
  | (arg, ⟨.closeParen, _⟩ :: rest) => .ok (.done (args ++ [arg]), rest)
  | (arg, ⟨.comma, _⟩ :: rest) => .ok (.yield (args ++ [arg]), rest)
  | (_, rest) => .error ⟨context.nextPosition rest, .expectedSeparator (nextKind rest)⟩

theorem ends_argumentRound (hend : start.index ≤ input.tokens.length)
    (hnesting : start.nesting ≤ maxNesting) (args : List Parsed) :
    Ends input (fun calls => argumentRound input (read input calls .disjunction) args) start
      (GoesOnBehind start) := by
  have hdisjunction : MirrorsFrom input start.index
      (read input (callsFrom input start) .disjunction) (Filter.disjunction input.context) :=
    mirrorsFrom_read input _ _ .disjunction (Nat.le_refl _)
  have hround : Mirrors input
      (argumentRound input (read input (callsFrom input start) .disjunction) args >>= pure) start
      (GoesOnBehind start)
      (Filter.disjunction input.context (maxNesting - start.nesting) (input.rest start)
        >>= argumentStep input.context args) := by
    refine mirrors_argumentRound_bind hdisjunction (Nat.le_refl _) hend hnesting args
      (argumentStep input.context args) ?_ ?_ ?_
    · intro arg stop position harrives hstop
      exact mirrors_pure hstop fun _ h => (nomatch h)
    · intro arg stop position harrives hstop
      exact mirrors_pure hstop fun _ _ => (harrives.mono (Nat.le_succ _)).passesToken
    · intro arg rest hclose hcomma
      rw [argumentStep.eq_def]
      split
      · rename_i heq
        cases heq
        exact absurd rfl hclose
      · rename_i heq
        cases heq
        exact absurd rfl hcomma
      · rename_i heq
        cases heq
        rfl
  rw [bind_pure] at hround
  exact hround.ends fun calls more hle => extends_argumentRound (extends_read hle _) _

/-- **The descent comes to an end and makes progress**, from every cursor up to the end and up to
the deepest level: whatever it reads passes a token and comes back to the level it started on, so
that no loop goes on without passing a token; and it never stops behind the end. -/
theorem answers_with_progress (hend : start.index ≤ input.tokens.length)
    (hnesting : start.nesting ≤ maxNesting) : MakesProgress input start where
  level level :=
    ((mirrors_read hend hnesting level (Nat.le_refl _)).mono
      fun _ _ h => h.passesToken).ends fun _ _ hle => extends_read hle level
  call := ends_call hend
  chainRound := ends_chainRound hend hnesting
  argumentRound := ends_argumentRound hend hnesting
  parser level _ hcalls := (mirrors_read hend hnesting level hcalls).answer

/-- A call inside of ninety-nine levels: its own parentheses are the last that may be nested, and
those inside of it are one level too deep.  The descent stops behind them, inside of the level that
it did not come back from. -/
theorem answers_with_progress_of_deep_call :
    let schema : Schema := ⟨"Note", .ofList [("Text", { type := .string })]⟩
    let input : Input := ⟨⟨schema, 22⟩, [⟨.identifier "not", 0⟩, ⟨.identifier "length", 4⟩,
      ⟨.openParen, 10⟩, ⟨.openParen, 11⟩, ⟨.identifier "Text", 12⟩, ⟨.closeParen, 16⟩,
      ⟨.closeParen, 17⟩, ⟨.identifier "gt", 19⟩]⟩
    let start : Cursor := ⟨1, 99⟩
    start.index ≤ input.tokens.length ∧ start.nesting ≤ maxNesting ∧ MakesProgress input start
      ∧ answerFrom (read input (callsFrom input start) .operand) start
        = some (.error ⟨.syntaxError, 11, "expression nests too deeply"⟩, ⟨4, 101⟩) := by
  intro schema input start
  have hend : start.index ≤ input.tokens.length := by decide
  have hnesting : start.nesting ≤ maxNesting := by decide
  exact ⟨hend, hnesting, answers_with_progress hend hnesting, rfl⟩

theorem mirrors_filter (input : Input) :
    Mirrors input (filter input (callsFrom input ⟨0, 0⟩)) ⟨0, 0⟩ (fun _ _ => True)
      ((ofTokens input.context input.tokens).map fun e => (e, [])) := by
  have hend : (⟨0, 0⟩ : Cursor).index ≤ input.tokens.length := Nat.zero_le _
  have hread := mirrors_read hend (Nat.zero_le _) .disjunction (Nat.le_refl _)
  change Mirrors input _ _ _ (_ <$> ofTokens _ _)
  rw [ofTokens, map_bind]
  refine hread.bind fun parsed stop hstop _ => .step (answerFrom_peek input stop) ?_
  cases hrest : input.rest stop with
  | cons token rest => exact mirrors_throw hstop _
  | nil =>
    dsimp only [List.head?_nil]
    split
    · rw [← hrest]
      exact mirrors_pure hstop trivial
    · exact mirrors_throw hstop _

/-- **The descent over all tokens reads the filter that the parsers read**, or finds its fault. -/
theorem answerFrom_filter (input : Input) : ∃ stop, ∀ calls, callsFrom input ⟨0, 0⟩ ≤ calls →
    answerFrom (filter input calls) ⟨0, 0⟩
      = some ((ofTokens input.context input.tokens).mapError Failure.report, stop) := by
  obtain ⟨stop, hanswer⟩ := (mirrors_filter input).exists_answer
  refine ⟨stop, fun calls hcalls => extends_filter hcalls _ _ ?_⟩
  rw [hanswer]
  cases ofTokens input.context input.tokens with
  | ok e => rfl
  | error failure => rfl

end Descent
end Filter
end ODataQuery
