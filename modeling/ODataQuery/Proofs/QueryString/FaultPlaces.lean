import ODataQuery.Proofs.QueryString.Orderings
import ODataQuery.Proofs.QueryString.Soundness
import ODataQuery.Proofs.QueryString.TokenPlaces

/-!
# Where the faults of a text are

Whatever is wrong with a filter or an ordering, its place is that of a token, or the end.  No parser
makes up a place of its own: it takes them over from the tokens it is given, and from the parts that
other parsers have read.

* `FailsAt`: a computation can only fail at some of the places, and what it returns satisfies a
  condition; `FailsAt.bind` goes through a sequence of such steps.
* `Filter.Placed`: a parser that takes its places from the tokens; `placed_chain`, `placed_operand`,
  `placed_negationOf` show it of each parser, given it of those that it calls.
* `Filter.failsAt_ofTokens`, `OrderBy.failsAt_ofTokens`: so it holds of a whole text.
* `Failure.position_of_parse`: the places of tokens are characters of the text in front of which it
  can be cut off, so those of faults are such or the end of the text.
-/

set_option autoImplicit false

namespace ODataQuery

/-! ## Computations that fail at some of the places -/

section

variable {α β : Type}

/-- A failure is at one of the places, and a result satisfies a condition. -/
def FailsAt (place : Nat → Prop) (condition : α → Prop) : Except Failure α → Prop
  | .error failure => place failure.position
  | .ok result => condition result

variable {place : Nat → Prop} {condition : α → Prop} {condition' : β → Prop}
  {x : Except Failure α}

theorem FailsAt.bind {f : α → Except Failure β} (h : FailsAt place condition x)
    (hf : ∀ a, condition a → FailsAt place condition' (f a)) :
    FailsAt place condition' (x >>= f) := by
  cases x with
  | error failure => exact h
  | ok a => exact hf a h

theorem FailsAt.map {f : α → β} (h : FailsAt place condition x)
    (hf : ∀ a, condition a → condition' (f a)) : FailsAt place condition' (x.map f) := by
  cases x with
  | error failure => exact h
  | ok a => exact hf a h

theorem FailsAt.position (h : FailsAt place condition x) {failure : Failure}
    (hx : x = .error failure) : place failure.position := by
  rw [hx] at h
  exact h

end

namespace Filter

variable {place : Nat → Prop} {context : Context} {position : Nat} {tokens : List Token}

/-! ## Nodes -/

theorem failsAt_taller (hposition : place position) (height : Nat) :
    FailsAt place (fun _ => True) (taller position height) := by
  rw [taller]
  split
  · exact hposition
  · trivial

theorem failsAt_typed (hposition : place position) (result : Except TypeError StaticType) :
    FailsAt place (fun _ => True) (typed position result) := by
  cases result with
  | ok => trivial
  | error => exact hposition

/-- A node of an operator stands where its left operand does; if it has no type, the fault is at the
operator. -/
theorem failsAt_combine {left : Parsed} (hleft : place left.position) (hposition : place position)
    (operator : Operator) (right : Parsed) :
    FailsAt place (fun node => place node.position) (combine left operator position right) :=
  (failsAt_typed hposition _).bind fun _ _ =>
    (failsAt_taller hposition _).bind fun _ _ => hleft

theorem failsAt_negate (hposition : place position) (operand : Parsed) :
    FailsAt place (fun node => place node.position) (negate position operand) :=
  (failsAt_typed hposition _).bind fun _ _ =>
    (failsAt_taller hposition _).bind fun _ _ => hposition

theorem failsAt_property (hposition : place position) (name : String) :
    FailsAt place (fun leaf => place leaf.position) (property context name position) := by
  rw [property]
  split <;> exact hposition

/-- A type error of a call is at one of its arguments, or at its name. -/
theorem place_callFaultPosition (hposition : place position) {args : List Parsed}
    (hargs : ∀ arg ∈ args, place arg.position) (error : TypeError) :
    place (callFaultPosition args position error) := by
  rw [callFaultPosition.eq_def]
  split
  · rename_i index _ _
    cases harg : args[index]? with
    | none => exact hposition
    | some arg => exact hargs arg (List.mem_of_getElem? harg)
  · exact hposition

theorem failsAt_applyFunction (hposition : place position) {args : List Parsed}
    (hargs : ∀ arg ∈ args, place arg.position) (function : Function) :
    FailsAt place (fun node => place node.position) (applyFunction function args position) := by
  rw [applyFunction]
  split
  · exact hposition
  · cases function.resultType (args.map Parsed.type) with
    | ok type => exact (failsAt_taller hposition _).bind fun _ _ => hposition
    | error error => exact place_callFaultPosition hposition hargs error

/-! ## Parsers -/

/-- The tokens stand at the places. -/
def AllAt (place : Nat → Prop) (tokens : List Token) : Prop :=
  ∀ token ∈ tokens, place token.position

/-- What is read starts at one of the places, and the tokens that are left stand at them. -/
def ResultAt (place : Nat → Prop) (result : Parsed × List Token) : Prop :=
  place result.1.position ∧ AllAt place result.2

/-- Of tokens that stand at the places, the parser makes parts and failures at the places. -/
def Placed (place : Nat → Prop) (parser : Parser) : Prop :=
  ∀ tokens, AllAt place tokens → FailsAt place (ResultAt place) (parser tokens)

theorem place_nextPosition (hend : place context.endPosition) (htokens : AllAt place tokens) :
    place (context.nextPosition tokens) := by
  cases tokens with
  | nil => exact hend
  | cons token rest => exact htokens token List.mem_cons_self

/-- Behind a part, tokens are left that stand at the places. -/
theorem place_operator? {operators : List Operator} {operator : Operator} {rest : List Token}
    (htokens : AllAt place tokens)
    (h : operator? operators tokens = some (operator, position, rest)) :
    place position ∧ AllAt place rest := by
  obtain ⟨-, rfl⟩ := operator?_eq_some h
  exact List.forall_mem_cons.1 htokens

theorem placed_chainFrom {next : Parser} (hnext : Placed place next) (operators : List Operator)
    (count : Nat) {left : Parsed} (hleft : place left.position) (htokens : AllAt place tokens) :
    FailsAt place (ResultAt place) (chainFrom operators next count left tokens) := by
  induction count generalizing left tokens with
  | zero => exact ⟨hleft, htokens⟩
  | succ count ih =>
    rw [chainFrom]
    split
    · exact ⟨hleft, htokens⟩
    · rename_i operator position rest hoperator
      obtain ⟨hposition, hrest⟩ := place_operator? htokens hoperator
      refine (hnext rest hrest).bind fun right hright => ?_
      exact (failsAt_combine hleft hposition operator right.1).bind fun node hnode =>
        ih hnode hright.2

theorem placed_chain {next : Parser} (hnext : Placed place next) (operators : List Operator) :
    Placed place (chain operators next) := fun tokens htokens =>
  (hnext tokens htokens).bind fun _ hleft =>
    placed_chainFrom hnext operators _ hleft.1 hleft.2

/-! ## Operands -/

theorem failsAt_argumentsFrom (hend : place context.endPosition) {disjunction : Parser}
    (hdisjunction : Placed place disjunction) (count : Nat) (htokens : AllAt place tokens) :
    FailsAt place (fun result => (∀ arg ∈ result.1, place arg.position) ∧ AllAt place result.2)
      (argumentsFrom context disjunction count tokens) := by
  induction count generalizing tokens with
  | zero => exact hend
  | succ count ih =>
    rw [argumentsFrom]
    refine (hdisjunction tokens htokens).bind fun result hresult => ?_
    obtain ⟨arg, rest⟩ := result
    obtain ⟨harg, hrest⟩ : place arg.position ∧ AllAt place rest := hresult
    dsimp only
    split
    · exact ⟨List.forall_mem_singleton.2 harg, (List.forall_mem_cons.1 hrest).2⟩
    · refine (ih (List.forall_mem_cons.1 hrest).2).bind fun more hmore => ?_
      exact ⟨List.forall_mem_cons.2 ⟨harg, hmore.1⟩, hmore.2⟩
    · exact place_nextPosition hend hrest

theorem failsAt_arguments (hend : place context.endPosition) {disjunction : Parser}
    (hdisjunction : Placed place disjunction) (htokens : AllAt place tokens) :
    FailsAt place (fun result => (∀ arg ∈ result.1, place arg.position) ∧ AllAt place result.2)
      (arguments context disjunction tokens) := by
  rw [arguments.eq_def]
  split
  · exact ⟨List.forall_mem_nil _, (List.forall_mem_cons.1 htokens).2⟩
  · exact failsAt_argumentsFrom hend hdisjunction _ htokens

/-- The parsers of the next inner level take their places from the tokens. -/
def PlacedInner (place : Nat → Prop) (inner : Option Inner) : Prop :=
  ∀ parsers ∈ inner, Placed place parsers.disjunction ∧ Placed place parsers.negation

variable {inner : Option Inner}

theorem placed_call (hend : place context.endPosition) (hinner : PlacedInner place inner)
    (hposition : place position) (name : String) :
    Placed place (call context inner name position) := by
  intro tokens htokens
  rw [call]
  split
  · exact hposition
  · split
    · exact hposition
    · rename_i parsers
      refine (failsAt_arguments hend (hinner parsers rfl).1 htokens).bind fun args hargs => ?_
      exact (failsAt_applyFunction hposition hargs.1 _).bind fun node hnode => ⟨hnode, hargs.2⟩

theorem placed_parenthesized (hend : place context.endPosition) (hinner : PlacedInner place inner)
    (hposition : place position) : Placed place (parenthesized context inner position) := by
  intro tokens htokens
  rw [parenthesized.eq_def]
  split
  · exact hposition
  · rename_i parsers
    refine ((hinner parsers rfl).1 tokens htokens).bind fun result hresult => ?_
    obtain ⟨inside, rest⟩ := result
    obtain ⟨-, hrest⟩ : place inside.position ∧ AllAt place rest := hresult
    dsimp only
    split
    · exact ⟨hposition, (List.forall_mem_cons.1 hrest).2⟩
    · exact place_nextPosition hend hrest

theorem placed_named (hend : place context.endPosition) (hinner : PlacedInner place inner)
    (hposition : place position) (name : String) :
    Placed place (named context inner name position) := by
  intro tokens htokens
  rw [named.eq_def]
  split
  · exact ⟨hposition, htokens⟩
  · split
    · exact placed_call hend hinner hposition name _ (List.forall_mem_cons.1 htokens).2
    · split
      · exact hposition
      · exact (failsAt_property hposition name).map fun leaf hleaf => ⟨hleaf, htokens⟩

theorem placed_operand (hend : place context.endPosition) (hinner : PlacedInner place inner) :
    Placed place (operand context inner) := by
  intro tokens htokens
  rw [operand.eq_def]
  split
  · exact hend
  · obtain ⟨hposition, hrest⟩ := List.forall_mem_cons.1 htokens
    split
    · exact placed_parenthesized hend hinner hposition _ hrest
    · exact ⟨hposition, hrest⟩
    · exact ⟨hposition, hrest⟩
    · exact ⟨hposition, hrest⟩
    · exact ⟨hposition, hrest⟩
    · exact placed_named hend hinner hposition _ _ hrest
    · exact hposition
    · exact hposition

/-! ## Levels -/

theorem placed_sum (hend : place context.endPosition) (hinner : PlacedInner place inner) :
    Placed place (sum context inner) :=
  placed_chain (placed_chain (placed_operand hend hinner) _) _

theorem placed_comparison (hend : place context.endPosition) (hinner : PlacedInner place inner) :
    Placed place (comparison context inner) := by
  intro tokens htokens
  refine (placed_sum hend hinner tokens htokens).bind fun left hleft => ?_
  dsimp only
  split
  · exact hleft
  · rename_i operator position rest hoperator
    obtain ⟨hposition, hrest⟩ := place_operator? hleft.2 hoperator
    refine (placed_sum hend hinner rest hrest).bind fun right hright => ?_
    exact (failsAt_combine hleft.1 hposition operator right.1).bind fun node hnode =>
      ⟨hnode, hright.2⟩

theorem placed_negationOf (hend : place context.endPosition) (hinner : PlacedInner place inner) :
    Placed place (negationOf context inner) := by
  intro tokens htokens
  rw [negationOf]
  split
  · exact placed_comparison hend hinner tokens htokens
  · rename_i position rest hnot
    obtain rfl := not?_eq_some hnot
    obtain ⟨hposition, hrest⟩ := List.forall_mem_cons.1 htokens
    split
    · exact hposition
    · rename_i parsers
      refine ((hinner parsers rfl).2 rest hrest).bind fun operand hoperand => ?_
      exact (failsAt_negate hposition operand.1).bind fun node hnode => ⟨hnode, hoperand.2⟩

theorem placed_disjunctionOf {negation : Parser} (hnegation : Placed place negation) :
    Placed place (disjunctionOf negation) :=
  placed_chain (placed_chain hnegation _) _

/-- Negations at every nesting level, by induction on the levels that are left. -/
theorem placed_negation (hend : place context.endPosition) (levels : Nat) :
    Placed place (negation context levels) := by
  induction levels with
  | zero => exact placed_negationOf hend fun _ h => (nomatch h)
  | succ levels ih =>
    refine placed_negationOf hend ?_
    rintro parsers ⟨rfl⟩
    exact ⟨placed_disjunctionOf ih, ih⟩

/-- **A filter fails at one of its tokens or at its end.** -/
theorem failsAt_ofTokens (context : Context) (hend : place context.endPosition)
    (htokens : AllAt place tokens) :
    FailsAt place (fun _ => True) (ofTokens context tokens) := by
  refine (placed_disjunctionOf (placed_negation hend maxNesting) tokens htokens).bind
    fun parsed hparsed => ?_
  dsimp only
  split
  · rename_i token rest heq
    exact hparsed.2 token (heq ▸ List.mem_cons_self)
  · split
    · trivial
    · exact hparsed.1

end Filter

/-- **An ordering fails at one of its tokens or at its end.** -/
theorem OrderBy.failsAt_ofTokens {place : Nat → Prop} {endPosition : Nat} (hend : place endPosition)
    (schema : Schema) {tokens : List Token} (htokens : Filter.AllAt place tokens) :
    FailsAt place (fun _ => True) (ofTokens schema endPosition tokens) := by
  fun_induction ofTokens schema endPosition tokens with
  | case1 => exact hend
  | case2 | case10 => exact (List.forall_mem_cons.1 htokens).1
  | case3 | case6 => trivial
  | case4 name position declared hlookup commaPosition rest ih =>
    simp only [Filter.AllAt, List.forall_mem_cons] at htokens
    exact (ih htokens.2.2).map fun _ _ => trivial
  | case7 name position declared hlookup word wordPosition direction hword commaPosition rest ih =>
    simp only [Filter.AllAt, List.forall_mem_cons] at htokens
    exact (ih htokens.2.2.2).map fun _ _ => trivial
  | case5 | case9 =>
    simp only [Filter.AllAt, List.forall_mem_cons] at htokens
    exact htokens.2.1
  | case8 =>
    simp only [Filter.AllAt, List.forall_mem_cons] at htokens
    exact htokens.2.2.1

/-! ## Places of a text -/

/-- The place is the end of the text or one of its characters that is not blank, and what stands in
front of it is a row of tokens. -/
def Lexer.IsStop (text : String) (place : Nat) : Prop :=
  (place = text.length ∨ ∃ c, text.toList[place]? = some c ∧ Text.isBlank c = false)
    ∧ ∃ tokens, tokenize (String.ofList (text.toList.take place)) = .ok tokens

theorem Lexer.Reaches.isStop {text : String} {place : Nat} (h : Reaches 0 0 text.toList place) :
    IsStop text place := by
  obtain ⟨n, rfl, -, hplace, htokens⟩ := h
  rw [Nat.zero_add, IsStop, tokenize, String.toList_ofList]
  exact ⟨.inr hplace, htokens⟩

theorem Lexer.isStop_length {text : String} {tokens : List Token}
    (h : tokenize text = .ok tokens) : IsStop text text.length := by
  refine ⟨.inl rfl, tokens, ?_⟩
  rw [← String.length_toList, List.take_length, String.ofList_toList, h]

/-- What reads the tokens of a text and fails at one of them or at the end fails at a place of the
text; and so does the text that has no tokens. -/
theorem Lexer.isStop_of_tokenize_bind {α : Type} {text : String}
    {read : List Token → Except Failure α}
    (hread : ∀ (place : Nat → Prop) (tokens : List Token), place text.length →
      Filter.AllAt place tokens → FailsAt place (fun _ => True) (read tokens))
    {failure : Failure} (h : tokenize text >>= read = .error failure) :
    IsStop text failure.position := by
  obtain ⟨htokens, hfailure⟩ := reaches_of_scan 0 0 text.toList
  rcases bind_eq_error.1 h with h | ⟨tokens, hscan, h⟩
  · exact (hfailure failure h).isStop
  · exact (hread (IsStop text) tokens (isStop_length hscan) fun token htoken =>
      (htokens tokens hscan token htoken).isStop).position h

/-- **The place of a fault can be used**: it is the number of characters of the text or the index of
one of them that is not blank, and the text that is cut off in front of it has tokens. -/
theorem Failure.position_of_parse (schema : Schema) (text : String) {failure : Failure}
    (h : Filter.parse schema text = .error failure ∨ OrderBy.parse schema text = .error failure) :
    (failure.position = text.length
        ∨ ∃ c, text.toList[failure.position]? = some c ∧ Text.isBlank c = false)
      ∧ ∃ tokens, Lexer.tokenize (String.ofList (text.toList.take failure.position))
        = .ok tokens := by
  rcases h with h | h
  · exact Lexer.isStop_of_tokenize_bind (fun _ _ hend htokens =>
      Filter.failsAt_ofTokens ⟨schema, text.length⟩ hend htokens) h
  · exact Lexer.isStop_of_tokenize_bind (fun _ _ hend htokens =>
      OrderBy.failsAt_ofTokens hend schema htokens) h

/-- A literal that is not ended: the fault is at its quote, and the word in front of it is read. -/
theorem Failure.position_of_parse_of_open_literal :
    let schema : Schema := ⟨"Note", .ofList [("Fällig", { type := .dateTime })]⟩
    let text := "Fällig lt datetime'2020-02-29"
    Filter.parse schema text = .error ⟨18, .unterminatedString⟩
      ∧ (18 = text.length ∨ ∃ c, text.toList[18]? = some c ∧ Text.isBlank c = false)
      ∧ ∃ tokens, Lexer.tokenize (String.ofList (text.toList.take 18)) = .ok tokens := by
  intro schema text
  have hparse : Filter.parse schema text = .error ⟨18, .unterminatedString⟩ := by
    have htokens : Lexer.tokenize text = .error ⟨18, .unterminatedString⟩ := by decide +kernel
    rw [Filter.parse, htokens]
    rfl
  exact ⟨hparse, Failure.position_of_parse schema text (.inl hparse)⟩

end ODataQuery
