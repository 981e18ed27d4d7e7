import ODataQuery.Proofs.QueryString.Soundness

/-!
# What is in the grammar is read

The tokens of a typed phrase that is neither too deep nor too tall are read, up to whatever does not
continue the phrase.

* `Level.inside`, `Follows`: the operators that continue the parts of a phrase, and what may stand
  after a part: none of them, and no parenthesis that would make a name a call.
* `parserAt`: the parser of a level.
* `Reads`: a phrase is read up to the point where its chain would go on.  A chain groups to the
  left, so its first part is followed by an operator of the chain itself; this is what lets the
  induction over phrases go through a chain.
* `reads_of_derives`: the induction.
* `ofTokens_eq_ok_iff_derives`, `parse_eq_ok_iff`: tokens, and a text, are read as a tree exactly when
  they are those of the tree.
-/

set_option autoImplicit false

namespace ODataQuery
namespace Filter

/-! ## What follows a phrase -/

/-- The operators that continue the parts of a phrase. -/
def Level.inside : Level → List Operator
  | operand | product => []
  | sum => productOperators
  | comparison | negation | conjunction => comparisonOperators ++ sumOperators ++ productOperators
  | disjunction =>
    comparisonOperators ++ sumOperators ++ productOperators ++ [.connective .and]

theorem Level.inside_subset {level inner : Level} (h : level.tighter? = some inner) :
    inner.inside ++ inner.chained ⊆ level.inside := by
  cases level <;> cases h <;> decide

theorem Level.not_mem_inside {level : Level} {operator : Operator} (h : operator ∈ level.chained) :
    operator ∉ level.inside := by
  revert h
  revert operator
  cases level <;> decide

/-- What is left does not continue a phrase by one of some operators, and does not make a name a
call. -/
def Follows (operators : List Operator) (rest : List Token) : Prop :=
  ∀ token ∈ rest.head?, token.kind ≠ .openParen
    ∧ ∀ operator ∈ operators, token.kind ≠ .identifier operator.keyword

theorem Follows.mono {operators fewer : List Operator} {rest : List Token}
    (h : Follows operators rest) (hsubset : fewer ⊆ operators) : Follows fewer rest :=
  fun token htoken => ⟨(h token htoken).1, fun operator hoperator =>
    (h token htoken).2 operator (hsubset hoperator)⟩

theorem keyword_injective {a b : Operator} (h : a.keyword = b.keyword) : a = b := by
  have ha := Operator.ofKeyword?_keyword a
  rw [h, Operator.ofKeyword?_keyword b] at ha
  exact (Option.some.inj ha).symm

/-- An operator follows what it does not continue. -/
theorem follows_operator {operators : List Operator} {operator : Operator}
    (h : operator ∉ operators) (position : Nat) (rest : List Token) :
    Follows operators (⟨.identifier operator.keyword, position⟩ :: rest) := by
  rintro token ⟨rfl⟩
  refine ⟨fun heq => (nomatch heq), fun other hother heq => h ?_⟩
  have hkeyword : operator.keyword = other.keyword := TokenKind.identifier.inj heq
  rwa [keyword_injective hkeyword]

/-- A closing parenthesis and a comma follow anything. -/
theorem follows_closing {kind : TokenKind} (hopen : kind ≠ .openParen)
    (hidentifier : ∀ word, kind ≠ .identifier word) (operators : List Operator) (position : Nat)
    (rest : List Token) : Follows operators (⟨kind, position⟩ :: rest) := by
  rintro token ⟨rfl⟩
  exact ⟨hopen, fun operator _ => hidentifier operator.keyword⟩

theorem operator?_of_follows {operators : List Operator} {rest : List Token}
    (h : Follows operators rest) : operator? operators rest = none := by
  cases hfound : operator? operators rest with
  | none => rfl
  | some found =>
    obtain ⟨operator, position, after⟩ := found
    obtain ⟨hmem, rfl⟩ := operator?_eq_some hfound
    exact absurd rfl ((h _ rfl).2 operator hmem)

theorem operator?_cons {operators : List Operator} {operator : Operator}
    (h : operator ∈ operators) (position : Nat) (rest : List Token) :
    operator? operators (⟨.identifier operator.keyword, position⟩ :: rest)
      = some (operator, position, rest) := by
  have hfind : operators.find? (·.keyword = operator.keyword) = some operator := by
    cases hfound : operators.find? (·.keyword = operator.keyword) with
    | none =>
      have hother := List.find?_eq_none.1 hfound operator h
      rw [decide_eq_true_eq] at hother
      exact absurd rfl hother
    | some found =>
      have hkeyword := List.find?_some hfound
      rw [keyword_injective (of_decide_eq_true hkeyword)]
  rw [operator?, hfind]
  rfl

/-- A chain stops where it is not continued. -/
theorem chainFrom_of_follows {operators : List Operator} {rest : List Token}
    (h : Follows operators rest) (next : Parser) (count : Nat) (left : Parsed) :
    chainFrom operators next count left rest = .ok (left, rest) := by
  cases count with
  | zero => rfl
  | succ count => rw [chainFrom, operator?_of_follows h]

/-! ## The start of a phrase -/

/-- Is the level tighter than negations. -/
def Level.isTight : Level → Bool
  | disjunction | conjunction | negation => false
  | comparison | sum | product | operand => true

/-- A phrase does not start with a closing parenthesis, and starts with `not` only if it is a
negation. -/
theorem Derives.start {level : Level} {marked : List Marked} {e : Expression}
    (h : Derives level marked e) : ∃ first rest, marked = first :: rest
      ∧ first.1 ≠ .closeParen ∧ (level.isTight = true → first.1 ≠ .identifier "not") := by
  induction h with
  | @tighter level inner _ _ hinner _ ih =>
    obtain ⟨first, rest, rfl, hclose, hnot⟩ := ih
    refine ⟨first, rest, rfl, hclose, fun htight => hnot ?_⟩
    cases level <;> cases hinner <;> first | rfl | cases htight
  | chain _ _ _ _ ih _ =>
    obtain ⟨first, rest, rfl, h⟩ := ih
    exact ⟨first, _, rfl, h⟩
  | comparison _ _ ih _ =>
    obtain ⟨first, rest, rfl, hclose, hnot⟩ := ih
    exact ⟨first, _, rfl, hclose, fun _ => hnot rfl⟩
  | not => exact ⟨_, _, rfl, fun h => (nomatch h), fun h => (nomatch h)⟩
  | integer | decimal | string | dateTime | parenthesized =>
    exact ⟨_, _, rfl, fun h => (nomatch h), fun _ h => (nomatch h)⟩
  | word hvalue =>
    refine ⟨_, _, rfl, fun h => (nomatch h), fun _ h => ?_⟩
    cases h
    cases hvalue
  | property _ hfree =>
    refine ⟨_, _, rfl, fun h => (nomatch h), fun _ h => ?_⟩
    cases h
    exact hfree (by decide)
  | call hname =>
    refine ⟨_, _, rfl, fun h => (nomatch h), fun _ h => ?_⟩
    cases h
    cases hname

/-! ## The parsers of the levels -/

/-- The parsers of the next inner level, if there is one. -/
def innerAt (context : Context) : Nat → Option Inner
  | 0 => none
  | levels + 1 => some (innerOf (negation context levels))

/-- The parser of a level, within which some levels may be nested. -/
def parserAt (context : Context) (levels : Nat) : Level → Parser
  | .disjunction => disjunction context levels
  | .conjunction => chain [.connective .and] (negation context levels)
  | .negation => negation context levels
  | .comparison => comparison context (innerAt context levels)
  | .sum => sum context (innerAt context levels)
  | .product => product context (innerAt context levels)
  | .operand => operand context (innerAt context levels)

/-- The parser of the parts of phrases of a level. -/
def partParser (context : Context) (levels : Nat) (level : Level) : Parser :=
  parserAt context levels (level.tighter?.getD level)

theorem negation_eq (context : Context) (levels : Nat) :
    negation context levels = negationOf context (innerAt context levels) := by
  cases levels <;> rfl

variable {context : Context}

/-- The parser of a level with a chain reads one. -/
theorem parserAt_of_chained {level : Level} {operator : Operator} (h : operator ∈ level.chained)
    (levels : Nat) :
    parserAt context levels level = chain level.chained (partParser context levels level) := by
  cases level <;> first | rfl | cases h

/-- A phrase is read up to the point where its chain would go on. -/
def Reads (context : Context) (levels : Nat) (level : Level) (tokens : List Token)
    (e : Expression) : Prop :=
  ∃ parsed : Parsed, parsed.expression = e ∧ parsed.Valid context.schema
    ∧ ∀ rest, Follows level.inside rest → ∃ count, rest.length ≤ count
      ∧ parserAt context levels level (tokens ++ rest)
        = chainFrom level.chained (partParser context levels level) count parsed rest

/-- A phrase is read completely if nothing continues it. -/
theorem Reads.finish {levels : Nat} {level : Level} {tokens : List Token} {e : Expression}
    (h : Reads context levels level tokens e) : ∃ parsed : Parsed, parsed.expression = e
      ∧ parsed.Valid context.schema
      ∧ ∀ rest, Follows (level.inside ++ level.chained) rest →
        parserAt context levels level (tokens ++ rest) = .ok (parsed, rest) := by
  obtain ⟨parsed, hexpression, hvalid, hreads⟩ := h
  refine ⟨parsed, hexpression, hvalid, fun rest hfollows => ?_⟩
  obtain ⟨count, -, hcount⟩ := hreads rest (hfollows.mono (List.subset_append_left _ _))
  rw [hcount, chainFrom_of_follows (hfollows.mono (List.subset_append_right _ _))]

/-- A phrase of a level without a chain is read if its parser reads it. -/
theorem Reads.of_unchained {levels : Nat} {level : Level} {tokens : List Token} {parsed : Parsed}
    (hvalid : parsed.Valid context.schema) (hchained : level.chained = [])
    (h : ∀ rest, Follows level.inside rest →
      parserAt context levels level (tokens ++ rest) = .ok (parsed, rest)) :
    Reads context levels level tokens parsed.expression := by
  refine ⟨parsed, rfl, hvalid, fun rest hfollows => ⟨rest.length, Nat.le_refl _, ?_⟩⟩
  rw [h rest hfollows, hchained, chainFrom_of_follows (hfollows.mono (List.nil_subset _))]

/-! ## Nodes of typed trees -/

/-- A typed node that is not too tall is made of its operands. -/
theorem exists_combine {left right : Parsed} {operator : Operator} {type : StaticType}
    (hleft : left.Valid context.schema) (hright : right.Valid context.schema)
    (htype : (Expression.binary left.expression operator right.expression).infer context.schema
      = .ok type)
    (hheight : (Expression.binary left.expression operator right.expression).height ≤ maxHeight)
    (position : Nat) : ∃ node, combine left operator position right = .ok node
      ∧ node.expression = .binary left.expression operator right.expression
      ∧ node.Valid context.schema := by
  obtain ⟨leftType, rightType, hleftType, hrightType, hresult⟩ :=
    Expression.infer_binary_eq_ok.1 htype
  rw [hleft.typed] at hleftType
  rw [hright.typed] at hrightType
  cases hleftType
  cases hrightType
  rw [Expression.height, ← hleft.height, ← hright.height] at hheight
  obtain ⟨node, hnode⟩ : ∃ node, combine left operator position right = .ok node :=
    ⟨_, bind_eq_ok.2 ⟨type, typed_eq_ok.2 hresult,
      bind_eq_ok.2 ⟨_, taller_eq_ok.2 ⟨hheight, rfl⟩, rfl⟩⟩⟩
  exact ⟨node, hnode, valid_combine hnode hleft hright⟩

theorem exists_negate {operand : Parsed} {type : StaticType}
    (hoperand : operand.Valid context.schema)
    (htype : operand.expression.not.infer context.schema = .ok type)
    (hheight : operand.expression.not.height ≤ maxHeight) (position : Nat) :
    ∃ node, negate position operand = .ok node ∧ node.expression = operand.expression.not
      ∧ node.Valid context.schema := by
  have hboolean := (Expression.infer_not_eq_ok.1 htype).1
  rw [hoperand.typed] at hboolean
  rw [Expression.height, ← hoperand.height] at hheight
  obtain ⟨node, hnode⟩ : ∃ node, negate position operand = .ok node :=
    ⟨_, bind_eq_ok.2 ⟨_, typed_eq_ok.2 (StaticType.ofNot_eq_ok.2 ⟨Except.ok.inj hboolean, rfl⟩),
      bind_eq_ok.2 ⟨_, taller_eq_ok.2 ⟨hheight, rfl⟩, rfl⟩⟩⟩
  exact ⟨node, hnode, valid_negate hnode hoperand⟩

theorem exists_applyFunction {function : Function} {args : List Parsed} {type : StaticType}
    (hargs : ∀ arg ∈ args, arg.Valid context.schema)
    (htype : (Expression.call function (args.map Parsed.expression)).infer context.schema
      = .ok type)
    (hheight : (Expression.call function (args.map Parsed.expression)).height ≤ maxHeight)
    (position : Nat) : ∃ node, applyFunction function args position = .ok node
      ∧ node.expression = .call function (args.map Parsed.expression)
      ∧ node.Valid context.schema := by
  obtain ⟨types, htypes, hresult⟩ := Expression.infer_call_eq_ok.1 htype
  rw [inferArgs_of_valid hargs] at htypes
  cases htypes
  have harity := Function.length_eq_arity hresult
  rw [List.length_map] at harity
  rw [Expression.height, ← tallest_map_expression hargs] at hheight
  obtain ⟨node, hnode⟩ : ∃ node, applyFunction function args position = .ok node := by
    rw [applyFunction, if_neg (not_not.2 harity), hresult]
    exact ⟨_, bind_eq_ok.2 ⟨type, rfl, bind_eq_ok.2 ⟨_, taller_eq_ok.2 ⟨hheight, rfl⟩, rfl⟩⟩⟩
  exact ⟨node, hnode, valid_applyFunction hnode hargs⟩

/-! ## Tokens of phrases -/

/-- Tokens are marked ones, whatever their places are. -/
def Spells (tokens : List Token) (marked : List Marked) : Prop :=
  tokens.map Token.kind = marked.map Prod.fst

namespace Spells

variable {tokens : List Token} {marked more : List Marked}

theorem cons {kind : TokenKind} {depth : Nat} (h : Spells tokens ((kind, depth) :: marked)) :
    ∃ position rest, tokens = ⟨kind, position⟩ :: rest ∧ Spells rest marked := by
  obtain ⟨⟨first, position⟩, rest, rfl, rfl, hrest⟩ := List.map_eq_cons_iff.1 h
  exact ⟨position, rest, rfl, hrest⟩

theorem append (h : Spells tokens (marked ++ more)) :
    ∃ before after, tokens = before ++ after ∧ Spells before marked ∧ Spells after more := by
  rw [Spells, List.map_append] at h
  exact List.map_eq_append_iff.1 h

/-- The tokens of two phrases around an operator. -/
theorem binary {operator : Operator}
    (h : Spells tokens (marked ++ operatorToken operator :: more)) :
    ∃ left position right, tokens = left ++ ⟨.identifier operator.keyword, position⟩ :: right
      ∧ Spells left marked ∧ Spells right more := by
  obtain ⟨left, after, rfl, hleft, hafter⟩ := h.append
  obtain ⟨position, right, rfl, hright⟩ := hafter.cons
  exact ⟨left, position, right, rfl, hleft, hright⟩

theorem singleton {kind : TokenKind} {depth : Nat} (h : Spells tokens [(kind, depth)]) :
    ∃ position, tokens = [⟨kind, position⟩] := by
  obtain ⟨position, rest, rfl, hrest⟩ := h.cons
  exact ⟨position, by rw [List.map_eq_nil_iff.1 hrest]⟩

theorem of_enclosed (h : Spells tokens (enclosed marked)) : Spells tokens marked := by
  rw [Spells, map_fst_enclosed] at h
  exact h

theorem closed (h : Spells tokens (enclosed marked ++ [(.closeParen, 0)])) :
    ∃ inside position, tokens = inside ++ [⟨.closeParen, position⟩] ∧ Spells inside marked := by
  obtain ⟨inside, close, rfl, hinside, hclose⟩ := h.append
  obtain ⟨position, rfl⟩ := hclose.singleton
  exact ⟨inside, position, rfl, hinside.of_enclosed⟩

end Spells

theorem not?_of_start {tokens : List Token} {marked : List Marked} {level : Level} {e : Expression}
    (hderives : Derives level marked e) (htight : level.isTight = true)
    (hspells : Spells tokens marked) (rest : List Token) : not? (tokens ++ rest) = none := by
  obtain ⟨⟨kind, depth⟩, more, rfl, -, hnot⟩ := hderives.start
  obtain ⟨position, after, rfl, -⟩ := hspells.cons
  have hnot := hnot htight
  rw [List.cons_append, not?.eq_def]
  split
  · rename_i word _ _ heq
    cases heq
    exact if_neg fun hword => hnot (congrArg TokenKind.identifier hword)
  · rfl

/-! ## Rules of the grammar -/

section

variable {levels : Nat} {tokens : List Token} {marked : List Marked} {e : Expression}

/-- A phrase of the parts of a level is a phrase of the level. -/
theorem reads_tighter {level inner : Level} (hinner : level.tighter? = some inner)
    (hderives : Derives inner marked e) (hspells : Spells tokens marked)
    (h : Reads context levels inner tokens e) : Reads context levels level tokens e := by
  obtain ⟨parsed, rfl, hvalid, hfinish⟩ := h.finish
  have hpart : ∀ rest, Follows level.inside rest →
      parserAt context levels inner (tokens ++ rest) = .ok (parsed, rest) := fun rest hfollows =>
    hfinish rest (hfollows.mono (Level.inside_subset hinner))
  cases hchained : level.chained with
  | cons operator others =>
    -- the first part of a chain is read, and nothing more of the chain yet
    refine ⟨parsed, rfl, hvalid, fun rest hfollows => ⟨rest.length, Nat.le_refl _, ?_⟩⟩
    have hread : partParser context levels level (tokens ++ rest) = .ok (parsed, rest) := by
      rw [partParser, hinner]
      exact hpart rest hfollows
    rw [parserAt_of_chained (hchained ▸ List.mem_cons_self), chain, hread, hchained]
    rfl
  | nil =>
    refine .of_unchained hvalid hchained fun rest hfollows => ?_
    have hread := hpart rest hfollows
    cases level with
    | negation =>
      cases hinner
      rw [parserAt, negation_eq, negationOf, not?_of_start hderives rfl hspells]
      exact hread
    | comparison =>
      cases hinner
      have hnone : operator? comparisonOperators rest = none :=
        operator?_of_follows (hfollows.mono (by decide))
      rw [parserAt] at hread
      rw [parserAt, comparison, hread]
      dsimp only [bind, Except.bind]
      rw [hnone]
    | operand => cases hinner
    | disjunction | conjunction | sum | product => cases hchained

/-- A chain is read if its left part is, and the part after its last operator. -/
theorem reads_chain {level inner : Level} {operator : Operator}
    {leftTokens rightTokens : List Token} {left right : Expression} {type : StaticType}
    (hinner : level.tighter? = some inner)
    (hoperator : operator ∈ level.chained)
    (htype : (Expression.binary left operator right).infer context.schema = .ok type)
    (hheight : (Expression.binary left operator right).height ≤ maxHeight)
    (hleft : Reads context levels level leftTokens left)
    (hright : Reads context levels inner rightTokens right) (position : Nat) :
    Reads context levels level
      (leftTokens ++ ⟨.identifier operator.keyword, position⟩ :: rightTokens)
      (.binary left operator right) := by
  obtain ⟨leftParsed, rfl, hleftValid, hleft⟩ := hleft
  obtain ⟨rightParsed, rfl, hrightValid, hright⟩ := hright.finish
  obtain ⟨node, hnode, hexpression, hvalid⟩ :=
    exists_combine hleftValid hrightValid htype hheight position
  refine ⟨node, hexpression, hvalid, fun rest hfollows => ?_⟩
  have hpart : partParser context levels level (rightTokens ++ rest) = .ok (rightParsed, rest) := by
    rw [partParser, hinner]
    exact hright rest (hfollows.mono (Level.inside_subset hinner))
  -- the left part leaves off at the operator, with enough tokens to count for going on
  obtain ⟨count, hcount, hread⟩ :=
    hleft (⟨.identifier operator.keyword, position⟩ :: (rightTokens ++ rest))
      (follows_operator (Level.not_mem_inside hoperator) _ _)
  rw [List.length_cons, List.length_append] at hcount
  obtain ⟨fewer, rfl⟩ : ∃ fewer, count = fewer + 1 := ⟨count - 1, by omega⟩
  refine ⟨fewer, by omega, ?_⟩
  rw [List.append_assoc, List.cons_append, hread, chainFrom, operator?_cons hoperator]
  dsimp only [bind, Except.bind]
  rw [hpart]
  dsimp only
  rw [hnode]

/-- A comparison is read if its sides are. -/
theorem reads_comparison {c : Comparison} {leftTokens rightTokens : List Token}
    {left right : Expression} {type : StaticType}
    (htype : (Expression.binary left (.comparison c) right).infer context.schema = .ok type)
    (hheight : (Expression.binary left (.comparison c) right).height ≤ maxHeight)
    (hleft : Reads context levels .sum leftTokens left)
    (hright : Reads context levels .sum rightTokens right) (position : Nat) :
    Reads context levels .comparison
      (leftTokens ++ ⟨.identifier (Operator.comparison c).keyword, position⟩ :: rightTokens)
      (.binary left (.comparison c) right) := by
  obtain ⟨leftParsed, rfl, hleftValid, hleft⟩ := hleft.finish
  obtain ⟨rightParsed, rfl, hrightValid, hright⟩ := hright.finish
  obtain ⟨node, hnode, hexpression, hvalid⟩ :=
    exists_combine hleftValid hrightValid htype hheight position
  rw [← hexpression]
  refine .of_unchained hvalid rfl fun rest hfollows => ?_
  have hother : Operator.comparison c ∉ Level.sum.inside ++ Level.sum.chained := by
    cases c <;> decide
  have hreadLeft := hleft _ (follows_operator hother position (rightTokens ++ rest))
  have hreadRight := hright rest (hfollows.mono (by decide))
  rw [parserAt] at hreadLeft hreadRight
  have hoperator : Operator.comparison c ∈ comparisonOperators := by cases c <;> decide
  rw [parserAt, comparison, List.append_assoc, List.cons_append, hreadLeft]
  dsimp only [bind, Except.bind]
  rw [operator?_cons hoperator]
  dsimp only
  rw [hreadRight]
  dsimp only
  rw [hnode]

/-- A negation is read if its operand is, with one level less nested in it. -/
theorem reads_not {type : StaticType} (htype : e.not.infer context.schema = .ok type)
    (hheight : e.not.height ≤ maxHeight) (h : Reads context levels .negation tokens e)
    (position : Nat) :
    Reads context (levels + 1) .negation (⟨.identifier "not", position⟩ :: tokens) e.not := by
  obtain ⟨operand, rfl, hvalid, hfinish⟩ := h.finish
  obtain ⟨node, hnode, hexpression, hnodeValid⟩ := exists_negate hvalid htype hheight position
  rw [← hexpression]
  refine .of_unchained hnodeValid rfl fun rest hfollows => ?_
  have hread := hfinish rest (hfollows.mono (by decide))
  have hnot : not? (⟨.identifier "not", position⟩ :: (tokens ++ rest))
      = some (position, tokens ++ rest) := by
    rw [not?, if_pos rfl]
  rw [parserAt] at hread
  rw [parserAt, negation, negationOf, List.cons_append, hnot]
  dsimp only [innerOf, bind, Except.bind]
  rw [hread]
  dsimp only
  rw [hnode]

/-- A literal is read if its token stands for it. -/
theorem reads_literal {kind : TokenKind} {value : Value} {position : Nat}
    (h : ∀ rest, operand context (innerAt context levels) (⟨kind, position⟩ :: rest)
      = .ok (literal value position, rest)) :
    Reads context levels .operand [⟨kind, position⟩] (.literal value) :=
  .of_unchained (valid_literal value position) rfl fun rest _ => h rest

/-- A name that is not reserved is read as a property of the schema. -/
theorem reads_property {name : String} {type : StaticType} (hword : wordValue? name = none)
    (hfree : name ∉ reservedWords)
    (htype : (Expression.property name).infer context.schema = .ok type) (position : Nat) :
    Reads context levels .operand [⟨.identifier name, position⟩] (.property name) := by
  obtain ⟨declared, hdeclared, -⟩ := Expression.infer_property_eq_ok.1 htype
  obtain ⟨leaf, hleaf⟩ : ∃ leaf, property context name position = .ok leaf := by
    rw [property, Schema.lookup, hdeclared]
    exact ⟨_, rfl⟩
  obtain ⟨hexpression, hvalid⟩ := valid_property hleaf
  rw [← hexpression]
  refine .of_unchained hvalid rfl fun rest hfollows => ?_
  have hreserved : ¬ reservedWords.contains name = true := by
    rwa [List.contains_iff_mem]
  rw [parserAt, List.singleton_append, operand, named.eq_def, hword]
  dsimp only
  split
  · -- a parenthesis would have made the name a call
    rename_i openPosition after
    exact absurd rfl (hfollows _ rfl).1
  · rw [if_neg hreserved, hleaf]
    rfl

/-- What stands in parentheses is read with one level less nested in it. -/
theorem reads_parenthesized (h : Reads context levels .disjunction tokens e)
    (position closePosition : Nat) :
    Reads context (levels + 1) .operand
      (⟨.openParen, position⟩ :: (tokens ++ [⟨.closeParen, closePosition⟩])) e := by
  obtain ⟨parsed, rfl, hvalid, hfinish⟩ := h.finish
  -- the parentheses move the place that is noted, and nothing else
  refine ⟨{ parsed with position := position }, rfl,
    ⟨hvalid.typed, hvalid.height, hvalid.low⟩,
    fun rest hfollows => ⟨rest.length, Nat.le_refl _, ?_⟩⟩
  have hclose : Follows (Level.disjunction.inside ++ Level.disjunction.chained)
      (⟨.closeParen, closePosition⟩ :: rest) :=
    follows_closing (by decide) (by simp) _ _ _
  have hread := hfinish _ hclose
  rw [parserAt, disjunction] at hread
  rw [parserAt, innerAt, List.cons_append, List.append_assoc, List.singleton_append, operand]
  dsimp only [parenthesized, innerOf, bind, Except.bind]
  rw [hread]
  exact (chainFrom_of_follows hfollows _ _ _).symm

/-! ## Calls -/

/-- What is enclosed by something is read with one level less. -/
theorem exists_fewer (hsome : marked ≠ []) (hdepth : ∀ token ∈ enclosed marked, token.2 ≤ levels) :
    ∃ fewer, levels = fewer + 1 ∧ ∀ token ∈ marked, token.2 ≤ fewer := by
  obtain ⟨first, rest, rfl⟩ := List.exists_cons_of_ne_nil hsome
  have hfirst : first.2 + 1 ≤ levels :=
    hdepth (first.1, first.2 + 1) (List.mem_map_of_mem List.mem_cons_self)
  obtain ⟨fewer, rfl⟩ : ∃ fewer, levels = fewer + 1 := ⟨levels - 1, by omega⟩
  exact ⟨fewer, rfl, forall_mem_enclosed.1 hdepth⟩

/-- There is a token for every argument but one. -/
theorem length_le_commaSeparated (phrases : List (List Marked)) :
    phrases.length ≤ (commaSeparated phrases).length + 1 := by
  induction phrases with
  | nil => exact Nat.zero_le _
  | cons first others ih =>
    cases others with
    | nil => exact Nat.le_add_left _ _
    | cons second others =>
      simp only [commaSeparated_cons_cons, List.length_append, List.length_cons] at ih ⊢
      omega

/-- A phrase is one of those between the commas. -/
theorem subset_commaSeparated {phrases : List (List Marked)} {phrase : List Marked}
    (h : phrase ∈ phrases) : phrase ⊆ commaSeparated phrases := by
  induction phrases with
  | nil => cases h
  | cons first others ih =>
    cases others with
    | nil =>
      rw [List.mem_singleton.1 h, commaSeparated_singleton]
      exact List.Subset.refl _
    | cons second others =>
      rw [commaSeparated_cons_cons]
      rcases List.mem_cons.1 h with rfl | h
      · exact List.subset_append_left _ _
      · exact fun token htoken =>
          List.mem_append_right _ (List.mem_cons_of_mem _ (ih h htoken))

/-- Arguments are read up to the parenthesis after them. -/
theorem exists_argumentsFrom {phrases : List (List Marked × Expression)} (hsome : phrases ≠ [])
    (hreads : ∀ phrase ∈ phrases, ∀ tokens, Spells tokens phrase.1 →
      Reads context levels .disjunction tokens phrase.2)
    (hspells : Spells tokens (commaSeparated (phrases.map Prod.fst))) :
    ∃ args, args.map Parsed.expression = phrases.map Prod.snd
      ∧ (∀ arg ∈ args, arg.Valid context.schema)
      ∧ ∀ count position rest, phrases.length ≤ count →
        argumentsFrom context (disjunction context levels) count
          (tokens ++ ⟨.closeParen, position⟩ :: rest) = .ok (args, rest) := by
  induction phrases generalizing tokens with
  | nil => exact absurd rfl hsome
  | cons phrase others ih =>
    cases others with
    | nil =>
      rw [List.map_singleton, commaSeparated_singleton] at hspells
      obtain ⟨arg, hexpression, hvalid, hfinish⟩ :=
        (hreads phrase List.mem_cons_self tokens hspells).finish
      refine ⟨[arg], ?_, ?_, fun count position rest hcount => ?_⟩
      · rw [List.map_singleton, hexpression, List.map_singleton]
      · simpa using hvalid
      · obtain ⟨fewer, rfl⟩ : ∃ fewer, count = fewer + 1 :=
          ⟨count - 1, by rw [List.length_singleton] at hcount; omega⟩
        have hread := hfinish (⟨.closeParen, position⟩ :: rest)
          (follows_closing (by decide) (by simp) _ _ _)
        rw [parserAt] at hread
        rw [argumentsFrom, hread]
        rfl
    | cons second others =>
      rw [List.map_cons, List.map_cons, commaSeparated_cons_cons] at hspells
      obtain ⟨before, after, rfl, hbefore, hafter⟩ := hspells.append
      obtain ⟨commaPosition, more, rfl, hmoreSpells⟩ := hafter.cons
      obtain ⟨arg, hexpression, hvalid, hfinish⟩ :=
        (hreads phrase List.mem_cons_self before hbefore).finish
      obtain ⟨args, hexpressions, hvalids, hmore⟩ := ih (List.cons_ne_nil _ _)
        (fun other hother => hreads other (List.mem_cons_of_mem _ hother)) hmoreSpells
      refine ⟨arg :: args, ?_, List.forall_mem_cons.2 ⟨hvalid, hvalids⟩,
        fun count position rest hcount => ?_⟩
      · rw [List.map_cons, hexpression, hexpressions]
        rfl
      · obtain ⟨fewer, rfl⟩ : ∃ fewer, count = fewer + 1 :=
          ⟨count - 1, by rw [List.length_cons] at hcount; omega⟩
        have hread := hfinish (⟨.comma, commaPosition⟩ :: (more ++ ⟨.closeParen, position⟩ :: rest))
          (follows_closing (by decide) (by simp) _ _ _)
        rw [parserAt] at hread
        rw [argumentsFrom, List.append_assoc, List.cons_append, hread]
        dsimp only [bind, Except.bind]
        rw [hmore fewer position rest (Nat.le_of_succ_le_succ hcount)]

/-- The arguments of a call do not start with a closing parenthesis. -/
theorem start_commaSeparated {args : List (List Marked × Expression)} (hsome : args ≠ [])
    (hderives : ∀ arg ∈ args, Derives .disjunction arg.1 arg.2) : ∃ first rest,
      commaSeparated (args.map Prod.fst) = first :: rest ∧ first.1 ≠ .closeParen := by
  obtain ⟨arg, others, rfl⟩ := List.exists_cons_of_ne_nil hsome
  obtain ⟨first, rest, hfirst, hclose, -⟩ := (hderives arg List.mem_cons_self).start
  cases others with
  | nil => exact ⟨first, rest, by rw [List.map_singleton, commaSeparated_singleton, hfirst], hclose⟩
  | cons second others =>
    refine ⟨first, rest ++ (.comma, 0) :: commaSeparated ((second :: others).map Prod.fst), ?_,
      hclose⟩
    rw [List.map_cons, List.map_cons, commaSeparated_cons_cons, hfirst, List.cons_append]

/-- Arguments that are not closed at once are read one by one. -/
theorem arguments_of_start {first : Token} (h : first.kind ≠ .closeParen) (disjunction : Parser)
    (rest : List Token) : arguments context disjunction (first :: rest)
      = argumentsFrom context disjunction ((first :: rest).length + 1) (first :: rest) := by
  rw [arguments.eq_def]
  split
  · rename_i heq
    cases heq
    exact absurd rfl h
  · rfl

theorem wordValue?_of_ofName? {name : String} {function : Function}
    (h : Function.ofName? name = some function) : wordValue? name = none := by
  rw [wordValue?]
  split
  · rename_i htrue
    rw [htrue] at h
    cases h
  split
  · rename_i hfalse
    rw [hfalse] at h
    cases h
  split
  · rename_i hnull
    rw [hnull] at h
    cases h
  · rfl

/-- The arguments of a call are read after its opening parenthesis, up to the closing one. -/
theorem exists_arguments {args : List (List Marked × Expression)} (hsome : args ≠ [])
    (hderives : ∀ arg ∈ args, Derives .disjunction arg.1 arg.2)
    (hreads : ∀ arg ∈ args, ∀ tokens, Spells tokens arg.1 →
      Reads context levels .disjunction tokens arg.2)
    (hspells : Spells tokens (commaSeparated (args.map Prod.fst))) :
    ∃ parsed, parsed.map Parsed.expression = args.map Prod.snd
      ∧ (∀ arg ∈ parsed, arg.Valid context.schema)
      ∧ ∀ position rest, arguments context (disjunction context levels)
          (tokens ++ ⟨.closeParen, position⟩ :: rest) = .ok (parsed, rest) := by
  obtain ⟨parsed, hexpressions, hvalids, hread⟩ := exists_argumentsFrom hsome hreads hspells
  refine ⟨parsed, hexpressions, hvalids, fun position rest => ?_⟩
  have hlength : args.length ≤ tokens.length + 1 := by
    have hcommas := length_le_commaSeparated (args.map Prod.fst)
    have htokens := congrArg List.length hspells
    rw [List.length_map] at hcommas
    rw [List.length_map, List.length_map] at htokens
    omega
  obtain ⟨⟨kind, depth⟩, more, hstart, hclose⟩ := start_commaSeparated hsome hderives
  rw [hstart] at hspells
  obtain ⟨firstPosition, others, rfl, -⟩ := hspells.cons
  rw [List.cons_append, arguments_of_start hclose, ← List.cons_append]
  refine hread _ position rest (Nat.le_trans hlength ?_)
  rw [List.length_append]
  omega

/-- A call is read if its arguments are, with one level less nested in them. -/
theorem reads_call {name : String} {function : Function} {args : List (List Marked × Expression)}
    {type : StaticType} (hname : Function.ofName? name = some function)
    (hderives : ∀ arg ∈ args, Derives .disjunction arg.1 arg.2)
    (htype : (Expression.call function (args.map Prod.snd)).infer context.schema = .ok type)
    (hheight : (Expression.call function (args.map Prod.snd)).height ≤ maxHeight)
    (hsome : args ≠ [])
    (hreads : ∀ arg ∈ args, ∀ tokens, Spells tokens arg.1 →
      Reads context levels .disjunction tokens arg.2)
    (hspells : Spells tokens (commaSeparated (args.map Prod.fst)))
    (position openPosition closePosition : Nat) :
    Reads context (levels + 1) .operand
      (⟨.identifier name, position⟩ :: ⟨.openParen, openPosition⟩
        :: (tokens ++ [⟨.closeParen, closePosition⟩]))
      (.call function (args.map Prod.snd)) := by
  obtain ⟨parsed, hexpressions, hvalids, hread⟩ :=
    exists_arguments hsome hderives hreads hspells
  rw [← hexpressions] at htype hheight
  obtain ⟨node, hnode, hexpression, hvalid⟩ :=
    exists_applyFunction hvalids htype hheight position
  rw [← hexpressions, ← hexpression]
  refine .of_unchained hvalid rfl fun rest _ => ?_
  have harguments := hread closePosition rest
  rw [disjunction] at harguments
  rw [parserAt, innerAt, List.cons_append, List.cons_append, List.append_assoc,
    List.singleton_append, operand, named, wordValue?_of_ofName? hname]
  dsimp only [call, innerOf]
  rw [hname]
  dsimp only [bind, Except.bind]
  rw [harguments]
  dsimp only
  rw [hnode]

/-! ## The induction over phrases -/

theorem height_operands_le {left right : Expression} {operator : Operator} {bound : Nat}
    (h : (Expression.binary left operator right).height ≤ bound) :
    left.height ≤ bound ∧ right.height ≤ bound := by
  rw [Expression.height] at h
  omega

theorem height_le_tallest {args : List Expression} {arg : Expression} (h : arg ∈ args) :
    arg.height ≤ tallest args := by
  induction args with
  | nil => cases h
  | cons first rest ih =>
    rw [tallest]
    rcases List.mem_cons.1 h with rfl | h
    · exact Nat.le_max_left _ _
    · exact Nat.le_trans (ih h) (Nat.le_max_right _ _)

/-- **The tokens of a typed phrase are read**, if it is neither too deep nor too tall. -/
theorem reads_of_derives {level : Level} {type : StaticType} (hderives : Derives level marked e)
    (htype : e.infer context.schema = .ok type) (hheight : e.height ≤ maxHeight)
    (hdepth : ∀ token ∈ marked, token.2 ≤ levels) (hspells : Spells tokens marked) :
    Reads context levels level tokens e := by
  induction hderives generalizing levels tokens type with
  | tighter hinner h ih => exact reads_tighter hinner h hspells (ih htype hheight hdepth hspells)
  | chain hinner hoperator _ _ ihLeft ihRight =>
    obtain ⟨leftType, rightType, hleftType, hrightType, -⟩ := Expression.infer_binary_eq_ok.1 htype
    obtain ⟨hleftHeight, hrightHeight⟩ := height_operands_le hheight
    rw [List.forall_mem_append, List.forall_mem_cons] at hdepth
    obtain ⟨leftTokens, position, rightTokens, rfl, hleftSpells, hrightSpells⟩ := hspells.binary
    exact reads_chain hinner hoperator htype hheight
      (ihLeft hleftType hleftHeight hdepth.1 hleftSpells)
      (ihRight hrightType hrightHeight hdepth.2.2 hrightSpells) position
  | comparison _ _ ihLeft ihRight =>
    obtain ⟨leftType, rightType, hleftType, hrightType, -⟩ := Expression.infer_binary_eq_ok.1 htype
    obtain ⟨hleftHeight, hrightHeight⟩ := height_operands_le hheight
    rw [List.forall_mem_append, List.forall_mem_cons] at hdepth
    obtain ⟨leftTokens, position, rightTokens, rfl, hleftSpells, hrightSpells⟩ := hspells.binary
    exact reads_comparison htype hheight
      (ihLeft hleftType hleftHeight hdepth.1 hleftSpells)
      (ihRight hrightType hrightHeight hdepth.2.2 hrightSpells) position
  | not h ih =>
    obtain ⟨first, rest, hmarked, -⟩ := h.start
    rw [List.forall_mem_cons] at hdepth
    obtain ⟨fewer, rfl, hfewer⟩ := exists_fewer (hmarked ▸ List.cons_ne_nil _ _) hdepth.2
    obtain ⟨position, operandTokens, rfl, hoperandSpells⟩ := hspells.cons
    have hoperandHeight := hheight
    rw [Expression.height] at hoperandHeight
    exact reads_not htype hheight (ih (Expression.infer_not_eq_ok.1 htype).1 (by omega) hfewer
      hoperandSpells.of_enclosed) position
  | integer | decimal | string | dateTime =>
    obtain ⟨position, rfl⟩ := hspells.singleton
    exact reads_literal fun rest => by rw [operand]
  | word hvalue =>
    obtain ⟨position, rfl⟩ := hspells.singleton
    exact reads_literal fun rest => by rw [operand, named.eq_def, hvalue]
  | property hword hfree =>
    obtain ⟨position, rfl⟩ := hspells.singleton
    exact reads_property hword hfree htype position
  | @call name function args hname hargs ih =>
    obtain ⟨position, afterName, rfl, hafterName⟩ := hspells.cons
    obtain ⟨openPosition, afterOpen, rfl, hafterOpen⟩ := hafterName.cons
    obtain ⟨argTokens, closePosition, rfl, hargSpells⟩ := hafterOpen.closed
    have hsome : args ≠ [] := by
      rintro rfl
      have harity := Expression.length_eq_arity_of_infer htype
      exact absurd harity.symm (Nat.ne_of_gt function.arity_pos)
    rw [List.forall_mem_cons, List.forall_mem_cons, List.forall_mem_append] at hdepth
    obtain ⟨first, rest, hstart, -⟩ := start_commaSeparated hsome hargs
    obtain ⟨fewer, rfl, hfewer⟩ := exists_fewer (hstart ▸ List.cons_ne_nil _ _) hdepth.2.2.1
    refine reads_call hname hargs htype hheight hsome (fun arg harg tokens harg' => ?_)
      hargSpells position openPosition closePosition
    obtain ⟨argType, hargType⟩ :=
      Expression.infer_arg_of_infer_call htype (List.mem_map_of_mem harg)
    have hargHeight : arg.2.height ≤ tallest (args.map Prod.snd) :=
      height_le_tallest (List.mem_map_of_mem harg)
    rw [Expression.height] at hheight
    exact ih arg harg hargType (by omega)
      (fun token htoken => hfewer token
        (subset_commaSeparated (List.mem_map_of_mem harg) htoken)) harg'
  | parenthesized h ih =>
    obtain ⟨first, rest, hmarked, -⟩ := h.start
    obtain ⟨position, afterOpen, rfl, hafterOpen⟩ := hspells.cons
    obtain ⟨innerTokens, closePosition, rfl, hinnerSpells⟩ := hafterOpen.closed
    rw [List.forall_mem_cons, List.forall_mem_append] at hdepth
    obtain ⟨fewer, rfl, hfewer⟩ := exists_fewer (hmarked ▸ List.cons_ne_nil _ _) hdepth.2.1
    exact reads_parenthesized (ih htype hheight hfewer hinnerSpells) position closePosition

end

/-! ## Reading a text -/

theorem consumes_nil {tokens : List Token} {marked : List Marked} :
    Consumes tokens marked [] ↔ Spells tokens marked := by
  rw [Consumes, List.map_nil, List.append_nil, Spells]

theorem ofTokens_eq_ok {tokens : List Token} {e : Expression} :
    ofTokens context tokens = .ok e ↔ ∃ parsed : Parsed, parsed.expression = e
      ∧ disjunction context maxNesting tokens = .ok (parsed, []) ∧ parsed.type = .boolean := by
  rw [ofTokens, bind_eq_ok]
  constructor
  · rintro ⟨⟨parsed, rest⟩, hread, h⟩
    dsimp only at h
    split at h
    · cases h
    split at h
    · rename_i htype
      cases h
      exact ⟨parsed, rfl, hread, htype⟩
    · cases h
  · rintro ⟨parsed, rfl, hread, htype⟩
    exact ⟨(parsed, []), hread, if_pos htype⟩

/-- **Tokens are read as a tree exactly when they are those of the tree**, which is a predicate and
not too tall, and not too many parentheses, `not`s and calls enclose any token. -/
theorem ofTokens_eq_ok_iff_derives {tokens : List Token} {e : Expression} :
    ofTokens context tokens = .ok e ↔ ∃ marked, Spells tokens marked ∧ Derives .disjunction marked e
      ∧ e.checkPredicate context.schema = .ok () ∧ (∀ token ∈ marked, token.2 ≤ maxNesting)
      ∧ e.height ≤ maxHeight := by
  rw [ofTokens_eq_ok]
  constructor
  · rintro ⟨parsed, rfl, hread, htype⟩
    obtain ⟨hvalid, marked, hconsumes, hderives, hdepth⟩ := sound_disjunction _ _ _ _ _ hread
    refine ⟨marked, consumes_nil.1 hconsumes, hderives, Expression.checkPredicate_eq_ok.2 ?_,
      hdepth, ?_⟩
    · rw [hvalid.typed, htype]
    · rw [← hvalid.height]
      exact hvalid.low
  · rintro ⟨marked, hspells, hderives, hpredicate, hdepth, hheight⟩
    have htype := Expression.checkPredicate_eq_ok.1 hpredicate
    have hreads : Reads context maxNesting .disjunction tokens e :=
      reads_of_derives hderives htype hheight hdepth hspells
    obtain ⟨parsed, rfl, hvalid, hfinish⟩ := hreads.finish
    have hread := hfinish [] fun _ h => (nomatch h)
    rw [List.append_nil] at hread
    refine ⟨parsed, rfl, hread, ?_⟩
    have htyped := hvalid.typed
    rw [htype] at htyped
    exact (Except.ok.inj htyped).symm

/-- **A text that tokenizes is read as a tree exactly when its tokens are those of the tree**, which
is a predicate and not too tall, and not too many parentheses, `not`s and calls enclose any
token. -/
theorem parse_eq_ok_iff {schema : Schema} {text : String} {tokens : List Token}
    (htokens : Lexer.tokenize text = .ok tokens) (e : Expression) :
    parse schema text = .ok e ↔ ∃ marked : List Marked,
      tokens.map Token.kind = marked.map Prod.fst ∧ Derives .disjunction marked e
        ∧ e.checkPredicate schema = .ok () ∧ (∀ token ∈ marked, token.2 ≤ maxNesting)
        ∧ e.height ≤ maxHeight := by
  rw [parse, htokens]
  exact ofTokens_eq_ok_iff_derives

theorem parse_eq_ok_iff_of_enclosed_call :
    let schema : Schema := ⟨"Note", .ofList [("Done", { type := .boolean }),
      ("Text", { type := .string })]⟩
    let text := "not (Done or startswith(Text, 'a'))"
    Lexer.tokenize text = .ok [⟨.identifier "not", 0⟩, ⟨.openParen, 4⟩, ⟨.identifier "Done", 5⟩,
        ⟨.identifier "or", 10⟩, ⟨.identifier "startswith", 13⟩, ⟨.openParen, 23⟩,
        ⟨.identifier "Text", 24⟩, ⟨.comma, 28⟩, ⟨.string "a", 30⟩, ⟨.closeParen, 33⟩,
        ⟨.closeParen, 34⟩]
      ∧ parse schema text = .ok (.not (.binary (.property "Done") (.connective .or)
        (.call (.test .startsWith) [.property "Text", .literal (.string "a")]))) := by
  intro schema text
  have htokens : Lexer.tokenize text = .ok [⟨.identifier "not", 0⟩, ⟨.openParen, 4⟩,
      ⟨.identifier "Done", 5⟩, ⟨.identifier "or", 10⟩, ⟨.identifier "startswith", 13⟩,
      ⟨.openParen, 23⟩, ⟨.identifier "Text", 24⟩, ⟨.comma, 28⟩, ⟨.string "a", 30⟩,
      ⟨.closeParen, 33⟩, ⟨.closeParen, 34⟩] := by
    decide +kernel
  have negation_of_operand : ∀ {marked : List Marked} {e : Expression},
      Derives .operand marked e → Derives .negation marked e := fun h =>
    .tighter rfl (.tighter rfl (.tighter rfl (.tighter rfl h)))
  have disjunction_of_operand : ∀ {marked : List Marked} {e : Expression},
      Derives .operand marked e → Derives .disjunction marked e := fun h =>
    .tighter rfl (.tighter rfl (negation_of_operand h))
  have hdone : Derives .operand [(.identifier "Done", 0)] (.property "Done") :=
    .property rfl (by decide)
  have htext : Derives .operand [(.identifier "Text", 0)] (.property "Text") :=
    .property rfl (by decide)
  have hargs : ∀ arg ∈ [([(TokenKind.identifier "Text", 0)], Expression.property "Text"),
      ([(.string "a", 0)], .literal (.string "a"))], Derives .disjunction arg.1 arg.2 :=
    List.forall_mem_cons.2 ⟨disjunction_of_operand htext,
      List.forall_mem_singleton.2 (disjunction_of_operand (.string "a"))⟩
  have hname : Function.ofName? "startswith" = some (.test .startsWith) := rfl
  have hcall := negation_of_operand (.call hname hargs)
  have hoperator : Operator.connective .or ∈ Level.disjunction.chained := by
    decide
  have hor := Derives.chain rfl hoperator (disjunction_of_operand hdone) (.tighter rfl hcall)
  have hnot := Derives.not (negation_of_operand (.parenthesized hor))
  refine ⟨htokens, (parse_eq_ok_iff htokens _).2
    ⟨_, ?_, .tighter rfl (.tighter rfl hnot), ?_, ?_, ?_⟩⟩
  · rfl
  · rfl
  · decide
  · decide

end Filter
end ODataQuery
