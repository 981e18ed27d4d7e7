import ODataQuery.Proofs.Expression.Typing
import ODataQuery.Proofs.QueryString.Grammar

/-!
# What is read is in the grammar

Every parser that succeeds takes the tokens of a phrase of its level off the front, and returns the
tree of the phrase with its type and height.

* `Parsed.Valid`: the type and the height that are noted beside a tree are its own.
* `Consumes`: what a parser takes off its tokens, whatever their places are.
* `Sound`: a parser reads phrases of a level; `sound_chain`, `sound_operand`, `sound_negationOf`
  show it of each parser, given it of those that it calls.
* `sound_disjunction`: so it holds of the parsers at every nesting level.
-/

set_option autoImplicit false

namespace ODataQuery
namespace Filter

variable {schema : Schema} {context : Context}

attribute [local simp] Expression.height

/-! ## Trees that are read -/

/-- The type and the height of a tree that is read are its own, and it is not too tall. -/
structure Parsed.Valid (schema : Schema) (parsed : Parsed) : Prop where
  typed : parsed.expression.infer schema = .ok parsed.type
  height : parsed.height = parsed.expression.height
  low : parsed.height ≤ maxHeight

theorem taller_eq_ok {position height result : Nat} :
    taller position height = .ok result ↔ height < maxHeight ∧ result = height + 1 := by
  rw [taller]
  split
  · rename_i hle
    simp [Nat.not_lt.2 hle]
  · rename_i hlt
    simp [Nat.lt_of_not_le hlt, eq_comm]

theorem typed_eq_ok {position : Nat} {result : Except TypeError StaticType} {type : StaticType} :
    typed position result = .ok type ↔ result = .ok type := by
  cases result <;> simp [typed]

/-- The node of an operator is valid over valid operands. -/
theorem valid_combine {left right node : Parsed} {operator : Operator} {position : Nat}
    (h : combine left operator position right = .ok node) (hleft : left.Valid schema)
    (hright : right.Valid schema) :
    node.expression = .binary left.expression operator right.expression ∧ node.Valid schema := by
  obtain ⟨type, htype, h⟩ := bind_eq_ok.1 h
  obtain ⟨height, hheight, h⟩ := bind_eq_ok.1 h
  obtain ⟨hlow, rfl⟩ := taller_eq_ok.1 hheight
  cases h
  refine ⟨rfl, Expression.infer_binary_eq_ok.2 ⟨_, _, hleft.typed, hright.typed,
    typed_eq_ok.1 htype⟩, ?_, hlow⟩
  rw [Expression.height, hleft.height, hright.height]

/-- The node of `not` is valid over a valid operand. -/
theorem valid_negate {operand node : Parsed} {position : Nat}
    (h : negate position operand = .ok node) (hoperand : operand.Valid schema) :
    node.expression = operand.expression.not ∧ node.Valid schema := by
  obtain ⟨type, htype, h⟩ := bind_eq_ok.1 h
  obtain ⟨height, hheight, h⟩ := bind_eq_ok.1 h
  obtain ⟨hlow, rfl⟩ := taller_eq_ok.1 hheight
  cases h
  obtain ⟨hboolean, rfl⟩ := StaticType.ofNot_eq_ok.1 (typed_eq_ok.1 htype)
  have htyped := hoperand.typed
  rw [hboolean] at htyped
  refine ⟨rfl, Expression.infer_not_eq_ok.2 ⟨htyped, rfl⟩, ?_, hlow⟩
  rw [Expression.height, hoperand.height]

theorem valid_literal (value : Value) (position : Nat) :
    (literal value position).Valid schema :=
  ⟨Expression.infer_literal value, by rw [literal, Expression.height], (by decide : 1 ≤ maxHeight)⟩

theorem valid_property {name : String} {position : Nat} {leaf : Parsed}
    (h : property context name position = .ok leaf) :
    leaf.expression = .property name ∧ leaf.Valid context.schema := by
  rw [property, Schema.lookup] at h
  cases hdeclared : context.schema.property? name with
  | none =>
    rw [hdeclared] at h
    cases h
  | some declared =>
    rw [hdeclared] at h
    cases h
    refine ⟨rfl, Expression.infer_property_eq_ok.2 ⟨declared, hdeclared, rfl⟩, ?_,
      (by decide : 1 ≤ maxHeight)⟩
    rw [Expression.height]

theorem tallest_map_expression {args : List Parsed} (hargs : ∀ arg ∈ args, arg.Valid schema) :
    (args.map Parsed.height).foldl max 0 = tallest (args.map Parsed.expression) := by
  have hfold : ∀ height, (args.map Parsed.height).foldl max height
      = max height (tallest (args.map Parsed.expression)) := by
    induction args with
    | nil =>
      intro height
      rw [List.map_nil, List.map_nil, tallest, Nat.max_zero]
      rfl
    | cons arg rest ih =>
      intro height
      rw [List.map_cons, List.map_cons, List.foldl_cons, tallest,
        ih (fun other hother => hargs other (List.mem_cons_of_mem arg hother)),
        (hargs arg List.mem_cons_self).height, Nat.max_assoc]
  rw [hfold, Nat.zero_max]

theorem inferArgs_of_valid {args : List Parsed} (hargs : ∀ arg ∈ args, arg.Valid schema) :
    Expression.inferArgs schema (args.map Parsed.expression) = .ok (args.map Parsed.type) := by
  rw [Expression.inferArgs_eq_ok, List.forall₂_map_left_iff, List.forall₂_map_right_iff]
  exact List.forall₂_same.2 fun arg harg => (hargs arg harg).typed

/-- The node of a call is valid over valid arguments. -/
theorem valid_applyFunction {function : Function} {args : List Parsed} {position : Nat}
    {node : Parsed} (h : applyFunction function args position = .ok node)
    (hargs : ∀ arg ∈ args, arg.Valid schema) :
    node.expression = .call function (args.map Parsed.expression) ∧ node.Valid schema := by
  rw [applyFunction] at h
  split at h
  · cases h
  cases hresult : function.resultType (args.map Parsed.type) with
  | error error =>
    rw [hresult] at h
    cases h
  | ok type =>
    rw [hresult] at h
    obtain ⟨_, htype, h⟩ := bind_eq_ok.1 h
    cases htype
    obtain ⟨height, hheight, h⟩ := bind_eq_ok.1 h
    obtain ⟨hlow, rfl⟩ := taller_eq_ok.1 hheight
    cases h
    refine ⟨rfl, Expression.infer_call_eq_ok.2 ⟨_, inferArgs_of_valid hargs, hresult⟩, ?_, hlow⟩
    rw [Expression.height, tallest_map_expression hargs]

/-! ## Tokens that are read -/

/-- The first of some tokens are marked ones, whatever their places are, and others are left. -/
def Consumes (tokens : List Token) (marked : List Marked) (rest : List Token) : Prop :=
  tokens.map Token.kind = marked.map Prod.fst ++ rest.map Token.kind

namespace Consumes

variable {tokens between rest : List Token} {marked more : List Marked}

theorem refl (tokens : List Token) : Consumes tokens [] tokens :=
  rfl

theorem trans (h : Consumes tokens marked between) (h' : Consumes between more rest) :
    Consumes tokens (marked ++ more) rest := by
  rw [Consumes, h, h', List.map_append, List.append_assoc]

theorem cons (h : Consumes tokens marked rest) (kind : TokenKind) (position depth : Nat) :
    Consumes (⟨kind, position⟩ :: tokens) ((kind, depth) :: marked) rest := by
  rw [Consumes, List.map_cons, h]
  rfl

/-- Only the kinds of the tokens matter. -/
theorem congr (h : Consumes tokens marked rest) (hkinds : more.map Prod.fst = marked.map Prod.fst) :
    Consumes tokens more rest := by
  rw [Consumes, h, hkinds]

/-- What a parenthesis closes is inside it. -/
theorem closed (h : Consumes tokens (marked ++ [(.closeParen, 0)]) rest) :
    Consumes tokens (enclosed marked ++ [(.closeParen, 0)]) rest := by
  refine h.congr ?_
  rw [List.map_append, List.map_append, map_fst_enclosed]

end Consumes

theorem operator?_eq_some {operators : List Operator} {tokens rest : List Token}
    {operator : Operator} {position : Nat}
    (h : operator? operators tokens = some (operator, position, rest)) :
    operator ∈ operators ∧ tokens = ⟨.identifier operator.keyword, position⟩ :: rest := by
  rw [operator?.eq_def] at h
  split at h
  · obtain ⟨found, hfound, heq⟩ := Option.map_eq_some_iff.1 h
    cases heq
    have hword := List.find?_some hfound
    exact ⟨List.mem_of_find?_eq_some hfound, by rw [of_decide_eq_true hword]⟩
  · cases h

theorem not?_eq_some {tokens rest : List Token} {position : Nat}
    (h : not? tokens = some (position, rest)) :
    tokens = ⟨.identifier "not", position⟩ :: rest := by
  rw [not?.eq_def] at h
  split at h
  · split at h
    · rename_i hword
      cases h
      rw [hword]
    · cases h
  · cases h

/-- A parser reads phrases of a level, within which not more than some levels are nested. -/
def Sound (schema : Schema) (level : Level) (levels : Nat) (parser : Parser) : Prop :=
  ∀ tokens parsed rest, parser tokens = .ok (parsed, rest) →
    parsed.Valid schema ∧ ∃ marked, Consumes tokens marked rest
      ∧ Derives level marked parsed.expression ∧ ∀ token ∈ marked, token.2 ≤ levels

variable {levels : Nat}

/-- What stands between two parts of a phrase is as deep as the phrase itself. -/
theorem depth_around {left right : List Marked} {kind : TokenKind}
    (hleft : ∀ token ∈ left, token.2 ≤ levels) (hright : ∀ token ∈ right, token.2 ≤ levels) :
    ∀ token ∈ left ++ (kind, 0) :: right, token.2 ≤ levels :=
  List.forall_mem_append.2 ⟨hleft, List.forall_mem_cons.2 ⟨Nat.zero_le levels, hright⟩⟩

/-- What stands in parentheses is enclosed by them, and they are not. -/
theorem depth_parenthesized {tokens : List Marked} (hdepth : ∀ token ∈ tokens, token.2 ≤ levels) :
    ∀ token ∈ (TokenKind.openParen, 0) :: (enclosed tokens ++ [(TokenKind.closeParen, 0)]),
      token.2 ≤ levels + 1 :=
  List.forall_mem_cons.2
    ⟨Nat.zero_le _, depth_around (forall_mem_enclosed.2 hdepth) fun _ h => (nomatch h)⟩

/-! ## Chains -/

variable {level inner : Level} {next : Parser}

/-- Reading on in a chain continues a phrase. -/
theorem sound_chainFrom (hinner : level.tighter? = some inner)
    (hnext : Sound schema inner levels next) {count : Nat} {left parsed : Parsed}
    {tokens rest : List Token}
    (h : chainFrom level.chained next count left tokens = .ok (parsed, rest))
    (hleft : left.Valid schema) {start : List Token} {marked : List Marked}
    (hstart : Consumes start marked tokens) (hderives : Derives level marked left.expression)
    (hdepth : ∀ token ∈ marked, token.2 ≤ levels) :
    parsed.Valid schema ∧ ∃ marked, Consumes start marked rest
      ∧ Derives level marked parsed.expression ∧ ∀ token ∈ marked, token.2 ≤ levels := by
  induction count generalizing left tokens marked with
  | zero =>
    cases h
    exact ⟨hleft, marked, hstart, hderives, hdepth⟩
  | succ count ih =>
    rw [chainFrom] at h
    cases hoperator : operator? level.chained tokens with
    | none =>
      rw [hoperator] at h
      cases h
      exact ⟨hleft, marked, hstart, hderives, hdepth⟩
    | some found =>
      obtain ⟨operator, position, after⟩ := found
      rw [hoperator] at h
      obtain ⟨⟨right, afterRight⟩, hright, hrest⟩ := bind_eq_ok.1 h
      obtain ⟨node, hnode, hrest⟩ := bind_eq_ok.1 hrest
      obtain ⟨hmem, rfl⟩ := operator?_eq_some hoperator
      obtain ⟨hvalid, rightMarked, hconsumes, hrightDerives, hrightDepth⟩ := hnext _ _ _ hright
      obtain ⟨hexpression, hnodeValid⟩ := valid_combine hnode hleft hvalid
      refine ih hrest hnodeValid (hstart.trans (hconsumes.cons _ position 0)) ?_
        (depth_around hdepth hrightDepth)
      rw [hexpression]
      exact .chain hinner hmem hderives hrightDerives

theorem sound_chain (hinner : level.tighter? = some inner)
    (hnext : Sound schema inner levels next) :
    Sound schema level levels (chain level.chained next) := by
  intro tokens parsed rest h
  obtain ⟨⟨left, after⟩, hleft, h⟩ := bind_eq_ok.1 h
  obtain ⟨hvalid, marked, hconsumes, hderives, hdepth⟩ := hnext _ _ _ hleft
  exact sound_chainFrom hinner hnext h hvalid hconsumes (.tighter hinner hderives) hdepth

/-! ## Operands -/

/-- Reading arguments takes their phrases, with the commas between them, and the parenthesis. -/
theorem sound_argumentsFrom {disjunction : Parser}
    (hdisjunction : Sound schema .disjunction levels disjunction) {count : Nat}
    {tokens rest : List Token} {args : List Parsed}
    (h : argumentsFrom context disjunction count tokens = .ok (args, rest)) :
    (∀ arg ∈ args, arg.Valid schema) ∧ ∃ phrases : List (List Marked × Expression), phrases ≠ []
      ∧ args.map Parsed.expression = phrases.map Prod.snd
      ∧ Consumes tokens (commaSeparated (phrases.map Prod.fst) ++ [(.closeParen, 0)]) rest
      ∧ (∀ phrase ∈ phrases, Derives .disjunction phrase.1 phrase.2)
      ∧ ∀ token ∈ commaSeparated (phrases.map Prod.fst), token.2 ≤ levels := by
  induction count generalizing tokens args with
  | zero => cases h
  | succ count ih =>
    obtain ⟨⟨arg, after⟩, harg, hafter⟩ := bind_eq_ok.1 h
    obtain ⟨hvalid, marked, hconsumes, hderives, hdepth⟩ := hdisjunction _ _ _ harg
    dsimp only at hafter
    split at hafter
    · cases hafter
      have hone : commaSeparated ([(marked, arg.expression)].map Prod.fst) = marked :=
        commaSeparated_singleton marked
      refine ⟨by simpa using hvalid, [(marked, arg.expression)], List.cons_ne_nil _ _, rfl,
        ?_, ?_, ?_⟩
      · rw [hone]
        exact hconsumes.trans ((Consumes.refl _).cons _ _ 0)
      · simpa using hderives
      · rwa [hone]
    · obtain ⟨⟨more, afterMore⟩, hmore, hafter⟩ := bind_eq_ok.1 hafter
      cases hafter
      obtain ⟨hmoreValid, phrases, hsome, hexpressions, hmoreConsumes, hmoreDerives, hmoreDepth⟩ :=
        ih hmore
      obtain ⟨first, others, rfl⟩ := List.exists_cons_of_ne_nil hsome
      have hcomma : commaSeparated (((marked, arg.expression) :: first :: others).map Prod.fst)
          = marked ++ (.comma, 0) :: commaSeparated ((first :: others).map Prod.fst) :=
        commaSeparated_cons_cons _ _ _
      refine ⟨?_, (marked, arg.expression) :: first :: others, List.cons_ne_nil _ _, ?_, ?_, ?_, ?_⟩
      · exact List.forall_mem_cons.2 ⟨hvalid, hmoreValid⟩
      · rw [List.map_cons, hexpressions]
        rfl
      · rw [hcomma, List.append_assoc]
        exact hconsumes.trans (hmoreConsumes.cons _ _ 0)
      · exact List.forall_mem_cons.2 ⟨hderives, hmoreDerives⟩
      · rw [hcomma]
        exact depth_around hdepth hmoreDepth
    · cases hafter

/-- The arguments of a call are phrases with commas between them, if there are any. -/
theorem sound_arguments {disjunction : Parser}
    (hdisjunction : Sound schema .disjunction levels disjunction) {tokens rest : List Token}
    {args : List Parsed} (h : arguments context disjunction tokens = .ok (args, rest)) :
    (∀ arg ∈ args, arg.Valid schema) ∧ ∃ phrases : List (List Marked × Expression),
      args.map Parsed.expression = phrases.map Prod.snd
      ∧ Consumes tokens (commaSeparated (phrases.map Prod.fst) ++ [(.closeParen, 0)]) rest
      ∧ (∀ phrase ∈ phrases, Derives .disjunction phrase.1 phrase.2)
      ∧ ∀ token ∈ commaSeparated (phrases.map Prod.fst), token.2 ≤ levels := by
  rw [arguments.eq_def] at h
  split at h
  · cases h
    exact ⟨fun _ h => (nomatch h), [], rfl, (Consumes.refl _).cons _ _ 0,
      fun _ h => (nomatch h), fun _ h => (nomatch h)⟩
  · obtain ⟨hvalid, phrases, -, h⟩ := sound_argumentsFrom hdisjunction h
    exact ⟨hvalid, phrases, h⟩

/-- The parsers of the next inner level read phrases with one level less nested in them. -/
def SoundInner (schema : Schema) (levels : Nat) (inner : Option Inner) : Prop :=
  ∀ parsers ∈ inner, ∃ fewer, levels = fewer + 1
    ∧ Sound schema .disjunction fewer parsers.disjunction
    ∧ Sound schema .negation fewer parsers.negation

variable {innerParsers : Option Inner}

/-- A call reads its arguments and the closing parenthesis. -/
theorem sound_call (hinner : SoundInner context.schema levels innerParsers) {name : String}
    {position openPosition : Nat} {tokens rest : List Token} {parsed : Parsed}
    (h : call context innerParsers name position tokens = .ok (parsed, rest)) :
    parsed.Valid context.schema ∧ ∃ marked,
      Consumes (⟨.identifier name, position⟩ :: ⟨.openParen, openPosition⟩ :: tokens) marked rest
      ∧ Derives .operand marked parsed.expression ∧ ∀ token ∈ marked, token.2 ≤ levels := by
  rw [call] at h
  cases hname : Function.ofName? name with
  | none =>
    rw [hname] at h
    cases h
  | some function =>
    rw [hname] at h
    cases hsome : innerParsers with
    | none =>
      rw [hsome] at h
      cases h
    | some parsers =>
      rw [hsome] at h
      obtain ⟨fewer, rfl, hdisjunction, -⟩ := hinner parsers hsome
      obtain ⟨⟨args, after⟩, hargs, h⟩ := bind_eq_ok.1 h
      obtain ⟨node, hnode, h⟩ := bind_eq_ok.1 h
      cases h
      obtain ⟨hvalid, phrases, hexpressions, hconsumes, hderives, hdepth⟩ :=
        sound_arguments hdisjunction hargs
      obtain ⟨hexpression, hnodeValid⟩ := valid_applyFunction hnode hvalid
      refine ⟨hnodeValid, _, (hconsumes.closed.cons .openParen openPosition 0).cons _ position 0, ?_,
        List.forall_mem_cons.2 ⟨Nat.zero_le _, depth_parenthesized hdepth⟩⟩
      rw [hexpression, hexpressions]
      exact .call hname hderives

/-- Parentheses read a disjunction inside them. -/
theorem sound_parenthesized (hinner : SoundInner context.schema levels innerParsers)
    {position openPosition : Nat} {tokens rest : List Token} {parsed : Parsed}
    (h : parenthesized context innerParsers position tokens = .ok (parsed, rest)) :
    parsed.Valid context.schema ∧ ∃ marked,
      Consumes (⟨.openParen, openPosition⟩ :: tokens) marked rest
      ∧ Derives .operand marked parsed.expression ∧ ∀ token ∈ marked, token.2 ≤ levels := by
  rw [parenthesized.eq_def] at h
  cases hsome : innerParsers with
  | none =>
    rw [hsome] at h
    cases h
  | some parsers =>
    rw [hsome] at h
    obtain ⟨fewer, rfl, hdisjunction, -⟩ := hinner parsers hsome
    obtain ⟨⟨inside, after⟩, hinside, h⟩ := bind_eq_ok.1 h
    obtain ⟨hvalid, marked, hconsumes, hderives, hdepth⟩ := hdisjunction _ _ _ hinside
    dsimp only at h
    split at h
    · cases h
      have hclosed := (hconsumes.trans ((Consumes.refl rest).cons .closeParen _ 0)).closed
      exact ⟨⟨hvalid.typed, hvalid.height, hvalid.low⟩, _, hclosed.cons _ openPosition 0,
        .parenthesized hderives, depth_parenthesized hdepth⟩
    · cases h

/-- One token reads as a leaf. -/
theorem sound_leaf {kind : TokenKind} {position : Nat} {rest : List Token} {leaf : Parsed}
    (hvalid : leaf.Valid schema) (hderives : Derives .operand [(kind, 0)] leaf.expression) :
    leaf.Valid schema ∧ ∃ marked, Consumes (⟨kind, position⟩ :: rest) marked rest
      ∧ Derives .operand marked leaf.expression ∧ ∀ token ∈ marked, token.2 ≤ levels :=
  ⟨hvalid, _, (Consumes.refl rest).cons kind position 0, hderives,
    fun _ htoken => List.mem_singleton.1 htoken ▸ Nat.zero_le levels⟩

theorem sound_named (hinner : SoundInner context.schema levels innerParsers) {name : String}
    {position : Nat} {tokens rest : List Token} {parsed : Parsed}
    (h : named context innerParsers name position tokens = .ok (parsed, rest)) :
    parsed.Valid context.schema ∧ ∃ marked,
      Consumes (⟨.identifier name, position⟩ :: tokens) marked rest
      ∧ Derives .operand marked parsed.expression ∧ ∀ token ∈ marked, token.2 ≤ levels := by
  rw [named.eq_def] at h
  cases hword : wordValue? name with
  | some value =>
    rw [hword] at h
    cases h
    exact sound_leaf (valid_literal value position) (.word hword)
  | none =>
    rw [hword] at h
    dsimp only at h
    split at h
    · exact sound_call hinner h
    · split at h
      · cases h
      · rename_i hfree
        obtain ⟨leaf, hleaf, heq⟩ := map_eq_ok.1 h
        cases heq
        obtain ⟨hexpression, hvalid⟩ := valid_property hleaf
        refine sound_leaf hvalid ?_
        rw [hexpression]
        exact .property hword (by simpa using hfree)

theorem sound_operand (hinner : SoundInner context.schema levels innerParsers) :
    Sound context.schema .operand levels (operand context innerParsers) := by
  intro tokens parsed rest h
  rw [operand.eq_def] at h
  split at h
  · cases h
  · split at h
    · exact sound_parenthesized hinner h
    · cases h
      exact sound_leaf (valid_literal _ _) (.integer _)
    · cases h
      exact sound_leaf (valid_literal _ _) (.decimal _)
    · cases h
      exact sound_leaf (valid_literal _ _) (.string _)
    · cases h
      exact sound_leaf (valid_literal _ _) (.dateTime _)
    · exact sound_named hinner h
    · cases h
    · cases h

/-! ## Levels -/

theorem sound_sum (hinner : SoundInner context.schema levels innerParsers) :
    Sound context.schema .sum levels (sum context innerParsers) :=
  sound_chain rfl (sound_chain rfl (sound_operand hinner))

theorem sound_comparison (hinner : SoundInner context.schema levels innerParsers) :
    Sound context.schema .comparison levels (comparison context innerParsers) := by
  intro tokens parsed rest h
  obtain ⟨⟨left, after⟩, hleft, h⟩ := bind_eq_ok.1 h
  obtain ⟨hvalid, marked, hconsumes, hderives, hdepth⟩ := sound_sum hinner _ _ _ hleft
  dsimp only at h
  split at h
  · cases h
    exact ⟨hvalid, marked, hconsumes, .tighter rfl hderives, hdepth⟩
  · rename_i operator position afterOperator hoperator
    obtain ⟨⟨right, afterRight⟩, hright, h⟩ := bind_eq_ok.1 h
    obtain ⟨node, hnode, h⟩ := bind_eq_ok.1 h
    cases h
    obtain ⟨hmem, rfl⟩ := operator?_eq_some hoperator
    obtain ⟨c, -, rfl⟩ := List.mem_map.1 hmem
    obtain ⟨hrightValid, rightMarked, hrightConsumes, hrightDerives, hrightDepth⟩ :=
      sound_sum hinner _ _ _ hright
    obtain ⟨hexpression, hnodeValid⟩ := valid_combine hnode hvalid hrightValid
    refine ⟨hnodeValid, _, hconsumes.trans (hrightConsumes.cons _ position 0), ?_,
      depth_around hdepth hrightDepth⟩
    rw [hexpression]
    exact .comparison hderives hrightDerives

theorem sound_negationOf (hinner : SoundInner context.schema levels innerParsers) :
    Sound context.schema .negation levels (negationOf context innerParsers) := by
  intro tokens parsed rest h
  rw [negationOf] at h
  cases hnot : not? tokens with
  | none =>
    rw [hnot] at h
    obtain ⟨hvalid, marked, hconsumes, hderives, hdepth⟩ := sound_comparison hinner _ _ _ h
    exact ⟨hvalid, marked, hconsumes, .tighter rfl hderives, hdepth⟩
  | some found =>
    obtain ⟨position, after⟩ := found
    obtain rfl := not?_eq_some hnot
    rw [hnot] at h
    cases hsome : innerParsers with
    | none =>
      rw [hsome] at h
      cases h
    | some parsers =>
      rw [hsome] at h
      obtain ⟨fewer, rfl, -, hnegation⟩ := hinner parsers hsome
      obtain ⟨⟨operand, afterOperand⟩, hoperand, h⟩ := bind_eq_ok.1 h
      obtain ⟨node, hnode, h⟩ := bind_eq_ok.1 h
      cases h
      obtain ⟨hvalid, marked, hconsumes, hderives, hdepth⟩ := hnegation _ _ _ hoperand
      obtain ⟨hexpression, hnodeValid⟩ := valid_negate hnode hvalid
      refine ⟨hnodeValid, _, (hconsumes.congr (map_fst_enclosed marked)).cons _ position 0, ?_,
        List.forall_mem_cons.2 ⟨Nat.zero_le _, forall_mem_enclosed.2 hdepth⟩⟩
      rw [hexpression]
      exact .not hderives

theorem sound_disjunctionOf {negation : Parser}
    (hnegation : Sound schema .negation levels negation) :
    Sound schema .disjunction levels (disjunctionOf negation) :=
  sound_chain rfl (sound_chain rfl hnegation)

/-- **Negations are read at every nesting level**, by induction on the levels that are left. -/
theorem sound_negation (context : Context) (levels : Nat) :
    Sound context.schema .negation levels (negation context levels) := by
  induction levels with
  | zero => exact sound_negationOf fun _ h => (nomatch h)
  | succ levels ih =>
    refine sound_negationOf ?_
    rintro parsers ⟨rfl⟩
    exact ⟨levels, rfl, sound_disjunctionOf ih, ih⟩

/-- **What is read is in the grammar.** -/
theorem sound_disjunction (context : Context) (levels : Nat) :
    Sound context.schema .disjunction levels (disjunction context levels) :=
  sound_disjunctionOf (sound_negation context levels)

end Filter
end ODataQuery
