import ODataQuery.Proofs.Expression.Parts
import ODataQuery.Proofs.QueryString.Completeness
import ODataQuery.Proofs.QueryString.Lexemes

/-!
# Printed filters are read back

An expression is printed with its operators in parentheses and its calls as they are written, but
with nothing around a `not`.  So the printed tokens are those of the expression by the grammar, at
the level of operands, unless it is a `not`, which is a negation.

* `Expression.printed`: the tokens of the printed expression, with what encloses them;
  `Expression.nesting`: how deeply they are enclosed.
* `Expression.Readable`: the names in the expression are names of properties in a filter too.
* `Lexer.ReadAsPrinted`, `Lexer.tokenizes_text`: the tokens of the printed text are those that are
  printed.
* `Filter.derives_printed`: the printed tokens are those of the expression.
* `Filter.readable_of_parse`: what is read from a text is readable.
* `Filter.parse_text`: what is read from a text is read back from its printed text.

No grammar level takes a `not` as an operand of a comparison without parentheses, so an expression
with such a comparison is not printed by the grammar.
-/

set_option autoImplicit false

namespace ODataQuery

open ODataQuery.Filter

/-! ## Printed tokens -/

/-- The token of a printed value. -/
def Value.token : Value → TokenKind
  | null => .identifier "null"
  | bool b => .identifier (if b then "true" else "false")
  | int i => .integer i
  | float x => .decimal x
  | string s => .string s
  | dateTime t => .dateTime t

namespace Expression

mutual

/-- The tokens of the printed expression, with what encloses them. -/
def printed : Expression → List Marked
  | literal value => [(value.token, 0)]
  | property name => [(.identifier name, 0)]
  | not operand => (.identifier "not", 0) :: enclosed operand.printed
  | binary left operator right =>
    (.openParen, 0) :: (enclosed (left.printed ++ operatorToken operator :: right.printed)
      ++ [(.closeParen, 0)])
  | call function args =>
    (.identifier function.name, 0) :: (.openParen, 0)
      :: (enclosed (commaSeparated (printedArgs args)) ++ [(.closeParen, 0)])

/-- The tokens of each of the printed arguments of a call. -/
def printedArgs : List Expression → List (List Marked)
  | [] => []
  | arg :: rest => arg.printed :: printedArgs rest

end

theorem printedArgs_eq (args : List Expression) : printedArgs args = args.map printed := by
  induction args with
  | nil => rfl
  | cons arg rest ih => rw [printedArgs, ih, List.map_cons]

theorem map_fst_printed_not (operand : Expression) :
    operand.not.printed.map Prod.fst = .identifier "not" :: operand.printed.map Prod.fst := by
  rw [printed, List.map_cons, map_fst_enclosed]

theorem map_fst_printed_binary (left : Expression) (operator : Operator) (right : Expression) :
    (binary left operator right).printed.map Prod.fst
      = .openParen :: ((left.printed.map Prod.fst
        ++ .identifier operator.keyword :: right.printed.map Prod.fst) ++ [.closeParen]) := by
  rw [printed, map_fst_parenthesized, List.map_append, List.map_cons]
  rfl

theorem map_fst_printed_call (function : Function) (args : List Expression) :
    (call function args).printed.map Prod.fst
      = .identifier function.name :: .openParen
        :: ((commaSeparated (args.map printed)).map Prod.fst ++ [.closeParen]) := by
  rw [printed, List.map_cons, map_fst_parenthesized, printedArgs_eq]

mutual

/-- How many parentheses, `not`s and calls of the printed expression enclose one another. -/
def nesting : Expression → Nat
  | literal _ | property _ => 0
  | not operand => operand.nesting + 1
  | binary left _ right => max left.nesting right.nesting + 1
  | call _ args => deepest args + 1

/-- How many of them enclose one another in one of the arguments of a call. -/
def deepest : List Expression → Nat
  | [] => 0
  | arg :: rest => max arg.nesting (deepest rest)

end

/-- The tokens of phrases with commas are enclosed as deeply as in one of them. -/
theorem forall_mem_commaSeparated {phrases : List (List Marked)} {levels : Nat}
    (h : ∀ phrase ∈ phrases, ∀ token ∈ phrase, token.2 ≤ levels) :
    ∀ token ∈ commaSeparated phrases, token.2 ≤ levels := by
  induction phrases with
  | nil => exact fun _ htoken => nomatch htoken
  | cons first rest ih =>
    rw [List.forall_mem_cons] at h
    cases rest with
    | nil =>
      rw [commaSeparated_singleton]
      exact h.1
    | cons second rest =>
      rw [commaSeparated_cons_cons]
      exact depth_around h.1 (ih h.2)

theorem nesting_le_deepest {args : List Expression} {arg : Expression} (h : arg ∈ args) :
    arg.nesting ≤ deepest args := by
  induction args with
  | nil => cases h
  | cons first rest ih =>
    rw [deepest]
    rcases List.mem_cons.1 h with rfl | h
    · exact Nat.le_max_left _ _
    · exact Nat.le_trans (ih h) (Nat.le_max_right _ _)

/-- **No token is enclosed more deeply than the nesting says.** -/
theorem printed_le_nesting (e : Expression) : ∀ token ∈ e.printed, token.2 ≤ e.nesting := by
  induction e using Expression.induction with
  | literal value =>
    rw [printed, List.forall_mem_singleton]
    exact Nat.zero_le _
  | property name =>
    rw [printed, List.forall_mem_singleton]
    exact Nat.zero_le _
  | not operand ih =>
    rw [printed, nesting, List.forall_mem_cons]
    exact ⟨Nat.zero_le _, forall_mem_enclosed.2 ih⟩
  | binary left operator right ihLeft ihRight =>
    rw [printed, nesting]
    refine depth_parenthesized (depth_around (fun token htoken => ?_) fun token htoken => ?_)
    · exact Nat.le_trans (ihLeft token htoken) (Nat.le_max_left _ _)
    · exact Nat.le_trans (ihRight token htoken) (Nat.le_max_right _ _)
  | call function args ih =>
    rw [printed, nesting, List.forall_mem_cons, printedArgs_eq]
    refine ⟨Nat.zero_le _, depth_parenthesized (forall_mem_commaSeparated ?_)⟩
    rw [List.forall_mem_map]
    exact fun arg harg token htoken =>
      Nat.le_trans (ih arg harg token htoken) (nesting_le_deepest harg)

/-! ## Readable names -/

/-- Every name in the expression stands for a property in a filter. -/
def Readable (e : Expression) : Prop :=
  ∀ name, .property name ∈ e.parts →
    Lexer.isName name = true ∧ wordValue? name = none ∧ name ∉ reservedWords

theorem Readable.of_subset {e part : Expression} (h : e.Readable) (hpart : part.parts ⊆ e.parts) :
    part.Readable :=
  fun name hname => h name (hpart hname)

end Expression

/-! ## The printed text -/

namespace Lexer

theorem isName_keyword (operator : Operator) : isName operator.keyword = true := by
  have hall : ∀ operator ∈ Operator.all, isName operator.keyword = true := by decide
  exact hall operator operator.mem_all

theorem isName_function (function : Function) : isName function.name = true := by
  have hall : ∀ function ∈ Function.all, isName function.name = true := by decide
  exact hall function function.mem_all

theorem delimited_cons {c : Char} (h : c ∈ delimiters) (rest : List Char) :
    Delimited (c :: rest) := by
  rintro other ⟨⟩
  exact h

theorem tokenizes_space {rest : List Char} {kinds : List TokenKind} (h : Tokenizes rest kinds) :
    Tokenizes (' ' :: rest) kinds :=
  tokenizes_blank (by decide) h

/-- **The literal of a value is read back**, unless it is a double. -/
theorem tokenizes_value {value : Value} (hfloat : ∀ x, value ≠ .float x) {rest : List Char}
    (hrest : Delimited rest) {kinds : List TokenKind} (h : Tokenizes rest kinds) :
    Tokenizes (value.text.toList ++ rest) (value.token :: kinds) := by
  cases value with
  | null => exact tokenizes_name (by decide) hrest h
  | bool b => cases b <;> exact tokenizes_name (by decide) hrest h
  | int i => exact tokenizes_integer i hrest h
  | float x => exact absurd rfl (hfloat x)
  | string s => exact tokenizes_string s hrest h
  | dateTime t => exact tokenizes_dateTime t hrest h

/-- Before a delimiter, the text of the expression is read as its printed tokens. -/
def ReadAsPrinted (e : Expression) : Prop :=
  ∀ ⦃rest : List Char⦄ ⦃kinds : List TokenKind⦄, Delimited rest → Tokenizes rest kinds →
    Tokenizes (e.text.toList ++ rest) (e.printed.map Prod.fst ++ kinds)

theorem readAsPrinted_not {operand : Expression} (hoperand : ReadAsPrinted operand) :
    ReadAsPrinted operand.not := by
  intro rest kinds hrest h
  have htext : operand.not.text.toList ++ rest
      = "not".toList ++ ' ' :: (operand.text.toList ++ rest) := by
    rw [Expression.text, String.toList_append, List.append_assoc]
    rfl
  rw [htext, Expression.map_fst_printed_not]
  have hname : isName "not" = true := by decide
  exact tokenizes_name hname (delimited_cons (by decide) _) (tokenizes_space (hoperand hrest h))

theorem readAsPrinted_binary {left right : Expression} (operator : Operator)
    (hleft : ReadAsPrinted left) (hright : ReadAsPrinted right) :
    ReadAsPrinted (.binary left operator right) := by
  intro rest kinds _ h
  have htext : (Expression.binary left operator right).text.toList ++ rest
      = '(' :: (left.text.toList ++ ' ' :: (operator.keyword.toList
        ++ ' ' :: (right.text.toList ++ ')' :: rest))) := by
    rw [Expression.text]
    simp only [String.toList_append, List.append_assoc]
    rfl
  have hkinds : (Expression.binary left operator right).printed.map Prod.fst ++ kinds
      = .openParen :: (left.printed.map Prod.fst ++ .identifier operator.keyword
        :: (right.printed.map Prod.fst ++ .closeParen :: kinds)) := by
    rw [Expression.map_fst_printed_binary]
    simp
  -- from the end of the text to its beginning, each part is in front of a delimiter
  have hspace {rest : List Char} : Delimited (' ' :: rest) := delimited_cons (by decide) rest
  have hclose : Delimited (')' :: rest) := delimited_cons (by decide) rest
  have hafterOperator := tokenizes_space (hright hclose (tokenizes_closeParen h))
  have hoperator := tokenizes_name (isName_keyword operator) hspace hafterOperator
  rw [htext, hkinds]
  exact tokenizes_openParen (hleft hspace (tokenizes_space hoperator))

/-- The tokens of the printed arguments of a call, up to its closing parenthesis. -/
theorem tokenizes_args {args : List Expression} (heach : ∀ arg ∈ args, ReadAsPrinted arg)
    {rest : List Char} {kinds : List TokenKind} (h : Tokenizes (')' :: rest) kinds) :
    Tokenizes ((Expression.argsText args).toList ++ ')' :: rest)
      ((commaSeparated (args.map Expression.printed)).map Prod.fst ++ kinds) := by
  have hrest : Delimited (')' :: rest) := delimited_cons (by decide) rest
  induction args with
  | nil => exact h
  | cons arg more ih =>
    rw [List.forall_mem_cons] at heach
    obtain ⟨harg, hmore⟩ := heach
    cases more with
    | nil =>
      rw [Expression.argsText, List.map_singleton, commaSeparated_singleton]
      exact harg hrest h
    | cons second more =>
      have hothers := harg (delimited_cons (by decide) _)
        (tokenizes_comma (tokenizes_space (ih hmore)))
      rw [Expression.argsText, List.map_cons, List.map_cons, commaSeparated_cons_cons,
        String.toList_append, String.toList_append, List.map_append,
        List.append_assoc, List.append_assoc, List.append_assoc]
      · exact hothers
      · exact nofun

theorem readAsPrinted_call (function : Function) {args : List Expression}
    (hargs : ∀ arg ∈ args, ReadAsPrinted arg) : ReadAsPrinted (.call function args) := by
  intro rest kinds _ h
  have htext : (Expression.call function args).text.toList ++ rest
      = function.name.toList ++ '(' :: ((Expression.argsText args).toList ++ ')' :: rest) := by
    rw [Expression.text]
    simp only [String.toList_append, List.append_assoc]
    rfl
  have hkinds : (Expression.call function args).printed.map Prod.fst ++ kinds
      = .identifier function.name :: .openParen
        :: ((commaSeparated (args.map Expression.printed)).map Prod.fst
          ++ .closeParen :: kinds) := by
    rw [Expression.map_fst_printed_call]
    simp
  rw [htext, hkinds]
  exact tokenizes_name (isName_function function) (delimited_cons (by decide) _)
    (tokenizes_openParen (tokenizes_args hargs (tokenizes_closeParen h)))

/-- **The tokens of a printed expression**, up to a delimiter, if its names are readable and it has
no doubles. -/
theorem tokenizes_text {e : Expression} (hnames : e.Readable)
    (hfloat : ∀ x, .literal (.float x) ∉ e.parts) : ReadAsPrinted e := by
  induction e using Expression.induction with
  | literal value =>
    intro rest kinds hrest h
    rw [Expression.text, Expression.printed]
    refine tokenizes_value (fun x hx => hfloat x ?_) hrest h
    rw [hx]
    exact Expression.self_mem_parts _
  | property name =>
    intro rest kinds hrest h
    rw [Expression.text, Expression.printed]
    exact tokenizes_name (hnames name (Expression.self_mem_parts _)).1 hrest h
  | not operand ih =>
    have hsubset := Expression.operand_parts_subset operand
    exact readAsPrinted_not (ih (hnames.of_subset hsubset) fun x hx => hfloat x (hsubset hx))
  | binary left operator right ihLeft ihRight =>
    have hleftSubset := Expression.left_parts_subset left operator right
    have hrightSubset := Expression.right_parts_subset left operator right
    exact readAsPrinted_binary operator
      (ihLeft (hnames.of_subset hleftSubset) fun x hx => hfloat x (hleftSubset hx))
      (ihRight (hnames.of_subset hrightSubset) fun x hx => hfloat x (hrightSubset hx))
  | call function args ih =>
    refine readAsPrinted_call function fun arg harg => ?_
    have hsubset := Expression.arg_parts_subset function harg
    exact ih arg harg (hnames.of_subset hsubset) fun x hx => hfloat x (hsubset hx)

end Lexer

namespace Filter

/-! ## The printed tokens are those of the expression -/

/-- A phrase that is an operand is a phrase of every level. -/
theorem Derives.of_operand {marked : List Marked} {e : Expression}
    (h : Derives .operand marked e) (level : Level) : Derives level marked e := by
  have hproduct : Derives .product marked e := .tighter rfl h
  have hcomparison : Derives .comparison marked e := .tighter rfl (.tighter rfl hproduct)
  have hconjunction : Derives .conjunction marked e := .tighter rfl (.tighter rfl hcomparison)
  cases level with
  | disjunction => exact .tighter rfl hconjunction
  | conjunction => exact hconjunction
  | negation => exact .tighter rfl hcomparison
  | comparison => exact hcomparison
  | sum => exact .tighter rfl hproduct
  | product => exact hproduct
  | operand => exact h

end Filter

/-- Is the expression a negation. -/
def Expression.isNot : Expression → Bool
  | not _ => true
  | _ => false

/-- No negation is an operand of a comparison in the expression. -/
def Expression.ComparesNoNegation (e : Expression) : Prop :=
  ∀ left c right, .binary left (.comparison c) right ∈ e.parts →
    left.isNot = false ∧ right.isNot = false

theorem Expression.ComparesNoNegation.of_subset {e part : Expression}
    (h : e.ComparesNoNegation) (hpart : part.parts ⊆ e.parts) : part.ComparesNoNegation :=
  fun left c right hbinary => h left c right (hpart hbinary)

namespace Filter

/-- A negation is a condition. -/
theorem isNot_of_ne_boolean {schema : Schema} {e : Expression} {type : StaticType}
    (htype : e.infer schema = .ok type) (hboolean : type ≠ .boolean) : e.isNot = false := by
  cases e with
  | not operand => exact absurd (Expression.infer_not_eq_ok.1 htype).2 hboolean
  | _ => rfl

/-- No condition is an operand of arithmetic. -/
theorem ne_boolean_of_arithmetic {a : Arithmetic} {left right type : StaticType}
    (h : (Operator.arithmetic a).resultType left right = .ok type) :
    left ≠ .boolean ∧ right ≠ .boolean := by
  rw [Operator.resultType_arithmetic_eq_ok] at h
  constructor
  · rintro rfl
    rcases right with _ | right
    · cases h
    · cases right <;> cases h
  · rintro rfl
    rcases left with _ | left
    · cases h
    · cases left <;> cases h

/-- Values are operands. -/
theorem derives_value (value : Value) : Derives .operand [(value.token, 0)] (.literal value) := by
  cases value with
  | null => exact .word rfl
  | bool b => cases b <;> exact .word rfl
  | int i => exact .integer i
  | float x => exact .decimal x
  | string s => exact .string s
  | dateTime t => exact .dateTime t

/-- The tokens of two printed operands around an operator are those of the operation. -/
theorem derives_operation {schema : Schema} {left right : Expression} {operator : Operator}
    {type : StaticType} (htype : (Expression.binary left operator right).infer schema = .ok type)
    (hnot : (Expression.binary left operator right).ComparesNoNegation)
    (hleft : Derives .negation left.printed left
      ∧ (left.isNot = false → Derives .operand left.printed left))
    (hright : Derives .negation right.printed right
      ∧ (right.isNot = false → Derives .operand right.printed right)) :
    Derives .disjunction (left.printed ++ operatorToken operator :: right.printed)
      (.binary left operator right) := by
  cases operator with
  | comparison c =>
    obtain ⟨hleftNot, hrightNot⟩ := hnot left c right (Expression.self_mem_parts _)
    have hcomparison := Derives.comparison (c := c) ((hleft.2 hleftNot).of_operand .sum)
      ((hright.2 hrightNot).of_operand .sum)
    exact .tighter rfl (.tighter rfl (.tighter rfl hcomparison))
  | connective c =>
    cases c with
    | and =>
      have hconjunction : Derives .conjunction
          (left.printed ++ operatorToken (.connective .and) :: right.printed)
          (.binary left (.connective .and) right) :=
        .chain rfl (by decide) (.tighter rfl hleft.1) hright.1
      exact .tighter rfl hconjunction
    | or =>
      exact .chain rfl (by decide) (.tighter rfl (.tighter rfl hleft.1)) (.tighter rfl hright.1)
  | arithmetic a =>
    obtain ⟨leftType, rightType, hleftType, hrightType, hresult⟩ :=
      Expression.infer_binary_eq_ok.1 htype
    obtain ⟨hleftBoolean, hrightBoolean⟩ := ne_boolean_of_arithmetic hresult
    have hleftOperand := hleft.2 (isNot_of_ne_boolean hleftType hleftBoolean)
    have hrightOperand := hright.2 (isNot_of_ne_boolean hrightType hrightBoolean)
    have hsum : Derives .sum (left.printed ++ operatorToken (.arithmetic a) :: right.printed)
        (.binary left (.arithmetic a) right) := by
      cases a with
      | add | sub =>
        exact .chain rfl (by decide) (hleftOperand.of_operand .sum)
          (hrightOperand.of_operand .product)
      | mul | div | mod =>
        exact .tighter rfl (.chain rfl (by decide) (hleftOperand.of_operand .product) hrightOperand)
    exact .tighter rfl (.tighter rfl (.tighter rfl (.tighter rfl hsum)))

/-- **The printed tokens are those of the expression**, as a negation if it is one, and else as an
operand. -/
theorem derives_printed {schema : Schema} {e : Expression} {type : StaticType}
    (htype : e.infer schema = .ok type) (hnames : e.Readable) (hnot : e.ComparesNoNegation) :
    Derives .negation e.printed e ∧ (e.isNot = false → Derives .operand e.printed e) := by
  have of_operand {e : Expression} (h : Derives .operand e.printed e) :
      Derives .negation e.printed e ∧ (e.isNot = false → Derives .operand e.printed e) :=
    ⟨h.of_operand .negation, fun _ => h⟩
  induction e using Expression.induction generalizing type with
  | literal value =>
    refine of_operand ?_
    rw [Expression.printed]
    exact derives_value value
  | property name =>
    obtain ⟨-, hword, hfree⟩ := hnames name (Expression.self_mem_parts _)
    refine of_operand ?_
    rw [Expression.printed]
    exact .property hword hfree
  | not operand ih =>
    have hsubset := Expression.operand_parts_subset operand
    have hoperand := ih (Expression.infer_not_eq_ok.1 htype).1 (hnames.of_subset hsubset)
      (hnot.of_subset hsubset)
    refine ⟨?_, fun h => nomatch h⟩
    rw [Expression.printed]
    exact .not hoperand.1
  | binary left operator right ihLeft ihRight =>
    have hleftSubset := Expression.left_parts_subset left operator right
    have hrightSubset := Expression.right_parts_subset left operator right
    obtain ⟨leftType, rightType, hleftType, hrightType, -⟩ := Expression.infer_binary_eq_ok.1 htype
    have hleft := ihLeft hleftType (hnames.of_subset hleftSubset) (hnot.of_subset hleftSubset)
    have hright := ihRight hrightType (hnames.of_subset hrightSubset) (hnot.of_subset hrightSubset)
    refine of_operand ?_
    rw [Expression.printed]
    exact .parenthesized (derives_operation htype hnot hleft hright)
  | call function args ih =>
    have hargs : ∀ arg ∈ args.map fun arg => (arg.printed, arg), Derives .disjunction arg.1 arg.2 := by
      rw [List.forall_mem_map]
      intro arg harg
      have hsubset := Expression.arg_parts_subset function harg
      obtain ⟨argType, hargType⟩ := Expression.infer_arg_of_infer_call htype harg
      have hderives := ih arg harg hargType (hnames.of_subset hsubset) (hnot.of_subset hsubset)
      exact .tighter rfl (.tighter rfl hderives.1)
    have hcall := Derives.call (Function.ofName?_name function) hargs
    rw [List.map_map, List.map_map] at hcall
    refine of_operand ?_
    rw [Expression.printed, Expression.printedArgs_eq]
    have hsecond : args.map (Prod.snd ∘ fun arg => (arg.printed, arg)) = args := List.map_id _
    rw [hsecond] at hcall
    exact hcall

/-! ## What is read from a text -/

/-- A property of a phrase is one of its tokens, and none of the words that have a meaning. -/
theorem property_of_derives {level : Level} {marked : List Marked} {e : Expression}
    (h : Derives level marked e) {name : String} (hname : .property name ∈ e.parts) :
    .identifier name ∈ marked.map Prod.fst ∧ wordValue? name = none ∧ name ∉ reservedWords := by
  induction h with
  | tighter _ _ ih => exact ih hname
  | chain _ _ _ _ ihLeft ihRight | comparison _ _ ihLeft ihRight =>
    rw [List.map_append, List.map_cons]
    rcases Expression.mem_parts_binary.1 hname with heq | hleft | hright
    · cases heq
    · obtain ⟨hmem, hword⟩ := ihLeft hleft
      exact ⟨List.mem_append_left _ hmem, hword⟩
    · obtain ⟨hmem, hword⟩ := ihRight hright
      exact ⟨List.mem_append_right _ (List.mem_cons_of_mem _ hmem), hword⟩
  | not _ ih =>
    rw [List.map_cons, map_fst_enclosed]
    rcases Expression.mem_parts_not.1 hname with heq | hoperand
    · cases heq
    · obtain ⟨hmem, hword⟩ := ih hoperand
      exact ⟨List.mem_cons_of_mem _ hmem, hword⟩
  | integer | decimal | string | dateTime | word =>
    rw [Expression.parts] at hname
    cases List.mem_singleton.1 hname
  | property hword hfree =>
    rw [Expression.parts] at hname
    cases List.mem_singleton.1 hname
    exact ⟨List.mem_cons_self, hword, hfree⟩
  | @call name function args hfunction hargs ih =>
    rcases Expression.mem_parts_call.1 hname with heq | ⟨part, hpart, hname⟩
    · cases heq
    · obtain ⟨arg, harg, rfl⟩ := List.mem_map.1 hpart
      obtain ⟨hmem, hword⟩ := ih arg harg hname
      refine ⟨?_, hword⟩
      rw [List.map_cons, map_fst_parenthesized]
      have hcommas := List.map_subset Prod.fst
        (subset_commaSeparated (List.mem_map_of_mem (f := Prod.fst) harg))
      exact List.mem_cons_of_mem _ (List.mem_cons_of_mem _ (List.mem_append_left _ (hcommas hmem)))
  | parenthesized _ ih =>
    obtain ⟨hmem, hword⟩ := ih hname
    refine ⟨?_, hword⟩
    rw [map_fst_parenthesized]
    exact List.mem_cons_of_mem _ (List.mem_append_left _ hmem)

/-- What is read from a text is a condition of which the text has the tokens. -/
theorem derives_of_parse {schema : Schema} {text : String} {e : Expression}
    (h : parse schema text = .ok e) :
    ∃ tokens marked, Lexer.tokenize text = .ok tokens ∧ Spells tokens marked
      ∧ Derives .disjunction marked e ∧ e.infer schema = .ok .boolean
      ∧ e.height ≤ maxHeight := by
  obtain ⟨tokens, htokens, h⟩ := bind_eq_ok.1 h
  obtain ⟨marked, hspells, hderives, hcheck, -, hheight⟩ := ofTokens_eq_ok_iff_derives.1 h
  exact ⟨tokens, marked, htokens, hspells, hderives, Expression.checkPredicate_eq_ok.1 hcheck,
    hheight⟩

/-- A condition is read from a text that has its tokens, if it is neither too deep nor too tall. -/
theorem parse_of_derives {schema : Schema} {text : String} {tokens : List Token}
    {marked : List Marked} {e : Expression} (htokens : Lexer.tokenize text = .ok tokens)
    (hspells : Spells tokens marked) (hderives : Derives .disjunction marked e)
    (htype : e.infer schema = .ok .boolean) (hheight : e.height ≤ maxHeight)
    (hdepth : ∀ token ∈ marked, token.2 ≤ maxNesting) : parse schema text = .ok e :=
  have hcheck := Expression.checkPredicate_eq_ok.2 htype
  bind_eq_ok.2 ⟨tokens, htokens,
    ofTokens_eq_ok_iff_derives.2 ⟨marked, hspells, hderives, hcheck, hdepth, hheight⟩⟩

/-- **What is read from a text is readable.** -/
theorem readable_of_parse {schema : Schema} {text : String} {e : Expression}
    (h : parse schema text = .ok e) : e.Readable := by
  obtain ⟨tokens, marked, htokens, hspells, hderives, -⟩ := derives_of_parse h
  intro name hname
  obtain ⟨hmem, hword⟩ := property_of_derives hderives hname
  rw [← hspells] at hmem
  exact ⟨Lexer.isName_of_tokenize htokens hmem, hword⟩

/-- The tokens of a printed expression that is read from a text. -/
theorem spells_text {schema : Schema} {text : String} {e : Expression}
    (h : parse schema text = .ok e) (hfloat : ∀ x, .literal (.float x) ∉ e.parts) :
    ∃ tokens, Lexer.tokenize e.text = .ok tokens ∧ Spells tokens e.printed := by
  have hend : Lexer.Delimited [] := by
    rintro c ⟨⟩
  have htext := Lexer.tokenizes_text (readable_of_parse h) hfloat hend Lexer.tokenizes_nil
  rw [List.append_nil, List.append_nil] at htext
  exact htext 0

/-- **A printed filter is read back**, if no negation is compared in it. -/
theorem parse_text {schema : Schema} {text : String} {e : Expression}
    (h : parse schema text = .ok e) (hfloat : ∀ x, .literal (.float x) ∉ e.parts)
    (hnesting : e.nesting ≤ maxNesting) (hnot : e.ComparesNoNegation) :
    parse schema e.text = .ok e := by
  obtain ⟨tokens, htokens, hspells⟩ := spells_text h hfloat
  obtain ⟨-, -, -, -, -, htype, hheight⟩ := derives_of_parse h
  have hderives := (derives_printed htype (readable_of_parse h) hnot).1
  refine parse_of_derives htokens hspells (.tighter rfl (.tighter rfl hderives)) htype hheight ?_
  exact fun token htoken => Nat.le_trans (e.printed_le_nesting token htoken) hnesting

end Filter

end ODataQuery
