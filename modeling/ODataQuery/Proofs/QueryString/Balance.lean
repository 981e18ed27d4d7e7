import ODataQuery.Proofs.QueryString.Printing

/-!
# Parentheses in phrases

The parentheses of a phrase are balanced, so a phrase can be taken apart at what stands outside
them: at an operator, or at the commas between arguments.

* `Filter.Balanced`: every parenthesis is closed, and only those that are open.
* `Filter.Apart`: a separator does not stand outside the parentheses of some tokens.
* `Filter.Apart.split`: tokens with a separator behind them can only be taken apart there, or further
  on.
* `Filter.Derives.balanced`, `Filter.Derives.apart_comma`: the tokens of an expression, by the
  grammar.
* `Filter.balanced_printed`, `Filter.apart_printed`: the tokens of a printed expression.
-/

set_option autoImplicit false

namespace ODataQuery
namespace Filter

/-! ## Balanced tokens -/

/-- How many parentheses are open after a token.  None can be closed that is not open. -/
def opened (depth : Nat) : TokenKind → Option Nat
  | .openParen => some (depth + 1)
  | .closeParen => if depth = 0 then none else some (depth - 1)
  | _ => some depth

/-- Every parenthesis is closed, and only those that are open. -/
def Balanced (kinds : List TokenKind) : Prop :=
  kinds.foldlM opened 0 = some 0

theorem opened_add {depth after : Nat} {kind : TokenKind} (h : opened depth kind = some after)
    (more : Nat) : opened (depth + more) kind = some (after + more) := by
  cases kind with
  | openParen =>
    cases h
    rw [opened, Nat.add_right_comm]
  | closeParen =>
    rw [opened] at h ⊢
    split at h
    · cases h
    · rename_i hdepth
      cases h
      rw [if_neg (by omega), Option.some.injEq]
      omega
  | _ =>
    cases h
    rfl

/-- More parentheses around tokens stay open behind them. -/
theorem foldlM_opened_add {kinds : List TokenKind} {depth after : Nat}
    (h : kinds.foldlM opened depth = some after) (more : Nat) :
    kinds.foldlM opened (depth + more) = some (after + more) := by
  induction kinds generalizing depth with
  | nil =>
    cases h
    rfl
  | cons kind rest ih =>
    rw [List.foldlM_cons, Option.bind_eq_bind, Option.bind_eq_some_iff] at h
    obtain ⟨between, hkind, hrest⟩ := h
    rw [List.foldlM_cons, opened_add hkind]
    exact ih hrest

variable {kinds inside left right : List TokenKind}

theorem balanced_nil : Balanced [] :=
  rfl

/-- A token that is no parenthesis does not matter. -/
theorem balanced_cons {kind : TokenKind} (hflat : ∀ depth, opened depth kind = some depth) :
    Balanced (kind :: kinds) ↔ Balanced kinds := by
  rw [Balanced, List.foldlM_cons, hflat]
  rfl

theorem Balanced.append (hleft : Balanced left) (hright : Balanced right) :
    Balanced (left ++ right) := by
  rw [Balanced, List.foldlM_append, hleft]
  exact hright

theorem Balanced.of_append (hleft : Balanced left) (h : Balanced (left ++ right)) :
    Balanced right := by
  rw [Balanced, List.foldlM_append, hleft] at h
  exact h

theorem Balanced.parenthesized (h : Balanced inside) :
    Balanced (.openParen :: (inside ++ [.closeParen])) := by
  have hinside := foldlM_opened_add h 1
  rw [Nat.zero_add] at hinside
  show (inside ++ [TokenKind.closeParen]).foldlM opened 1 = some 0
  rw [List.foldlM_append, hinside]
  rfl

/-- **Between a parenthesis and the one that closes it, tokens are not balanced.** -/
theorem Balanced.not_balanced_inside (h : Balanced inside) {before after : List TokenKind}
    {kind : TokenKind} (hsome : before ≠ [])
    (heq : .openParen :: (inside ++ [.closeParen]) = before ++ kind :: after) :
    ¬ Balanced before := by
  intro hbefore
  obtain ⟨first, more, rfl⟩ := List.exists_cons_of_ne_nil hsome
  obtain ⟨rfl, htail⟩ := List.cons_eq_cons.1 heq
  have hmore : ∃ rest, inside = more ++ rest := by
    rcases List.append_eq_append_iff.1 htail with ⟨rest, rfl, hrest⟩ | ⟨rest, hrest, -⟩
    · cases rest with
      | nil => exact ⟨[], by rw [List.append_nil, List.append_nil]⟩
      | cons other rest => simp at hrest
    · exact ⟨rest, hrest⟩
  obtain ⟨rest, rfl⟩ := hmore
  rw [Balanced, List.foldlM_append, Option.bind_eq_bind, Option.bind_eq_some_iff] at h
  obtain ⟨depth, hdepth, -⟩ := h
  have hopen := foldlM_opened_add hdepth 1
  rw [Nat.zero_add] at hopen
  have hclosed : more.foldlM opened 1 = some 0 := hbefore
  rw [hopen] at hclosed
  cases hclosed

/-! ## Separators -/

variable {separator : TokenKind}

/-- The separator does not stand outside parentheses in the tokens. -/
def Apart (separator : TokenKind) (kinds : List TokenKind) : Prop :=
  ∀ before after, kinds = before ++ separator :: after → ¬ Balanced before

theorem apart_nil : Apart separator [] := by
  intro before after heq
  cases before <;> cases heq

theorem apart_cons {kind : TokenKind} (hflat : ∀ depth, opened depth kind = some depth)
    (hne : kind ≠ separator) (h : Apart separator kinds) : Apart separator (kind :: kinds) := by
  intro before after heq hbefore
  cases before with
  | nil => exact hne (List.cons.inj heq).1
  | cons first more =>
    obtain ⟨rfl, htail⟩ := List.cons_eq_cons.1 heq
    exact h more after htail ((balanced_cons hflat).1 hbefore)

theorem apart_parenthesized (hne : separator ≠ .openParen) (h : Balanced inside) :
    Apart separator (.openParen :: (inside ++ [.closeParen])) := by
  intro before after heq
  refine h.not_balanced_inside ?_ heq
  rintro rfl
  exact hne (List.cons.inj heq).1.symm

theorem Apart.append (hbalanced : Balanced left) (hleft : Apart separator left)
    (hright : Apart separator right) : Apart separator (left ++ right) := by
  intro before after heq hbefore
  rcases List.append_eq_append_iff.1 heq with ⟨more, rfl, hmore⟩ | ⟨more, rfl, hmore⟩
  · exact hright more after hmore (hbalanced.of_append hbefore)
  · cases more with
    | nil => exact hright [] after hmore.symm balanced_nil
    | cons first more =>
      obtain ⟨rfl, -⟩ := List.cons_eq_cons.1 hmore
      exact hleft before more rfl hbefore

/-- **Tokens with a separator behind them can be taken apart there, or further on**, but not
before. -/
theorem Apart.split {left' right' : List TokenKind} (hleft : Apart separator left)
    (hbalanced : Balanced left')
    (heq : left ++ separator :: right = left' ++ separator :: right') :
    (left = left' ∧ right = right')
      ∨ ∃ between, left' = left ++ separator :: between
        ∧ right = between ++ separator :: right' := by
  rcases List.append_eq_append_iff.1 heq with ⟨more, rfl, hmore⟩ | ⟨more, rfl, hmore⟩
  · cases more with
    | nil => exact .inl ⟨(List.append_nil left).symm, (List.cons.inj hmore).2⟩
    | cons first more =>
      obtain ⟨rfl, htail⟩ := List.cons_eq_cons.1 hmore
      exact .inr ⟨more, rfl, htail⟩
  · cases more with
    | nil => exact .inl ⟨List.append_nil left', (List.cons.inj hmore).2.symm⟩
    | cons first more =>
      obtain ⟨rfl, -⟩ := List.cons_eq_cons.1 hmore
      exact absurd hbalanced (hleft left' more rfl)

/-! ## Phrases of the grammar -/

theorem balanced_commaSeparated {phrases : List (List Marked)}
    (h : ∀ phrase ∈ phrases, Balanced (phrase.map Prod.fst)) :
    Balanced ((commaSeparated phrases).map Prod.fst) := by
  induction phrases with
  | nil => exact balanced_nil
  | cons first rest ih =>
    rw [List.forall_mem_cons] at h
    cases rest with
    | nil =>
      rw [commaSeparated_singleton]
      exact h.1
    | cons second rest =>
      rw [commaSeparated_cons_cons, List.map_append]
      exact h.1.append ((balanced_cons fun _ => rfl).2 (ih h.2))

/-- The tokens of a call are balanced if those of its arguments are. -/
theorem balanced_call (name : String) {phrases : List (List Marked)}
    (h : ∀ phrase ∈ phrases, Balanced (phrase.map Prod.fst)) :
    Balanced ((((TokenKind.identifier name, 0) :: (.openParen, 0)
      :: (enclosed (commaSeparated phrases) ++ [(.closeParen, 0)])) : List Marked).map
        Prod.fst) := by
  rw [List.map_cons, map_fst_parenthesized, balanced_cons fun _ => rfl]
  exact (balanced_commaSeparated h).parenthesized

/-- **The parentheses of a phrase are balanced.** -/
theorem Derives.balanced {level : Level} {marked : List Marked} {e : Expression}
    (h : Derives level marked e) : Balanced (marked.map Prod.fst) := by
  induction h with
  | tighter _ _ ih => exact ih
  | chain _ _ _ _ ihLeft ihRight | comparison _ _ ihLeft ihRight =>
    rw [List.map_append, List.map_cons]
    exact ihLeft.append ((balanced_cons fun _ => rfl).2 ihRight)
  | not _ ih =>
    rw [List.map_cons, map_fst_enclosed, balanced_cons fun _ => rfl]
    exact ih
  | integer | decimal | string | dateTime | word | property =>
    exact (balanced_cons fun _ => rfl).2 balanced_nil
  | @call name function args _ _ ih =>
    refine balanced_call name ?_
    rw [List.forall_mem_map]
    exact ih
  | parenthesized _ ih =>
    rw [map_fst_parenthesized]
    exact ih.parenthesized

/-- **No comma stands outside the parentheses of a phrase.** -/
theorem Derives.apart_comma {level : Level} {marked : List Marked} {e : Expression}
    (h : Derives level marked e) : Apart .comma (marked.map Prod.fst) := by
  induction h with
  | tighter _ _ ih => exact ih
  | chain _ _ hleft _ ihLeft ihRight | comparison hleft _ ihLeft ihRight =>
    rw [List.map_append, List.map_cons]
    exact .append hleft.balanced ihLeft (apart_cons (fun _ => rfl) nofun ihRight)
  | not _ ih =>
    rw [List.map_cons, map_fst_enclosed]
    exact apart_cons (fun _ => rfl) nofun ih
  | integer | decimal | string | dateTime | word | property =>
    exact apart_cons (fun _ => rfl) nofun apart_nil
  | @call name function args _ hargs _ =>
    have hbalanced : ∀ phrase ∈ args.map Prod.fst, Balanced (phrase.map Prod.fst) := by
      rw [List.forall_mem_map]
      exact fun arg harg => (hargs arg harg).balanced
    rw [List.map_cons, map_fst_parenthesized]
    exact apart_cons (fun _ => rfl) nofun
      (apart_parenthesized nofun (balanced_commaSeparated hbalanced))
  | parenthesized h _ =>
    rw [map_fst_parenthesized]
    exact apart_parenthesized nofun h.balanced

/-! ## Printed phrases -/

theorem opened_token (value : Value) (depth : Nat) : opened depth value.token = some depth := by
  cases value <;> rfl

/-- **The parentheses of a printed expression are balanced.** -/
theorem balanced_printed (e : Expression) : Balanced (e.printed.map Prod.fst) := by
  induction e using Expression.induction with
  | literal value =>
    rw [Expression.printed]
    exact (balanced_cons (opened_token value)).2 balanced_nil
  | property name =>
    rw [Expression.printed]
    exact (balanced_cons fun _ => rfl).2 balanced_nil
  | not operand ih =>
    rw [Expression.map_fst_printed_not, balanced_cons fun _ => rfl]
    exact ih
  | binary left operator right ihLeft ihRight =>
    rw [Expression.map_fst_printed_binary]
    exact (ihLeft.append ((balanced_cons fun _ => rfl).2 ihRight)).parenthesized
  | call function args ih =>
    rw [Expression.printed, Expression.printedArgs_eq]
    refine balanced_call function.name ?_
    rw [List.forall_mem_map]
    exact ih

/-- The tokens of two printed operands around an operator are balanced. -/
theorem balanced_operation (left : Expression) (operator : Operator) (right : Expression) :
    Balanced (left.printed.map Prod.fst
      ++ .identifier operator.keyword :: right.printed.map Prod.fst) :=
  (balanced_printed left).append ((balanced_cons fun _ => rfl).2 (balanced_printed right))

/-- The tokens between the parts of phrases. -/
def IsSeparator (kind : TokenKind) : Prop :=
  kind = .comma ∨ ∃ operator : Operator, kind = .identifier operator.keyword

theorem IsSeparator.ne_openParen (h : IsSeparator separator) : separator ≠ .openParen := by
  rcases h with rfl | ⟨operator, rfl⟩ <;> exact nofun

/-- A word that is no keyword of an operator is no separator. -/
theorem IsSeparator.ne_identifier (h : IsSeparator separator) {word : String}
    (hword : ∀ operator : Operator, operator.keyword ≠ word) :
    TokenKind.identifier word ≠ separator := by
  rcases h with rfl | ⟨operator, rfl⟩
  · exact nofun
  · intro heq
    exact hword operator (TokenKind.identifier.inj heq).symm

theorem keyword_ne_of_not_mem {word : String} (h : word ∉ reservedWords) (operator : Operator) :
    operator.keyword ≠ word := by
  rintro rfl
  exact h (List.mem_append_left _ (List.mem_map_of_mem operator.mem_all))

theorem keyword_ne_not (operator : Operator) : operator.keyword ≠ "not" := by
  have hall : ∀ operator ∈ Operator.all, operator.keyword ≠ "not" := by decide
  exact hall operator operator.mem_all

theorem name_not_mem_reservedWords (function : Function) : function.name ∉ reservedWords := by
  have hall : ∀ function ∈ Function.all, function.name ∉ reservedWords := by decide
  exact hall function function.mem_all

theorem IsSeparator.ne_token (h : IsSeparator separator) (value : Value) :
    value.token ≠ separator := by
  cases value with
  | null => exact h.ne_identifier (keyword_ne_of_not_mem (by decide))
  | bool b => cases b <;> exact h.ne_identifier (keyword_ne_of_not_mem (by decide))
  | int | float | string | dateTime =>
    rcases h with rfl | ⟨operator, rfl⟩ <;> exact nofun

/-- **No operator or comma stands outside the parentheses of a printed expression.** -/
theorem apart_printed {e : Expression} (hnames : e.Readable) (hseparator : IsSeparator separator) :
    Apart separator (e.printed.map Prod.fst) := by
  induction e using Expression.induction with
  | literal value =>
    rw [Expression.printed]
    exact apart_cons (opened_token value) (hseparator.ne_token value) apart_nil
  | property name =>
    obtain ⟨-, -, hfree⟩ := hnames name (Expression.self_mem_parts _)
    rw [Expression.printed]
    exact apart_cons (fun _ => rfl) (hseparator.ne_identifier (keyword_ne_of_not_mem hfree))
      apart_nil
  | not operand ih =>
    rw [Expression.map_fst_printed_not]
    exact apart_cons (fun _ => rfl) (hseparator.ne_identifier keyword_ne_not)
      (ih (hnames.of_subset (Expression.operand_parts_subset operand)))
  | binary left operator right _ _ =>
    rw [Expression.map_fst_printed_binary]
    exact apart_parenthesized hseparator.ne_openParen (balanced_operation left operator right)
  | call function args _ =>
    have hinside : Balanced ((commaSeparated (args.map Expression.printed)).map Prod.fst) := by
      refine balanced_commaSeparated ?_
      rw [List.forall_mem_map]
      exact fun arg _ => balanced_printed arg
    have hname := keyword_ne_of_not_mem (name_not_mem_reservedWords function)
    rw [Expression.map_fst_printed_call]
    exact apart_cons (fun _ => rfl) (hseparator.ne_identifier hname)
      (apart_parenthesized hseparator.ne_openParen hinside)

end Filter
end ODataQuery
