import ODataQuery.Proofs.QueryString.Balance

/-!
# Which printed filters are read back

A printed filter is read back exactly if no negation is an operand of a comparison in it.  By the
grammar such an operand stands in parentheses, and it is printed without.

* `Filter.Derivable`: the tokens are those of an expression, whatever encloses them;
  `Derivable.of_not`, `of_binary`, `of_call` take them apart.
* `Filter.derivable_operands`: the tokens of a printed operation are those of its operands.
* `Filter.comparesNoNegation_of_derivable`: if the printed tokens are those of the expression, it
  compares no negation.
* `Filter.parse_text_iff`: which printed filters are read back.
-/

set_option autoImplicit false

namespace ODataQuery
namespace Filter

/-! ## Taking phrases apart -/

/-- The tokens of a level are those of an expression, whatever encloses them. -/
def Derivable (level : Level) (kinds : List TokenKind) (e : Expression) : Prop :=
  ∃ marked : List Marked, marked.map Prod.fst = kinds ∧ Derives level marked e

namespace Derivable

variable {level : Level} {kinds : List TokenKind} {e : Expression}

theorem balanced (h : Derivable level kinds e) : Balanced kinds := by
  obtain ⟨marked, rfl, h⟩ := h
  exact h.balanced

theorem ne_nil (h : Derivable level kinds e) : kinds ≠ [] := by
  obtain ⟨marked, rfl, h⟩ := h
  obtain ⟨first, rest, rfl, -⟩ := h.start
  exact nofun

/-- A phrase with the tokens of a printed negation is none of a level tighter than negations. -/
theorem isNot_eq_false (h : Derivable level (e.printed.map Prod.fst) e)
    (htight : level.isTight = true) : e.isNot = false := by
  obtain ⟨marked, hmarked, h⟩ := h
  obtain ⟨first, rest, rfl, -, hnot⟩ := h.start
  cases e with
  | not operand =>
    rw [Expression.printed] at hmarked
    exact absurd (List.cons.inj hmarked).1 (hnot htight)
  | _ => rfl

/-- A negation is in parentheses, or it starts with `not`. -/
theorem of_not {operand : Expression} (h : Derivable level kinds operand.not) :
    kinds.head? = some .openParen
      ∨ ∃ rest, kinds = .identifier "not" :: rest ∧ Derivable .negation rest operand := by
  obtain ⟨marked, rfl, h⟩ := h
  generalize he : operand.not = e at h
  induction h with
  | tighter _ _ ih => exact ih he
  | not h =>
    cases he
    exact .inr ⟨_, rfl, _, (map_fst_enclosed _).symm, h⟩
  | parenthesized => exact .inl rfl
  | _ => cases he

/-- An operation is in parentheses, or its operands are phrases around its operator. -/
theorem of_binary {left right : Expression} {operator : Operator}
    (h : Derivable level kinds (.binary left operator right)) :
    (∃ inside, kinds = .openParen :: (inside ++ [.closeParen])
        ∧ Derivable .disjunction inside (.binary left operator right))
      ∨ ∃ before after leftLevel rightLevel,
        kinds = before ++ .identifier operator.keyword :: after
          ∧ Derivable leftLevel before left ∧ Derivable rightLevel after right
          ∧ ∀ c, operator = .comparison c → leftLevel.isTight = true ∧ rightLevel.isTight = true := by
  obtain ⟨marked, rfl, h⟩ := h
  generalize he : Expression.binary left operator right = e at h
  induction h with
  | tighter _ _ ih => exact ih he
  | @chain level inner _ _ _ _ _ _ hoperator hleft hright =>
    cases he
    refine .inr ⟨_, _, level, inner, List.map_append, ⟨_, rfl, hleft⟩, ⟨_, rfl, hright⟩, ?_⟩
    rintro c rfl
    cases level <;> simp [Level.chained] at hoperator
  | comparison hleft hright =>
    cases he
    exact .inr ⟨_, _, .sum, .sum, List.map_append, ⟨_, rfl, hleft⟩, ⟨_, rfl, hright⟩,
      fun _ _ => ⟨rfl, rfl⟩⟩
  | parenthesized h =>
    cases he
    refine .inl ⟨_, ?_, _, rfl, h⟩
    exact map_fst_parenthesized _
  | _ => cases he

/-- A call is in parentheses, or its arguments are phrases with commas. -/
theorem of_call {function : Function} {args : List Expression}
    (h : Derivable level kinds (.call function args)) :
    kinds.head? = some .openParen
      ∨ ∃ (name : String) (phrases : List (List Marked × Expression)),
        kinds = .identifier name :: .openParen
            :: ((commaSeparated (phrases.map Prod.fst)).map Prod.fst ++ [.closeParen])
          ∧ phrases.map Prod.snd = args
          ∧ ∀ phrase ∈ phrases, Derives .disjunction phrase.1 phrase.2 := by
  obtain ⟨marked, rfl, h⟩ := h
  generalize he : Expression.call function args = e at h
  induction h with
  | tighter _ _ ih => exact ih he
  | @call name _ phrases _ hphrases =>
    cases he
    refine .inr ⟨name, phrases, ?_, rfl, hphrases⟩
    rw [List.map_cons, map_fst_parenthesized]
  | parenthesized => exact .inl rfl
  | _ => cases he

end Derivable

/-! ## Printed operands -/

theorem printed_ne_nil (e : Expression) : e.printed.map Prod.fst ≠ [] := by
  cases e <;> rw [Expression.printed] <;> exact List.cons_ne_nil _ _

/-- **The tokens of a printed operation are those of its operands**, which are phrases of their own:
there is no other place to take them apart. -/
theorem derivable_operands {left right : Expression} {operator : Operator}
    (hleft : left.Readable) (hright : right.Readable) {level : Level}
    (h : Derivable level ((Expression.binary left operator right).printed.map Prod.fst)
      (.binary left operator right)) :
    ∃ leftLevel rightLevel, Derivable leftLevel (left.printed.map Prod.fst) left
      ∧ Derivable rightLevel (right.printed.map Prod.fst) right
      ∧ ∀ c, operator = .comparison c → leftLevel.isTight = true ∧ rightLevel.isTight = true := by
  have hseparator : IsSeparator (.identifier operator.keyword) := .inr ⟨operator, rfl⟩
  have hbalanced := balanced_operation left operator right
  rw [Expression.map_fst_printed_binary] at h
  -- the operation has no operator outside the parentheses around it
  have hinside : Derivable .disjunction (left.printed.map Prod.fst
      ++ .identifier operator.keyword :: right.printed.map Prod.fst)
      (.binary left operator right) := by
    rcases h.of_binary with ⟨inside, heq, h⟩ | ⟨before, after, _, _, heq, hbefore, -, -⟩
    · rw [List.append_cancel_right (List.cons.inj heq).2]
      exact h
    · exact absurd hbefore.balanced (hbalanced.not_balanced_inside hbefore.ne_nil heq)
  rcases hinside.of_binary with ⟨inside, heq, h⟩ |
    ⟨before, after, leftLevel, rightLevel, heq, hbefore, hafter, htight⟩
  · exact absurd (balanced_printed left)
      (h.balanced.not_balanced_inside (printed_ne_nil left) heq.symm)
  · rcases (apart_printed hleft hseparator).split hbefore.balanced heq with
      ⟨rfl, rfl⟩ | ⟨between, rfl, hbetween⟩
    · exact ⟨leftLevel, rightLevel, hbefore, hafter, htight⟩
    · -- the operator would stand outside parentheses in the right operand
      have hrest := (balanced_printed left).of_append hbefore.balanced
      exact absurd ((balanced_cons fun _ => rfl).1 hrest)
        (apart_printed hright hseparator between after hbetween)

/-- The tokens of the printed arguments of a call are those of the arguments. -/
theorem derivable_args {phrases : List (List Marked × Expression)}
    (hnames : ∀ phrase ∈ phrases, phrase.2.Readable)
    (hderives : ∀ phrase ∈ phrases, Derives .disjunction phrase.1 phrase.2)
    (heq : (commaSeparated (phrases.map fun phrase => phrase.2.printed)).map Prod.fst
      = (commaSeparated (phrases.map Prod.fst)).map Prod.fst) :
    ∀ phrase ∈ phrases, Derivable .disjunction (phrase.2.printed.map Prod.fst) phrase.2 := by
  induction phrases with
  | nil => exact fun _ h => nomatch h
  | cons first rest ih =>
    rw [List.forall_mem_cons] at hnames hderives ⊢
    cases rest with
    | nil =>
      rw [List.map_singleton, List.map_singleton, commaSeparated_singleton,
        commaSeparated_singleton] at heq
      exact ⟨⟨first.1, heq.symm, hderives.1⟩, fun _ h => nomatch h⟩
    | cons second rest =>
      simp only [List.map_cons, commaSeparated_cons_cons, List.map_append] at heq ih
      have hapart := apart_printed hnames.1 (.inl rfl : IsSeparator .comma)
      rcases hapart.split hderives.1.balanced heq with ⟨hfirst, hrest⟩ | ⟨between, hbetween, -⟩
      · exact ⟨⟨first.1, hfirst.symm, hderives.1⟩, ih hnames.2 hderives.2 hrest⟩
      · exact absurd (balanced_printed first.2)
          (hderives.1.apart_comma _ between hbetween)

/-! ## Which printed filters are read back -/

/-- **If the printed tokens are those of the expression, it compares no negation.** -/
theorem comparesNoNegation_of_derivable {e : Expression} (hnames : e.Readable) {level : Level}
    (h : Derivable level (e.printed.map Prod.fst) e) : e.ComparesNoNegation := by
  induction e using Expression.induction generalizing level with
  | literal value =>
    intro left c right hpart
    rw [Expression.parts] at hpart
    cases List.mem_singleton.1 hpart
  | property name =>
    intro left c right hpart
    rw [Expression.parts] at hpart
    cases List.mem_singleton.1 hpart
  | not operand ih =>
    have hoperand : Derivable .negation (operand.printed.map Prod.fst) operand := by
      rw [Expression.map_fst_printed_not] at h
      rcases h.of_not with hopen | ⟨rest, heq, h⟩
      · cases hopen
      · rw [(List.cons.inj heq).2]
        exact h
    intro left c right hpart
    rcases Expression.mem_parts_not.1 hpart with heq | hpart
    · cases heq
    · exact ih (hnames.of_subset (Expression.operand_parts_subset operand)) hoperand left c right
        hpart
  | binary left operator right ihLeft ihRight =>
    have hleftNames := hnames.of_subset (Expression.left_parts_subset left operator right)
    have hrightNames := hnames.of_subset (Expression.right_parts_subset left operator right)
    obtain ⟨leftLevel, rightLevel, hleft, hright, htight⟩ :=
      derivable_operands hleftNames hrightNames h
    intro left' c right' hpart
    rcases Expression.mem_parts_binary.1 hpart with heq | hpart | hpart
    · cases heq
      obtain ⟨hleftTight, hrightTight⟩ := htight c rfl
      exact ⟨hleft.isNot_eq_false hleftTight, hright.isNot_eq_false hrightTight⟩
    · exact ihLeft hleftNames hleft left' c right' hpart
    · exact ihRight hrightNames hright left' c right' hpart
  | call function args ih =>
    rw [Expression.map_fst_printed_call] at h
    rcases h.of_call with hopen | ⟨name, phrases, heq, rfl, hderives⟩
    · cases hopen
    · have hcommas := List.append_cancel_right (List.cons.inj (List.cons.inj heq).2).2
      rw [List.map_map] at hcommas
      have hphrases : ∀ phrase ∈ phrases, phrase.2.Readable := fun phrase hphrase =>
        hnames.of_subset (Expression.arg_parts_subset function (List.mem_map_of_mem hphrase))
      have hargs := derivable_args hphrases hderives hcommas
      intro left c right hpart
      rcases Expression.mem_parts_call.1 hpart with heq | ⟨arg, harg, hpart⟩
      · cases heq
      · obtain ⟨phrase, hphrase, rfl⟩ := List.mem_map.1 harg
        exact ih phrase.2 harg (hphrases phrase hphrase) (hargs phrase hphrase) left c right hpart

/-- A filter that is read back from its printed text compares no negation. -/
theorem comparesNoNegation_of_parse {schema : Schema} {text : String} {e : Expression}
    (h : parse schema text = .ok e) (hfloat : ∀ x, .literal (.float x) ∉ e.parts)
    (hback : parse schema e.text = .ok e) : e.ComparesNoNegation := by
  obtain ⟨tokens, htokens, hspells⟩ := spells_text h hfloat
  obtain ⟨tokens', marked, htokens', hspells', hderives, -⟩ := derives_of_parse hback
  obtain rfl := Except.ok.inj (htokens.symm.trans htokens')
  exact comparesNoNegation_of_derivable (readable_of_parse h)
    ⟨marked, hspells'.symm.trans hspells, hderives⟩

/-- **A printed filter is read back exactly if it compares no negation**: for every filter that was
read from a text, has no doubles, and whose printed text is not too deep to be read. -/
theorem parse_text_iff (schema : Schema) {text : String} {e : Expression}
    (hparse : parse schema text = .ok e) (hfloat : ∀ x, .literal (.float x) ∉ e.parts)
    (hnesting : e.nesting ≤ maxNesting) :
    parse schema e.text = .ok e
      ↔ ∀ left c right, .binary left (.comparison c) right ∈ e.parts →
        left.isNot = false ∧ right.isNot = false :=
  ⟨comparesNoNegation_of_parse hparse hfloat, parse_text hparse hfloat hnesting⟩

/-- The rule for a negation under a connective, with a literal of each kind that can be read back. -/
theorem parse_text_iff_of_literals :
    let schema : Schema := ⟨"Note", .ofList [("Due", { type := .dateTime }),
      ("Id", { type := .integer }), ("Text", { type := .string })]⟩
    let due : DateTime := ⟨2020, 2, 29, 0, 0, 0, 0, by decide, by decide⟩
    let filter : Expression :=
      .binary
        (.not (.binary
          (.call (.test .startsWith) [.property "Text", .literal (.string "it's")])
          (.connective .or)
          (.binary (.property "Id") (.comparison .eq) (.literal (.int (-3))))))
        (.connective .and)
        (.binary (.property "Due") (.comparison .lt) (.literal (.dateTime due)))
    parse schema "not (startswith(Text, 'it''s') or Id eq -3) and Due lt datetime'2020-02-29'"
        = .ok filter
      ∧ parse schema filter.text = .ok filter := by
  intro schema due filter
  have htokens : Lexer.tokenize
      "not (startswith(Text, 'it''s') or Id eq -3) and Due lt datetime'2020-02-29'"
      = .ok [⟨.identifier "not", 0⟩, ⟨.openParen, 4⟩, ⟨.identifier "startswith", 5⟩,
        ⟨.openParen, 15⟩, ⟨.identifier "Text", 16⟩, ⟨.comma, 20⟩, ⟨.string "it's", 22⟩,
        ⟨.closeParen, 29⟩, ⟨.identifier "or", 31⟩, ⟨.identifier "Id", 34⟩, ⟨.identifier "eq", 37⟩,
        ⟨.integer (-3), 40⟩, ⟨.closeParen, 42⟩, ⟨.identifier "and", 44⟩, ⟨.identifier "Due", 48⟩,
        ⟨.identifier "lt", 52⟩, ⟨.dateTime due, 55⟩] := by
    decide +kernel
  have hparse : parse schema
      "not (startswith(Text, 'it''s') or Id eq -3) and Due lt datetime'2020-02-29'"
      = .ok filter := by
    rw [parse, htokens]
    rfl
  have hfloat : ∀ x, .literal (.float x) ∉ filter.parts := by
    simp [filter, Expression.parts, Expression.partsOfArgs]
  have hnot : ∀ left c right, .binary left (.comparison c) right ∈ filter.parts →
      left.isNot = false ∧ right.isNot = false := by
    intro left c right hpart
    have hcompared : (left = .property "Id" ∧ c = .eq ∧ right = .literal (.int (-3)))
        ∨ (left = .property "Due" ∧ c = .lt ∧ right = .literal (.dateTime due)) := by
      simpa [filter, Expression.parts, Expression.partsOfArgs] using hpart
    rcases hcompared with ⟨rfl, -, rfl⟩ | ⟨rfl, -, rfl⟩
    · exact ⟨rfl, rfl⟩
    · exact ⟨rfl, rfl⟩
  exact ⟨hparse, (parse_text_iff schema hparse hfloat (by decide)).2 hnot⟩

/-- A comparison of a negation is printed as the negation of a comparison. -/
theorem exists_parse_text_ne :
    ∃ (schema : Schema) (e other : Expression), parse schema "(not A) eq B" = .ok e
      ∧ (∀ x, .literal (.float x) ∉ e.parts) ∧ e.nesting ≤ maxNesting
      ∧ e.text = "(not A eq B)" ∧ parse schema e.text = .ok other ∧ other ≠ e := by
  let schema : Schema :=
    ⟨"Note", .ofList [("A", { type := .boolean }), ("B", { type := .boolean })]⟩
  let e : Expression := .binary (.not (.property "A")) (.comparison .eq) (.property "B")
  have htokens : Lexer.tokenize "(not A) eq B"
      = .ok [⟨.openParen, 0⟩, ⟨.identifier "not", 1⟩, ⟨.identifier "A", 5⟩, ⟨.closeParen, 6⟩,
        ⟨.identifier "eq", 8⟩, ⟨.identifier "B", 11⟩] := by
    decide +kernel
  have hprinted : Lexer.tokenize "(not A eq B)"
      = .ok [⟨.openParen, 0⟩, ⟨.identifier "not", 1⟩, ⟨.identifier "A", 5⟩,
        ⟨.identifier "eq", 7⟩, ⟨.identifier "B", 10⟩, ⟨.closeParen, 11⟩] := by
    decide +kernel
  have htext : e.text = "(not A eq B)" := by decide
  refine ⟨schema, e, .not (.binary (.property "A") (.comparison .eq) (.property "B")), ?_, ?_, ?_,
    htext, ?_, nofun⟩
  · rw [parse, htokens]
    rfl
  · simp [e, Expression.parts]
  · decide
  · rw [htext, parse, hprinted]
    rfl

end Filter
end ODataQuery
