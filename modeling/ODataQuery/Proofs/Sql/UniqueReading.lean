import ODataQuery.Proofs.Sql.Constructs

/-!
# Conditions can be read in one way only

The statement of a condition is text with parameters.  Parentheses are missing around negations, and
functions are spelled differently in every dialect, so it takes an argument that no two conditions
share a statement.

Reading goes from left to right.  What a construct begins with, and what follows its first operand,
tell it from all others, with two exceptions: a constant begins with a parenthesis as most
constructs do, and in PostgreSQL the seconds of a point of time are cut off by the function that is
also called for whole numbers.  In both cases what would be left to read begins no term.

* `Construct.opening`, `Construct.after`: the texts before and after the first operand.
* `Construct.opening_starts`, `Construct.after_starts`: what the texts tell apart.
* `Term.Built.symbols_append_ne`: texts that no term begins with.
* `Term.Built.eq_of_append_eq`: two terms at the beginning of the same symbols are the same.
* `Term.Built.readable`: the symbols of a term are known from its text.
* `Table.condition_eq_of_statement_eq`: so a condition is known from its statement.
-/

set_option autoImplicit false

namespace ODataQuery
namespace Sql

/-! ## Telling constructs apart -/

/-- A construct of one operand or of two. -/
inductive Construct where
  | unary (u : Unary)
  | binary (b : Binary)
  deriving DecidableEq

namespace Construct

/-- Every construct. -/
def all : List Construct :=
  [unary .not, unary (.nullTest false), unary (.nullTest true), unary (.call .length),
    unary (.call (.change .toLower)), unary (.call (.change .toUpper)),
    unary (.call (.change .trim)), unary (.call (.whole .round)), unary (.call (.whole .floor)),
    unary (.call (.whole .ceiling)), unary (.part .year), unary (.part .month), unary (.part .day),
    unary (.part .hour), unary (.part .minute), unary (.part .second), binary .like]
  ++ Connective.all.map (binary ∘ .connective) ++ Comparison.all.map (binary ∘ .comparison)
  ++ Arithmetic.all.map (binary ∘ .arithmetic)

theorem mem_all (construct : Construct) : construct ∈ all := by
  rcases construct with (_ | negated | (_ | c | w) | p) | (c | c | a | _)
  · decide
  · cases negated <;> decide
  · decide
  · cases c <;> decide
  · cases w <;> decide
  · cases p <;> decide
  · cases c <;> decide
  · cases c <;> decide
  · cases a <;> decide
  · decide

/-- The text before the first operand. -/
def opening (style : FunctionStyle) : Construct → String
  | unary u => u.opening style
  | binary _ => "("

/-- The text after the first operand. -/
def after (style : FunctionStyle) : Construct → String
  | unary u => u.closing style
  | binary b => b.between

/-- The construct that cuts a number off. -/
def floor : Construct := unary (.call (.whole .floor))

/-- The construct that takes the seconds of a point of time. -/
def seconds : Construct := unary (.part .second)

/-- Only in PostgreSQL does one opening begin with another. -/
theorem opening_starts {style : FunctionStyle} {construct construct' : Construct}
    (h : (construct.opening style).toList <+: (construct'.opening style).toList) :
    construct.opening style = construct'.opening style
      ∨ style = .postgres ∧ construct = floor ∧ construct' = seconds := by
  have hall : ∀ c ∈ all, ∀ c' ∈ all, (c.opening style).toList <+: (c'.opening style).toList →
      c.opening style = c'.opening style ∨ style = .postgres ∧ c = floor ∧ c' = seconds := by
    cases style <;> decide +kernel
  exact hall construct construct.mem_all construct' construct'.mem_all h

/-- Constructs with one opening are told apart by what follows their first operand. -/
theorem after_starts {style : FunctionStyle} {construct construct' : Construct}
    (hopening : construct.opening style = construct'.opening style)
    (h : (construct.after style).toList <+: (construct'.after style).toList) :
    construct = construct' := by
  have hall : ∀ c ∈ all, ∀ c' ∈ all, c.opening style = c'.opening style →
      (c.after style).toList <+: (c'.after style).toList → c = c' := by
    cases style <;> decide +kernel
  exact hall construct construct.mem_all construct' construct'.mem_all hopening h

theorem opening_ne_empty (style : FunctionStyle) (construct : Construct) :
    construct.opening style ≠ "" := by
  have hall : ∀ c ∈ all, c.opening style ≠ "" := by cases style <;> decide
  exact hall construct construct.mem_all

/-- A construct begins apart from a constant, or with the parenthesis that a constant has too. -/
theorem opening_eq_or_apart_boolText (style : FunctionStyle) (construct : Construct) (b : Bool) :
    construct.opening style = "(" ∨ TextsApart (construct.opening style) (boolText b) := by
  have hall : ∀ c ∈ all, c.opening style = "(" ∨ TextsApart (c.opening style) (boolText b) := by
    cases style <;> cases b <;> decide +kernel
  exact hall construct construct.mem_all

end Construct

/-! ## What terms begin with -/

namespace Term
namespace Built

variable {style : FunctionStyle} {term : Term}

/-- **No term begins with a text** if neither a constant nor a construct does. -/
theorem symbols_append_ne {text : String} (hne : text ≠ "")
    (hbool : ∀ b, TextsApart (boolText b) text)
    (hopening : ∀ c ∈ Construct.all, TextsApart (c.opening style) text) (h : term.Built)
    (rest rest' : List Symbol) : term.symbols style ++ rest ≠ plainSymbols text ++ rest' := by
  cases h with
  | atom a =>
    rw [Atom.symbols_term]
    cases a with
    | parameter value => exact (plainSymbols_append_ne hne (by simp) _ _).symm
    | column name => exact (plainSymbols_append_ne hne (by simp) _ _).symm
    | bool b => exact plainSymbols_append_ne_of_apart (hbool b) _ _
  | unary construct =>
    rw [Unary.symbols_term_append]
    exact plainSymbols_append_ne_of_apart (hopening _ (Construct.unary construct).mem_all) _ _
  | binary construct =>
    rw [Binary.symbols_term_append]
    exact plainSymbols_append_ne_of_apart (hopening _ (Construct.binary construct).mem_all) _ _

/-- A number that is cut off is not written as the seconds of a point of time are: without the
function that cuts it off, no term begins as they do. -/
theorem floor_append_ne_seconds (h : term.Built) (rest rest' : List Symbol) :
    plainSymbols (Construct.floor.opening .postgres) ++ (term.symbols .postgres ++ rest)
      ≠ plainSymbols (Construct.seconds.opening .postgres) ++ rest' := by
  have hsplit : Construct.seconds.opening .postgres
      = Construct.floor.opening .postgres ++ "EXTRACT(SECOND FROM " := by decide
  rw [hsplit, plainSymbols_append, List.append_assoc]
  intro heq
  exact h.symbols_append_ne (by decide) (by decide) (by decide) _ _
    (List.append_cancel_left heq)

/-- A construct is not written as a constant is: after the parenthesis, no term begins with a
digit. -/
theorem opening_append_ne_bool (h : term.Built) (construct : Construct) (b : Bool)
    (rest rest' : List Symbol) :
    plainSymbols (construct.opening style) ++ (term.symbols style ++ rest)
      ≠ plainSymbols (boolText b) ++ rest' := by
  rcases construct.opening_eq_or_apart_boolText style b with hparen | hapart
  · have hdigit : ∃ tail, boolText b = "(" ++ ("1" ++ tail) := by
      cases b
      · exact ⟨" = 0)", by decide⟩
      · exact ⟨" = 1)", by decide⟩
    obtain ⟨tail, htail⟩ := hdigit
    have hconstructs : ∀ c ∈ Construct.all, TextsApart (c.opening style) "1" := by
      cases style <;> decide +kernel
    rw [hparen, htail, plainSymbols_append, plainSymbols_append, List.append_assoc,
      List.append_assoc]
    intro heq
    exact h.symbols_append_ne (by decide) (by decide) hconstructs _ _
      (List.append_cancel_left heq)
  · exact plainSymbols_append_ne_of_apart hapart _ _

theorem opening_append_ne_atom (h : term.Built) (construct : Construct) (a : Atom)
    (rest rest' : List Symbol) :
    plainSymbols (construct.opening style) ++ (term.symbols style ++ rest)
      ≠ a.symbols ++ rest' := by
  have hne := construct.opening_ne_empty style
  cases a with
  | parameter value => exact plainSymbols_append_ne hne (by simp) _ _
  | column name => exact plainSymbols_append_ne hne (by simp) _ _
  | bool b => exact h.opening_append_ne_bool construct b _ _

end Built
end Term

/-! ## Reading terms -/

/-- Atoms are told apart by their symbols. -/
theorem Atom.eq_of_append_eq {a a' : Atom} {rest rest' : List Symbol}
    (h : a.symbols ++ rest = a'.symbols ++ rest') : a = a' ∧ rest = rest' := by
  have hne (b : Bool) : boolText b ≠ "" := by cases b <;> decide
  match a, a' with
  | .parameter _, .parameter _ | .column _, .column _ => cases h; exact ⟨rfl, rfl⟩
  | .parameter _, .column _ | .column _, .parameter _ => cases h
  | .bool b, .parameter _ | .bool b, .column _ =>
    exact absurd h (plainSymbols_append_ne (hne b) (by simp) _ _)
  | .parameter _, .bool b' | .column _, .bool b' =>
    exact absurd h.symm (plainSymbols_append_ne (hne b') (by simp) _ _)
  | .bool false, .bool false | .bool true, .bool true => exact ⟨rfl, List.append_cancel_left h⟩
  | .bool false, .bool true | .bool true, .bool false =>
    exact absurd h (plainSymbols_append_ne_of_apart (by decide) _ _)

/-- Constructs are told apart once their first operand is. -/
theorem Construct.eq_of_append_eq {style : FunctionStyle} (construct construct' : Construct)
    {first first' : Term} (hfirst : first.Built) (hfirst' : first'.Built)
    (hread : ∀ {rest rest' : List Symbol},
      first.symbols style ++ rest = first'.symbols style ++ rest' → first = first' ∧ rest = rest')
    {rest rest' : List Symbol}
    (h : plainSymbols (construct.opening style) ++ (first.symbols style
        ++ (plainSymbols (construct.after style) ++ rest))
      = plainSymbols (construct'.opening style) ++ (first'.symbols style
        ++ (plainSymbols (construct'.after style) ++ rest'))) :
    construct = construct' ∧ first = first' ∧ rest = rest' := by
  have hopening : construct.opening style = construct'.opening style := by
    rcases starts_or_starts_of_append_eq h with hstarts | hstarts
    · rcases opening_starts hstarts with hopening | ⟨rfl, rfl, rfl⟩
      · exact hopening
      · exact absurd h (hfirst.floor_append_ne_seconds _ _)
    · rcases opening_starts hstarts with hopening | ⟨rfl, rfl, rfl⟩
      · exact hopening.symm
      · exact absurd h.symm (hfirst'.floor_append_ne_seconds _ _)
  rw [hopening] at h
  obtain ⟨rfl, hafter⟩ := hread (List.append_cancel_left h)
  have hconstruct : construct = construct' := by
    rcases starts_or_starts_of_append_eq hafter with hstarts | hstarts
    · exact after_starts hopening hstarts
    · exact (after_starts hopening.symm hstarts).symm
  subst hconstruct
  exact ⟨rfl, rfl, List.append_cancel_left hafter⟩

/-- **Terms are read in one way only**: two terms at the beginning of the same symbols are the same,
and so is what follows them. -/
theorem Term.Built.eq_of_append_eq {style : FunctionStyle} {term term' : Term} (h : term.Built)
    (h' : term'.Built) {rest rest' : List Symbol}
    (heq : term.symbols style ++ rest = term'.symbols style ++ rest') :
    term = term' ∧ rest = rest' := by
  -- what follows is left open: for an operand, it is what its construct goes on with
  induction h generalizing term' rest rest' with
  | atom a =>
    rw [Atom.symbols_term] at heq
    cases h' with
    | atom a' =>
      rw [Atom.symbols_term] at heq
      obtain ⟨rfl, hrest⟩ := Atom.eq_of_append_eq heq
      exact ⟨rfl, hrest⟩
    | unary construct' hoperand' =>
      rw [Unary.symbols_term_append] at heq
      exact absurd heq.symm (hoperand'.opening_append_ne_atom (.unary construct') a _ _)
    | binary construct' hleft' =>
      rw [Binary.symbols_term_append] at heq
      exact absurd heq.symm (hleft'.opening_append_ne_atom (.binary construct') a _ _)
  | @unary construct operand hoperand ih =>
    rw [Unary.symbols_term_append] at heq
    cases h' with
    | atom a' =>
      rw [Atom.symbols_term] at heq
      exact absurd heq (hoperand.opening_append_ne_atom (.unary construct) a' _ _)
    | unary construct' hoperand' =>
      rw [Unary.symbols_term_append] at heq
      obtain ⟨⟨rfl⟩, rfl, hrest⟩ := Construct.eq_of_append_eq (.unary construct) (.unary construct')
        hoperand hoperand' (fun heq => ih hoperand' heq) heq
      exact ⟨rfl, hrest⟩
    | binary construct' hleft' _ =>
      rw [Binary.symbols_term_append] at heq
      obtain ⟨⟨⟩, -, -⟩ := Construct.eq_of_append_eq (.unary construct) (.binary construct')
        hoperand hleft' (fun heq => ih hleft' heq) heq
  | binary construct hleft _ ihleft ihright =>
    rw [Binary.symbols_term_append] at heq
    cases h' with
    | atom a' =>
      rw [Atom.symbols_term] at heq
      exact absurd heq (hleft.opening_append_ne_atom (.binary construct) a' _ _)
    | unary construct' hoperand' =>
      rw [Unary.symbols_term_append] at heq
      obtain ⟨⟨⟩, -, -⟩ := Construct.eq_of_append_eq (.binary construct) (.unary construct')
        hleft hoperand' (fun heq => ihleft hoperand' heq) heq
    | binary construct' hleft' hright' =>
      rw [Binary.symbols_term_append] at heq
      obtain ⟨⟨rfl⟩, rfl, hrest⟩ := Construct.eq_of_append_eq (.binary construct)
        (.binary construct') hleft hleft' (fun heq => ihleft hleft' heq) heq
      obtain ⟨rfl, hclosing⟩ := ihright hright' hrest
      exact ⟨rfl, List.append_cancel_left hclosing⟩

/-! ## Reading text -/

/-- What stands around first operands looks like no mark. -/
theorem Construct.isUnmarked_texts (style : FunctionStyle) (construct : Construct) :
    isUnmarked (construct.opening style) = true ∧ isUnmarked (construct.after style) = true := by
  have hall : ∀ c ∈ all,
      isUnmarked (c.opening style) = true ∧ isUnmarked (c.after style) = true := by
    cases style <;> decide +kernel
  exact hall construct construct.mem_all

theorem Binary.isUnmarked_closing (construct : Binary) :
    isUnmarked construct.closing = true := by
  have hclosing : construct.closing = ")" ∨ construct.closing = like.closing := by
    cases construct with
    | like => exact .inr rfl
    | connective | comparison | arithmetic => exact .inl rfl
  rcases hclosing with h | h <;> rw [h] <;> decide

theorem Binary.between_ne_empty (construct : Binary) : construct.between ≠ "" := by
  cases construct with
  | connective c | comparison c | arithmetic c => cases c <;> decide
  | like => decide

/-- **The symbols of a term are known from its text**, since names stand in quotes and are kept
apart. -/
theorem Term.Built.readable (style : FunctionStyle) {term : Term} (h : term.Built)
    {rest : List Symbol} (hrest : Readable rest) (hfollow : Symbol.FollowIdentifier rest) :
    Readable (term.symbols style ++ rest) := by
  induction h generalizing rest with
  | atom a =>
    rw [Atom.symbols_term]
    cases a with
    | parameter value => exact .parameter value hrest
    | column name =>
      exact .identifier _ nofun (.char (by decide) (.identifier name hfollow hrest))
    | bool b => exact hrest.text_append (by cases b <;> decide)
  | unary construct _ ih =>
    obtain ⟨hopening, hclosing⟩ := (Construct.unary construct).isUnmarked_texts style
    rw [Unary.symbols_term_append]
    exact (ih (hrest.text_append hclosing) (hfollow.text_append _)).text_append hopening
  | binary construct _ _ ihleft ihright =>
    obtain ⟨hopening, hbetween⟩ := (Construct.binary construct).isUnmarked_texts style
    rw [Binary.symbols_term_append]
    have hright := ihright (hrest.text_append construct.isUnmarked_closing) (hfollow.text_append _)
    have hleft := ihleft (hright.text_append hbetween)
      (Symbol.followIdentifier_plainSymbols_append construct.between_ne_empty _)
    exact hleft.text_append hopening

/-- **A term is known from its statement.** -/
theorem Term.Built.eq_of_toStatement_eq {dialect : Dialect} {term term' : Term} (h : term.Built)
    (h' : term'.Built) (heq : (term.fragment dialect.functions).toStatement dialect
      = (term'.fragment dialect.functions).toStatement dialect) : term = term' := by
  have hreadable {t : Term} (ht : t.Built) : Readable (t.symbols dialect.functions) := by
    simpa using ht.readable dialect.functions .nil nofun
  have hsymbols : term.symbols dialect.functions = term'.symbols dialect.functions :=
    Fragment.symbols_eq_of_toStatement_eq (hreadable h) (hreadable h') heq
  exact (h.eq_of_append_eq h' (congrArg (· ++ []) hsymbols)).1

/-- **A condition is known from its statement**: in every dialect, the conditions of two filters are
the same if they are written with the same text and the same parameters, whatever the columns of
their tables are. -/
theorem Table.condition_eq_of_statement_eq (dialect : Dialect) (first second : Table)
    {filter filter' : Expression} {schema schema' : Schema}
    (hcheck : filter.checkPredicate schema = .ok ())
    (hcheck' : filter'.checkPredicate schema' = .ok ()) {condition condition' : Term}
    (hcondition : first.condition filter = .ok condition)
    (hcondition' : second.condition filter' = .ok condition')
    (hstatement : (condition.fragment dialect.functions).toStatement dialect
      = (condition'.fragment dialect.functions).toStatement dialect) :
    condition = condition' :=
  (built_of_condition hcondition (Expression.checkPredicate_eq_ok.1 hcheck)).eq_of_toStatement_eq
    (built_of_condition hcondition' (Expression.checkPredicate_eq_ok.1 hcheck')) hstatement

/-- The rule for a property that stands as a condition of one table, and a comparison with true of a
property of another that has the same column. -/
theorem Table.condition_eq_of_statement_eq_of_boolean_property :
    let task : Schema := ⟨"Task", .ofList [("Done", { column := some "done", type := .boolean })]⟩
    let job : Schema := ⟨"Job", .ofList [("IsOver", { column := some "done", type := .boolean })]⟩
    let filter : Expression := .not (.property "Done")
    let filter' : Expression :=
      .not (.binary (.property "IsOver") (.comparison .eq) (.literal (.bool true)))
    ∃ condition condition', (ofSchema .postgres task).condition filter = .ok condition
      ∧ (ofSchema .postgres job).condition filter' = .ok condition'
      ∧ (condition.fragment .postgres).toStatement .postgres
        = (condition'.fragment .postgres).toStatement .postgres
      ∧ condition = condition' := by
  intro task job filter filter'
  have hcheck : filter.checkPredicate task = .ok () := rfl
  have hcheck' : filter'.checkPredicate job = .ok () := rfl
  exact ⟨_, _, rfl, rfl, rfl,
    condition_eq_of_statement_eq .postgres (ofSchema .postgres task) (ofSchema .postgres job) hcheck
      hcheck' rfl rfl rfl⟩

end Sql
end ODataQuery
