import Mathlib.Data.List.Infix
import ODataQuery.Proofs.Text.Quoted
import ODataQuery.Sql.Fragment

/-!
# The symbols of SQL text

The text of a fragment does not show where its pieces end.  What it has to show are its symbols:
characters that stand as they are, whole identifiers and parameters.  It shows them if no character
that stands as it is looks like the mark of an identifier or a placeholder, and if identifiers are
kept apart, since the marks between two of them would look like a mark written twice.

* `readIdentifier?`: reads an identifier; `readIdentifier?_eq_some_iff`: it reads exactly what is
  written.
* `Fragment.symbols`: the symbols of a fragment; `Symbol.spell`: the text of symbols.
* `Readable`: the symbols that the text shows.
* `Readable.eq_of_spell_eq`: so readable symbols are known from their text and the values of their
  parameters.
* `Fragment.symbols_eq_of_toStatement_eq`: and readable symbols of a fragment from its statement.
-/

set_option autoImplicit false

namespace ODataQuery

namespace Sql

/-! ## Identifiers -/

/-- Read an identifier: the opening mark, characters of which a closing mark that is written twice
counts as one, and the closing mark.  The answer is the name and what follows it. -/
def readIdentifier? (quoting : IdentifierQuoting) : List Char → Option (String × List Char)
  | [] => none
  | c :: input =>
    if c = quoting.opening then
      (Text.Quoted.decode quoting.closing input).map fun (name, rest) => (String.ofList name, rest)
    else none

/-- **An identifier is read exactly where it is written.**  From the quoted form of a name, whatever
characters the name has, and a text that does not begin with the closing mark, reading takes the name
and leaves the text; and it takes a name from nothing else. -/
theorem readIdentifier?_eq_some_iff (quoting : IdentifierQuoting) (input : List Char)
    (name : String) (rest : List Char) :
    readIdentifier? quoting input = some (name, rest)
      ↔ input = Fragment.quoteIdentifier quoting name ++ rest
        ∧ rest.head? ≠ some quoting.closing := by
  cases input with
  | nil => simp [readIdentifier?, Fragment.quoteIdentifier, Text.Quoted.encode]
  | cons c input =>
    have hname (chars : List Char) : String.ofList chars = name ↔ chars = name.toList := by
      rw [← String.toList_inj, String.toList_ofList]
    by_cases hc : c = quoting.opening
    · simp [readIdentifier?, Fragment.quoteIdentifier, Text.Quoted.encode, hc, hname,
        Text.Quoted.decode_eq_some_iff]
    · simp [readIdentifier?, Fragment.quoteIdentifier, Text.Quoted.encode, hc]

/-! ## Symbols -/

/-- A character of SQL text that stands as it is, an identifier or a parameter. -/
inductive Symbol where
  | char (c : Char)
  | identifier (name : String)
  | parameter (value : Value)
  deriving DecidableEq

/-! ## Text that stands as it is -/

/-- The symbols of text that stands as it is. -/
def plainSymbols (text : String) : List Symbol := text.toList.map .char

theorem plainSymbols_append (first second : String) :
    plainSymbols (first ++ second) = plainSymbols first ++ plainSymbols second := by
  rw [plainSymbols, String.toList_append, List.map_append]
  rfl

/-- Neither text begins with the other. -/
def TextsApart (first second : String) : Prop :=
  ¬ first.toList <+: second.toList ∧ ¬ second.toList <+: first.toList

instance (first second : String) : Decidable (TextsApart first second) :=
  inferInstanceAs (Decidable (_ ∧ _))

/-- If symbols begin with two texts, one of the texts begins with the other. -/
theorem starts_or_starts_of_append_eq {first second : String} {rest rest' : List Symbol}
    (h : plainSymbols first ++ rest = plainSymbols second ++ rest') :
    first.toList <+: second.toList ∨ second.toList <+: first.toList := by
  have hchars {a b : List Char} (hstarts : a.map Symbol.char <+: b.map .char) : a <+: b := by
    obtain ⟨l, hl, heq⟩ := List.prefix_map_iff.1 hstarts
    rwa [List.map_injective_iff.2 (fun _ _ => Symbol.char.inj) heq]
  exact (List.prefix_or_prefix_of_prefix ⟨rest, h⟩ ⟨rest', rfl⟩).imp hchars hchars

theorem plainSymbols_append_ne_of_apart {first second : String} (h : TextsApart first second)
    (rest rest' : List Symbol) : plainSymbols first ++ rest ≠ plainSymbols second ++ rest' :=
  fun heq => (starts_or_starts_of_append_eq heq).elim h.1 h.2

theorem plainSymbols_append_ne {text : String} (h : text ≠ "") {symbol : Symbol}
    (hsymbol : ∀ c, symbol ≠ .char c) (rest rest' : List Symbol) :
    plainSymbols text ++ rest ≠ symbol :: rest' := by
  rw [plainSymbols]
  cases hchars : text.toList with
  | nil => exact absurd (String.toList_eq_nil_iff.1 hchars) h
  | cons c chars => exact fun heq => hsymbol c (List.cons.inj heq).1.symm

/-! ## The symbols of fragments -/

namespace Symbol

/-- The values of the parameters. -/
def values : List Symbol → List Value
  | [] => []
  | .char _ :: rest => values rest
  | .identifier _ :: rest => values rest
  | .parameter value :: rest => value :: values rest

/-- The text of symbols, of which the first parameter has the given number. -/
def spell (dialect : Dialect) : (number : Nat) → List Symbol → List Char
  | _, [] => []
  | number, .char c :: rest => c :: spell dialect number rest
  | number, .identifier name :: rest =>
    Fragment.quoteIdentifier dialect.identifierQuoting name ++ spell dialect number rest
  | number, .parameter _ :: rest =>
    (dialect.placeholder.write number).toList ++ spell dialect (number + 1) rest

theorem spell_map_char (dialect : Dialect) (number : Nat) (text : List Char)
    (rest : List Symbol) :
    spell dialect number (text.map char ++ rest) = text ++ spell dialect number rest := by
  induction text with
  | nil => rfl
  | cons c text ih => rw [List.map_cons, List.cons_append, spell, ih, List.cons_append]

theorem values_append (first second : List Symbol) :
    values (first ++ second) = values first ++ values second := by
  induction first with
  | nil => rfl
  | cons symbol rest ih => cases symbol <;> simp [values, ih]

theorem values_plainSymbols (text : String) : values (plainSymbols text) = [] := by
  rw [plainSymbols]
  induction text.toList with
  | nil => rfl
  | cons c rest ih => exact ih

end Symbol

namespace Fragment

/-- The symbols of the pieces. -/
def symbols : Fragment → List Symbol
  | [] => []
  | .verbatim text :: rest => plainSymbols text ++ symbols rest
  | .identifier name :: rest => .identifier name :: symbols rest
  | .parameter value :: rest => .parameter value :: symbols rest

theorem symbols_append (first second : Fragment) :
    symbols (first ++ second) = symbols first ++ symbols second := by
  induction first with
  | nil => rfl
  | cons piece rest ih => cases piece <;> simp [symbols, ih]

theorem symbols_ofText (text : String) : symbols (ofText text) = plainSymbols text :=
  List.append_nil _

/-- The text of a fragment is the text of its symbols. -/
theorem charsFrom_eq_spell (dialect : Dialect) (number : Nat) (fragment : Fragment) :
    charsFrom dialect number fragment = Symbol.spell dialect number fragment.symbols := by
  induction fragment generalizing number with
  | nil => rfl
  | cons piece rest ih =>
    cases piece with
    | verbatim text => rw [charsFrom, symbols, plainSymbols, Symbol.spell_map_char, ih]
    | identifier name => rw [charsFrom, symbols, Symbol.spell, ih]
    | parameter value => rw [charsFrom, symbols, Symbol.spell, ih]

theorem parameters_eq_values (fragment : Fragment) :
    fragment.parameters = Symbol.values fragment.symbols := by
  induction fragment with
  | nil => rfl
  | cons piece rest ih =>
    cases piece with
    | verbatim text =>
      rw [parameters, symbols, Symbol.values_append, Symbol.values_plainSymbols, ih]
      rfl
    | identifier name => rw [parameters, symbols, Symbol.values, ih]
    | parameter value => rw [parameters, symbols, Symbol.values, ih]

end Fragment

/-! ## Marks -/

/-- The marks around identifiers and before the numbers of placeholders. -/
def marks : List Char := ['"', '[', ']', '\x60', '@', '$', '?']

/-- The mark of a placeholder. -/
def PlaceholderStyle.mark : PlaceholderStyle → Char
  | atNamed => '@'
  | dollarNumbered => '$'
  | questionMark => '?'

/-- The first character of the text of a symbol. -/
def Symbol.first (dialect : Dialect) : Symbol → Char
  | .char c => c
  | .identifier _ => dialect.identifierQuoting.opening
  | .parameter _ => dialect.placeholder.mark

theorem Symbol.head?_spell_cons (dialect : Dialect) (number : Nat) (symbol : Symbol)
    (rest : List Symbol) :
    (spell dialect number (symbol :: rest)).head? = some (symbol.first dialect) := by
  cases symbol with
  | char | identifier => rfl
  | parameter value =>
    rw [spell, first]
    cases dialect.placeholder with
    | atNamed | dollarNumbered => rw [PlaceholderStyle.write, String.toList_append]; rfl
    | questionMark => rw [PlaceholderStyle.write]; rfl

/-- Equal texts begin with the same character. -/
theorem Symbol.first_eq_of_spell_eq {dialect : Dialect} {number : Nat} {symbol symbol' : Symbol}
    {rest rest' : List Symbol}
    (h : spell dialect number (symbol :: rest) = spell dialect number (symbol' :: rest')) :
    symbol.first dialect = symbol'.first dialect := by
  have hhead := congrArg List.head? h
  rwa [head?_spell_cons, head?_spell_cons, Option.some.injEq] at hhead

theorem IdentifierQuoting.opening_mem_marks (quoting : IdentifierQuoting) :
    quoting.opening ∈ marks := by
  cases quoting <;> decide

theorem IdentifierQuoting.closing_mem_marks (quoting : IdentifierQuoting) :
    quoting.closing ∈ marks := by
  cases quoting <;> decide

theorem PlaceholderStyle.mark_mem_marks (style : PlaceholderStyle) : style.mark ∈ marks := by
  cases style <;> decide

theorem PlaceholderStyle.mark_ne_opening (style : PlaceholderStyle) (quoting : IdentifierQuoting) :
    style.mark ≠ quoting.opening := by
  cases style <;> cases quoting <;> decide

theorem PlaceholderStyle.mark_ne_closing (style : PlaceholderStyle) (quoting : IdentifierQuoting) :
    style.mark ≠ quoting.closing := by
  cases style <;> cases quoting <;> decide

/-! ## Readable symbols -/

/-- The symbols can stand after an identifier: they do not begin with another. -/
def Symbol.FollowIdentifier (symbols : List Symbol) : Prop :=
  ∀ name, symbols.head? ≠ some (.identifier name)

/-- The text of the symbols shows the symbols: no character looks like a mark, and no identifier
follows another. -/
inductive Readable : List Symbol → Prop where
  | nil : Readable []
  | char {c : Char} {rest : List Symbol} (hplain : c ∉ marks) (hrest : Readable rest) :
    Readable (.char c :: rest)
  | identifier (name : String) {rest : List Symbol}
    (hfollow : Symbol.FollowIdentifier rest) (hrest : Readable rest) :
    Readable (.identifier name :: rest)
  | parameter (value : Value) {rest : List Symbol} (hrest : Readable rest) :
    Readable (.parameter value :: rest)

namespace Readable

/-- What follows an identifier does not begin with its closing mark. -/
theorem head?_spell_ne_closing {symbols : List Symbol} (h : Readable symbols)
    (hfollow : Symbol.FollowIdentifier symbols) (dialect : Dialect) (number : Nat) :
    (Symbol.spell dialect number symbols).head? ≠ some dialect.identifierQuoting.closing := by
  cases h with
  | nil => exact nofun
  | @char c _ hplain _ =>
    rw [Symbol.head?_spell_cons, Symbol.first, Ne, Option.some.injEq]
    exact fun hc => hplain (hc ▸ dialect.identifierQuoting.closing_mem_marks)
  | identifier name _ _ => exact absurd rfl (hfollow name)
  | parameter value _ =>
    rw [Symbol.head?_spell_cons, Symbol.first, Ne, Option.some.injEq]
    exact dialect.placeholder.mark_ne_closing _

/-- **Readable symbols are known from their text** and the values of their parameters.  The first
character of the text tells what kind of symbol it begins with. -/
theorem eq_of_spell_eq {dialect : Dialect} {symbols symbols' : List Symbol}
    (h : Readable symbols) (h' : Readable symbols') {number : Nat}
    (hspell : Symbol.spell dialect number symbols = Symbol.spell dialect number symbols')
    (hvalues : Symbol.values symbols = Symbol.values symbols') : symbols = symbols' := by
  have hopening := dialect.identifierQuoting.opening_mem_marks
  have hmark := dialect.placeholder.mark_mem_marks
  induction h generalizing symbols' number with
  | nil =>
    cases h' with
    | nil => rfl
    | char | identifier => cases hspell
    | parameter => cases hvalues
  | @char c rest hplain _ ih =>
    cases h' with
    | nil => cases hspell
    | char hplain' hrest' =>
      rw [Symbol.spell, Symbol.spell, List.cons.injEq] at hspell
      rw [hspell.1, ih hrest' hspell.2 hvalues]
    | identifier =>
      have hfirst : c = _ := Symbol.first_eq_of_spell_eq hspell
      exact absurd (hfirst ▸ hopening) hplain
    | parameter =>
      have hfirst : c = _ := Symbol.first_eq_of_spell_eq hspell
      exact absurd (hfirst ▸ hmark) hplain
  | identifier name hfollow hrest ih =>
    cases h' with
    | nil => cases hspell
    | @char c _ hplain' =>
      have hfirst : _ = c := Symbol.first_eq_of_spell_eq hspell
      exact absurd (hfirst ▸ hopening) hplain'
    | identifier name' hfollow' hrest' =>
      obtain ⟨hname, htext⟩ := Text.Quoted.encode_append_inj
        (hrest.head?_spell_ne_closing hfollow dialect number)
        (hrest'.head?_spell_ne_closing hfollow' dialect number) hspell
      rw [String.toList_inj.1 hname, ih hrest' htext hvalues]
    | parameter =>
      exact absurd (Symbol.first_eq_of_spell_eq hspell).symm (dialect.placeholder.mark_ne_opening _)
  | parameter value hrest ih =>
    cases h' with
    | nil => cases hvalues
    | @char c _ hplain' =>
      have hfirst : _ = c := Symbol.first_eq_of_spell_eq hspell
      exact absurd (hfirst ▸ hmark) hplain'
    | identifier =>
      exact absurd (Symbol.first_eq_of_spell_eq hspell) (dialect.placeholder.mark_ne_opening _)
    | parameter value' hrest' =>
      rw [Symbol.values, Symbol.values, List.cons.injEq] at hvalues
      rw [hvalues.1, ih hrest' (List.append_cancel_left hspell) hvalues.2]

end Readable

/-- Text in which no character looks like a mark. -/
def isUnmarked (text : String) : Bool := text.toList.all fun c => c ∉ marks

/-- Unmarked text can stand before readable symbols. -/
theorem Readable.text_append {text : String} (hunmarked : isUnmarked text = true)
    {symbols : List Symbol} (h : Readable symbols) : Readable (plainSymbols text ++ symbols) := by
  rw [isUnmarked] at hunmarked
  rw [plainSymbols]
  generalize text.toList = chars at hunmarked ⊢
  induction chars with
  | nil => exact h
  | cons c rest ih =>
    simp only [List.all_cons, Bool.and_eq_true, decide_eq_true_eq] at hunmarked
    exact .char hunmarked.1 (ih hunmarked.2)

theorem Symbol.followIdentifier_plainSymbols_append {text : String} (h : text ≠ "")
    (symbols : List Symbol) : FollowIdentifier (plainSymbols text ++ symbols) := by
  intro name hhead
  obtain ⟨rest, hrest⟩ := List.head?_eq_some_iff.1 hhead
  exact plainSymbols_append_ne h (by simp) _ _ hrest

theorem Symbol.FollowIdentifier.text_append (text : String) {symbols : List Symbol}
    (h : FollowIdentifier symbols) : FollowIdentifier (plainSymbols text ++ symbols) := by
  by_cases hempty : text = ""
  · subst hempty
    exact h
  · exact followIdentifier_plainSymbols_append hempty symbols

/-! ## Statements -/

theorem values_nameParameters (number : Nat) (values : List Value) :
    (nameParameters number values).map BoundValue.value = values := by
  induction values generalizing number with
  | nil => rfl
  | cons value rest ih => rw [nameParameters, List.map_cons, ih]

/-- **The symbols of a fragment are known from its statement**, if they are readable. -/
theorem Fragment.symbols_eq_of_toStatement_eq {dialect : Dialect} {fragment fragment' : Fragment}
    (h : Readable fragment.symbols) (h' : Readable fragment'.symbols)
    (heq : fragment.toStatement dialect = fragment'.toStatement dialect) :
    fragment.symbols = fragment'.symbols := by
  have hspell : Symbol.spell dialect 1 fragment.symbols
      = Symbol.spell dialect 1 fragment'.symbols := by
    rw [← charsFrom_eq_spell, ← charsFrom_eq_spell]
    exact String.ofList_inj.1 (congrArg Statement.text heq)
  have hvalues : Symbol.values fragment.symbols = Symbol.values fragment'.symbols := by
    rw [← parameters_eq_values, ← parameters_eq_values,
      ← values_nameParameters 1 fragment.parameters,
      ← values_nameParameters 1 fragment'.parameters]
    exact congrArg (List.map BoundValue.value) (congrArg Statement.parameters heq)
  exact h.eq_of_spell_eq h' hspell hvalues

end Sql
end ODataQuery
