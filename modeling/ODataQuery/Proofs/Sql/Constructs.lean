import ODataQuery.Proofs.Sql.Plan
import ODataQuery.Proofs.Sql.Symbols
import ODataQuery.Proofs.Sql.Translation
import ODataQuery.Sql.Writer

/-!
# How conditions are built and written

Filters need only a part of SQL.  Their conditions are built from parameters, columns and constants
by constructs of one operand and constructs of two, and each construct is written as its operands
with some text around and between them.

* `Term.Built`: the terms that the constructs build.
* `Atom.symbols_term`, `Unary.symbols_term_append`, `Binary.symbols_term_append`: how they are
  written.
* `Table.Closed`: a property that the constructs keep; `Table.Closed.of_condition`: so it holds of
  what a typed filter becomes.
* `Table.built_of_condition`: in particular, they build the condition of a typed filter.
-/

set_option autoImplicit false

namespace ODataQuery
namespace Sql

/-! ## What the constructs build -/

/-- The terms that the constructs build from atoms. -/
inductive Term.Built : Term → Prop where
  | atom (a : Atom) : Built a.term
  | unary (construct : Unary) {operand : Term} (hoperand : Built operand) :
    Built (construct.term operand)
  | binary (construct : Binary) {left right : Term} (hleft : Built left) (hright : Built right) :
    Built (construct.term left right)

/-! ## Writing constructs -/

/-- The text before the operand. -/
def Unary.opening (style : FunctionStyle) : Unary → String
  | not => "NOT "
  | nullTest _ => "("
  | call f => (f.frame style).1
  | part p => (partFrame style p).1

/-- The text after the operand. -/
def Unary.closing (style : FunctionStyle) : Unary → String
  | not => ""
  | nullTest negated => if negated then " IS NOT NULL)" else " IS NULL)"
  | call f => if f.commaAfterLast style then ", " ++ (f.frame style).2 else (f.frame style).2
  | part p => (partFrame style p).2

/-- The text between the operands. -/
def Binary.between : Binary → String
  | connective .and => " AND "
  | connective .or => " OR "
  | comparison c => " " ++ (BinaryOperator.comparison c).text ++ " "
  | arithmetic a => " " ++ (BinaryOperator.arithmetic a).text ++ " "
  | like => " LIKE "

/-- The text after the operands. -/
def Binary.closing : Binary → String
  | like => s!" ESCAPE '{Like.escapeCharacter}')"
  | _ => ")"

/-- The symbols of a term. -/
def Term.symbols (style : FunctionStyle) (term : Term) : List Symbol :=
  (term.fragment style).symbols

/-- A construct of one operand is written as its operand with text around it. -/
theorem Unary.symbols_term_append (style : FunctionStyle) (construct : Unary) (operand : Term)
    (rest : List Symbol) : (construct.term operand).symbols style ++ rest
      = plainSymbols (construct.opening style)
        ++ (operand.symbols style ++ (plainSymbols (construct.closing style) ++ rest)) := by
  match construct with
  | .not =>
    simp [term, opening, closing, Term.symbols, Term.fragment, Fragment.symbols, plainSymbols]
  | .nullTest false | .nullTest true | .part _ =>
    simp [term, opening, closing, Term.symbols, Term.fragment, Fragment.symbols,
      Fragment.symbols_append, Fragment.symbols_ofText]
  | .call f =>
    rw [Term.symbols, term, Term.fragment, opening, closing]
    split <;>
      simp [argsTerminated, argsSeparated, Fragment.symbols, Fragment.symbols_append,
        Fragment.symbols_ofText, plainSymbols_append, Term.symbols]

/-- A construct of two operands is written in parentheses, as its operands with text between and
after them. -/
theorem Binary.symbols_term_append (style : FunctionStyle) (construct : Binary) (left right : Term)
    (rest : List Symbol) : (construct.term left right).symbols style ++ rest
      = plainSymbols "(" ++ (left.symbols style ++ (plainSymbols construct.between
        ++ (right.symbols style ++ (plainSymbols construct.closing ++ rest)))) := by
  match construct with
  | .connective .and | .connective .or | .comparison _ | .arithmetic _ | .like =>
    simp [term, between, closing, Term.symbols, Term.fragment, Fragment.symbols,
      Fragment.symbols_append, Fragment.symbols_ofText]

/-- The text of a constant. -/
def boolText (b : Bool) : String := if b then "(1 = 1)" else "(1 = 0)"

/-- The symbols of an atom. -/
def Atom.symbols : Atom → List Symbol
  | parameter value => [.parameter value]
  | column name => [.identifier Table.tableAlias, .char '.', .identifier name]
  | bool b => plainSymbols (boolText b)

theorem Atom.symbols_term (style : FunctionStyle) (atom : Atom) :
    atom.term.symbols style = atom.symbols := by
  match atom with
  | .parameter _ | .column _ => rw [term, Term.symbols, Term.fragment]; rfl
  | .bool _ => rw [term, Term.symbols, Term.fragment, Fragment.symbols_ofText]; rfl

namespace Table

variable {table : Table} {schema : Schema}

/-! ## Orderings -/

/-- The keys of an ordering are columns of the table. -/
theorem exists_of_keys_cons_eq_ok {key : SortKey} {rest : List SortKey}
    {terms : List (Term × Direction)} (h : table.keys (key :: rest) = .ok terms) :
    ∃ name restTerms, table.columns.get? key.property = some name
      ∧ table.keys rest = .ok restTerms
      ∧ terms = (.column (.byAlias tableAlias) name, key.direction) :: restTerms := by
  obtain ⟨_, restTerms, hcolumn, hrest, rfl⟩ := keys_cons_eq_ok.1 h
  obtain ⟨name, hname, rfl⟩ := column_eq_ok.1 hcolumn
  exact ⟨name, restTerms, hname, hrest, rfl⟩

/-! ## Properties that the constructs keep -/

/-- The property holds of the atoms of a table, and the constructs keep it. -/
structure Closed (table : Table) (motive : Term → Prop) : Prop where
  parameter (value : Value) : motive (Atom.parameter value).term
  column {name column : String} (h : table.columns.get? name = some column) :
    motive (Atom.column column).term
  bool (b : Bool) : motive (Atom.bool b).term
  unary (construct : Unary) {operand : Term} (hoperand : motive operand) :
    motive (construct.term operand)
  binary (construct : Binary) {left right : Term} (hleft : motive left) (hright : motive right) :
    motive (construct.term left right)

namespace Closed

variable {motive : Term → Prop}

theorem of_becomesScalar (hclosed : table.Closed motive) {e : Expression} {term : Term}
    (h : table.BecomesScalar e term) : motive term := by
  induction h with
  | literal value => exact hclosed.parameter value
  | property hcolumn => exact hclosed.column hcolumn
  | arithmetic a _ _ ihleft ihright => exact hclosed.binary (.arithmetic a) ihleft ihright
  | call _ _ ih => exact hclosed.unary _ ih

theorem of_becomesCondition (hclosed : table.Closed motive) {e : Expression} {term : Term}
    (h : table.BecomesCondition e term) : motive term := by
  induction h with
  | bool b => exact hclosed.bool b
  | property hcolumn =>
    exact hclosed.binary (.comparison .eq) (hclosed.column hcolumn) (hclosed.parameter _)
  | not _ ih => exact hclosed.unary .not ih
  | nullTest _ hoperand => exact hclosed.unary (.nullTest _) (hclosed.of_becomesScalar hoperand)
  | comparison _ hleft hright =>
    exact hclosed.binary (.comparison _) (hclosed.of_becomesScalar hleft)
      (hclosed.of_becomesScalar hright)
  | connective c _ _ ihleft ihright => exact hclosed.binary (.connective c) ihleft ihright
  | test _ _ hsubject =>
    exact hclosed.binary .like (hclosed.of_becomesScalar hsubject) (hclosed.parameter _)

/-- **A property that the constructs keep holds of the condition of a typed filter.** -/
theorem of_condition (hclosed : table.Closed motive) {e : Expression} {term : Term}
    (hterm : table.condition e = .ok term) {type : StaticType}
    (htype : e.infer schema = .ok type) : motive term :=
  hclosed.of_becomesCondition (becomesCondition_of_typed hterm htype)

/-- It holds of the condition that a query is planned with, too. -/
theorem of_filterCondition (hclosed : table.Closed motive) {filter : Option Expression}
    {term : Term} (hterm : table.filterCondition filter = .ok term)
    (hfilter : ∀ e ∈ filter, ∃ schema, e.checkPredicate schema = .ok ()) : motive term := by
  cases filter with
  | none =>
    cases hterm
    exact hclosed.bool true
  | some e =>
    obtain ⟨schema, hcheck⟩ := hfilter e rfl
    exact hclosed.of_condition hterm (Expression.checkPredicate_eq_ok.1 hcheck)

end Closed

/-! ## Built terms -/

/-- The constructs build on what they have built. -/
theorem closed_built (table : Table) : table.Closed Term.Built where
  parameter value := .atom (.parameter value)
  column _ := .atom (.column _)
  bool b := .atom (.bool b)
  unary := .unary
  binary := .binary

/-- **The condition of a typed filter is built** by the constructs. -/
theorem built_of_condition {e : Expression} {term : Term} (hterm : table.condition e = .ok term)
    {type : StaticType} (htype : e.infer schema = .ok type) : term.Built :=
  table.closed_built.of_condition hterm htype

end Table
end Sql
end ODataQuery
