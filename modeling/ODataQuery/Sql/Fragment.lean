import ODataQuery.Sql.Dialect
import ODataQuery.Text.Quoted
import ODataQuery.Value.Text

/-!
# Fragments of SQL text

A fragment is a list of pieces: text that stands as it is, identifiers to quote, and values to bind
as parameters.  Fragments are put together by concatenation; parameters get their numbers only when
a whole fragment is written, from left to right, so the number of a placeholder is the place of its
value among the parameters.

* `Fragment.parameters`: the values, in order; `Fragment.text`: the text.
* `Statement`: a text with its parameters, named `p1`, `p2` and so on.
-/

set_option autoImplicit false

namespace ODataQuery
namespace Sql

/-- A piece of SQL text. -/
inductive Piece where
  | verbatim (text : String)
  | identifier (name : String)
  | parameter (value : Value)
  deriving DecidableEq

/-- A piece of SQL text, or several of them in order. -/
abbrev Fragment := List Piece

namespace Fragment

/-- Text that stands as it is. -/
def ofText (text : String) : Fragment := [.verbatim text]

/-- Fragments with commas between them. -/
def commaSeparated : List Fragment → Fragment
  | [] => []
  | [fragment] => fragment
  | fragment :: rest => fragment ++ .verbatim ", " :: commaSeparated rest

/-- The values of the parameters, in the order of their placeholders. -/
def parameters : Fragment → List Value
  | [] => []
  | .verbatim _ :: rest => parameters rest
  | .identifier _ :: rest => parameters rest
  | .parameter value :: rest => value :: parameters rest

/-- An identifier in quotes. -/
def quoteIdentifier (quoting : IdentifierQuoting) (name : String) : List Char :=
  Text.Quoted.encode quoting.opening quoting.closing name.toList

/-- The characters of pieces, of which the first parameter has the given number. -/
def charsFrom (dialect : Dialect) : (number : Nat) → Fragment → List Char
  | _, [] => []
  | number, .verbatim text :: rest => text.toList ++ charsFrom dialect number rest
  | number, .identifier name :: rest =>
    quoteIdentifier dialect.identifierQuoting name ++ charsFrom dialect number rest
  | number, .parameter _ :: rest =>
    (dialect.placeholder.write number).toList ++ charsFrom dialect (number + 1) rest

/-- The text of a fragment. -/
def text (dialect : Dialect) (fragment : Fragment) : String :=
  String.ofList (charsFrom dialect 1 fragment)

theorem parameters_append (first second : Fragment) :
    parameters (first ++ second) = parameters first ++ parameters second := by
  induction first with
  | nil => rfl
  | cons piece rest ih => cases piece <;> simp [parameters, ih]

/-- The numbers of the second of two fragments go on where those of the first end. -/
theorem charsFrom_append (dialect : Dialect) (number : Nat) (first second : Fragment) :
    charsFrom dialect number (first ++ second)
      = charsFrom dialect number first
        ++ charsFrom dialect (number + (parameters first).length) second := by
  induction first generalizing number with
  | nil => simp [charsFrom, parameters]
  | cons piece rest ih =>
    cases piece with
    | verbatim text => simp [charsFrom, ih, parameters]
    | identifier name => simp [charsFrom, ih, parameters]
    | parameter value =>
      simp [charsFrom, ih, parameters, Nat.add_assoc, Nat.add_comm 1]

end Fragment

/-- A value bound to a named place of a statement. -/
structure BoundValue where
  name : String
  value : Value
  deriving DecidableEq

/-- A value as descriptions show it. -/
def BoundValue.describe : Value → String
  | .null => "NULL"
  | .dateTime t => "'" ++ t.text ++ "'"
  | value => value.text

/-- SQL text with the values of its parameters. -/
structure Statement where
  text : String
  parameters : List BoundValue
  deriving DecidableEq

/-- The parameters of a list of values, named by their numbers from the given one. -/
def nameParameters : Nat → List Value → List BoundValue
  | _, [] => []
  | number, value :: rest => ⟨s!"p{number}", value⟩ :: nameParameters (number + 1) rest

/-- The statement of a fragment. -/
def Fragment.toStatement (dialect : Dialect) (fragment : Fragment) : Statement :=
  ⟨fragment.text dialect, nameParameters 1 fragment.parameters⟩

end Sql
end ODataQuery
