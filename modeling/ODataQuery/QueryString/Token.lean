import ODataQuery.DateTime.Text
import ODataQuery.Number.Format
import ODataQuery.Expression.Typing

/-!
# Tokens, and what can be wrong with a parameter

The values of `$filter` and `$orderby` are read as a list of tokens.  A token knows the place of its
first character, counted in characters from the start of the value.

* `TokenKind`, `Token`: the tokens.  Keywords are identifiers until the parser knows better.
* `Fault`: everything that can be wrong with the value of a parameter, with its `kind` and its
  `message`; a `Failure` is a fault at a place.
-/

set_option autoImplicit false

namespace ODataQuery

/-- The tokens of filters and orderings. -/
inductive TokenKind where
  | identifier (word : String)
  | integer (i : Int64)
  | decimal (x : Float)
  | string (s : String)
  | dateTime (t : DateTime)
  | openParen
  | closeParen
  | comma
  deriving DecidableEq

/-- A token and the place of its first character. -/
structure Token where
  kind : TokenKind
  position : Nat
  deriving DecidableEq

/-- The token as messages name it. -/
def TokenKind.description : TokenKind → String
  | identifier word => s!"'{word}'"
  | integer i => s!"'{i.toInt}'"
  | decimal x => "'" ++ Number.Layout.plain.write x ++ "'"
  | string s => s!"string '{s}'"
  | dateTime t => s!"datetime '{t.spacedText}'"
  | openParen => "'('"
  | closeParen => "')'"
  | comma => "','"

/-- What stands at a place, as messages name it; nothing stands at the end. -/
def describeFound : Option TokenKind → String
  | none => "end of expression"
  | some kind => kind.description

/-- The kinds of faults. -/
inductive FaultKind where
  | syntaxError
  | unknownProperty
  | typeMismatch
  | invalidPaging
  deriving DecidableEq, Repr

/-- The kind in words. -/
def FaultKind.text : FaultKind → String
  | syntaxError => "Syntax error"
  | unknownProperty => "Unknown property"
  | typeMismatch => "Type mismatch"
  | invalidPaging => "Invalid paging"

/-- What can be wrong with the value of a parameter. -/
inductive Fault where
  | unexpectedCharacter (c : Char)
  | unterminatedString
  | malformedNumber (text : String)
  | integerOutOfRange (text : String)
  | malformedDateTime (text : String)
  | nestsTooDeeply
  | tooLong
  | expectedEnd (found : TokenKind)
  | expectedClosing (found : Option TokenKind)
  | expectedSeparator (found : Option TokenKind)
  | expectedExpression (found : TokenKind)
  | unexpectedEnd
  | unknownFunction (name : String)
  | wrongArity (function : Function) (found : Nat)
  | unknownProperty (error : SchemaError)
  | typeMismatch (error : TypeError)
  | expectedPropertyName
  | expectedDirection
  | repeated (parameter : String)
  | notACount (text : String)
  | countOutOfRange (text : String)
  | unknownInlineCount (text : String)
  deriving DecidableEq

namespace Fault

/-- The kind of the fault. -/
def kind : Fault → FaultKind
  | unknownProperty _ => .unknownProperty
  | typeMismatch _ => .typeMismatch
  | notACount _ | countOutOfRange _ => .invalidPaging
  | _ => .syntaxError

/-- The text of the fault. -/
def message : Fault → String
  | unexpectedCharacter c => s!"unexpected character '{c}'"
  | unterminatedString => "unterminated string literal"
  | malformedNumber text => s!"malformed number '{text}'"
  | integerOutOfRange text => s!"integer '{text}' is out of range"
  | malformedDateTime text => s!"malformed datetime literal '{text}'"
  | nestsTooDeeply => "expression nests too deeply"
  | tooLong => "expression is too long"
  | expectedEnd found => "expected end of expression, found " ++ found.description
  | expectedClosing found => "expected ')', found " ++ describeFound found
  | expectedSeparator found => "expected ',' or ')', found " ++ describeFound found
  | expectedExpression found => "expected an expression, found " ++ found.description
  | unexpectedEnd => "unexpected end of expression"
  | unknownFunction name => s!"unknown function '{name}'"
  | wrongArity function found => (TypeError.arity function found).message
  | unknownProperty error => error.message
  | typeMismatch error => error.message
  | expectedPropertyName => "expected a property name"
  | expectedDirection => "expected ',', 'asc', 'desc' or end of ordering"
  | repeated parameter => s!"{parameter} was given more than once"
  | notACount text => s!"'{text}' is not a non-negative integer"
  | countOutOfRange text => s!"'{text}' is out of range"
  | unknownInlineCount text => s!"expected 'none' or 'allpages', found '{text}'"

end Fault

/-- A fault at a place of a value. -/
structure Failure where
  position : Nat
  fault : Fault
  deriving DecidableEq

end ODataQuery
