import ODataQuery.Text.CharacterTables

/-!
# Letters, digits and name characters

A name starts with a letter or an underscore and goes on with letters, digits and underscores.
Letters are the characters with the Unicode `Alphabetic` property, digits all characters of the
number categories, so `é`, `中` and `Ⅷ` are letters and `½` is a digit.

* `isNameStart`, `isNamePart`: the two classes, with `isNamePart_of_isNameStart`.
* `isAsciiDigit`, `digitValue`: the ten digits numbers are written with.
-/

set_option autoImplicit false

namespace ODataQuery
namespace Text

/-- Has the character the Unicode `Alphabetic` property. -/
def isAlphabetic (c : Char) : Bool :=
  CharacterTables.covers CharacterTables.alphabetic c.toNat

/-- Is the character of one of the Unicode number categories. -/
def isNumeric (c : Char) : Bool :=
  CharacterTables.covers CharacterTables.numeric c.toNat

/-- The characters a name may start with. -/
def isNameStart (c : Char) : Bool :=
  isAlphabetic c || c == '_'

/-- The characters a name may go on with. -/
def isNamePart (c : Char) : Bool :=
  isAlphabetic c || isNumeric c || c == '_'

theorem isNamePart_of_isNameStart {c : Char} (h : isNameStart c = true) : isNamePart c = true := by
  simp only [isNameStart, isNamePart, Bool.or_eq_true] at h ⊢
  rcases h with h | h
  · exact .inl (.inl h)
  · exact .inr h

/-- The digits numbers are written with. -/
def isAsciiDigit (c : Char) : Bool :=
  '0' ≤ c && c ≤ '9'

/-- The value of one of the ten digits. -/
def digitValue (c : Char) : Nat :=
  c.toNat - '0'.toNat

/-- The number that a row of digits denotes. -/
def digitsValue (digits : List Char) : Nat :=
  digits.foldl (fun value c => 10 * value + digitValue c) 0

end Text
end ODataQuery
