import ODataQuery.Text.Letter
import ODataQuery.Number.Shortest

/-!
# Reading doubles

The double nearest to a decimal.  Decimals too large for a double read as an infinity and those too
small as zero.

* `ofDecimal`, `ofInt`: the double of `± digits · 10 ^ exponent` and of a whole number.
* `read?`: the double a text denotes — a sign, digits with a point among them, an exponent — or one
  of the words `inf`, `infinity` and `nan`.
-/

set_option autoImplicit false

namespace ODataQuery
namespace Number

open Text

/-- The double nearest to `± digits · 10 ^ exponent`.  Beyond the powers of ten a double can have
the answer is known without computing the power. -/
def ofDecimal (negative : Bool) (x : Decimal) : Float :=
  let power := digitCount x.digits + x.exponent
  let magnitude : Float :=
    if x.digits = 0 ∨ power < -400 then 0
    else if 400 < power then 1 / 0
    else if 0 ≤ x.exponent then Float.ofScientific (x.digits * Nat.pow 10 x.exponent.toNat) false 0
    else Float.ofScientific x.digits true (-x.exponent).toNat
  if negative then -magnitude else magnitude

/-- The double nearest to a whole number. -/
def ofInt (n : Int) : Float :=
  ofDecimal (n < 0) ⟨n.natAbs, 0⟩

/-- Split a text after its digits. -/
def spanDigits (text : List Char) : List Char × List Char :=
  (text.takeWhile isAsciiDigit, text.dropWhile isAsciiDigit)

/-- Split an optional sign from a text. -/
def takeSign : List Char → Bool × List Char
  | '-' :: rest => (true, rest)
  | '+' :: rest => (false, rest)
  | rest => (false, rest)

/-- The exponent that ends a number. -/
def readExponent? : List Char → Option Int
  | [] => some 0
  | mark :: rest =>
    if mark = 'e' ∨ mark = 'E' then
      let (negative, digits) := takeSign rest
      if digits.isEmpty || !digits.all isAsciiDigit then none
      else some (if negative then -(digitsValue digits : Int) else digitsValue digits)
    else none

/-- The double of digits with a point among them and an exponent after them. -/
def readUnsigned? (negative : Bool) (text : List Char) : Option Float :=
  let (whole, rest) := spanDigits text
  let (fraction, rest) := match rest with
    | '.' :: rest => spanDigits rest
    | rest => ([], rest)
  if whole.isEmpty && fraction.isEmpty then none
  else (readExponent? rest).map fun exponent =>
    ofDecimal negative ⟨digitsValue (whole ++ fraction), exponent - fraction.length⟩

/-- The double that a text denotes. -/
def read? (text : String) : Option Float :=
  let (negative, rest) := takeSign text.toList
  let word := rest.map Char.toLower
  if word = "inf".toList ∨ word = "infinity".toList then
    some (if negative then -1 / 0 else 1 / 0)
  else if word = "nan".toList then some (0 / 0)
  else readUnsigned? negative rest

end Number
end ODataQuery
