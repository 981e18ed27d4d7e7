import ODataQuery.Number.Shortest

/-!
# Written doubles

Writing a double: its shortest digits, laid out as a `Layout` says.  Numbers whose first digit has a
power of ten in the layout's range are written positionally (`0.25`, `1200`), the others with an
exponent (`1.2e21`).

* `Layout.literal`: values in filters, parameters and answers.
* `Layout.plain`: numbers named in messages, never with an exponent.
* `Layout.json`: numbers inside JSON text.
-/

set_option autoImplicit false

namespace ODataQuery
namespace Number

/-- How a double is written. -/
structure Layout where
  /-- Which of two equally near decimals is written. -/
  tie : Tie
  /-- The powers of ten of a first digit that is written in its place. -/
  positional : Int → Bool
  /-- What follows a whole number that is written positionally. -/
  afterWhole : String
  /-- What stands before an exponent that is not negative. -/
  beforeExponent : String

/-- From `0.0001` up to sixteen digits before the point, positionally and always with a point. -/
def Layout.literal : Layout where
  tie := .awayFromZero
  positional power := -4 ≤ power && power < 16
  afterWhole := ".0"
  beforeExponent := ""

/-- Always positionally, and whole numbers without a point. -/
def Layout.plain : Layout where
  tie := .awayFromZero
  positional _ := true
  afterWhole := ""
  beforeExponent := ""

/-- From `0.00001` up to sixteen digits before the point, positionally and always with a point; every
exponent has a sign. -/
def Layout.json : Layout where
  tie := .toEven
  positional power := -5 ≤ power && power < 16
  afterWhole := ".0"
  beforeExponent := "+"

/-- A row of zeros. -/
def zeros (count : Nat) : List Char :=
  List.replicate count '0'

/-- Lay out a decimal that is not zero. -/
def Layout.writeDecimal (layout : Layout) (x : Decimal) : List Char :=
  let digits := Nat.toDigits 10 x.digits
  let power : Int := digits.length - 1 + x.exponent
  if layout.positional power then
    if 0 ≤ x.exponent then digits ++ zeros x.exponent.toNat ++ layout.afterWhole.toList
    else if 0 ≤ power then
      digits.take (power.toNat + 1) ++ '.' :: digits.drop (power.toNat + 1)
    else '0' :: '.' :: zeros (-power - 1).toNat ++ digits
  else
    let fraction := digits.drop 1
    digits.take 1 ++ (if fraction.isEmpty then [] else '.' :: fraction)
      ++ 'e' :: (if 0 ≤ power then layout.beforeExponent.toList else [])
      ++ (toString power).toList

/-- The written form of a double. -/
def Layout.write (layout : Layout) (x : Float) : String :=
  String.ofList <|
    let sign (negative : Bool) := if negative then ['-'] else []
    match shape x with
    | .notANumber => "NaN".toList
    | .infinite negative => sign negative ++ "inf".toList
    | .finite value =>
      sign value.negative ++
        if value.significand = 0 then '0' :: layout.afterWhole.toList
        else layout.writeDecimal (shortest layout.tie value)

end Number
end ODataQuery
