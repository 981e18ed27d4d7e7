/-!
# Doubles as exact binary fractions

A finite double is `± significand · 2 ^ exponent`.  Whole parts and remainders are computed on that
form, in exact natural number arithmetic, so they need no rounding.

* `Shape`: what a double is — no number, an infinity, or an exact binary fraction (`shape`).
* `floor`, `ceiling`, `round`: the whole number below, above, and nearest (halves away from zero).
  A result of zero keeps the sign of the operand.
* `remainder`: what is left of the first operand after taking the second away as often as it fits,
  with the sign of the first.
-/

set_option autoImplicit false

namespace ODataQuery
namespace Number

/-- The number `± significand · 2 ^ exponent`. -/
structure Dyadic where
  negative : Bool
  significand : Nat
  exponent : Int
  deriving DecidableEq, Repr

/-- What a double is. -/
inductive Shape where
  | notANumber
  | infinite (negative : Bool)
  | finite (value : Dyadic)
  deriving DecidableEq, Repr

/-- The leading bit of the significand of a normal double, which is not stored. -/
def hiddenBit : Nat := 1 <<< 52

/-- Take a double apart.  The significand of a normal double has 53 bits, and the exponent of the
smallest ones is -1074. -/
def shape (x : Float) : Shape :=
  let bits := x.toBits.toNat
  let negative := bits >>> 63 == 1
  let scale : Nat := bits >>> 52 % 2048
  let fraction := bits % hiddenBit
  if scale = 2047 then
    if fraction = 0 then .infinite negative else .notANumber
  else if scale = 0 then .finite ⟨negative, fraction, -1074⟩
  else .finite ⟨negative, hiddenBit + fraction, (scale : Int) - 1075⟩

/-- The double of a binary fraction whose significand fits 53 bits and whose exponent is at least
-1074. -/
def Dyadic.toFloat (value : Dyadic) : Float :=
  let room := (value.exponent + 1074).toNat
  let shift := min (52 - value.significand.log2) room
  let significand := value.significand <<< shift
  let magnitude :=
    if value.significand = 0 then 0
    else if significand < hiddenBit then significand
    else (room - shift + 1) * hiddenBit + (significand - hiddenBit)
  Float.ofBits (UInt64.ofNat (magnitude + if value.negative then 1 <<< 63 else 0))

/-! ## Whole parts -/

/-- Replace a finite double by a whole number near it.  Of the operand `select` is given the sign,
the integer part of the magnitude, and the rest of it as the fraction `part / whole`. -/
def toWhole (select : (negative : Bool) → (quotient part whole : Nat) → Nat) (x : Float) : Float :=
  match shape x with
  | .finite ⟨negative, significand, exponent⟩ =>
    if 0 ≤ exponent then x
    else
      let whole := 1 <<< (-exponent).toNat
      Dyadic.toFloat ⟨negative, select negative (significand / whole) (significand % whole) whole, 0⟩
  | _ => x

/-- The greatest whole number that is not above the operand. -/
def floor : Float → Float :=
  toWhole fun negative quotient part _ => if negative && part != 0 then quotient + 1 else quotient

/-- The least whole number that is not below the operand. -/
def ceiling : Float → Float :=
  toWhole fun negative quotient part _ => if !negative && part != 0 then quotient + 1 else quotient

/-- The whole number nearest to the operand; a half goes away from zero. -/
def round : Float → Float :=
  toWhole fun _ quotient part whole => if whole ≤ 2 * part then quotient + 1 else quotient

/-! ## Remainders -/

/-- What is left of `x` after taking `y` away as often as it fits, with the sign of `x`. -/
def remainder (x y : Float) : Float :=
  match shape x, shape y with
  | .finite a, .finite b =>
    if b.significand = 0 then 0 / 0
    else
      let exponent := min a.exponent b.exponent
      let scaled (value : Dyadic) := value.significand <<< (value.exponent - exponent).toNat
      Dyadic.toFloat ⟨a.negative, scaled a % scaled b, exponent⟩
  | .finite _, .infinite _ => x
  | _, _ => 0 / 0

end Number
end ODataQuery
