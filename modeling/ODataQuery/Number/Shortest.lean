import ODataQuery.Number.Dyadic

/-!
# Shortest decimal digits

The decimal that denotes a double: the one with the fewest digits among those that read back as the
double, and the nearest to the double of those.  Of two that are equally near, a `Tie` says which.

The reals that read back as `significand · 2 ^ exponent` are an interval around it.  For one digit,
two digits and so on up to 17, the two neighbours of the value on that decimal grid are tested
against the interval; the first grid with a hit has the fewest digits.  All comparisons are between
natural numbers.
-/

set_option autoImplicit false

namespace ODataQuery
namespace Number

/-- The number `digits · 10 ^ exponent`. -/
structure Decimal where
  digits : Nat
  exponent : Int
  deriving DecidableEq, Repr

/-- How many digits a number is written with. -/
def digitCount (n : Nat) : Nat :=
  (Nat.toDigits 10 n).length

/-- The power of ten of the first digit of `num / den`. -/
def leadingExponent (num den : Nat) : Int :=
  if den ≤ num then digitCount (num / den) - 1
  else -(digitCount ((den + num - 1) / num - 1) : Int)

/-- The interval of the reals that read back as a double, around the double itself.  All are counted
in quarters of the unit of its significand. -/
structure Interval where
  low : Nat
  value : Nat
  high : Nat
  closed : Bool
  deriving Repr

/-- The interval of a double.  The gap below a power of two is half the gap above it, and the ends
belong to the double with the even significand. -/
def Interval.ofDyadic (x : Dyadic) : Interval :=
  let below := if x.significand = hiddenBit ∧ x.exponent ≠ -1074 then 1 else 2
  ⟨4 * x.significand - below, 4 * x.significand, 4 * x.significand + 2, x.significand % 2 == 0⟩

/-- Quarters of a binary unit `2 ^ binary` and units of a decimal grid `10 ^ decimal`, both as
multiples of one common unit. -/
structure Scale where
  quarter : Nat
  grid : Nat
  deriving Repr

/-- The common scale of two exponents. -/
def Scale.ofExponents (binary decimal : Int) : Scale :=
  ⟨Nat.pow 10 (-decimal).toNat <<< (binary - 2).toNat,
    Nat.pow 10 decimal.toNat <<< (2 - binary).toNat⟩

/-- Does the grid point read back as the double. -/
def Scale.hits (scale : Scale) (interval : Interval) (point : Nat) : Bool :=
  let low := interval.low * scale.quarter
  let high := interval.high * scale.quarter
  let place := point * scale.grid
  if interval.closed then low ≤ place && place ≤ high else low < place && place < high

/-- Which of two neighbours is taken that are equally near. -/
inductive Tie where
  | toEven
  | awayFromZero
  deriving DecidableEq, Repr

/-- The neighbour that is taken, given the one nearer to zero. -/
def Tie.choose : Tie → Nat → Nat
  | toEven, below => if below % 2 = 0 then below else below + 1
  | awayFromZero, below => below + 1

/-- The neighbour of the value on a grid that reads back as the double; of two the nearer. -/
def Scale.nearest? (scale : Scale) (interval : Interval) (tie : Tie) : Option Nat :=
  let value := interval.value * scale.quarter
  let below := value / scale.grid
  let above := below + 1
  match scale.hits interval below, scale.hits interval above with
  | true, true =>
    let fromBelow := value - below * scale.grid
    let fromAbove := above * scale.grid - value
    if fromBelow < fromAbove then some below
    else if fromAbove < fromBelow then some above
    else some (tie.choose below)
  | true, false => some below
  | false, true => some above
  | false, false => none

/-- Remove trailing zeros from the digits, at most `count` of them. -/
def Decimal.strip (x : Decimal) : Nat → Decimal
  | 0 => x
  | count + 1 =>
    if x.digits % 10 = 0 ∧ x.digits ≠ 0 then
      Decimal.strip ⟨x.digits / 10, x.exponent + 1⟩ count
    else x

/-- The shortest decimal of the magnitude of a double that is not zero. -/
def shortest (tie : Tie) (x : Dyadic) : Decimal :=
  let interval := Interval.ofDyadic x
  let leading := leadingExponent (x.significand <<< x.exponent.toNat) (1 <<< (-x.exponent).toNat)
  let onGrid (count : Nat) : Option Decimal :=
    let exponent := leading - count
    ((Scale.ofExponents x.exponent exponent).nearest? interval tie).map fun digits => ⟨digits, exponent⟩
  match (List.range 17).findSome? onGrid with
  | some decimal => decimal.strip 20
  | none => ⟨x.significand, x.exponent⟩

end Number
end ODataQuery
