import ODataQuery.Value.Basic
import Mathlib.Data.List.Basic

/-!
# The order of doubles

Doubles that are numbers are ordered, from the infinity below all others up to the one above; the
two zeros are equal.  A double that is no number is comparable with none, itself included.

* `Number.rank`: the place of a double in the order, as a row of integers.
* `Value.compareFloat_eq`: numbers are compared by their rank.
* `Value.compareFloat_swap`: swapping two doubles reverses the answer, whatever they are.
-/

set_option autoImplicit false

namespace ODataQuery

open Float.Model

namespace Number

/-- The place of the parts of a double in the order of numbers.  Those of one sign are ordered by
their exponent, as their significands have one width, and then by their significand. -/
def rankOfParts : UnpackedFloat → List Int
  | .infinity sign => [sign.apply 2]
  | .finite sign significand exponent _ =>
    [sign.apply 1, sign.apply exponent, sign.apply significand]
  | .zero _ | .notANumber => [0]

/-- The place of a double in the order of numbers. -/
def rank (x : Float) : List Int :=
  rankOfParts x.toModel.unpack

theorem compare_int_neg (m n : Int) : Ord.compare (-m) (-n) = (Ord.compare m n).swap := by
  rw [Int.compare_swap]
  simp only [Ord.compare, compareOfLessAndEq, Int.neg_lt_neg_iff, Int.neg_inj, eq_comm]

theorem compare_int_natCast (m n : Nat) : Ord.compare (m : Int) n = Ord.compare m n := by
  simp only [Ord.compare, compareOfLessAndEq, Int.ofNat_lt, Int.ofNat_inj]

theorem compare_row (first a b c d : Int) :
    Ord.compare [first, a, b] [first, c, d] = (Ord.compare a c).then (Ord.compare b d) := by
  simp

/-- The parts of numbers are compared by their rank. -/
theorem compare_parts {a b : UnpackedFloat} (ha : a ≠ .notANumber) (hb : b ≠ .notANumber) :
    a.compare b = some (Ord.compare (rankOfParts a) (rankOfParts b)) := by
  cases a with
  | notANumber => exact absurd rfl ha
  | infinity s =>
    cases b with
    | notANumber => exact absurd rfl hb
    | infinity t => cases s <;> cases t <;> rfl
    | zero t => cases s <;> rfl
    | finite t n f hn => cases s <;> cases t <;> rfl
  | zero s =>
    cases b with
    | notANumber => exact absurd rfl hb
    | infinity t => cases t <;> rfl
    | zero t => rfl
    | finite t n f hn => cases t <;> rfl
  | finite s m e hm =>
    cases b with
    | notANumber => exact absurd rfl hb
    | infinity t => cases s <;> cases t <;> rfl
    | zero t => cases s <;> rfl
    | finite t n f hn =>
      cases s <;> cases t
      case negative.negative =>
        show some ((Ord.compare e f).then (Ord.compare m n)).swap
          = some (Ord.compare [-1, -e, -(m : Int)] [-1, -f, -(n : Int)])
        rw [compare_row, compare_int_neg, compare_int_neg, compare_int_natCast, Ordering.swap_then]
      case negative.positive => rfl
      case positive.negative => rfl
      case positive.positive =>
        show some ((Ord.compare e f).then (Ord.compare m n))
          = some (Ord.compare [1, e, (m : Int)] [1, f, (n : Int)])
        rw [compare_row, compare_int_natCast]

end Number

namespace Value

theorem float_lt_iff {x y : Float} :
    x < y ↔ x.toModel.unpack.compare y.toModel.unpack = some .lt := by
  have hlt : x < y ↔ (x.toModel.unpack.compare y.toModel.unpack == some .lt) = true :=
    decide_eq_true_iff
  rw [hlt, beq_iff_eq]

theorem float_beq_iff {x y : Float} :
    (x == y) = true ↔ x.toModel.unpack.compare y.toModel.unpack = some .eq := by
  have heq : (x == y) = (x.toModel.unpack.compare y.toModel.unpack == some .eq) := rfl
  rw [heq, beq_iff_eq]

/-- **Numbers are compared by their rank.** -/
theorem compareFloat_eq {x y : Float} (hx : x.isNaN = false) (hy : y.isNaN = false) :
    compareFloat x y = some (Ord.compare (Number.rank x) (Number.rank y)) := by
  have hswap : Ord.compare (Number.rank y) (Number.rank x)
      = (Ord.compare (Number.rank x) (Number.rank y)).swap := Std.OrientedOrd.eq_swap
  have hparts {x : Float} (hx : x.isNaN = false) : x.toModel.unpack ≠ .notANumber := by
    intro hnan
    have hx : x.toModel.unpack.isNaN = false := hx
    rw [hnan] at hx
    cases hx
  have hcompare {x y : Float} (hx : x.isNaN = false) (hy : y.isNaN = false) :
      x.toModel.unpack.compare y.toModel.unpack
        = some (Ord.compare (Number.rank x) (Number.rank y)) :=
    Number.compare_parts (hparts hx) (hparts hy)
  rw [compareFloat]
  simp only [float_lt_iff, float_beq_iff, hcompare hx hy, hcompare hy hx, hswap]
  cases Ord.compare (Number.rank x) (Number.rank y) <;> rfl

/-- **What is no number is comparable with no double.** -/
theorem compareFloat_of_isNaN {x y : Float} (h : x.isNaN = true ∨ y.isNaN = true) :
    compareFloat x y = none := by
  have hparts {x : Float} (hx : x.isNaN = true) : x.toModel.unpack = .notANumber := by
    have hx : x.toModel.unpack.isNaN = true := hx
    cases hunpack : x.toModel.unpack with
    | notANumber => rfl
    | _ =>
      rw [hunpack] at hx
      cases hx
  have hnone {a b : UnpackedFloat} (h : a = .notANumber ∨ b = .notANumber) :
      a.compare b = none := by
    rcases h with rfl | rfl
    · rfl
    · cases a <;> rfl
  have hright := hnone (h.imp hparts hparts)
  have hleft := hnone (h.symm.imp hparts hparts)
  rw [compareFloat]
  simp only [float_lt_iff, float_beq_iff, hright, hleft]
  rfl

/-- **Swapping two doubles reverses how they compare**, also if they do not. -/
theorem compareFloat_swap (x y : Float) :
    compareFloat y x = (compareFloat x y).map Ordering.swap := by
  by_cases h : x.isNaN = true ∨ y.isNaN = true
  · rw [compareFloat_of_isNaN h, compareFloat_of_isNaN h.symm]
    rfl
  · rw [not_or, Bool.not_eq_true, Bool.not_eq_true] at h
    rw [compareFloat_eq h.1 h.2, compareFloat_eq h.2 h.1, Std.OrientedOrd.eq_swap]
    rfl

end Value

end ODataQuery
