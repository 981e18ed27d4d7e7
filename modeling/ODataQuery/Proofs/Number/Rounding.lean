import Mathlib.Algebra.Order.Field.Basic
import Mathlib.Algebra.Order.Field.Power
import Mathlib.Data.Rat.Cast.Order
import Mathlib.Tactic.FieldSimp
import Mathlib.Tactic.Linarith
import ODataQuery.Number.Shortest
import ODataQuery.Proofs.Number.Parts

/-!
# Rounding to a double

A quotient is rounded from its whole part and two bits about the rest: is it at least a half, and is
there anything besides.  The bits are kept up while the whole part is shifted to the width of a
significand, so that the result is the double in whose interval the quotient lies.

* `Number.Represents`: the rational that a significand with its two bits stands for.
* `Interval.Contains`, `Dyadic.Covers`: the rationals that read back as a double.
* `Number.roundWithAccuracy_eq`: rounding gives the double that covers what is rounded.
* `Number.div_eq`: so does the division of two doubles.
-/

set_option autoImplicit false

namespace ODataQuery
namespace Number

open Float.Model
open Float.Model.UnpackedFloat

/-! ## Powers -/

/-- A power with an integer exponent, by powers with natural ones. -/
theorem zpow_mul_pow_toNat_neg {base : ℚ} (hbase : base ≠ 0) (e : Int) :
    base ^ e * base ^ (-e).toNat = base ^ e.toNat := by
  rw [← zpow_natCast, ← zpow_natCast, ← zpow_add₀ hbase]
  congr 1
  omega

/-! ## Significands with two bits -/

/-- The number lies where the significand and its two bits say: at the significand, below the half
after it, at the half, or above it. -/
def Represents (em : ExtendedMantissa) (q : ℚ) : Prop :=
  match em.roundBit, em.stickyBit with
  | false, false => q = em.mantissa
  | false, true => em.mantissa < q ∧ q < em.mantissa + 1 / 2
  | true, false => q = em.mantissa + 1 / 2
  | true, true => em.mantissa + 1 / 2 < q ∧ q < em.mantissa + 1

/-- The significand is the whole part. -/
theorem Represents.bounds {em : ExtendedMantissa} {q : ℚ} (h : Represents em q) :
    em.mantissa ≤ q ∧ q < em.mantissa + 1 := by
  obtain ⟨m, half, rest⟩ := em
  cases half <;> cases rest <;> simp only [Represents] at h ⊢
  · exact ⟨h.ge, by linarith⟩
  · exact ⟨h.1.le, by linarith⟩
  · exact ⟨by linarith, by linarith⟩
  · exact ⟨by linarith, h.2⟩

/-- A whole number and the accuracy of a fraction represent their sum. -/
theorem represents_fraction (m : Nat) {r den : Nat} (hrest : r < den) :
    Represents (.ofMantissaAndAccuracy m (accuracyOfFraction r den)) (m + r / den) := by
  have hpos : (0 : ℚ) < den := by exact_mod_cast Nat.zero_lt_of_lt hrest
  rw [accuracyOfFraction]
  split
  · rename_i hzero
    rw [hzero]
    show (m : ℚ) + (0 : Nat) / den = m
    simp
  · rename_i hzero
    have hr : (0 : ℚ) < r := by exact_mod_cast Nat.pos_of_ne_zero hzero
    -- the remainder against half of the divisor gives the two bits
    cases hcompare : compare (2 * r) den with
    | lt =>
      have hless : (2 * r : ℚ) < den := by exact_mod_cast Nat.compare_eq_lt.1 hcompare
      refine ⟨?_, ?_⟩
      · show (m : ℚ) < m + r / den
        have := div_pos hr hpos
        linarith
      · show (m : ℚ) + r / den < m + 1 / 2
        rw [add_lt_add_iff_left, div_lt_div_iff₀ hpos two_pos]
        linarith
    | eq =>
      have hequal : (2 * r : ℚ) = den := by exact_mod_cast Nat.compare_eq_eq.1 hcompare
      show (m : ℚ) + r / den = m + 1 / 2
      rw [add_right_inj, div_eq_div_iff hpos.ne' two_ne_zero]
      linarith
    | gt =>
      have hgreater : (den : ℚ) < 2 * r := by exact_mod_cast Nat.compare_eq_gt.1 hcompare
      have hrest : (r : ℚ) < den := by exact_mod_cast hrest
      refine ⟨?_, ?_⟩
      · show (m : ℚ) + 1 / 2 < m + r / den
        rw [add_lt_add_iff_left, div_lt_div_iff₀ two_pos hpos]
        linarith
      · show (m : ℚ) + r / den < m + 1
        rw [add_lt_add_iff_left, div_lt_one hpos]
        exact hrest

/-- A quotient is represented by its whole part and the accuracy of its remainder. -/
theorem represents_quotient (num : Nat) {den : Nat} (hden : 0 < den) :
    Represents (.ofMantissaAndAccuracy (num / den) (accuracyOfFraction (num % den) den))
      (num / den) := by
  have hpos : (0 : ℚ) < den := by exact_mod_cast hden
  have hparts : (den : ℚ) * (num / den : Nat) + (num % den : Nat) = num := by
    exact_mod_cast Nat.div_add_mod num den
  have hquotient : (num : ℚ) / den = (num / den : Nat) + (num % den : Nat) / den := by
    rw [div_eq_iff hpos.ne', add_mul, div_mul_cancel₀ _ hpos.ne', ← hparts, mul_comm]
  rw [hquotient]
  exact represents_fraction (num / den) (Nat.mod_lt num hden)

/-- The number is the significand if neither bit is set, and lies above it otherwise. -/
theorem Represents.of_bits {em : ExtendedMantissa} {q : ℚ} (h : Represents em q) :
    if (em.roundBit || em.stickyBit) = true then em.mantissa < q else q = em.mantissa := by
  obtain ⟨m, half, rest⟩ := em
  cases half <;> cases rest <;> simp only [Represents] at h
  · exact h
  · exact h.1
  · show (m : ℚ) < q
    linarith
  · show (m : ℚ) < q
    linarith

/-- Shifting the significand halves the number. -/
theorem Represents.shiftRightOne {em : ExtendedMantissa} {q : ℚ} (h : Represents em q) :
    Represents em.shiftRightOne (q / 2) := by
  have hbits := h.of_bits
  have hhigh := h.bounds.2
  obtain ⟨m, half, rest⟩ := em
  have hparts : (2 : ℚ) * (m / 2 : Nat) + (m % 2 : Nat) = m := by
    exact_mod_cast Nat.div_add_mod m 2
  simp only at hbits hhigh
  rcases Nat.mod_two_eq_zero_or_one m with hparity | hparity <;>
    cases hrest : half || rest <;>
    rw [hparity] at hparts <;>
    simp only [hrest, Bool.false_eq_true, if_true, if_false, Nat.cast_zero, Nat.cast_one]
      at hbits hparts <;>
    rw [ExtendedMantissa.shiftRightOne, Represents, hparity, hrest]
  · show q / 2 = (m / 2 : Nat)
    linarith
  · exact ⟨by linarith, by linarith⟩
  · show q / 2 = (m / 2 : Nat) + 1 / 2
    linarith
  · exact ⟨by linarith, by linarith⟩

theorem Represents.shiftRight {em : ExtendedMantissa} {q : ℚ} (h : Represents em q)
    (count : Nat) : Represents (em >>> count) (q / 2 ^ count) := by
  show Represents (count.repeat ExtendedMantissa.shiftRightOne em) _
  induction count with
  | zero => rwa [pow_zero, div_one]
  | succ count ih =>
    rw [pow_succ, ← div_div]
    exact ih.shiftRightOne

/-- Rounding gives the natural number that is nearest, and the even one of two. -/
theorem Represents.roundedMantissa_eq {em : ExtendedMantissa} {q : ℚ} (h : Represents em q)
    {n : Nat} (hlow : n - 1 / 2 ≤ q) (hhigh : q ≤ n + 1 / 2)
    (hodd : n % 2 = 1 → n - 1 / 2 < q ∧ q < n + 1 / 2) : em.roundedMantissa = n := by
  have hbounds := h.bounds
  have hcases : n = em.mantissa ∨ n = em.mantissa + 1 := by
    have hbelow : em.mantissa < n + 1 := by
      have hbelow : (em.mantissa : ℚ) < (n + 1 : Nat) := by
        push_cast
        linarith
      exact_mod_cast hbelow
    have habove : n < em.mantissa + 2 := by
      have habove : (n : ℚ) < (em.mantissa + 2 : Nat) := by
        push_cast
        linarith
      exact_mod_cast habove
    omega
  obtain ⟨m, half, rest⟩ := em
  simp only at hcases
  rcases hcases with rfl | rfl
  · cases half <;> cases rest <;> simp only [Represents] at h
    · rfl
    · rfl
    · show n + n % 2 = n
      have heven : n % 2 ≠ 1 := fun hparity => absurd h (hodd hparity).2.ne
      omega
    · linarith
  · push_cast at hlow hhigh hodd
    cases half <;> cases rest <;> simp only [Represents] at h
    · linarith
    · linarith
    · show m + m % 2 = m + 1
      have heven : (m + 1) % 2 ≠ 1 := fun hparity => by
        have := (hodd hparity).1
        linarith
      omega
    · rfl

/-! ## The interval of a double -/

/-- The number lies in the interval, in the units that the interval is counted in. -/
def Interval.Contains (interval : Interval) (t : ℚ) : Prop :=
  if interval.closed = true then interval.low ≤ t ∧ t ≤ interval.high
  else interval.low < t ∧ t < interval.high

/-- The number lies in the interval of those that read back as the double. -/
def Dyadic.Covers (x : Dyadic) (q : ℚ) : Prop :=
  (Interval.ofDyadic x).Contains (q * 2 ^ (2 - x.exponent))

/-- The significand has its full width, and the exponent is neither among the least nor too
large. -/
structure Dyadic.IsFull (x : Dyadic) : Prop where
  low : 2 ^ 52 ≤ x.significand
  high : x.significand < 2 ^ 53
  min : -1072 ≤ x.exponent
  max : x.exponent ≤ 971

theorem Dyadic.IsFull.pos {x : Dyadic} (h : x.IsFull) : 0 < x.significand :=
  Nat.lt_of_lt_of_le (by decide) h.low

/-- How far below the double its interval begins, in quarters of a unit. -/
theorem Interval.cast_low {x : Dyadic} (hpos : 0 < x.significand) :
    ((Interval.ofDyadic x).low : ℚ) = 4 * x.significand
      - if x.significand = hiddenBit ∧ x.exponent ≠ -1074 then 1 else 2 := by
  rw [Interval.ofDyadic]
  split
  · show ((4 * x.significand - 1 : Nat) : ℚ) = _
    rw [Nat.cast_sub (by omega)]
    push_cast
    rfl
  · show ((4 * x.significand - 2 : Nat) : ℚ) = _
    rw [Nat.cast_sub (by omega)]
    push_cast
    rfl

namespace Dyadic.Covers

variable {x : Dyadic} {q : ℚ}

theorem low_le (h : x.Covers q) : (Interval.ofDyadic x).low ≤ q * 2 ^ (2 - x.exponent) := by
  rw [Dyadic.Covers, Interval.Contains] at h
  split at h
  · exact h.1
  · exact h.1.le

/-- The double is at most half a unit away. -/
theorem bounds (h : x.Covers q) (hpos : 0 < x.significand) :
    4 * x.significand - 2 ≤ q * 2 ^ (2 - x.exponent)
      ∧ q * 2 ^ (2 - x.exponent) ≤ 4 * x.significand + 2 := by
  have hhigh : ((Interval.ofDyadic x).high : ℚ) = 4 * x.significand + 2 := by
    show ((4 * x.significand + 2 : Nat) : ℚ) = _
    push_cast
    rfl
  have hlow := h.low_le
  rw [Interval.cast_low hpos] at hlow
  refine ⟨?_, ?_⟩
  · split_ifs at hlow <;> linarith
  · rw [Dyadic.Covers, Interval.Contains, hhigh] at h
    split at h
    · exact h.2
    · exact h.2.le

/-- The double is closer than half a unit if its significand is odd. -/
theorem strict (h : x.Covers q) (hpos : 0 < x.significand) (hodd : x.significand % 2 = 1) :
    4 * x.significand - 2 < q * 2 ^ (2 - x.exponent)
      ∧ q * 2 ^ (2 - x.exponent) < 4 * x.significand + 2 := by
  have hclosed : (Interval.ofDyadic x).closed = false := by
    rw [Interval.ofDyadic, beq_eq_false_iff_ne]
    omega
  rw [Dyadic.Covers, Interval.Contains, hclosed, if_neg Bool.false_ne_true,
    Interval.cast_low hpos] at h
  refine ⟨?_, ?_⟩
  · have hlow := h.1
    split_ifs at hlow <;> linarith
  · have hhigh : q * 2 ^ (2 - x.exponent) < (4 * x.significand + 2 : Nat) := h.2
    push_cast at hhigh
    exact hhigh

/-- The double is closer from below if its significand is the least. -/
theorem low_of_hiddenBit (h : x.Covers q) (hleast : x.significand = hiddenBit)
    (hexponent : x.exponent ≠ -1074) :
    4 * x.significand - 1 ≤ q * 2 ^ (2 - x.exponent) := by
  have hlow := h.low_le
  rwa [Interval.cast_low (by rw [hleast]; decide), if_pos ⟨hleast, hexponent⟩] at hlow

/-- Numbers between two that a double covers are covered. -/
theorem between {a b : ℚ} (ha : x.Covers a) (hb : x.Covers b) (haq : a ≤ q) (hqb : q ≤ b) :
    x.Covers q := by
  have hpos : (0 : ℚ) ≤ 2 ^ (2 - x.exponent) := by positivity
  have haq := mul_le_mul_of_nonneg_right haq hpos
  have hqb := mul_le_mul_of_nonneg_right hqb hpos
  rw [Dyadic.Covers, Interval.Contains] at *
  split_ifs at * with hclosed
  · exact ⟨le_trans ha.1 haq, le_trans hqb hb.2⟩
  · exact ⟨lt_of_lt_of_le ha.1 haq, lt_of_le_of_lt hqb hb.2⟩

end Dyadic.Covers

/-- What is closer than the ends of the interval is covered. -/
theorem Dyadic.covers_of_near {x : Dyadic} (hpos : 0 < x.significand) {q : ℚ}
    (hlow : 4 * x.significand - (if x.significand = hiddenBit ∧ x.exponent ≠ -1074 then 1 else 2)
      < q * 2 ^ (2 - x.exponent))
    (hhigh : q * 2 ^ (2 - x.exponent) < 4 * x.significand + 2) : x.Covers q := by
  have hhigh' : q * 2 ^ (2 - x.exponent) < (4 * x.significand + 2 : Nat) := by
    push_cast
    exact hhigh
  rw [← Interval.cast_low hpos] at hlow
  rw [Dyadic.Covers, Interval.Contains]
  split
  · exact ⟨hlow.le, hhigh'.le⟩
  · exact ⟨hlow, hhigh'⟩

/-- In quarters of its unit, a double is four times its significand. -/
theorem Dyadic.in_quarters (x : Dyadic) :
    (x.significand : ℚ) * 2 ^ x.exponent * 2 ^ (2 - x.exponent) = 4 * x.significand := by
  rw [mul_assoc, ← zpow_add₀ two_ne_zero, add_sub_cancel]
  norm_num
  ring

/-- A double covers itself. -/
theorem Dyadic.covers_self {x : Dyadic} (hpos : 0 < x.significand) :
    x.Covers (x.significand * 2 ^ x.exponent) := by
  refine Dyadic.covers_of_near hpos ?_ ?_
  · rw [x.in_quarters]
    split_ifs <;> linarith
  · rw [x.in_quarters]
    linarith

/-- A number with an exponent, in quarters of another unit. -/
theorem mul_zpow_quarters (q : ℚ) {e exponent k : Int} (hk : e - exponent + 2 = k) :
    q * 2 ^ e * 2 ^ (2 - exponent) = q * 2 ^ k := by
  rw [mul_assoc, ← zpow_add₀ two_ne_zero, ← hk]
  congr 2
  omega

namespace Dyadic.Covers

variable {x : Dyadic} {q : ℚ} {e : Int}

/-- A number of full width that a double covers has the exponent of the double or the one before. -/
theorem exponent_cases (hx : x.IsFull) (h : x.Covers (q * 2 ^ e)) (hlow : 2 ^ 52 ≤ q)
    (hhigh : q < 2 ^ 53) : e - x.exponent + 2 = 2 ∨ e - x.exponent + 2 = 1 := by
  have hsignificandLow : (2 : ℚ) ^ 52 ≤ x.significand := by exact_mod_cast hx.low
  have hsignificandHigh : (x.significand : ℚ) + 1 ≤ 2 ^ 53 := by exact_mod_cast hx.high
  have hbounds := h.bounds hx.pos
  rw [mul_zpow_quarters q rfl] at hbounds
  have hbelow : e - x.exponent + 2 < 3 := by
    by_contra hfar
    have hpower : (2 : ℚ) ^ (3 : Int) ≤ 2 ^ (e - x.exponent + 2) :=
      zpow_le_zpow_right₀ one_le_two (not_lt.1 hfar)
    have hproduct : (2 : ℚ) ^ 52 * 2 ^ (3 : Int) ≤ q * 2 ^ (e - x.exponent + 2) :=
      mul_le_mul hlow hpower (by positivity) (by linarith)
    rw [zpow_ofNat] at hproduct
    linarith
  have habove : 0 < e - x.exponent + 2 := by
    by_contra hfar
    have hpower : (2 : ℚ) ^ (e - x.exponent + 2) ≤ 2 ^ (0 : Int) :=
      zpow_le_zpow_right₀ one_le_two (not_lt.1 hfar)
    have hproduct : q * 2 ^ (e - x.exponent + 2) ≤ q * 2 ^ (0 : Int) :=
      mul_le_mul_of_nonneg_left hpower (by linarith)
    rw [zpow_zero] at hproduct
    linarith
  omega

/-- A number of full width that a double covers has the exponent of the double, and then rounds to
its significand; or it lies just below a power of two, and has the exponent before. -/
theorem cases (hx : x.IsFull) (h : x.Covers (q * 2 ^ e)) (hlow : 2 ^ 52 ≤ q) (hhigh : q < 2 ^ 53) :
    (e = x.exponent ∧ x.significand - 1 / 2 ≤ q ∧ q ≤ x.significand + 1 / 2
        ∧ (x.significand % 2 = 1 → x.significand - 1 / 2 < q ∧ q < x.significand + 1 / 2))
      ∨ (e + 1 = x.exponent ∧ x.significand = 2 ^ 52 ∧ 2 ^ 53 - 1 / 2 ≤ q) := by
  have hbounds := h.bounds hx.pos
  rcases h.exponent_cases hx hlow hhigh with hk | hk
  · have hfour : q * 2 ^ e * 2 ^ (2 - x.exponent) = q * 4 := by
      rw [mul_zpow_quarters q hk]
      norm_num
    have hstrict := h.strict hx.pos
    rw [hfour] at hbounds hstrict
    refine .inl ⟨by omega, by linarith, by linarith, fun hodd => ?_⟩
    have hbounds := hstrict hodd
    exact ⟨by linarith, by linarith⟩
  · have htwo : q * 2 ^ e * 2 ^ (2 - x.exponent) = q * 2 := by
      rw [mul_zpow_quarters q hk, zpow_one]
    have hleast : x.significand = 2 ^ 52 := by
      rw [htwo] at hbounds
      have hless : (x.significand : ℚ) < (2 ^ 52 + 1 : Nat) := by
        push_cast
        linarith
      have hless : x.significand < 2 ^ 52 + 1 := by exact_mod_cast hless
      have hlow := hx.low
      omega
    have hmin := hx.min
    have hclose := h.low_of_hiddenBit hleast (by omega)
    rw [htwo, hleast] at hclose
    push_cast at hclose
    exact .inr ⟨by omega, hleast, by linarith⟩

end Dyadic.Covers

/-! ## Rounding -/

theorem mantissa_ofMantissaAndAccuracy (m : Nat) (accuracy : Accuracy) :
    (ExtendedMantissa.ofMantissaAndAccuracy m accuracy).mantissa = m := by
  cases accuracy with
  | exact => rfl
  | inexact order => cases order <;> rfl

/-- Shifting a number to its width. -/
theorem Represents.width {m shift : Nat} {accuracy : Accuracy} {q : ℚ}
    (hq : Represents (.ofMantissaAndAccuracy m accuracy) q) (hm : m ≠ 0)
    (hshift : m.log2 = 52 + shift) : 2 ^ 52 ≤ q / 2 ^ shift ∧ q / 2 ^ shift < 2 ^ 53 := by
  have hbounds := hq.bounds
  rw [mantissa_ofMantissaAndAccuracy] at hbounds
  have hpower : (0 : ℚ) < 2 ^ shift := by positivity
  have hlow : (2 : ℚ) ^ (52 + shift) ≤ m := by
    rw [← hshift]
    exact_mod_cast Nat.log2_self_le hm
  have hhigh : (m : ℚ) + 1 ≤ 2 ^ (52 + shift + 1) := by
    rw [← hshift]
    exact_mod_cast Nat.lt_log2_self
  rw [pow_succ] at hhigh
  rw [pow_add] at hlow hhigh
  rw [le_div_iff₀ hpower, div_lt_iff₀ hpower]
  exact ⟨by linarith, by linarith⟩

theorem shiftToTargetExponent_eq {m : Nat} {e : Int} (shift : Nat) (accuracy : Accuracy)
    (htarget : max ((m.log2 : Int) + 1 + e - 53) (-1074) = e + shift) :
    shiftToTargetExponent Format.binary64 m e accuracy
      = (ExtendedMantissa.ofMantissaAndAccuracy m accuracy >>> shift, e + shift) := by
  have hshift : (Format.binary64.targetExponent (totalExponent m e) - e).toNat = shift := by
    show (max ((m.log2 : Int) + 1 + e - 53) (-1074) - e).toNat = shift
    omega
  rw [shiftToTargetExponent]
  simp only [shiftToExponent, hshift]

/-- **Rounding gives the double that covers what is rounded.** -/
theorem roundWithAccuracy_eq (sign : Sign) {m : Nat} {e : Int} {accuracy : Accuracy} {q : ℚ}
    {x : Dyadic} (hq : Represents (.ofMantissaAndAccuracy m accuracy) q) (hm : 2 ^ 52 ≤ m)
    (hx : x.IsFull) (hcovers : x.Covers (q * 2 ^ e)) :
    roundWithAccuracy Format.binary64 sign m e accuracy
      = .finite sign x.significand x.exponent hx.pos := by
  have hlog : 52 ≤ m.log2 := (Nat.le_log2 (by omega)).2 hm
  obtain ⟨shift, hshift⟩ : ∃ shift, m.log2 = 52 + shift := ⟨m.log2 - 52, by omega⟩
  obtain ⟨hlow, hhigh⟩ := hq.width (by omega) hshift
  have hshifted := hq.shiftRight shift
  have hvalue : q * 2 ^ e = q / 2 ^ shift * 2 ^ (e + shift) := by
    rw [zpow_add₀ two_ne_zero, zpow_natCast]
    field_simp
  rw [hvalue] at hcovers
  have hmin := hx.min
  have hcases := hcovers.cases hx hlow hhigh
  have hfirst : shiftToTargetExponent Format.binary64 m e accuracy
      = (ExtendedMantissa.ofMantissaAndAccuracy m accuracy >>> shift, e + shift) :=
    shiftToTargetExponent_eq shift accuracy (by omega)
  rw [roundWithAccuracy]
  simp only [hfirst]
  rcases hcases with ⟨hexponent, hbelow, habove, hodd⟩ | ⟨hexponent, hleast, hbelow⟩
  · have hrounded := hshifted.roundedMantissa_eq hbelow habove hodd
    have hwidth : x.significand.log2 = 52 :=
      (Nat.log2_eq_iff hx.pos.ne').2 ⟨hx.low, hx.high⟩
    have hsecond : shiftToTargetExponent Format.binary64 x.significand (e + shift) .exact
        = (⟨x.significand, false, false⟩, x.exponent) := by
      rw [shiftToTargetExponent_eq 0 .exact (by rw [hwidth]; omega), hexponent]
      simp only [Nat.cast_zero, add_zero]
      rfl
    simp only [hrounded, hsecond]
    rw [dif_neg hx.pos.ne']
  · -- rounding up to a power of two makes the significand too wide by one
    have hrounded : (ExtendedMantissa.ofMantissaAndAccuracy m accuracy >>> shift).roundedMantissa
        = 2 ^ 53 :=
      hshifted.roundedMantissa_eq (by push_cast; linarith) (by push_cast; linarith) (by omega)
    have hsecond : shiftToTargetExponent Format.binary64 (2 ^ 53) (e + shift) .exact
        = (⟨2 ^ 52, false, false⟩, x.exponent) := by
      rw [shiftToTargetExponent_eq 1 .exact (by rw [Nat.log2_two_pow]; omega), ← hexponent]
      rfl
    simp only [hrounded, hsecond, hleast]
    rw [dif_neg (by decide)]

/-! ## Division -/

/-- What a full double covers is not small. -/
theorem Dyadic.Covers.lower {x : Dyadic} (hx : x.IsFull) {v : ℚ} (h : x.Covers v) :
    2 ^ (51 + x.exponent) ≤ v := by
  have hbounds := (h.bounds hx.pos).1
  have hsignificand : (2 : ℚ) ^ 52 ≤ x.significand := by exact_mod_cast hx.low
  have hunits : (2 : ℚ) ^ (51 + x.exponent) * 2 ^ (2 - x.exponent) = 2 ^ 53 := by
    rw [← zpow_add₀ two_ne_zero, ← zpow_natCast]
    congr 1
    omega
  have hpos : (0 : ℚ) < 2 ^ (2 - x.exponent) := by positivity
  refine le_of_mul_le_mul_right ?_ hpos
  rw [hunits]
  linarith

/-- The quotient of two numbers is less than the power of two that their widths tell. -/
theorem quotient_lt {m n : Nat} (hn : 0 < n) (e : Int) :
    (m : ℚ) / n * 2 ^ e < 2 ^ ((m.log2 : Int) + 1 - n.log2 + e) := by
  have hm : (m : ℚ) < 2 ^ (m.log2 + 1) := by exact_mod_cast Nat.lt_log2_self
  have hlow : (2 : ℚ) ^ n.log2 ≤ n := by exact_mod_cast Nat.log2_self_le hn.ne'
  have hpos : (0 : ℚ) < n := by exact_mod_cast hn
  have hless : (m : ℚ) / n < 2 ^ ((m.log2 : Int) + 1 - n.log2) := by
    rw [div_lt_iff₀ hpos, zpow_sub₀ two_ne_zero, div_mul_eq_mul_div, lt_div_iff₀ (by positivity)]
    calc (m : ℚ) * 2 ^ (n.log2 : Int)
        ≤ m * n := mul_le_mul_of_nonneg_left (by rwa [zpow_natCast]) (by positivity)
      _ < 2 ^ (m.log2 + 1) * n := mul_lt_mul_of_pos_right hm hpos
      _ = 2 ^ ((m.log2 : Int) + 1) * n := by norm_cast
  rw [zpow_add₀ two_ne_zero]
  exact mul_lt_mul_of_pos_right hless (by positivity)

/-- **The quotient of two doubles is the double that covers it.** -/
theorem div_eq {s₁ s₂ : Sign} {m₁ m₂ : Nat} {e₁ e₂ : Int} (h₁ : 0 < m₁) (h₂ : 0 < m₂) {x : Dyadic}
    (hx : x.IsFull) (hcovers : x.Covers ((m₁ : ℚ) / m₂ * 2 ^ (e₁ - e₂))) :
    UnpackedFloat.div Format.binary64 (.finite s₁ m₁ e₁ h₁) (.finite s₂ m₂ e₂ h₂)
      = .finite (s₁ / s₂) x.significand x.exponent hx.pos := by
  have hmin := hx.min
  -- the exponent that the widths of the operands ask for is large enough
  have hwidth : 51 + x.exponent < (m₁.log2 : Int) + 1 - m₂.log2 + (e₁ - e₂) := by
    refine (zpow_lt_zpow_iff_right₀ (one_lt_two : (1 : ℚ) < 2)).1 ?_
    exact lt_of_le_of_lt (hcovers.lower hx) (quotient_lt h₂ (e₁ - e₂))
  have htarget : Format.binary64.targetExponent (totalExponent m₁ e₁ - totalExponent m₂ e₂)
      = m₁.log2 - m₂.log2 + (e₁ - e₂) - 53 := by
    show max ((m₁.log2 : Int) + 1 + e₁ - (m₂.log2 + 1 + e₂) - 53) (-1074) = _
    omega
  rw [UnpackedFloat.div]
  simp only [divCore, htarget]
  generalize hexponent : min (e₁ - e₂) ((m₁.log2 : Int) - m₂.log2 + (e₁ - e₂) - 53) = e
  obtain ⟨shift, hshift⟩ : ∃ shift : Nat, e₁ - e₂ - e = shift := ⟨(e₁ - e₂ - e).toNat, by omega⟩
  rw [hshift, Int.toNat_natCast]
  refine roundWithAccuracy_eq _ (represents_quotient _ h₂) ?_ hx ?_
  · rw [Nat.le_div_iff_mul_le h₂, Nat.shiftLeft_eq]
    calc 2 ^ 52 * m₂
        ≤ 2 ^ 52 * 2 ^ (m₂.log2 + 1) := Nat.mul_le_mul_left _ Nat.lt_log2_self.le
      _ = 2 ^ (m₂.log2 + 53) := by rw [← Nat.pow_add]; congr 1; omega
      _ ≤ 2 ^ (m₁.log2 + shift) := Nat.pow_le_pow_right (by decide) (by omega)
      _ = 2 ^ m₁.log2 * 2 ^ shift := Nat.pow_add _ _ _
      _ ≤ m₁ * 2 ^ shift := Nat.mul_le_mul_right _ (Nat.log2_self_le h₁.ne')
  · have hvalue : ((m₁ <<< shift : Nat) : ℚ) / m₂ * 2 ^ e = m₁ / m₂ * 2 ^ (e₁ - e₂) := by
      have hpower : (2 : ℚ) ^ (e₁ - e₂) = 2 ^ shift * 2 ^ e := by
        rw [← zpow_natCast, ← zpow_add₀ two_ne_zero]
        congr 1
        omega
      rw [hpower, Nat.shiftLeft_eq]
      push_cast
      ring
    rwa [hvalue]

end Number
end ODataQuery
