import ODataQuery.Number.Reading
import ODataQuery.Proofs.Number.Rounding

/-!
# Decimals are read as the doubles that cover them

The double of a decimal fraction is the quotient of its digits by a power of ten.  Both are doubles
themselves if they are small, and otherwise the quotient is worked out from them as they are; either
way the double is the one that covers the fraction.

* `Number.ofScientific_eq`: the quotient of digits by a power of ten.
* `Number.ofDecimal_eq`: the double of a decimal fraction with a sign.
* `Number.ofDecimal_zero`: the two zeros.
-/

set_option autoImplicit false

namespace ODataQuery
namespace Number

open Float.Model
open Float.Model.UnpackedFloat

/-! ## Small operands -/

/-- Is this double the natural number. -/
def Shape.isNatural (n : Nat) : Shape → Bool
  | .finite ⟨negative, significand, exponent⟩ =>
    !negative && significand * 2 ^ exponent.toNat == n * 2 ^ (-exponent).toNat
  | _ => false

/-- The parts of a natural number. -/
theorem exists_unpack_of_isNatural {x : Float} {n : Nat} (h : (shape x).isNatural n = true)
    (hn : n ≠ 0) :
    ∃ (m : Nat) (e : Int) (hm : 0 < m),
      x.toModel.unpack = .finite .positive m e hm ∧ (m : ℚ) * 2 ^ e = n := by
  cases hshape : shape x with
  | notANumber =>
    rw [hshape] at h
    cases h
  | infinite negative =>
    rw [hshape] at h
    cases h
  | finite value =>
    obtain ⟨negative, m, e⟩ := value
    rw [hshape, Shape.isNatural, Bool.and_eq_true, beq_iff_eq, Bool.not_eq_true'] at h
    obtain ⟨rfl, hvalue⟩ := h
    have hm : 0 < m := by
      rcases Nat.eq_zero_or_pos m with rfl | hm
      · rw [Nat.zero_mul, eq_comm, Nat.mul_eq_zero] at hvalue
        rcases hvalue with hzero | hzero
        · exact absurd hzero hn
        · exact absurd hzero (by positivity)
      · exact hm
    refine ⟨m, e, hm, unpack_of_shape hshape hm, ?_⟩
    have hcast : (m : ℚ) * 2 ^ e.toNat = n * 2 ^ (-e).toNat := by exact_mod_cast hvalue
    have hpos : (2 : ℚ) ^ (-e).toNat ≠ 0 := by positivity
    refine mul_right_cancel₀ hpos ?_
    rw [mul_assoc, zpow_mul_pow_toNat_neg two_ne_zero, hcast]

/-- The powers of ten that are doubles are listed as what they are. -/
theorem isNatural_power (f : Fin Float.exactlyRepresentablePowersOfTen.size) :
    (shape Float.exactlyRepresentablePowersOfTen[f]).isNatural (10 ^ f.1) = true := by
  revert f
  decide

/-- A small natural number is shifted to the full width. -/
theorem round_natural {n : Nat} (hn : n ≠ 0) (hsmall : n < 2 ^ 53) :
    ∃ (m : Nat) (e : Int) (hm : 0 < m),
      UnpackedFloat.round Format.binary64 .positive n 0 = .finite .positive m e hm
        ∧ 2 ^ 52 ≤ m ∧ m < 2 ^ 53 ∧ -1074 ≤ e ∧ e ≤ 971 ∧ (m : ℚ) * 2 ^ e = n := by
  have hlog : n.log2 < 53 := (Nat.log2_lt hn).2 hsmall
  obtain ⟨shift, hshift⟩ : ∃ shift, n.log2 + shift = 52 := ⟨52 - n.log2, by omega⟩
  have hlow : 2 ^ 52 ≤ n <<< shift := by
    rw [Nat.shiftLeft_eq, ← hshift, Nat.pow_add]
    exact Nat.mul_le_mul_right _ (Nat.log2_self_le hn)
  have hhigh : n <<< shift < 2 ^ 53 := by
    have hpower : 2 ^ 53 = 2 ^ (n.log2 + 1) * 2 ^ shift := by
      rw [← Nat.pow_add]
      congr 1
      omega
    rw [Nat.shiftLeft_eq, hpower]
    exact Nat.mul_lt_mul_of_pos_right Nat.lt_log2_self (by positivity)
  have hx : Dyadic.IsFull ⟨false, n <<< shift, -shift⟩ :=
    ⟨hlow, hhigh, by simp only; omega, by simp only; omega⟩
  have htarget : Format.binary64.targetExponent (totalExponent n 0) = -shift := by
    show max ((n.log2 : Int) + 1 + 0 - 53) (-1074) = -shift
    omega
  have hdecreased : decreaseExponent n 0 (-(shift : Int)) = (n <<< shift, -(shift : Int)) := by
    have hamount : ((0 : Int) - -(shift : Int)).toNat = shift := by omega
    rw [decreaseExponent, hamount, Int.zero_sub]
  have hexact : Represents (ExtendedMantissa.ofMantissaAndAccuracy (n <<< shift) .exact)
      (n <<< shift : Nat) :=
    rfl
  refine ⟨n <<< shift, -shift, hx.pos, ?_, hlow, hhigh, by omega, by omega, ?_⟩
  · rw [UnpackedFloat.round]
    simp only [htarget, hdecreased]
    exact roundWithAccuracy_eq .positive hexact hlow hx (Dyadic.covers_self hx.pos)
  · rw [Nat.shiftLeft_eq, zpow_neg, zpow_natCast]
    push_cast
    exact mul_inv_cancel_right₀ (by positivity) _

/-- A small natural number is a double. -/
theorem exists_unpack_natural {n : Nat} (hn : n ≠ 0) (hsmall : n < 2 ^ 53) :
    ∃ (m : Nat) (e : Int) (hm : 0 < m),
      n.toUInt64.toFloat.toModel.unpack = .finite .positive m e hm ∧ (m : ℚ) * 2 ^ e = n := by
  obtain ⟨m, e, hm, hround, hlow, hhigh, hmin, hmax, hvalue⟩ := round_natural hn hsmall
  have htoNat : n.toUInt64.toNat = n := UInt64.toNat_ofNat_of_lt (by
    show n < 2 ^ 64
    omega)
  have hcompare : compare (n : Int) 0 = .gt := Int.compare_eq_gt.2 (by omega)
  have hnormalized : UnpackedFloat.ofUInt64 Format.binary64 n.toUInt64
      = .finite .positive m e hm := by
    rw [UnpackedFloat.ofUInt64, htoNat, UnpackedFloat.ofNat, UnpackedFloat.ofInt,
      UnpackedFloat.normalize]
    simp only [hcompare, Int.toNat_natCast]
    exact hround
  refine ⟨m, e, hm, ?_, hvalue⟩
  show (Float.Model.pack (UnpackedFloat.ofUInt64 Format.binary64 n.toUInt64)).unpack = _
  rw [hnormalized]
  exact unpack_pack .positive hm hlow hhigh hmin hmax

/-! ## Quotients -/

/-- **The quotient of digits by a power of ten** is the double that covers it, no matter whether
both are doubles. -/
theorem ofScientific_eq {n f : Nat} (hn : n ≠ 0) (hf : 0 < f) (hmax : f ≤ 2048) {x : Dyadic}
    (hx : x.IsFull) (hcovers : x.Covers (n / 10 ^ f)) :
    Float.ofScientific n true f
      = .ofModel (.pack (.finite .positive x.significand x.exponent hx.pos)) := by
  rw [Float.ofScientific]
  split
  · rename_i hsmall
    obtain ⟨m₁, e₁, h₁, hunpack₁, hvalue₁⟩ := exists_unpack_natural hn hsmall.1
    have hlisted : f < Float.exactlyRepresentablePowersOfTen.size := Nat.lt_succ_of_le hsmall.2
    obtain ⟨m₂, e₂, h₂, hunpack₂, hvalue₂⟩ :=
      exists_unpack_of_isNatural (isNatural_power ⟨f, hlisted⟩) (by positivity)
    have hquotient : (m₁ : ℚ) / m₂ * 2 ^ (e₁ - e₂) = n / 10 ^ f := by
      rw [zpow_sub₀ two_ne_zero, div_mul_div_comm, hvalue₁, hvalue₂]
      push_cast
      rfl
    rw [← hquotient] at hcovers
    have hdiv : UnpackedFloat.div Format.binary64 (.finite .positive m₁ e₁ h₁)
        (.finite .positive m₂ e₂ h₂) = .finite .positive x.significand x.exponent hx.pos :=
      div_eq h₁ h₂ hx hcovers
    rw [← hunpack₁, ← hunpack₂] at hdiv
    show Float.ofModel (.pack (UnpackedFloat.div Format.binary64 n.toUInt64.toFloat.toModel.unpack
      (Float.exactlyRepresentablePowersOfTen[f]).toModel.unpack)) = _
    rw [← hdiv]
    rfl
  · have hten : 0 < 10 ^ f := by positivity
    have hquotient : (n : ℚ) / (10 ^ f : Nat) * 2 ^ ((0 : Int) - 0) = n / 10 ^ f := by
      rw [sub_self, zpow_zero, mul_one]
      push_cast
      rfl
    rw [← hquotient] at hcovers
    have hdiv : UnpackedFloat.div Format.binary64 (.finite .positive n 0 (Nat.pos_of_ne_zero hn))
        (.finite .positive (10 ^ f) 0 hten) = .finite .positive x.significand x.exponent hx.pos :=
      div_eq _ hten hx hcovers
    have hexponent : Int.negOfNat f = -(f : Int) := Int.negOfNat_eq
    have hlarge : ¬-(f : Int) > 2 ^ Format.binary64.exponentBits := by
      show ¬-(f : Int) > 2 ^ 11
      omega
    have hsmall : ¬-(f : Int) < -((2 ^ Format.binary64.exponentBits : Int) + n.log2) := by
      show ¬-(f : Int) < -(2 ^ 11 + (n.log2 : Int))
      omega
    show Float.ofModel (.pack (UnpackedFloat.ofScientific Format.binary64 n (Int.negOfNat f))) = _
    rw [hexponent, UnpackedFloat.ofScientific, dif_neg hn, if_neg hlarge, if_neg hsmall,
      if_neg (by omega), ← hdiv]
    simp only [neg_neg, Int.toNat_natCast]

/-! ## Fractions with a sign -/

/-- A double is what it is taken apart into. -/
theorem eq_ofModel_of_unpack {x : Float} {parts : UnpackedFloat} (h : x.toModel.unpack = parts) :
    x = .ofModel (.pack parts) := by
  rw [← h, pack_unpack]

/-- **The double of a decimal fraction** with a sign is the one that covers it. -/
theorem ofDecimal_eq {x : Float} {value : Dyadic} (hx : shape x = .finite value)
    (hvalue : value.IsFull) {n f : Nat} (hn : n ≠ 0) (hdigits : n < 10 ^ 200) (hf : 0 < f)
    (hmax : f ≤ 200) (hcovers : value.Covers (n / 10 ^ f)) :
    ofDecimal value.negative ⟨n, -f⟩ = x := by
  have hcount : digitCount n ≤ 200 :=
    (Nat.length_toDigits_le_iff (by decide) (by decide)).2 hdigits
  have hmagnitude := ofScientific_eq hn hf (by omega) hvalue hcovers
  have hsmall : ¬(n = 0 ∨ (digitCount n : Int) + -(f : Int) < -400) := by omega
  have hlarge : ¬400 < (digitCount n : Int) + -(f : Int) := by omega
  have hfraction : ¬0 ≤ -(f : Int) := by omega
  rw [ofDecimal]
  simp only [if_neg hsmall, if_neg hlarge, if_neg hfraction, neg_neg, Int.toNat_natCast, hmagnitude]
  have hparts := eq_ofModel_of_unpack (unpack_of_shape hx hvalue.pos)
  cases hnegative : value.negative with
  | false =>
    rw [hnegative] at hparts
    exact hparts.symm
  | true =>
    rw [hnegative] at hparts
    rw [if_pos rfl, hparts]
    have hmin := hvalue.min
    have hunpack := unpack_pack .positive hvalue.pos hvalue.low hvalue.high (by omega) hvalue.max
    show Float.ofModel (.pack (UnpackedFloat.neg (Float.Model.pack _).unpack)) = _
    rw [hunpack]
    rfl

/-- The two zeros are read from digits that are zero. -/
theorem ofDecimal_zero {x : Float} {value : Dyadic} (hx : shape x = .finite value)
    (hzero : value.significand = 0) (f : Nat) : ofDecimal value.negative ⟨0, -f⟩ = x := by
  have hparts : x.toModel.unpack = .zero (signOf value.negative) := by
    rw [shape_eq] at hx
    cases hunpack : x.toModel.unpack with
    | notANumber =>
      rw [hunpack] at hx
      cases hx
    | infinity sign =>
      rw [hunpack] at hx
      cases hx
    | zero sign =>
      rw [hunpack] at hx
      cases hx
      rw [signOf_isMinus]
    | finite sign significand exponent hpos =>
      rw [hunpack] at hx
      cases hx
      exact absurd hzero hpos.ne'
  rw [eq_ofModel_of_unpack hparts, ofDecimal]
  simp only [true_or, if_true]
  cases value.negative with
  | false => decide
  | true => decide

end Number
end ODataQuery
