import Mathlib
import ODataQuery.Number.Dyadic

/-!
# The parts of a double

A double is stored as a sign, an exponent and a fraction.  The core library takes them apart as an
`UnpackedFloat`, and `Number.shape` as an exact binary fraction; both are the same reading of the
same bits.

* `Number.shape_eq`: what a double is, is read off its parts.
* `Number.pack_unpack`: the parts of a double make up the double.
* `Number.unpack_pack`: the parts of a normal double are those it is made of.
-/

set_option autoImplicit false

namespace ODataQuery
namespace Number

open Float.Model
open Float.Model.UnpackedFloat

/-! ## Bits -/

theorem toNat_unpackMantissa (bits : BitVec Format.binary64.numBits) :
    (unpackMantissa bits).toNat = bits.toNat % hiddenBit := by
  simp [unpackMantissa, hiddenBit]

theorem toNat_unpackExponent (bits : BitVec Format.binary64.numBits) :
    (unpackExponent bits).toNat = bits.toNat >>> 52 % 2048 := by
  simp [unpackExponent]

theorem toNat_unpackSign (bits : BitVec Format.binary64.numBits) :
    (unpackSign bits).toNat = bits.toNat >>> 63 := by
  have hbits : bits.toNat < 2 ^ 64 := bits.isLt
  simp [unpackSign, Nat.shiftRight_eq_div_pow]
  omega

theorem unpackExponent_eq_neg_one_iff {bits : BitVec Format.binary64.numBits} :
    unpackExponent bits = -1#_ ↔ bits.toNat >>> 52 % 2048 = 2047 := by
  rw [← BitVec.toNat_inj, toNat_unpackExponent]
  rfl

theorem unpackExponent_eq_zero_iff {bits : BitVec Format.binary64.numBits} :
    unpackExponent bits = 0#_ ↔ bits.toNat >>> 52 % 2048 = 0 := by
  rw [← BitVec.toNat_inj, toNat_unpackExponent]
  rfl

theorem unpackMantissa_eq_zero_iff {bits : BitVec Format.binary64.numBits} :
    unpackMantissa bits = 0#_ ↔ bits.toNat % hiddenBit = 0 := by
  rw [← BitVec.toNat_inj, toNat_unpackMantissa]
  rfl

/-- The leading bit of a normal significand stands before the fraction. -/
theorem toNat_hidden_append (fraction : BitVec 52) :
    (1#1 ++ fraction).toNat = hiddenBit + fraction.toNat := by
  rw [BitVec.toNat_append, ← Nat.shiftLeft_add_eq_or_of_lt fraction.isLt]
  rfl

/-! ## What a double is -/

/-- Is the sign that of negative numbers. -/
def isMinus : Sign → Bool
  | .negative => true
  | .positive => false

theorem isMinus_ofBitVec (bits : BitVec Format.binary64.numBits) :
    isMinus (Sign.ofBitVec (unpackSign bits)) = (bits.toNat >>> 63 == 1) := by
  have hbits : bits.toNat < 2 ^ 64 := bits.isLt
  have hsign : unpackSign bits = 0#1 ↔ bits.toNat >>> 63 = 0 := by
    rw [← BitVec.toNat_inj, toNat_unpackSign]
    rfl
  rw [Sign.ofBitVec]
  split
  · rename_i h
    rw [hsign.1 h]
    rfl
  · rename_i h
    rw [hsign] at h
    have hone : bits.toNat >>> 63 = 1 := by omega
    rw [hone]
    rfl

/-- What the parts of a double say that it is. -/
def Shape.ofUnpacked : UnpackedFloat → Shape
  | .notANumber => .notANumber
  | .infinity sign => .infinite (isMinus sign)
  | .zero sign => .finite ⟨isMinus sign, 0, -1074⟩
  | .finite sign significand exponent _ => .finite ⟨isMinus sign, significand, exponent⟩

/-- **What a double is, is read off its parts.** -/
theorem shape_eq (x : Float) : shape x = Shape.ofUnpacked x.toModel.unpack := by
  have hminus := isMinus_ofBitVec x.toModel.toBits.toBitVec
  have hbits : x.toBits.toNat = x.toModel.toBits.toBitVec.toNat := rfl
  rw [shape, hbits, Float.Model.unpack, UnpackedFloat.unpack]
  dsimp only
  rw [← hminus]
  split
  · rename_i hexponent
    rw [if_pos (unpackExponent_eq_neg_one_iff.2 hexponent)]
    split
    · rename_i hfraction
      rw [if_pos (unpackMantissa_eq_zero_iff.2 hfraction)]
      rfl
    · rename_i hfraction
      rw [if_neg (mt unpackMantissa_eq_zero_iff.1 hfraction)]
      rfl
  · rename_i hexponent
    rw [if_neg (mt unpackExponent_eq_neg_one_iff.1 hexponent)]
    split
    · rename_i hzero
      rw [if_pos (unpackExponent_eq_zero_iff.2 hzero)]
      split
      · rename_i hfraction
        rw [unpackMantissa_eq_zero_iff.1 hfraction]
        rfl
      · simp only [Shape.ofUnpacked, toNat_unpackMantissa, toNat_unpackExponent, hzero]
        rfl
    · rename_i hzero
      rw [if_neg (mt unpackExponent_eq_zero_iff.1 hzero)]
      simp only [Shape.ofUnpacked, toNat_hidden_append, toNat_unpackMantissa, toNat_unpackExponent]
      rfl

/-- The sign of a number that is negative, or is not. -/
def signOf (negative : Bool) : Sign :=
  if negative then .negative else .positive

theorem signOf_isMinus (sign : Sign) : signOf (isMinus sign) = sign := by
  cases sign <;> rfl

/-- What is an exact fraction other than zero has its parts. -/
theorem unpack_of_shape {x : Float} {value : Dyadic} (h : shape x = .finite value)
    (hpos : 0 < value.significand) :
    x.toModel.unpack = .finite (signOf value.negative) value.significand value.exponent hpos := by
  rw [shape_eq] at h
  cases hunpack : x.toModel.unpack with
  | notANumber =>
    rw [hunpack] at h
    cases h
  | infinity sign =>
    rw [hunpack] at h
    cases h
  | zero sign =>
    rw [hunpack] at h
    cases h
    exact absurd rfl hpos.ne
  | finite sign significand exponent hsignificand =>
    rw [hunpack] at h
    cases h
    simp only [signOf_isMinus]

/-! ## Taking apart and putting together -/

/-- The bits of a number with a significand of 53 bits. -/
theorem pack_of_normal (sign : Sign) {significand : Nat} {exponent : Int} (hpos : 0 < significand)
    (hlow : 2 ^ 52 ≤ significand) (hhigh : significand < 2 ^ 53) (hmax : exponent ≤ 971) :
    UnpackedFloat.pack Format.binary64 (.finite sign significand exponent hpos)
      = packComponents Format.binary64 sign (BitVec.ofNat 11 (exponent + 1075).toNat)
        (BitVec.ofNat 52 significand) := by
  have hlog : significand.log2 = 52 := (Nat.log2_eq_iff (by omega)).2 ⟨hlow, hhigh⟩
  have hbiased : exponent + Format.binary64.exponentBias
      + Format.binary64.mantissaBitsWithoutImplicit = exponent + 1075 := by
    show exponent + 1023 + 52 = exponent + 1075
    omega
  rw [UnpackedFloat.pack]
  simp only [hlog, hbiased]
  rw [if_neg (by omega), if_pos (show 52 + 1 = Format.binary64.mantissaBits from rfl)]

/-- **The parts of a double make up the double.** -/
theorem pack_unpack (x : Float.Model) : Float.Model.pack x.unpack = x := by
  have hbits := pack_unpack_of_valid x.valid
  obtain ⟨bits, hvalid⟩ := x
  simp only [Float.Model.pack, Float.Model.unpack, hbits]

/-- **The parts of a normal double are those that it is made of.** -/
theorem unpack_pack (sign : Sign) {significand : Nat} {exponent : Int} (hpos : 0 < significand)
    (hlow : 2 ^ 52 ≤ significand) (hhigh : significand < 2 ^ 53) (hmin : -1074 ≤ exponent)
    (hmax : exponent ≤ 971) :
    (Float.Model.pack (.finite sign significand exponent hpos)).unpack
      = .finite sign significand exponent hpos := by
  have hscale : (exponent + 1075).toNat < 2 ^ 11 := by omega
  rw [Float.Model.unpack, Float.Model.pack]
  simp only [pack_of_normal sign hpos hlow hhigh hmax]
  rw [UnpackedFloat.unpack]
  simp only [unpackExponent_packComponents, unpackMantissa_packComponents,
    unpackSign_packComponents, Sign.ofBitVec_toBitVec]
  have htoNat : (BitVec.ofNat 11 (exponent + 1075).toNat).toNat = (exponent + 1075).toNat := by
    rw [BitVec.toNat_ofNat, Nat.mod_eq_of_lt hscale]
  have hfinite : BitVec.ofNat 11 (exponent + 1075).toNat ≠ -1#11 := by
    rw [ne_eq, ← BitVec.toNat_inj, htoNat]
    show (exponent + 1075).toNat ≠ 2047
    omega
  have hnormal : BitVec.ofNat 11 (exponent + 1075).toNat ≠ 0#11 := by
    rw [ne_eq, ← BitVec.toNat_inj, htoNat]
    show (exponent + 1075).toNat ≠ 0
    omega
  have hsignificand : (1#1 ++ BitVec.ofNat 52 significand).toNat = significand := by
    rw [toNat_hidden_append, BitVec.toNat_ofNat]
    show 2 ^ 52 + significand % 2 ^ 52 = significand
    omega
  have hexponent : ((BitVec.ofNat 11 (exponent + 1075).toNat).toNat : Int)
      - (Format.binary64.exponentBias + Format.binary64.mantissaBitsWithoutImplicit)
        = exponent := by
    rw [htoNat]
    show ((exponent + 1075).toNat : Int) - (1023 + 52) = exponent
    omega
  rw [if_neg hfinite, if_neg hnormal]
  simp only [hsignificand, hexponent]

end Number
end ODataQuery
