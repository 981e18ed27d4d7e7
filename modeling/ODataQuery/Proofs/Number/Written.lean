import ODataQuery.Number.Format
import ODataQuery.Proofs.Number.Decimals
import ODataQuery.Proofs.Number.ShortestDigits

/-!
# Written doubles

A literal is written with a point and no exponent if its first digit has a power of ten from -4 up
to 15.  The double has such a power exactly if its shortest decimal has: the bounds are shortest
decimals themselves, so that no other double covers them.

* `Number.IsPlain`: the double is zero, or from a ten-thousandth up to below 10 ^ 16.
* `Decimal.IsDenotedBy`: the digits before and after a point are those of a decimal.
* `Layout.writeDecimal_of_positional`, `Layout.writeDecimal_of_exponent`: the forms of a decimal.
* `Number.positional_iff`: which form a double has.
* `Number.write_of_isPlain`: the digits of a plain double, and that they are read back.
* `Number.write_of_not_isPlain`: what is written of all others.
-/

set_option autoImplicit false

namespace ODataQuery

open Text

namespace Text

/-- A zero after the digits multiplies their value by ten. -/
theorem digitsValue_append_zeros (digits : List Char) (count : Nat) :
    digitsValue (digits ++ List.replicate count '0') = digitsValue digits * 10 ^ count := by
  rw [digitsValue_eq, digitsValue_eq, Nat.ofDigitChars_append, Nat.ofDigitChars_replicate_zero,
    Nat.mul_comm]

end Text

namespace Number

/-! ## Decimals -/

/-- The power of ten of the first digit. -/
def Decimal.power (x : Decimal) : Int :=
  digitCount x.digits - 1 + x.exponent

theorem Decimal.power_bounds {x : Decimal} (hpos : 0 < x.digits) :
    (10 : ℚ) ^ x.power ≤ x.value ∧ x.value < 10 ^ (x.power + 1) := by
  obtain ⟨hcount, hlow, hhigh⟩ := digitCount_bounds hpos
  have hexponent : (digitCount x.digits : Int) - 1 = (digitCount x.digits - 1 : Nat) := by omega
  have hlow : (10 : ℚ) ^ (digitCount x.digits - 1) ≤ x.digits := by exact_mod_cast hlow
  have hhigh : (x.digits : ℚ) < 10 ^ digitCount x.digits := by exact_mod_cast hhigh
  have hpower : x.power + 1 = digitCount x.digits + x.exponent := by
    rw [power]
    omega
  rw [hpower, power, hexponent, zpow_add₀ (by norm_num), zpow_add₀ (by norm_num), zpow_natCast,
    zpow_natCast, value]
  exact ⟨by gcongr, by gcongr⟩

/-- The value tells how large the power of the first digit is. -/
theorem Decimal.le_power_iff {x : Decimal} (hpos : 0 < x.digits) (k : Int) :
    k ≤ x.power ↔ (10 : ℚ) ^ k ≤ x.value := by
  obtain ⟨hlow, hhigh⟩ := x.power_bounds hpos
  constructor
  · intro hk
    exact le_trans (zpow_le_zpow_right₀ (by norm_num) hk) hlow
  · intro hvalue
    by_contra hless
    have hpower : (10 : ℚ) ^ (x.power + 1) ≤ 10 ^ k :=
      zpow_le_zpow_right₀ (by norm_num) (by omega)
    linarith

/-! ## Forms -/

/-- Digits before a point and after it, with at least one on each side. -/
structure AreDigits (whole fraction : List Char) : Prop where
  whole_ne_nil : whole ≠ []
  fraction_ne_nil : fraction ≠ []
  isAsciiDigit : ∀ c ∈ whole ++ fraction, isAsciiDigit c = true

/-- The digits denote the decimal, and no more of them than have to stand after the point. -/
structure Decimal.IsDenotedBy (x : Decimal) (whole fraction : List Char) : Prop extends
    AreDigits whole fraction where
  length_fraction : (fraction.length : Int) = max 1 (-x.exponent)
  value_eq : (digitsValue (whole ++ fraction) : ℚ) / 10 ^ fraction.length = x.value

theorem isAsciiDigit_of_mem_zeros {count : Nat} {c : Char} (h : c ∈ zeros count) :
    isAsciiDigit c = true := by
  rw [List.eq_of_mem_replicate h]
  decide

namespace Decimal

variable {x : Decimal}

theorem isAsciiDigit_of_mem {c : Char} (h : c ∈ Nat.toDigits 10 x.digits) :
    isAsciiDigit c = true :=
  isAsciiDigit_of_mem_toDigits h

/-- A fraction has as many digits as its exponent says. -/
theorem value_of_fraction {count : Nat} (hcount : (count : Int) = -x.exponent) :
    (x.digits : ℚ) / 10 ^ count = x.value := by
  rw [value, ← zpow_natCast, hcount, zpow_neg, div_inv_eq_mul]

/-- A whole number is its digits with the zeros of its exponent. -/
theorem isDenotedBy_of_whole (hwhole : 0 ≤ x.exponent) :
    x.IsDenotedBy (Nat.toDigits 10 x.digits ++ zeros x.exponent.toNat) ['0'] := by
  have hzeros : zeros x.exponent.toNat ++ ['0'] = zeros (x.exponent.toNat + 1) :=
    List.replicate_succ'.symm
  refine ⟨⟨by simp [Nat.toDigits_ne_nil], by simp, ?_⟩, ?_, ?_⟩
  · rw [List.append_assoc, hzeros, List.forall_mem_append]
    exact ⟨fun c hc => isAsciiDigit_of_mem hc, fun c hc => isAsciiDigit_of_mem_zeros hc⟩
  · show ((1 : Nat) : Int) = _
    omega
  · rw [List.append_assoc, hzeros, zeros, digitsValue_append_zeros, digitsValue_toDigits, pow_succ]
    push_cast
    rw [List.length_singleton, pow_one, ← mul_assoc, mul_div_cancel_right₀ _ (by norm_num), value,
      ← zpow_natCast, Int.toNat_of_nonneg hwhole]

/-- A number from one on that is not whole has the point among its digits. -/
theorem isDenotedBy_of_point (hpart : x.exponent < 0) (hone : 0 ≤ x.power) :
    x.IsDenotedBy ((Nat.toDigits 10 x.digits).take (x.power.toNat + 1))
      ((Nat.toDigits 10 x.digits).drop (x.power.toNat + 1)) := by
  have hlength : ((Nat.toDigits 10 x.digits).length : Int) - 1 + x.exponent = x.power := rfl
  have hdrop : (((Nat.toDigits 10 x.digits).drop (x.power.toNat + 1)).length : Int)
      = -x.exponent := by
    rw [List.length_drop]
    omega
  refine ⟨⟨by simp [Nat.toDigits_ne_nil], ?_, ?_⟩, by omega, ?_⟩
  · rw [← List.length_pos_iff]
    omega
  · rw [List.take_append_drop]
    exact fun c hc => isAsciiDigit_of_mem hc
  · rw [List.take_append_drop, digitsValue_toDigits, value_of_fraction hdrop]

/-- A number below one has zeros between the point and its digits. -/
theorem isDenotedBy_of_zeros (hbelow : x.power < 0) :
    x.IsDenotedBy ['0'] (zeros (-x.power - 1).toNat ++ Nat.toDigits 10 x.digits) := by
  have hlength : ((Nat.toDigits 10 x.digits).length : Int) - 1 + x.exponent = x.power := rfl
  have hdigits : 0 < (Nat.toDigits 10 x.digits).length := Nat.length_toDigits_pos
  have hzeros : ['0'] ++ (zeros (-x.power - 1).toNat ++ Nat.toDigits 10 x.digits)
      = zeros ((-x.power - 1).toNat + 1) ++ Nat.toDigits 10 x.digits := rfl
  have hcount : ((zeros (-x.power - 1).toNat ++ Nat.toDigits 10 x.digits).length : Int)
      = -x.exponent := by
    rw [List.length_append, zeros, List.length_replicate]
    omega
  refine ⟨⟨by simp, by simp [Nat.toDigits_ne_nil], ?_⟩, by omega, ?_⟩
  · rw [hzeros, List.forall_mem_append]
    exact ⟨fun c hc => isAsciiDigit_of_mem_zeros hc, fun c hc => isAsciiDigit_of_mem hc⟩
  · rw [hzeros, zeros, digitsValue_zeros, digitsValue_toDigits, value_of_fraction hcount]

end Decimal

namespace Layout

/-- **A positional decimal** is digits with a point among them, of its value. -/
theorem writeDecimal_of_positional {x : Decimal} (hlow : -4 ≤ x.power) (hhigh : x.power < 16) :
    ∃ whole fraction, literal.writeDecimal x = whole ++ '.' :: fraction
      ∧ x.IsDenotedBy whole fraction := by
  have hpositional : literal.positional x.power = true := by
    rw [literal, Bool.and_eq_true, decide_eq_true_eq, decide_eq_true_eq]
    exact ⟨hlow, hhigh⟩
  have hlength : ((Nat.toDigits 10 x.digits).length : Int) - 1 + x.exponent = x.power := rfl
  rw [writeDecimal]
  simp only [hlength]
  rw [if_pos hpositional]
  split
  · rename_i hwhole
    exact ⟨_, _, rfl, Decimal.isDenotedBy_of_whole hwhole⟩
  · rename_i hpart
    split
    · rename_i hone
      exact ⟨_, _, rfl, Decimal.isDenotedBy_of_point (not_le.1 hpart) hone⟩
    · rename_i hbelow
      exact ⟨_, _, rfl, Decimal.isDenotedBy_of_zeros (not_le.1 hbelow)⟩

/-- **A decimal with an exponent** is digits, perhaps with a point among them, and a letter. -/
theorem writeDecimal_of_exponent {x : Decimal} (hpower : ¬(-4 ≤ x.power ∧ x.power < 16)) :
    ∃ whole fraction rest, literal.writeDecimal x
        = whole ++ (if fraction.isEmpty then [] else '.' :: fraction) ++ 'e' :: rest
      ∧ whole ≠ [] ∧ ∀ c ∈ whole ++ fraction, isAsciiDigit c = true := by
  have hexponent : ¬literal.positional x.power = true := by
    rw [literal, Bool.and_eq_true, decide_eq_true_eq, decide_eq_true_eq]
    exact hpower
  have hlength : ((Nat.toDigits 10 x.digits).length : Int) - 1 + x.exponent = x.power := rfl
  rw [writeDecimal]
  simp only [hlength]
  rw [if_neg hexponent, List.append_assoc, List.cons_append]
  refine ⟨(Nat.toDigits 10 x.digits).take 1, (Nat.toDigits 10 x.digits).drop 1, _, rfl, ?_, ?_⟩
  · simp [Nat.toDigits_ne_nil]
  · rw [List.take_append_drop]
    exact fun c hc => isAsciiDigit_of_mem_toDigits hc

end Layout

/-! ## Which doubles are written positionally -/

/-- The double is zero, or from a ten-thousandth up to below 10 ^ 16. -/
def IsPlain (x : Float) : Prop :=
  ∃ value, shape x = .finite value ∧ (value.significand = 0
    ∨ 10 ^ (-4 : Int) ≤ value.magnitude ∧ value.magnitude < 10 ^ (16 : Int))

/-- The parts of a double have their widths. -/
theorem bounds_of_shape {x : Float} {value : Dyadic} (h : shape x = .finite value) :
    value.significand < 2 ^ 53 ∧ value.exponent ≤ 971
      ∧ (2 ^ 52 ≤ value.significand ∧ -1074 ≤ value.exponent ∨ value.exponent = -1074) := by
  rw [shape] at h
  split at h
  · split at h <;> cases h
  split at h
  · cases h
    refine ⟨?_, show (-1074 : Int) ≤ 971 by decide, .inr rfl⟩
    exact lt_trans (Nat.mod_lt _ (by decide)) (by decide)
  · rename_i hmax hmin
    cases h
    have hfraction : x.toBits.toNat % hiddenBit < 2 ^ 52 := Nat.mod_lt _ (by decide)
    have hscale : x.toBits.toNat >>> 52 % 2048 < 2048 := Nat.mod_lt _ (by decide)
    simp only
    generalize x.toBits.toNat >>> 52 % 2048 = scale at *
    generalize x.toBits.toNat % hiddenBit = fraction at *
    have hhidden : hiddenBit = 2 ^ 52 := rfl
    omega

/-- Only one double covers a decimal fraction. -/
theorem shape_ofScientific {n f : Nat} (hn : n ≠ 0) (hf : 0 < f) (hmax : f ≤ 2048) {x : Dyadic}
    (hx : x.IsFull) (hcovers : x.Covers (n / 10 ^ f)) :
    shape (Float.ofScientific n true f) = .finite ⟨false, x.significand, x.exponent⟩ := by
  have hmin := hx.min
  rw [shape_eq, ofScientific_eq hn hf hmax hx hcovers]
  show Shape.ofUnpacked (Float.Model.pack _).unpack = _
  rw [unpack_pack .positive hx.pos hx.low hx.high (by omega) hx.max]
  rfl

/-- If the shortest decimal of the double at a bound is not below the bound, then no full double has
the bound between itself and its shortest decimal. -/
theorem le_value_shortest_iff {n f significand : Nat} {exponent : Int} (hn : n ≠ 0) (hf : 0 < f)
    (hmax : f ≤ 2048)
    (hbound : shape (Float.ofScientific n true f) = .finite ⟨false, significand, exponent⟩)
    (hmagnitude : (n : ℚ) / 10 ^ f ≤ significand * 2 ^ exponent) {tie : Tie}
    (hshortest : ∀ negative,
      (n : ℚ) / 10 ^ f ≤ (shortest tie ⟨negative, significand, exponent⟩).value)
    {x : Dyadic} (hx : x.IsFull) :
    (n : ℚ) / 10 ^ f ≤ (shortest tie x).value ↔ (n : ℚ) / 10 ^ f ≤ x.magnitude := by
  have hself : x.Covers x.magnitude := Dyadic.covers_self hx.pos
  have hdecimal := (covers_shortest tie hx).1
  have hparts (hcovers : x.Covers (n / 10 ^ f)) :
      x.significand = significand ∧ x.exponent = exponent := by
    rw [shape_ofScientific hn hf hmax hx hcovers] at hbound
    cases hbound
    exact ⟨rfl, rfl⟩
  constructor
  · intro hvalue
    by_contra hless
    obtain ⟨rfl, rfl⟩ := hparts (hself.between hdecimal (not_le.1 hless).le hvalue)
    exact hless hmagnitude
  · intro hmagnitude
    by_contra hless
    obtain ⟨rfl, rfl⟩ := hparts (hdecimal.between hself (not_le.1 hless).le hmagnitude)
    exact hless (hshortest x.negative)

/-- Which form a full double has. -/
theorem positional_iff_of_isFull {x : Dyadic} (hx : x.IsFull)
    (hpos : 0 < (shortest .awayFromZero x).digits) :
    (-4 ≤ (shortest .awayFromZero x).power ∧ (shortest .awayFromZero x).power < 16)
      ↔ 10 ^ (-4 : Int) ≤ x.magnitude ∧ x.magnitude < 10 ^ (16 : Int) := by
  have hlow : ((1 : Nat) : ℚ) / 10 ^ 4 ≤ (shortest .awayFromZero x).value
      ↔ ((1 : Nat) : ℚ) / 10 ^ 4 ≤ x.magnitude := by
    refine le_value_shortest_iff (by decide) (by decide) (by decide)
      (by decide : shape (Float.ofScientific 1 true 4)
        = .finite ⟨false, 7378697629483821, -66⟩) (by norm_num) (fun negative => ?_) hx
    have hshortest : shortest .awayFromZero ⟨negative, 7378697629483821, -66⟩ = ⟨1, -4⟩ := by
      cases negative <;> decide
    rw [hshortest, Decimal.value]
    norm_num
  have hhigh : ((10 ^ 17 : Nat) : ℚ) / 10 ^ 1 ≤ (shortest .awayFromZero x).value
      ↔ ((10 ^ 17 : Nat) : ℚ) / 10 ^ 1 ≤ x.magnitude := by
    refine le_value_shortest_iff (by decide) (by decide) (by decide)
      (by decide : shape (Float.ofScientific (10 ^ 17) true 1)
        = .finite ⟨false, 5000000000000000, 1⟩) (by norm_num) (fun negative => ?_) hx
    have hshortest : shortest .awayFromZero ⟨negative, 5000000000000000, 1⟩ = ⟨1, 16⟩ := by
      cases negative <;> decide
    rw [hshortest, Decimal.value]
    norm_num
  have hsmall : ((1 : Nat) : ℚ) / 10 ^ 4 = 10 ^ (-4 : Int) := by norm_num
  have hlarge : ((10 ^ 17 : Nat) : ℚ) / 10 ^ 1 = 10 ^ (16 : Int) := by norm_num
  rw [hsmall] at hlow
  rw [hlarge] at hhigh
  rw [← not_le, Decimal.le_power_iff hpos, Decimal.le_power_iff hpos, hlow, hhigh, not_le]

/-- The shortest decimal of a double that is not zero is not zero. -/
theorem digits_shortest_pos (tie : Tie) {x : Dyadic} (hpos : 0 < x.significand) :
    0 < (shortest tie x).digits := by
  rcases covers_shortest_or tie x with ⟨hcovers, -⟩ | ⟨hfallback, -⟩
  · by_contra hzero
    have hdigits : (shortest tie x).digits = 0 := by omega
    have hbounds := (hcovers.bounds hpos).1
    have hone : (1 : ℚ) ≤ x.significand := by exact_mod_cast hpos
    rw [Decimal.value, hdigits, Nat.cast_zero, zero_mul, zero_mul] at hbounds
    linarith
  · rw [hfallback]
    exact hpos

/-- The least doubles are far below a ten-thousandth, and so are their shortest decimals. -/
theorem small_of_exponent {x : Dyadic} (hpos : 0 < x.significand) (hwidth : x.significand < 2 ^ 53)
    (hexponent : x.exponent < -1072) (tie : Tie) :
    x.magnitude < 10 ^ (-4 : Int) ∧ (shortest tie x).value < 10 ^ (-4 : Int) := by
  have hsignificand : (x.significand : ℚ) < 2 ^ 53 := by exact_mod_cast hwidth
  have htiny : (2 : ℚ) ^ x.exponent ≤ 2 ^ (-80 : Int) :=
    zpow_le_zpow_right₀ one_le_two (by omega)
  have hpower : (0 : ℚ) < 2 ^ x.exponent := by positivity
  have hbound : ((2 : ℚ) ^ 53 + 1) * 2 ^ (-80 : Int) < 10 ^ (-4 : Int) := by norm_num
  have hbelow {a : ℚ} (ha : a ≤ (2 ^ 53 + 1) * 2 ^ x.exponent) : a < 10 ^ (-4 : Int) :=
    lt_of_le_of_lt (le_trans ha (mul_le_mul_of_nonneg_left htiny (by positivity))) hbound
  refine ⟨hbelow ?_, ?_⟩
  · rw [Dyadic.magnitude]
    exact mul_le_mul_of_nonneg_right (by linarith) hpower.le
  · rcases covers_shortest_or tie x with ⟨hcovers, -⟩ | ⟨hfallback, -⟩
    · have hhigh := (hcovers.bounds hpos).2
      have hunits : (2 : ℚ) ^ (2 - x.exponent) * 2 ^ x.exponent = 4 := by
        rw [← zpow_add₀ two_ne_zero, sub_add_cancel]
        norm_num
      refine hbelow ?_
      have hscaled := mul_le_mul_of_nonneg_right hhigh hpower.le
      have hwide : (4 * (x.significand : ℚ) + 2) * 2 ^ x.exponent
          ≤ 4 * (2 ^ 53 + 1) * 2 ^ x.exponent :=
        mul_le_mul_of_nonneg_right (by linarith) hpower.le
      rw [mul_assoc, hunits] at hscaled
      linarith
    · have hten : (10 : ℚ) ^ x.exponent ≤ 10 ^ (-80 : Int) :=
        zpow_le_zpow_right₀ (by norm_num) (by omega)
      rw [hfallback, Decimal.value]
      calc (x.significand : ℚ) * 10 ^ x.exponent
          ≤ 2 ^ 53 * 10 ^ (-80 : Int) := by gcongr
        _ < 10 ^ (-4 : Int) := by norm_num

/-- **A double is written positionally** exactly if it is from a ten-thousandth up to below
10 ^ 16. -/
theorem positional_iff {x : Float} {value : Dyadic} (hx : shape x = .finite value)
    (hpos : 0 < value.significand) :
    (-4 ≤ (shortest .awayFromZero value).power ∧ (shortest .awayFromZero value).power < 16)
      ↔ 10 ^ (-4 : Int) ≤ value.magnitude ∧ value.magnitude < 10 ^ (16 : Int) := by
  have hdigits := digits_shortest_pos .awayFromZero hpos
  obtain ⟨hwidth, hmax, hnormal⟩ := bounds_of_shape hx
  by_cases hexponent : value.exponent < -1072
  · obtain ⟨hmagnitude, hvalue⟩ := small_of_exponent hpos hwidth hexponent .awayFromZero
    rw [Decimal.le_power_iff hdigits]
    exact ⟨fun h => absurd h.1 (not_le.2 hvalue), fun h => absurd h.1 (not_le.2 hmagnitude)⟩
  · exact positional_iff_of_isFull ⟨by omega, hwidth, by omega, hmax⟩ hdigits

/-! ## Written doubles -/

/-- What stands before a negative number. -/
def signText (negative : Bool) : List Char :=
  if negative then ['-'] else []

/-- What is written of a double that is not zero. -/
theorem toList_write {x : Float} {value : Dyadic} (hx : shape x = .finite value)
    (hpos : 0 < value.significand) :
    (Layout.literal.write x).toList = signText value.negative
      ++ Layout.literal.writeDecimal (shortest .awayFromZero value) := by
  rw [Layout.write, hx, String.toList_ofList]
  simp only
  rw [if_neg hpos.ne']
  rfl

/-- The digits of a plain double other than zero are few, and they are read back. -/
theorem ofDecimal_of_positional {x : Float} {value : Dyadic} (hx : shape x = .finite value)
    (hpos : 0 < value.significand) (hlow : 10 ^ (-4 : Int) ≤ value.magnitude)
    (hhigh : value.magnitude < 10 ^ (16 : Int)) {n f : Nat}
    (hf : (f : Int) = max 1 (-(shortest .awayFromZero value).exponent))
    (hn : (n : ℚ) / 10 ^ f = (shortest .awayFromZero value).value) :
    ofDecimal value.negative ⟨n, -f⟩ = x := by
  obtain ⟨hwidth, hmax, hnormal⟩ := bounds_of_shape hx
  have hmin : ¬value.exponent < -1072 := fun hless =>
    absurd (small_of_exponent hpos hwidth hless .awayFromZero).1 (not_lt.2 hlow)
  have hfull : value.IsFull := ⟨by omega, hwidth, by omega, hmax⟩
  obtain ⟨hcovers, hexponent⟩ := covers_shortest .awayFromZero hfull
  have hdigits := digits_shortest_pos .awayFromZero hpos
  have hleading : -4 < value.leading + 1 :=
    (zpow_lt_zpow_iff_right₀ (by norm_num : (1 : ℚ) < 10)).1
      (lt_of_le_of_lt hlow (Dyadic.leading_bounds hpos).2)
  have hfew : f ≤ 20 := by omega
  have hvalue : 0 < (shortest .awayFromZero value).value := by
    rw [Decimal.value]
    positivity
  have hsmall : (shortest .awayFromZero value).value < 10 ^ (16 : Int) := by
    have hpower := ((positional_iff hx hpos).2 ⟨hlow, hhigh⟩).2
    rwa [← not_le, Decimal.le_power_iff hdigits, not_le] at hpower
  rw [← hn] at hvalue hsmall hcovers
  have hten : (0 : ℚ) < 10 ^ f := by positivity
  refine ofDecimal_eq hx hfull ?_ ?_ (by omega) (by omega) hcovers
  · rintro rfl
    rw [Nat.cast_zero, zero_div] at hvalue
    exact lt_irrefl 0 hvalue
  · rw [div_lt_iff₀ hten] at hsmall
    have hbound : (n : ℚ) < 10 ^ 200 := by
      calc (n : ℚ) < 10 ^ (16 : Int) * 10 ^ f := hsmall
        _ ≤ 10 ^ (16 : Int) * 10 ^ 20 := by gcongr; norm_num
        _ ≤ 10 ^ 200 := by norm_num
    exact_mod_cast hbound

/-- **A plain double is written with a point**, and the double of what is written is the double. -/
theorem write_of_isPlain {x : Float} (h : IsPlain x) :
    ∃ negative whole fraction, (Layout.literal.write x).toList
        = signText negative ++ (whole ++ '.' :: fraction)
      ∧ AreDigits whole fraction
      ∧ ofDecimal negative ⟨digitsValue (whole ++ fraction), -fraction.length⟩ = x := by
  obtain ⟨value, hx, hplain⟩ := h
  by_cases hzero : value.significand = 0
  · refine ⟨value.negative, ['0'], ['0'], ?_, ⟨by simp, by simp, List.all_eq_true.1 (by decide)⟩,
      ofDecimal_zero hx hzero 1⟩
    rw [Layout.write, hx, String.toList_ofList]
    simp only
    rw [if_pos hzero]
    rfl
  · have hpos : 0 < value.significand := Nat.pos_of_ne_zero hzero
    obtain ⟨hlow, hhigh⟩ := hplain.resolve_left hzero
    have hpower := (positional_iff hx hpos).2 ⟨hlow, hhigh⟩
    obtain ⟨whole, fraction, hwritten, hdenoted⟩ :=
      Layout.writeDecimal_of_positional hpower.1 hpower.2
    refine ⟨value.negative, whole, fraction, ?_, hdenoted.toAreDigits, ?_⟩
    · rw [toList_write hx hpos, hwritten]
    · exact ofDecimal_of_positional hx hpos hlow hhigh hdenoted.length_fraction hdenoted.value_eq

/-- **All other doubles** are written with an exponent, or as a word. -/
theorem write_of_not_isPlain {x : Float} (h : ¬IsPlain x) :
    (∃ negative whole fraction rest, (Layout.literal.write x).toList
        = signText negative ++ (whole ++ (if fraction.isEmpty then [] else '.' :: fraction)
          ++ 'e' :: rest)
      ∧ whole ≠ [] ∧ ∀ c ∈ whole ++ fraction, isAsciiDigit c = true)
    ∨ Layout.literal.write x ∈ ["inf", "-inf", "NaN"] := by
  cases hx : shape x with
  | notANumber =>
    right
    rw [Layout.write, hx]
    decide
  | infinite negative =>
    right
    rw [Layout.write, hx]
    cases negative <;> decide
  | finite value =>
    left
    have hplain : ¬(value.significand = 0
        ∨ 10 ^ (-4 : Int) ≤ value.magnitude ∧ value.magnitude < 10 ^ (16 : Int)) :=
      fun hplain => h ⟨value, hx, hplain⟩
    rw [not_or] at hplain
    have hpos : 0 < value.significand := Nat.pos_of_ne_zero hplain.1
    rw [← positional_iff hx hpos] at hplain
    obtain ⟨whole, fraction, rest, hwritten, hwhole, hdigits⟩ :=
      Layout.writeDecimal_of_exponent hplain.2
    exact ⟨value.negative, whole, fraction, rest, by rw [toList_write hx hpos, hwritten], hwhole,
      hdigits⟩

end Number
end ODataQuery
