import ODataQuery.Proofs.Number.Digits
import ODataQuery.Proofs.Number.Rounding

/-!
# The shortest digits of a double read back

The shortest digits are looked for on decimal grids that become finer and finer, among the two
neighbours of the double on each.  On the finest grid the points are closer to each other than the
interval of the double is wide, so the search ends with a decimal that the double covers.

* `Dyadic.magnitude`, `Decimal.value`: the numbers that they stand for.
* `Scale.hits_iff`: the test of a grid point is whether the double covers it.
* `Number.leadingExponent_bounds`: the power of ten of the first digit.
* `Number.exists_nearest?_of_fine`: on a grid that is fine enough, the double covers a neighbour.
* `Number.covers_shortest`: seventeen digits are always enough, so a double covers its shortest
  decimal.
-/

set_option autoImplicit false

namespace ODataQuery
namespace Number

/-- The number without its sign. -/
def Dyadic.magnitude (x : Dyadic) : ℚ :=
  x.significand * 2 ^ x.exponent

/-- The number that the digits denote. -/
def Decimal.value (x : Decimal) : ℚ :=
  x.digits * 10 ^ x.exponent

/-! ## Grids -/

namespace Scale

theorem quarter_pos (binary decimal : Int) : 0 < (ofExponents binary decimal).quarter := by
  show 0 < 10 ^ (-decimal).toNat <<< (binary - 2).toNat
  rw [Nat.shiftLeft_eq]
  positivity

/-- How many quarters of the binary unit a step of the grid has. -/
theorem grid_eq (binary decimal : Int) :
    ((ofExponents binary decimal).grid : ℚ)
      = (ofExponents binary decimal).quarter * (10 ^ decimal * 2 ^ (2 - binary)) := by
  show ((10 ^ decimal.toNat <<< (2 - binary).toNat : Nat) : ℚ)
    = (10 ^ (-decimal).toNat <<< (binary - 2).toNat : Nat) * _
  have hten := zpow_mul_pow_toNat_neg (by norm_num : (10 : ℚ) ≠ 0) decimal
  have htwo := zpow_mul_pow_toNat_neg (by norm_num : (2 : ℚ) ≠ 0) (2 - binary)
  rw [neg_sub] at htwo
  rw [Nat.shiftLeft_eq, Nat.shiftLeft_eq]
  push_cast
  rw [← hten, ← htwo]
  ring

/-- **A grid point is a hit exactly if the double covers it.** -/
theorem hits_iff (x : Dyadic) (decimal : Int) (point : Nat) :
    (ofExponents x.exponent decimal).hits (Interval.ofDyadic x) point = true
      ↔ x.Covers (point * 10 ^ decimal) := by
  have hquarter : (0 : ℚ) < (ofExponents x.exponent decimal).quarter := by
    exact_mod_cast quarter_pos x.exponent decimal
  have hplace : ((point * (ofExponents x.exponent decimal).grid : Nat) : ℚ)
      = point * 10 ^ decimal * 2 ^ (2 - x.exponent) * (ofExponents x.exponent decimal).quarter := by
    push_cast
    rw [grid_eq]
    ring
  have hle (n : Nat) : n * (ofExponents x.exponent decimal).quarter
      ≤ point * (ofExponents x.exponent decimal).grid
        ↔ (n : ℚ) ≤ point * 10 ^ decimal * 2 ^ (2 - x.exponent) := by
    rw [← Nat.cast_le (α := ℚ), hplace, Nat.cast_mul]
    exact mul_le_mul_iff_of_pos_right hquarter
  have hge (n : Nat) : point * (ofExponents x.exponent decimal).grid
      ≤ n * (ofExponents x.exponent decimal).quarter
        ↔ point * 10 ^ decimal * 2 ^ (2 - x.exponent) ≤ (n : ℚ) := by
    rw [← Nat.cast_le (α := ℚ), hplace, Nat.cast_mul]
    exact mul_le_mul_iff_of_pos_right hquarter
  rw [hits, Dyadic.Covers, Interval.Contains]
  split
  · rw [Bool.and_eq_true, decide_eq_true_eq, decide_eq_true_eq, hle, hge]
  · rw [Bool.and_eq_true, decide_eq_true_eq, decide_eq_true_eq, ← not_le, hge, ← not_le, hle,
      not_le, not_le]

/-- What is taken of two neighbours is a hit. -/
theorem hits_of_nearest? {scale : Scale} {interval : Interval} {tie : Tie} {point : Nat}
    (h : scale.nearest? interval tie = some point) : scale.hits interval point = true := by
  rw [nearest?] at h
  simp only at h
  split at h
  · rename_i hbelow habove
    split at h
    · cases h
      exact hbelow
    split at h
    · cases h
      exact habove
    · cases h
      cases tie with
      | toEven =>
        rw [Tie.choose]
        split
        · exact hbelow
        · exact habove
      | awayFromZero => exact habove
  · rename_i hbelow _
    cases h
    exact hbelow
  · rename_i _ habove
    cases h
    exact habove
  · cases h

/-- One of the two neighbours is taken, if one of them is a hit. -/
theorem exists_nearest? {scale : Scale} {interval : Interval} (tie : Tie)
    (h : scale.hits interval (interval.value * scale.quarter / scale.grid) = true
      ∨ scale.hits interval (interval.value * scale.quarter / scale.grid + 1) = true) :
    ∃ point, scale.nearest? interval tie = some point := by
  rw [nearest?]
  simp only
  split
  · split
    · exact ⟨_, rfl⟩
    split
    · exact ⟨_, rfl⟩
    · exact ⟨_, rfl⟩
  · exact ⟨_, rfl⟩
  · exact ⟨_, rfl⟩
  · rename_i hbelow habove
    rw [hbelow, habove] at h
    rcases h with h | h <;> cases h

end Scale

/-! ## The finest grid -/

/-- In quarters of a unit, a double lies between the two neighbours on the grid. -/
theorem neighbours (x : Dyadic) (decimal : Int) :
    let scale := Scale.ofExponents x.exponent decimal
    let below := (Interval.ofDyadic x).value * scale.quarter / scale.grid
    let step : ℚ := 10 ^ decimal * 2 ^ (2 - x.exponent)
    below * step ≤ 4 * x.significand ∧ 4 * x.significand < (below + 1) * step := by
  intro scale below step
  have hquarter : (0 : ℚ) < scale.quarter := by
    exact_mod_cast Scale.quarter_pos x.exponent decimal
  have hgrid : (scale.grid : ℚ) = scale.quarter * step := Scale.grid_eq x.exponent decimal
  have hgridPos : 0 < scale.grid := by
    have hpos : (0 : ℚ) < scale.grid := by
      rw [hgrid]
      positivity
    exact_mod_cast hpos
  have hlow : (below : ℚ) * scale.grid ≤ 4 * x.significand * scale.quarter := by
    exact_mod_cast Nat.div_mul_le_self (4 * x.significand * scale.quarter) scale.grid
  have hhigh : (4 * x.significand * scale.quarter : ℚ) < (below + 1) * scale.grid := by
    exact_mod_cast Nat.lt_mul_of_div_lt (Nat.lt_succ_self below) hgridPos
  have hbelow (a : ℚ) : a * scale.grid = a * step * scale.quarter := by
    rw [hgrid]
    ring
  rw [hbelow] at hlow hhigh
  exact ⟨le_of_mul_le_mul_right hlow hquarter, lt_of_mul_lt_mul_right hhigh hquarter.le⟩

/-- On a grid that is fine enough, a neighbour of the double is covered. -/
theorem exists_nearest?_of_fine {x : Dyadic} (hpos : 0 < x.significand) (tie : Tie) {decimal : Int}
    (hfine : (10 : ℚ) ^ decimal * 2 ^ (2 - x.exponent)
      < if x.significand = hiddenBit ∧ x.exponent ≠ -1074 then 2 else 4) :
    ∃ point, (Scale.ofExponents x.exponent decimal).nearest? (Interval.ofDyadic x) tie
      = some point := by
  obtain ⟨hbelow, habove⟩ := neighbours x decimal
  refine Scale.exists_nearest? tie ?_
  rw [Scale.hits_iff, Scale.hits_iff]
  generalize (Interval.ofDyadic x).value * (Scale.ofExponents x.exponent decimal).quarter
    / (Scale.ofExponents x.exponent decimal).grid = below at hbelow habove ⊢
  have hcovers (point : Nat)
      (hlow : 4 * x.significand - (if x.significand = hiddenBit ∧ x.exponent ≠ -1074 then 1 else 2)
        < point * ((10 : ℚ) ^ decimal * 2 ^ (2 - x.exponent)))
      (hhigh : point * ((10 : ℚ) ^ decimal * 2 ^ (2 - x.exponent)) < 4 * x.significand + 2) :
      x.Covers (point * 10 ^ decimal) := by
    rw [← mul_assoc] at hlow hhigh
    exact Dyadic.covers_of_near hpos hlow hhigh
  have habove' := hcovers (below + 1)
  push_cast at habove' ⊢
  split_ifs at hfine habove' with hleast
  · exact .inr (habove' (by linarith) (by linarith))
  · by_cases hnear : 4 * (x.significand : ℚ) - 2 < below * (10 ^ decimal * 2 ^ (2 - x.exponent))
    · refine .inl (hcovers below ?_ (by linarith))
      rwa [if_neg hleast]
    · exact .inr (habove' (by linarith) (by linarith))

/-! ## The first digit -/

/-- How many digits a natural number has. -/
theorem digitCount_bounds {n : Nat} (hn : 0 < n) :
    0 < digitCount n ∧ 10 ^ (digitCount n - 1) ≤ n ∧ n < 10 ^ digitCount n := by
  have hpos : 0 < digitCount n := Nat.length_toDigits_pos
  refine ⟨hpos, ?_, (Nat.length_toDigits_le_iff (by decide) hpos).1 le_rfl⟩
  by_cases hone : digitCount n = 1
  · rw [hone]
    exact hn
  · by_contra hless
    have hfewer : digitCount n ≤ digitCount n - 1 :=
      (Nat.length_toDigits_le_iff (by decide) (by omega)).2 (not_le.1 hless)
    omega

/-- The power of ten of the first digit of a quotient that is not less than one. -/
theorem digitCount_quotient_bounds {num den : Nat} (hden : 0 < den) (hlarge : den ≤ num) :
    (10 : ℚ) ^ ((digitCount (num / den) : Int) - 1) ≤ num / den
      ∧ (num : ℚ) / den < 10 ^ ((digitCount (num / den) : Int) - 1 + 1) := by
  have hdenPos : (0 : ℚ) < den := by exact_mod_cast hden
  obtain ⟨hpos, hlow, hhigh⟩ := digitCount_bounds (Nat.div_pos hlarge hden)
  generalize digitCount (num / den) = count at hpos hlow hhigh ⊢
  rw [Nat.le_div_iff_mul_le hden] at hlow
  rw [Nat.div_lt_iff_lt_mul hden] at hhigh
  have hexponent : (count : Int) - 1 = (count - 1 : Nat) := by omega
  rw [sub_add_cancel, hexponent, zpow_natCast, zpow_natCast, le_div_iff₀ hdenPos,
    div_lt_iff₀ hdenPos]
  exact ⟨by exact_mod_cast hlow, by exact_mod_cast hhigh⟩

/-- The power of ten of the first digit of a quotient that is less than one, from the number of
digits of what is left of its inverse. -/
theorem digitCount_inverse_bounds {num den : Nat} (hnum : 0 < num) (hsmall : num < den) :
    (10 : ℚ) ^ (-(digitCount ((den + num - 1) / num - 1) : Int)) ≤ num / den
      ∧ (num : ℚ) / den < 10 ^ (-(digitCount ((den + num - 1) / num - 1) : Int) + 1) := by
  have hnumPos : (0 : ℚ) < num := by exact_mod_cast hnum
  have hdenPos : (0 : ℚ) < den := by exact_mod_cast Nat.zero_lt_of_lt hsmall
  generalize hquotient : (den + num - 1) / num = quotient
  -- the quotient is rounded up, so that it is greater than one
  have hmul : quotient * num ≤ den + num - 1 := by
    rw [← hquotient]
    exact Nat.div_mul_le_self _ _
  have hlt : den + num - 1 < (quotient + 1) * num :=
    Nat.lt_mul_of_div_lt (by omega) hnum
  have hgreater : 1 < quotient := by
    rw [← hquotient]
    exact (Nat.le_div_iff_mul_le hnum).2 (by omega)
  obtain ⟨hpos, hlow, hhigh⟩ := digitCount_bounds (by omega : 0 < quotient - 1)
  generalize digitCount (quotient - 1) = count at hpos hlow hhigh ⊢
  have hexponent : -(count : Int) + 1 = -((count - 1 : Nat) : Int) := by omega
  rw [hexponent, zpow_neg, zpow_natCast, zpow_neg, zpow_natCast]
  refine ⟨?_, ?_⟩
  · have hden : den ≤ 10 ^ count * num := by
      have hround : quotient * num ≤ 10 ^ count * num := Nat.mul_le_mul_right _ (by omega)
      rw [Nat.add_mul] at hlt
      omega
    rw [inv_le_comm₀ (by positivity) (by positivity), inv_div, div_le_iff₀ hnumPos]
    exact_mod_cast hden
  · have hden : 10 ^ (count - 1) * num < den := by
      have hround : 10 ^ (count - 1) * num ≤ (quotient - 1) * num := Nat.mul_le_mul_right _ hlow
      rw [Nat.sub_mul] at hround
      omega
    rw [lt_inv_comm₀ (by positivity) (by positivity), inv_div, lt_div_iff₀ hnumPos]
    exact_mod_cast hden

/-- **The power of ten of the first digit** of a quotient. -/
theorem leadingExponent_bounds {num den : Nat} (hnum : 0 < num) (hden : 0 < den) :
    (10 : ℚ) ^ leadingExponent num den ≤ num / den
      ∧ (num : ℚ) / den < 10 ^ (leadingExponent num den + 1) := by
  rw [leadingExponent]
  split
  · exact digitCount_quotient_bounds hden ‹den ≤ num›
  · exact digitCount_inverse_bounds hnum (Nat.lt_of_not_le ‹¬den ≤ num›)

/-- The power of ten of the first digit of a double. -/
def Dyadic.leading (x : Dyadic) : Int :=
  leadingExponent (x.significand <<< x.exponent.toNat) (1 <<< (-x.exponent).toNat)

theorem Dyadic.leading_bounds {x : Dyadic} (hpos : 0 < x.significand) :
    (10 : ℚ) ^ x.leading ≤ x.magnitude ∧ x.magnitude < 10 ^ (x.leading + 1) := by
  have hquotient : ((x.significand <<< x.exponent.toNat : Nat) : ℚ)
      / (1 <<< (-x.exponent).toNat : Nat) = x.magnitude := by
    rw [Nat.shiftLeft_eq, Nat.shiftLeft_eq, Nat.one_mul, Dyadic.magnitude]
    push_cast
    rw [div_eq_iff (by positivity), mul_assoc, zpow_mul_pow_toNat_neg two_ne_zero]
  rw [← hquotient]
  refine leadingExponent_bounds ?_ ?_
  · rw [Nat.shiftLeft_eq]
    positivity
  · rw [Nat.shiftLeft_eq]
    positivity

/-! ## The search -/

/-- Trailing zeros do not count. -/
theorem Decimal.value_strip (count : Nat) (x : Decimal) : (x.strip count).value = x.value := by
  induction count generalizing x with
  | zero => rfl
  | succ count ih =>
    rw [strip]
    split
    · rename_i hzero
      have hdigits : (x.digits : ℚ) = (x.digits / 10 : Nat) * 10 := by
        exact_mod_cast (Nat.div_mul_cancel (Nat.dvd_of_mod_eq_zero hzero.1)).symm
      rw [ih, value, value, hdigits, zpow_add_one₀ (by norm_num)]
      ring
    · rfl

theorem Decimal.exponent_le_strip (count : Nat) (x : Decimal) :
    x.exponent ≤ (x.strip count).exponent := by
  induction count generalizing x with
  | zero => exact le_rfl
  | succ count ih =>
    rw [strip]
    split
    · exact le_trans (show x.exponent ≤ x.exponent + 1 by omega) (ih _)
    · exact le_rfl

/-- The search ends with a decimal that the double covers, or without one. -/
theorem covers_shortest_or (tie : Tie) (x : Dyadic) :
    (x.Covers (shortest tie x).value ∧ x.leading - 16 ≤ (shortest tie x).exponent)
      ∨ (shortest tie x = ⟨x.significand, x.exponent⟩
        ∧ (Scale.ofExponents x.exponent (x.leading - 16)).nearest? (Interval.ofDyadic x) tie
          = none) := by
  rw [shortest]
  simp only
  split
  · rename_i decimal hfound
    left
    obtain ⟨count, hcount, hnearest⟩ := List.exists_of_findSome?_eq_some hfound
    obtain ⟨digits, hdigits, rfl⟩ := Option.map_eq_some_iff.1 hnearest
    rw [List.mem_range] at hcount
    refine ⟨?_, ?_⟩
    · rw [Decimal.value_strip]
      exact (Scale.hits_iff _ _ _).1 (Scale.hits_of_nearest? hdigits)
    · exact le_trans (by show x.leading - 16 ≤ x.leading - count; omega)
        (Decimal.exponent_le_strip 20 _)
  · rename_i hnone
    right
    have hlast := List.findSome?_eq_none_iff.1 hnone 16 (by decide)
    exact ⟨rfl, Option.map_eq_none_iff.1 hlast⟩

/-- **Seventeen digits are always enough**: a double covers its shortest decimal. -/
theorem covers_shortest (tie : Tie) {x : Dyadic} (hx : x.IsFull) :
    x.Covers (shortest tie x).value ∧ x.leading - 16 ≤ (shortest tie x).exponent := by
  refine (covers_shortest_or tie x).resolve_right fun hnone => ?_
  have hstep : (10 : ℚ) ^ (x.leading - 16) * 2 ^ (2 - x.exponent)
      ≤ 4 * x.significand / 10 ^ 16 := by
    have hten : (10 : ℚ) ^ (x.leading - 16) = 10 ^ x.leading / 10 ^ 16 := by
      rw [zpow_sub₀ (by norm_num), zpow_ofNat]
    rw [hten, div_mul_eq_mul_div, ← x.in_quarters]
    gcongr
    exact (Dyadic.leading_bounds hx.pos).1
  have hfine : (10 : ℚ) ^ (x.leading - 16) * 2 ^ (2 - x.exponent)
      < if x.significand = hiddenBit ∧ x.exponent ≠ -1074 then 2 else 4 := by
    refine lt_of_le_of_lt hstep ?_
    split_ifs with hleast
    · have hleast : (x.significand : ℚ) = 2 ^ 52 := by exact_mod_cast hleast.1
      rw [hleast]
      norm_num
    · have hhigh : (x.significand : ℚ) < 2 ^ 53 := by exact_mod_cast hx.high
      rw [div_lt_iff₀ (by positivity)]
      linarith
  obtain ⟨point, hpoint⟩ := exists_nearest?_of_fine hx.pos tie hfine
  rw [hnone.2] at hpoint
  cases hpoint

end Number
end ODataQuery
