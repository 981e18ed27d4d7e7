/-!
# Integers of 64 bits

Stored integers have 64 bits and a sign.  Arithmetic on them is done on the integers themselves, and
a result outside the range is no answer.

* `integer?` is the step back into the range; `integer?_eq_some_iff` says what it answers.
-/

set_option autoImplicit false

namespace ODataQuery
namespace Number

/-- The 64-bit integer of this value, if it is in the range. -/
def integer? (n : Int) : Option Int64 :=
  if Int64.minValue.toInt ≤ n ∧ n ≤ Int64.maxValue.toInt then some (Int64.ofInt n) else none

theorem toInt_ofInt_of_inRange {n : Int} (hlow : Int64.minValue.toInt ≤ n)
    (hhigh : n ≤ Int64.maxValue.toInt) : (Int64.ofInt n).toInt = n := by
  rw [Int64.toInt_minValue] at hlow
  rw [Int64.toInt_maxValue] at hhigh
  rw [Int64.toInt_ofInt]
  show n.bmod (2 ^ 64) = n
  rw [Int.bmod_def]
  split <;> omega

/-- A 64-bit integer stands for exactly the numbers in its range. -/
theorem integer?_eq_some_iff {n : Int} {i : Int64} : integer? n = some i ↔ i.toInt = n := by
  rw [integer?]
  constructor
  · intro h
    split at h
    · rename_i hrange
      cases h
      exact toInt_ofInt_of_inRange hrange.1 hrange.2
    · cases h
  · rintro rfl
    rw [if_pos ⟨i.minValue_le_toInt, i.toInt_le⟩, Int64.ofInt_toInt]

theorem integer?_toInt (i : Int64) : integer? i.toInt = some i :=
  integer?_eq_some_iff.2 rfl

theorem integer?_eq_none_iff {n : Int} :
    integer? n = none ↔ ¬(Int64.minValue.toInt ≤ n ∧ n ≤ Int64.maxValue.toInt) := by
  rw [integer?]
  split <;> simp_all

/-- The 64-bit natural number of this value, if it is in the range. -/
def natural? (n : Nat) : Option UInt64 :=
  if n < UInt64.size then some (UInt64.ofNat n) else none

/-- A 64-bit natural number stands for exactly the numbers in its range. -/
theorem natural?_eq_some_iff {n : Nat} {u : UInt64} : natural? n = some u ↔ u.toNat = n := by
  rw [natural?]
  constructor
  · intro h
    split at h
    · rename_i hrange
      cases h
      exact UInt64.toNat_ofNat_of_lt hrange
    · cases h
  · rintro rfl
    rw [if_pos u.toNat_lt, UInt64.ofNat_toNat]

end Number
end ODataQuery
