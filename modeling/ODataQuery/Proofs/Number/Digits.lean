import Mathlib.Algebra.Group.Nat.Defs
import Mathlib.Data.List.Basic
import ODataQuery.DateTime.Text

/-!
# Written digits

Numbers are written with the ten digits, and reading the digits gives the number back, however many
zeros stand before them.

* `Text.digitsValue_toDigits`: reading undoes writing.
* `Text.toList_toString`: the digits of an integer, after its sign.
* `Text.takeWhile_append_of_stop`: a reader of digits stops where they end.
* `DateTime.length_padded`, `DateTime.digitsValue_padded`: a field has its width and its value.
-/

set_option autoImplicit false

namespace ODataQuery
namespace Text

/-! ## Where a reader stops -/

/-- The characters at the start of a text that pass a test end before the first that fails it. -/
theorem takeWhile_append_of_stop {test : Char → Bool} {text rest : List Char}
    (htext : ∀ c ∈ text, test c = true) (hrest : ∀ c ∈ rest.head?, test c = false) :
    (text ++ rest).takeWhile test = text := by
  have hnone : rest.takeWhile test = [] := by
    cases rest with
    | nil => rfl
    | cons c rest => rw [List.takeWhile_cons, hrest c rfl, if_neg Bool.false_ne_true]
  rw [List.takeWhile_append_of_pos htext, hnone, List.append_nil]

theorem dropWhile_append_of_stop {test : Char → Bool} {text rest : List Char}
    (htext : ∀ c ∈ text, test c = true) (hrest : ∀ c ∈ rest.head?, test c = false) :
    (text ++ rest).dropWhile test = rest := by
  rw [List.dropWhile_append_of_pos htext]
  cases rest with
  | nil => rfl
  | cons c rest => rw [List.dropWhile_cons, hrest c rfl, if_neg Bool.false_ne_true]

/-! ## Digits -/

theorem isAsciiDigit_of_isDigit {c : Char} (h : c.isDigit = true) : isAsciiDigit c = true := by
  rw [Char.isDigit, Bool.and_eq_true, decide_eq_true_eq, decide_eq_true_eq] at h
  rw [isAsciiDigit, Bool.and_eq_true, decide_eq_true_eq, decide_eq_true_eq]
  exact h

theorem isAsciiDigit_of_mem_toDigits {c : Char} {n : Nat} (h : c ∈ Nat.toDigits 10 n) :
    isAsciiDigit c = true :=
  isAsciiDigit_of_isDigit (Nat.isDigit_of_mem_toDigits (by decide) (by decide) h)

theorem digitsValue_eq (digits : List Char) : digitsValue digits = Nat.ofDigitChars 10 digits 0 :=
  Nat.ofDigitChars_eq_foldl.symm

/-- **Reading the digits of a number gives the number.** -/
theorem digitsValue_toDigits (n : Nat) : digitsValue (Nat.toDigits 10 n) = n := by
  rw [digitsValue_eq, Nat.ofDigitChars_ten_toDigits]

/-- Zeros before the digits do not count. -/
theorem digitsValue_zeros (count : Nat) (digits : List Char) :
    digitsValue (List.replicate count '0' ++ digits) = digitsValue digits := by
  rw [digitsValue_eq, digitsValue_eq, Nat.ofDigitChars_append, Nat.ofDigitChars_replicate_zero,
    Nat.mul_zero]

/-- An integer is written with its digits, after a sign if it is negative. -/
theorem toList_toString (n : Int) :
    (toString n).toList = (if n < 0 then ['-'] else []) ++ Nat.toDigits 10 n.natAbs := by
  rw [Int.toString_eq_repr, Int.repr_eq_if]
  by_cases hnegative : n < 0
  · have habs : (-n).toNat = n.natAbs := by omega
    rw [if_neg (by omega), if_pos hnegative, String.toList_append, Nat.repr_eq_ofList_toDigits,
      habs]
    show ['-'] ++ (String.ofList (Nat.toDigits 10 n.natAbs)).toList = _
    rw [String.toList_ofList]
  · have habs : n.toNat = n.natAbs := by omega
    rw [if_pos (by omega), if_neg hnegative, Nat.repr_eq_ofList_toDigits, String.toList_ofList,
      habs, List.nil_append]

/-- A digit is no blank. -/
theorem isBlank_of_isAsciiDigit {c : Char} (h : isAsciiDigit c = true) : isBlank c = false := by
  rw [isAsciiDigit, Bool.and_eq_true, decide_eq_true_eq, decide_eq_true_eq] at h
  have hlow : 48 ≤ c.toNat := h.1
  have hhigh : c.toNat ≤ 57 := h.2
  simp only [isBlank, Bool.or_eq_false_iff, Bool.and_eq_false_iff, decide_eq_false_iff_not,
    beq_eq_false_iff_ne]
  omega

end Text

namespace DateTime

open Text

/-! ## Fields of a width -/

theorem isAsciiDigit_of_mem_padded {width n : Nat} {c : Char} (h : c ∈ padded width n) :
    isAsciiDigit c = true := by
  rcases List.mem_append.1 h with hzero | hdigit
  · rw [List.eq_of_mem_replicate hzero]
    decide
  · exact isAsciiDigit_of_mem_toDigits hdigit

theorem padded_ne_nil (width n : Nat) : padded width n ≠ [] := by
  rw [padded]
  exact List.append_ne_nil_of_right_ne_nil _ Nat.toDigits_ne_nil

/-- The digits of a field have the value of the field. -/
theorem digitsValue_padded (width n : Nat) : digitsValue (padded width n) = n := by
  rw [padded, digitsValue_zeros, digitsValue_toDigits]

/-- A field that fits its width has exactly this width. -/
theorem length_padded {width n : Nat} (hwidth : 0 < width) (hn : n < 10 ^ width) :
    (padded width n).length = width := by
  have hdigits : (Nat.toDigits 10 n).length ≤ width :=
    (Nat.length_toDigits_le_iff (by decide) hwidth).2 hn
  rw [padded, List.length_append, List.length_replicate, Nat.sub_add_cancel hdigits]

end DateTime
end ODataQuery
