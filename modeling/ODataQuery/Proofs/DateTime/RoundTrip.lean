import Mathlib.Data.List.TakeWhile
import ODataQuery.Proofs.Number.Digits

/-!
# Written points of time are read back

A point of time is written with fields of fixed widths, only the year may be longer.  Reading takes
each field up to its width, or up to the mark that follows it.

* `DateTime.readNumber?_append`: a number is read up to its last digit.
* `DateTime.readYear?_yearText`, `readField?_padded`, `readFraction?_fractionText`: the fields.
* `DateTime.readFull?_writeWith`: all of what is written is read.
* `DateTime.readLiteral?_writeWith`, `readTimestamp?_text`: so the literal of a point of time is read
  as this point of time, and so is a point of time in stored data.
-/

set_option autoImplicit false

namespace ODataQuery
namespace DateTime

open Text

/-! ## Fields -/

/-- A number is read up to its last digit, if it has as many as may be read or no digit follows. -/
theorem readNumber?_append {most : Nat} {digits rest : List Char}
    (hdigits : ∀ c ∈ digits, isAsciiDigit c = true) (hsome : digits ≠ [])
    (hmost : digits.length ≤ most)
    (hstop : digits.length < most → ∀ c ∈ rest.head?, isAsciiDigit c = false) :
    readNumber? most (digits ++ rest) = some (digitsValue digits, rest) := by
  have hread : ((digits ++ rest).take most).takeWhile isAsciiDigit = digits := by
    rw [List.take_append, List.take_of_length_le hmost]
    refine takeWhile_append_of_stop hdigits fun c hc => ?_
    rw [List.head?_take] at hc
    split at hc
    · cases hc
    · exact hstop (by omega) c hc
  rw [readNumber?, hread, List.isEmpty_eq_false_iff.2 hsome, if_neg Bool.false_ne_true,
    List.drop_left]

/-- No blanks stand before digits. -/
theorem trimStart_digits {digits rest : List Char} (hdigits : ∀ c ∈ digits, isAsciiDigit c = true)
    (hsome : digits ≠ []) : trimStart (digits ++ rest) = digits ++ rest := by
  obtain ⟨c, digits, rfl⟩ := List.exists_cons_of_ne_nil hsome
  exact trimStart_of_not_isBlank (isBlank_of_isAsciiDigit (hdigits c List.mem_cons_self))

theorem readField?_padded {n : Nat} (hn : n < 100) (rest : List Char) :
    readField? (padded 2 n ++ rest) = some (n, rest) := by
  have hlength : (padded 2 n).length = 2 := length_padded (by decide) hn
  rw [readField?, trimStart_digits (fun _ => isAsciiDigit_of_mem_padded) (padded_ne_nil 2 n),
    readNumber?_append (fun _ => isAsciiDigit_of_mem_padded) (padded_ne_nil 2 n) (by omega)
      (by omega),
    digitsValue_padded]

/-- The number of a year is read up to the mark after it, if it may have as many digits. -/
theorem readNumber?_year {most n : Nat} (hmost : (padded 4 n).length ≤ most)
    (rest : List Char) :
    readNumber? most (padded 4 n ++ '-' :: rest) = some (n, '-' :: rest) := by
  rw [readNumber?_append (fun _ => isAsciiDigit_of_mem_padded) (padded_ne_nil 4 n) hmost,
    digitsValue_padded]
  rintro - c ⟨⟩
  decide

/-- **A year is read back**, whether it is written with a sign or without. -/
theorem readYear?_yearText (year : Int) (rest : List Char) :
    readYear? (yearText year ++ '-' :: rest) = some (year, '-' :: rest) := by
  rw [yearText]
  split
  · rename_i hrange
    have hlength : (padded 4 year.toNat).length = 4 := length_padded (by decide) (by omega)
    obtain ⟨c, digits, hdigits⟩ := List.exists_cons_of_ne_nil (padded_ne_nil 4 year.toNat)
    have hc : isAsciiDigit c = true :=
      isAsciiDigit_of_mem_padded (hdigits ▸ List.mem_cons_self : c ∈ padded 4 year.toNat)
    have hnumber := readNumber?_year (Nat.le_of_eq hlength) rest
    rw [readYear?, trimStart_digits (fun _ => isAsciiDigit_of_mem_padded) (padded_ne_nil 4 _)]
    split
    · rename_i heq
      rw [hdigits] at heq
      cases heq
      cases hc
    · rename_i heq
      rw [hdigits] at heq
      cases heq
      cases hc
    · rw [hnumber]
      show some ((year.toNat : Int), '-' :: rest) = some (year, '-' :: rest)
      rw [Int.toNat_of_nonneg hrange.1]
  · rename_i hrange
    have hlength : (padded 4 year.natAbs).length ≤ (padded 4 year.natAbs ++ '-' :: rest).length := by
      rw [List.length_append]
      exact Nat.le_add_right _ _
    by_cases hnegative : year < 0
    · rw [if_pos hnegative, List.cons_append, readYear?, trimStart_of_not_isBlank (by decide)]
      have habs : -(year.natAbs : Int) = year := by omega
      show (readNumber? _ _).map _ = _
      rw [readNumber?_year hlength]
      show some (-(year.natAbs : Int), '-' :: rest) = some (year, '-' :: rest)
      rw [habs]
    · rw [if_neg hnegative, List.cons_append, readYear?, trimStart_of_not_isBlank (by decide)]
      have habs : (year.natAbs : Int) = year := by omega
      show (readNumber? _ _).map _ = _
      rw [readNumber?_year hlength]
      show some ((year.natAbs : Int), '-' :: rest) = some (year, '-' :: rest)
      rw [habs]

/-- The digits of a fraction count the parts that they are of a second. -/
theorem readFraction?_padded {width n : Nat} (hwidth : 0 < width) (hnine : width ≤ 9)
    (hn : n < 10 ^ width) :
    readFraction? ('.' :: padded width n) = some (n * Nat.pow 10 (9 - width), []) := by
  have hlength : (padded width n).length = width := length_padded hwidth hn
  have hdigits : (padded width n).takeWhile isAsciiDigit = padded width n :=
    List.takeWhile_eq_self_iff.2 fun _ => isAsciiDigit_of_mem_padded
  have hkept : (padded width n).take 9 = padded width n :=
    List.take_of_length_le (by omega)
  rw [readFraction?, hdigits, List.isEmpty_eq_false_iff.2 (padded_ne_nil width n),
    if_neg Bool.false_ne_true, hkept, List.drop_length]
  dsimp only
  rw [digitsValue_padded, hlength]

/-- **A fraction of a second is read back**, however many digits it is written with. -/
theorem readFraction?_fractionText {nanosecond : Nat} (h : nanosecond < 1000000000) :
    readFraction? (fractionText nanosecond) = some (nanosecond, []) := by
  rw [fractionText]
  split
  · rename_i hzero
    rw [hzero]
    rfl
  split
  · rename_i hmillis
    rw [readFraction?_padded (by decide) (by decide) (by omega)]
    congr 2
    show nanosecond / 1000000 * 1000000 = nanosecond
    omega
  split
  · rename_i hmicros
    rw [readFraction?_padded (by decide) (by decide) (by omega)]
    congr 2
    show nanosecond / 1000 * 1000 = nanosecond
    omega
  · rw [readFraction?_padded (by decide) (by decide) (by omega)]
    congr 2
    exact Nat.mul_one nanosecond

/-! ## The whole -/

/-- A mark that is no blank is read, whether blanks may stand before it or not. -/
theorem readMark?_cons {mark : Char} (hmark : isBlank mark = false) (blanks : Bool)
    (rest : List Char) : readMark? blanks mark (mark :: rest) = some rest := by
  cases blanks <;> simp [readMark?, trimStart_of_not_isBlank hmark]

theorem day_lt (t : DateTime) : t.month < 100 ∧ t.day < 100 := by
  have hdate := t.isDate
  simp only [Calendar.isDate, Bool.and_eq_true, decide_eq_true_eq] at hdate
  obtain ⟨⟨⟨⟨-, -⟩, hmonth⟩, -⟩, hday⟩ := hdate
  have hdays : Calendar.daysInMonth t.year t.month ≤ 31 := by
    rw [Calendar.daysInMonth]
    split_ifs <;> omega
  omega

theorem time_lt (t : DateTime) :
    t.hour < 100 ∧ t.minute < 100 ∧ t.second < 100 ∧ t.nanosecond < 1000000000 := by
  have htime := t.isTime
  simp only [Calendar.isTime, Bool.and_eq_true, decide_eq_true_eq] at htime
  omega

/-- What is written is read to its end, whether blanks may stand before the marks or not. -/
theorem readFull?_writeWith (blanks : Bool) (t : DateTime) :
    readFull? blanks (t.writeWith 'T') = some (t, []) := by
  obtain ⟨hmonth, hday⟩ := t.day_lt
  obtain ⟨hhour, hminute, hsecond, hnanosecond⟩ := t.time_lt
  have hdash : isBlank '-' = false := by decide
  have hcolon : isBlank ':' = false := by decide
  have htime : isBlank 'T' = false := by decide
  simp only [readFull?, readDate?, readClock?, readSeconds?, writeWith, List.append_assoc,
    List.cons_append, readYear?_yearText, readField?_padded, readFraction?_fractionText,
    readMark?_cons, ofFields?_fields, hmonth, hday, hhour, hminute, hsecond, hnanosecond,
    hdash, hcolon, htime, Option.bind_eq_bind, Option.bind_some]

/-- **The literal of a point of time is read as this point of time.** -/
theorem readLiteral?_writeWith (t : DateTime) : readLiteral? (t.writeWith 'T') = some t := by
  rw [readLiteral?, readFull?_writeWith]
  rfl

/-- **A point of time in stored data is read back.** -/
theorem readTimestamp?_text (t : DateTime) : readTimestamp? t.text = some t := by
  rw [readTimestamp?, text, String.toList_ofList, readFull?_writeWith]
  rfl

end DateTime
end ODataQuery
