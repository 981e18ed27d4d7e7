import ODataQuery.Proofs.Number.Written
import ODataQuery.Proofs.QueryString.Lexemes

/-!
# Written doubles as tokens

The literal of a double that is written with a point is read back.  What is written with an exponent
is no number in the filter language, which has no exponents, and what is written as a word is a word
or no token at all.

* `Lexer.number_of_fraction`, `Lexer.isSpelling_decimal`: digits with a point are read to their end.
* `Lexer.number_of_exponent`, `Lexer.tokenize_write_ne`: the literals of other doubles are not read
  back.
-/

set_option autoImplicit false

namespace ODataQuery
namespace Lexer

open Text
open Number (AreDigits IsPlain signText)

/-! ## Digits with a point -/

theorem point_not_digit (rest : List Char) : ∀ c ∈ ('.' :: rest).head?, isAsciiDigit c = false := by
  rintro _ ⟨⟩
  decide

/-- **A decimal is read up to its end**, as the double of its digits. -/
theorem number_of_fraction (negative : Bool) {whole fraction rest : List Char}
    (hdigits : AreDigits whole fraction) (hrest : Ends rest) :
    number negative (whole ++ '.' :: (fraction ++ rest))
      = .ok (.decimal
            (Number.ofDecimal negative ⟨digitsValue (whole ++ fraction), -fraction.length⟩),
          (signText negative ++ (whole ++ '.' :: fraction)).length) := by
  obtain ⟨hwhole, hfraction⟩ := List.forall_mem_append.1 hdigits.isAsciiDigit
  have hread := takeWhile_append_of_stop hwhole (point_not_digit (fraction ++ rest))
  have hleft := dropWhile_append_of_stop hwhole (point_not_digit (fraction ++ rest))
  have hfractionRead : fractionDigits ('.' :: (fraction ++ rest)) = fraction :=
    takeWhile_append_of_stop hfraction hrest.isAsciiDigit_eq_false
  have hafter : ('.' :: (fraction ++ rest)).drop (fraction.length + 1) = rest := by
    rw [List.drop_succ_cons, List.drop_left]
  have hend : (rest.head?.map isNamePart).getD false = false := by
    cases rest with
    | nil => rfl
    | cons c rest => exact (hrest c rfl).1
  have hsome : fraction.isEmpty = false := List.isEmpty_eq_false_iff.2 hdigits.fraction_ne_nil
  simp only [number, hread, hleft, hfractionRead, hsome, hafter, suffix_of_ends _ hrest, hend,
    Bool.false_eq_true, if_true, if_false, Bool.not_false, or_true]
  rw [signText, List.append_assoc]
  rfl

/-- **The literal of a plain double is read back.** -/
theorem isSpelling_decimal {x : Float} (hx : IsPlain x) :
    IsSpelling (Number.Layout.literal.write x).toList (.decimal x) := by
  obtain ⟨negative, whole, fraction, hwritten, hdigits, hvalue⟩ := Number.write_of_isPlain hx
  obtain ⟨c, more, rfl⟩ := List.exists_cons_of_ne_nil hdigits.whole_ne_nil
  have hc : isAsciiDigit c = true := hdigits.isAsciiDigit c (by simp)
  have hread {rest : List Char} (hrest : Ends rest) := number_of_fraction negative hdigits hrest
  rw [hvalue] at hread
  rw [hwritten]
  cases negative with
  | false =>
    refine ⟨c, more ++ '.' :: fraction, rfl, isBlank_of_isAsciiDigit hc, fun rest hrest => ?_⟩
    rw [List.append_assoc, List.cons_append, lexeme_of_isAsciiDigit hc]
    exact hread hrest
  | true =>
    refine ⟨'-', c :: more ++ '.' :: fraction, rfl, by decide, fun rest hrest => ?_⟩
    rw [List.append_assoc, List.cons_append, List.cons_append, lexeme_minus hc]
    exact hread hrest

/-! ## Digits with an exponent -/

/-- **A number cannot have an exponent.** -/
theorem number_of_exponent (negative : Bool) {whole fraction : List Char} (rest : List Char)
    (hdigits : ∀ c ∈ whole ++ fraction, isAsciiDigit c = true) :
    ∃ defect, number negative
        (whole ++ (if fraction.isEmpty then [] else '.' :: fraction) ++ 'e' :: rest)
      = .error defect := by
  obtain ⟨hwhole, hfraction⟩ := List.forall_mem_append.1 hdigits
  have hletter : ∀ c ∈ ('e' :: rest).head?, isAsciiDigit c = false := by
    rintro _ ⟨⟩
    decide
  have hpart : isNamePart 'e' = true := by decide
  have hsuffix (hasFraction : Bool) : suffix hasFraction ('e' :: rest) = .none := by
    cases hasFraction <;> rfl
  cases hempty : fraction.isEmpty with
  | true =>
    have hread := takeWhile_append_of_stop hwhole hletter
    have hleft := dropWhile_append_of_stop hwhole hletter
    have hnone : fractionDigits ('e' :: rest) = [] := rfl
    simp only [if_true, List.append_nil, number, hread, hleft, hnone, List.isEmpty_nil, hsuffix,
      List.head?_cons, Option.map_some, Option.getD_some, hpart]
    exact ⟨_, rfl⟩
  | false =>
    have hpoint := point_not_digit (fraction ++ 'e' :: rest)
    have hread := takeWhile_append_of_stop hwhole hpoint
    have hleft := dropWhile_append_of_stop hwhole hpoint
    have hsome : fractionDigits ('.' :: (fraction ++ 'e' :: rest)) = fraction :=
      takeWhile_append_of_stop hfraction hletter
    have hafter : ('.' :: (fraction ++ 'e' :: rest)).drop (fraction.length + 1) = 'e' :: rest := by
      rw [List.drop_succ_cons, List.drop_left]
    simp only [Bool.false_eq_true, if_false, List.append_assoc, List.cons_append, number, hread,
      hleft, hsome, hempty, hafter, hsuffix, List.head?_cons, Option.map_some, Option.getD_some,
      hpart, if_true]
    exact ⟨_, rfl⟩

/-- A text that starts with a lexeme that is none has no tokens. -/
theorem tokenize_of_error {c : Char} {rest : List Char} {defect : Defect}
    (hc : isBlank c = false) (h : lexeme c rest = .error defect) (tokens : List Token) :
    tokenize (String.ofList (c :: rest)) ≠ .ok tokens := by
  rw [tokenize, String.toList_ofList, scan, hc, if_neg Bool.false_ne_true, h]
  intro hread
  cases hread

/-- **What is written of all other doubles is not read back.** -/
theorem tokenize_write_ne {x : Float} (hx : ¬IsPlain x) :
    tokenize (Number.Layout.literal.write x) ≠ .ok [⟨.decimal x, 0⟩] := by
  rcases Number.write_of_not_isPlain hx with
    ⟨negative, whole, fraction, rest, hwritten, hwhole, hdigits⟩ | hword
  · obtain ⟨c, more, rfl⟩ := List.exists_cons_of_ne_nil hwhole
    have hc : isAsciiDigit c = true := hdigits c (by simp)
    obtain ⟨defect, hdefect⟩ := number_of_exponent negative rest hdigits
    rw [← String.ofList_toList (s := Number.Layout.literal.write x), hwritten]
    cases negative with
    | false =>
      exact tokenize_of_error (isBlank_of_isAsciiDigit hc)
        ((lexeme_of_isAsciiDigit hc _).trans hdefect) _
    | true =>
      exact tokenize_of_error (by decide) ((lexeme_minus hc _).trans hdefect) _
  · have hinf : tokenize "inf" = .ok [⟨.identifier "inf", 0⟩] := by decide
    have hminus : tokenize "-inf" = .error ⟨0, .unexpectedCharacter '-'⟩ := by decide +kernel
    have hnan : tokenize "NaN" = .ok [⟨.identifier "NaN", 0⟩] := by decide
    simp only [List.mem_cons, List.not_mem_nil, or_false] at hword
    intro hread
    rcases hword with hword | hword | hword <;> rw [hword] at hread
    · rw [hinf] at hread
      cases hread
    · rw [hminus] at hread
      cases hread
    · rw [hnan] at hread
      cases hread

end Lexer
end ODataQuery
