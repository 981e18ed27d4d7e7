import ODataQuery.Proofs.Number.Digits
import ODataQuery.Proofs.Text.Parts
import ODataQuery.Sql.Fragment

/-!
# What descriptions of values can hold

The description of a value stands inside comments, which some texts end.  All values but strings are
described with letters, digits and a few marks, so only strings can bring such a text along; and a
string brings along each one that it holds, because its quotes are all that is written differently.

* `Value.isScalarChar`: the characters that all values but strings are described with
  (`BoundValue.isScalarChar_of_mem_describe`).
* `Value.Holds`: the value is a string that holds a text.
* `BoundValue.infix_describe_iff`: so a description holds a text of other characters exactly if the
  value does.
-/

set_option autoImplicit false

namespace ODataQuery

open Text

namespace Value

/-- The characters that all values but strings are described with. -/
def isScalarChar (c : Char) : Bool :=
  c.isAlphanum || ['+', '-', '.', ':', '\''].contains c

/-- The value is a string that holds a text. -/
def Holds (part : String) : Value → Prop
  | string s => part.toList <:+: s.toList
  | _ => False

instance (part : String) : (value : Value) → Decidable (value.Holds part)
  | string s => inferInstanceAs (Decidable (part.toList <:+: s.toList))
  | null | bool _ | int _ | float _ | dateTime _ => inferInstanceAs (Decidable False)

/-! ## The characters of descriptions -/

/-- The text has the characters of such descriptions only. -/
def IsScalarText (text : List Char) : Prop := ∀ c ∈ text, isScalarChar c = true

instance (text : List Char) : Decidable (IsScalarText text) :=
  List.decidableBAll (fun c => isScalarChar c = true) text

@[simp] theorem isScalarText_nil : IsScalarText [] := nofun

@[simp] theorem isScalarText_cons {c : Char} {text : List Char} :
    IsScalarText (c :: text) ↔ isScalarChar c = true ∧ IsScalarText text :=
  List.forall_mem_cons

@[simp] theorem isScalarText_append {first second : List Char} :
    IsScalarText (first ++ second) ↔ IsScalarText first ∧ IsScalarText second :=
  List.forall_mem_append

theorem IsScalarText.sublist {text part : List Char} (h : IsScalarText text)
    (hpart : part.Sublist text) : IsScalarText part :=
  fun c hc => h c (hpart.subset hc)

theorem isScalarChar_of_isAsciiDigit {c : Char} (h : isAsciiDigit c = true) :
    isScalarChar c = true := by
  have hdigit : c.isDigit = true := by
    rw [isAsciiDigit, Bool.and_eq_true, decide_eq_true_eq, decide_eq_true_eq] at h
    rw [Char.isDigit, Bool.and_eq_true, decide_eq_true_eq, decide_eq_true_eq]
    exact h
  rw [isScalarChar, Char.isAlphanum, hdigit, Bool.or_true, Bool.true_or]

@[simp] theorem isScalarText_toDigits (n : Nat) : IsScalarText (Nat.toDigits 10 n) :=
  fun _ hc => isScalarChar_of_isAsciiDigit (isAsciiDigit_of_mem_toDigits hc)

@[simp] theorem isScalarText_padded (width n : Nat) : IsScalarText (DateTime.padded width n) :=
  fun _ hc => isScalarChar_of_isAsciiDigit (DateTime.isAsciiDigit_of_mem_padded hc)

@[simp] theorem isScalarText_zeros (count : Nat) : IsScalarText (Number.zeros count) := by
  intro c hc
  rw [List.eq_of_mem_replicate hc]
  decide

theorem isScalarText_toString (n : Int) : IsScalarText (toString n).toList := by
  rw [toList_toString, isScalarText_append]
  refine ⟨?_, isScalarText_toDigits _⟩
  split_ifs <;> simp [isScalarChar]

/-- Doubles are written with digits, points, signs, an `e` and a few words. -/
theorem isScalarText_write (x : Float) : IsScalarText (Number.Layout.literal.write x).toList := by
  have hsign (negative : Bool) : IsScalarText (if negative then ['-'] else []) := by
    cases negative <;> simp [isScalarChar]
  have hdecimal (decimal : Number.Decimal) :
      IsScalarText (Number.Layout.literal.writeDecimal decimal) := by
    have hdigits := isScalarText_toDigits decimal.digits
    have htake (n : Nat) := hdigits.sublist (List.take_sublist n _)
    have hdrop (n : Nat) := hdigits.sublist (List.drop_sublist n _)
    simp only [Number.Layout.writeDecimal]
    split_ifs <;>
      simp only [isScalarText_append, isScalarText_cons, isScalarText_nil, isScalarText_zeros,
        hdigits, htake, hdrop, isScalarText_toString, and_true, true_and] <;> decide
  rw [Number.Layout.write, String.toList_ofList]
  cases Number.shape x with
  | notANumber => simp [isScalarChar]
  | infinite negative => simp [hsign, isScalarChar]
  | finite value =>
    rw [isScalarText_append]
    refine ⟨hsign _, ?_⟩
    split_ifs
    · simp [Number.Layout.literal, isScalarChar]
    · exact hdecimal _

/-- Points of time are written with digits, signs, colons, points and a `T`. -/
theorem isScalarText_writeWith (t : DateTime) : IsScalarText (t.writeWith 'T') := by
  have hyear : IsScalarText (DateTime.yearText t.year) := by
    rw [DateTime.yearText]
    split_ifs <;> simp [isScalarChar]
  have hfraction : IsScalarText (DateTime.fractionText t.nanosecond) := by
    rw [DateTime.fractionText]
    split_ifs <;> simp [isScalarChar]
  simp [DateTime.writeWith, hyear, hfraction, isScalarChar]

end Value

namespace Sql
namespace BoundValue

open Value

/-- **All values but strings are described with letters, digits and a few marks.** -/
theorem isScalarChar_of_mem_describe {value : Value} (hvalue : ∀ s, value ≠ .string s) :
    IsScalarText (describe value).toList := by
  cases value with
  | null => decide
  | bool b => cases b <;> decide
  | int i => exact isScalarText_toString i.toInt
  | float x => exact isScalarText_write x
  | string s => exact absurd rfl (hvalue s)
  | dateTime t =>
    rw [describe, DateTime.text]
    simp [isScalarText_writeWith, isScalarChar]

/-- **A description holds a text of other characters exactly if the value does.** -/
theorem infix_describe_iff {part : String} (hne : part ≠ "")
    (hpart : part.toList.any isScalarChar = false) {value : Value} :
    part.toList <:+: (describe value).toList ↔ value.Holds part := by
  rw [List.any_eq_false] at hpart
  have hscalar (hvalue : ∀ s, value ≠ .string s) : ¬ part.toList <:+: (describe value).toList := by
    intro h
    obtain ⟨c, hc⟩ := List.exists_mem_of_ne_nil part.toList (by simpa using hne)
    exact hpart c hc (isScalarChar_of_mem_describe hvalue c (h.subset hc))
  cases value with
  | string s =>
    have hquote : '\'' ∉ part.toList := fun hmem => absurd (hpart _ hmem) (by decide)
    show _ <:+: (String.ofList (Quoted.encode '\'' '\'' s.toList)).toList ↔ _
    rw [String.toList_ofList, Quoted.infix_encode_iff hquote hquote]
    rfl
  | _ => exact iff_of_false (hscalar nofun) id

end BoundValue
end Sql
end ODataQuery
