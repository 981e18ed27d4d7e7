/-!
# Blank characters

The blank characters are those with the Unicode `White_Space` property.  They separate tokens, and
a value made of blanks only counts as absent.

* `trim` removes blanks from both ends: `trimStart` drops the longest blank start, `trimEnd` the
  longest blank end.
* `isBlankText` decides whether trimming leaves nothing (`isBlankText_iff_trim_eq_nil`).
-/

set_option autoImplicit false

namespace ODataQuery
namespace Text

/-- The characters with the Unicode `White_Space` property. -/
def isBlank (c : Char) : Bool :=
  let code := c.toNat
  (9 ≤ code && code ≤ 13) || code == 0x20 || code == 0x85 || code == 0xA0 || code == 0x1680
    || (0x2000 ≤ code && code ≤ 0x200A) || code == 0x2028 || code == 0x2029 || code == 0x202F
    || code == 0x205F || code == 0x3000

/-- The text without its blank start. -/
def trimStart (text : List Char) : List Char :=
  text.dropWhile isBlank

/-- The text without its blank end. -/
def trimEnd (text : List Char) : List Char :=
  (text.reverse.dropWhile isBlank).reverse

/-- The text without its blank start and end. -/
def trim (text : List Char) : List Char :=
  trimEnd (trimStart text)

/-- Does the text hold no character but blanks. -/
def isBlankText (text : String) : Bool :=
  text.toList.all isBlank

theorem trimStart_of_isBlank {c : Char} {rest : List Char} (h : isBlank c = true) :
    trimStart (c :: rest) = trimStart rest := by
  simp [trimStart, h]

theorem trimStart_of_not_isBlank {c : Char} {rest : List Char} (h : isBlank c = false) :
    trimStart (c :: rest) = c :: rest := by
  simp [trimStart, h]

theorem trimStart_eq_nil_iff {text : List Char} :
    trimStart text = [] ↔ text.all isBlank = true := by
  induction text with
  | nil => simp [trimStart]
  | cons c rest ih =>
    cases h : isBlank c with
    | true => rw [trimStart_of_isBlank h, ih]; simp [h]
    | false => rw [trimStart_of_not_isBlank h]; simp [h]

theorem trimStart_eq_nil_or_head (text : List Char) :
    trimStart text = [] ∨ ∃ c rest, trimStart text = c :: rest ∧ isBlank c = false := by
  induction text with
  | nil => exact .inl rfl
  | cons c rest ih =>
    cases h : isBlank c with
    | true => rw [trimStart_of_isBlank h]; exact ih
    | false => exact .inr ⟨c, rest, trimStart_of_not_isBlank h, h⟩

/-- A text is blank exactly when trimming leaves nothing of it. -/
theorem isBlankText_iff_trim_eq_nil {text : String} :
    isBlankText text = true ↔ trim text.toList = [] := by
  rw [isBlankText, ← trimStart_eq_nil_iff, trim, trimEnd, List.reverse_eq_nil_iff]
  constructor
  · intro h
    simp [h]
  · intro h
    rcases trimStart_eq_nil_or_head text.toList with hnil | ⟨c, rest, hs, hc⟩
    · exact hnil
    · have hall : (trimStart text.toList).reverse.all isBlank = true := trimStart_eq_nil_iff.1 h
      simp [hs, hc] at hall

end Text
end ODataQuery
