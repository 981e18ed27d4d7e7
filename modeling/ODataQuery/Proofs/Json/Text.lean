import Mathlib.Data.List.DropRight
import ODataQuery.Json.Reader
import ODataQuery.Json.Writer
import ODataQuery.Proofs.Number.Digits

/-!
# Written JSON is read back

The text of a value over several lines is read back as the value, as long as its numbers are whole
and it is nested no deeper than the reader goes.  Where the value ends is seen from what follows it:
a comma, a line break, or the end of the text.

* `Json.Fits`: the values that are read back.
* `Json.readString?_stringText`: a string is, whatever its characters.
* `Json.readUnsigned?_toDigits`: so are the digits of a whole number.
* `Json.readItems?_prettyItems`, `Json.readFields?_prettyFields`: items and fields are read back
  together if each of them is.
* `Json.readValue?_prettyAt`: a value is, inside any other.
* `Json.parse?_pretty`: the value that the text of a value holds.
-/

set_option autoImplicit false

namespace ODataQuery

/-- The number is whole and has 64 bits, with or without a sign. -/
def JsonNumber.IsWhole : JsonNumber → Prop
  | whole n => Int64.minValue.toInt ≤ n ∧ n < UInt64.size
  | real _ => False

namespace Json

open Text

/-- The numbers in the value are whole, and at most the given number of arrays and objects enclose
one another. -/
def Fits : Nat → Json → Prop
  | _, null => True
  | _, bool _ => True
  | _, number n => n.IsWhole
  | _, string _ => True
  | 0, array _ => False
  | 0, object _ => False
  | levels + 1, array items => ∀ item ∈ items, item.Fits levels
  | levels + 1, object fields => ∀ field ∈ fields, field.2.Fits levels

/-! ## Strings -/

theorem hexValue?_hexDigit {n : Nat} (hn : n < 16) : hexValue? (hexDigit n) = some n := by
  have hall : ∀ n < 16, hexValue? (hexDigit n) = some n := by decide
  exact hall n hn

theorem hexFour?_hexDigit {n : Nat} (hn : n < 256) :
    hexFour? '0' '0' (hexDigit (n / 16)) (hexDigit (n % 16)) = some n := by
  have hzero : hexValue? '0' = some 0 := rfl
  simp [hexFour?, hzero, hexValue?_hexDigit (n := n / 16) (by omega),
    hexValue?_hexDigit (n := n % 16) (by omega)]
  omega

/-- What is written for a character inside a string stands for the character. -/
theorem readChars?_escapeChar (c : Char) (rest : List Char) :
    readChars? (escapeChar c ++ rest)
      = (readChars? rest).map fun (chars, rest) => (c :: chars, rest) := by
  by_cases hquote : c = '"'
  · subst hquote; simp [escapeChar, readChars?, simpleEscape?]
  by_cases hbackslash : c = '\\'
  · subst hbackslash; simp [escapeChar, readChars?, simpleEscape?]
  by_cases hline : c = '\n'
  · subst hline; simp [escapeChar, readChars?, simpleEscape?]
  by_cases hreturn : c = '\r'
  · subst hreturn; simp [escapeChar, readChars?, simpleEscape?]
  by_cases htab : c = '\t'
  · subst htab; simp [escapeChar, readChars?, simpleEscape?]
  by_cases hback : c = '\x08'
  · subst hback; simp [escapeChar, readChars?, simpleEscape?]
  by_cases hfeed : c = '\x0c'
  · subst hfeed; simp [escapeChar, readChars?, simpleEscape?]
  by_cases hcontrol : c.toNat < 0x20
  · have hscalar : scalar? c.toNat = some c := by
      rw [scalar?, if_pos (.inl (by omega)), Char.ofNat_toNat]
    simp [escapeChar, hquote, hbackslash, hline, hreturn, htab, hback, hfeed, hcontrol, readChars?,
      hexFour?_hexDigit (n := c.toNat) (by omega), hscalar]
  · have hplain : escapeChar c = [c] := by
      simp [escapeChar, hquote, hbackslash, hline, hreturn, htab, hback, hfeed, hcontrol]
    rw [hplain, List.singleton_append, readChars?.eq_def]
    split
    · next h => exact absurd h (List.cons_ne_nil _ _)
    · next h => exact absurd (List.cons.inj h).1 hquote
    · next h => exact absurd (List.cons.inj h).1 hbackslash
    · next h => exact absurd (List.cons.inj h).1 hbackslash
    · next h =>
      obtain ⟨rfl, rfl⟩ := List.cons.inj h
      rw [if_neg (not_or_intro hcontrol hbackslash)]

theorem readChars?_flatMap_escapeChar (chars rest : List Char) :
    readChars? (chars.flatMap escapeChar ++ '"' :: rest) = some (chars, rest) := by
  induction chars with
  | nil => simp [readChars?]
  | cons c chars ih =>
    rw [List.flatMap_cons, List.append_assoc, readChars?_escapeChar, ih]
    rfl

theorem toList_stringText_append (s : String) (rest : List Char) :
    (stringText s).toList ++ rest = '"' :: (s.toList.flatMap escapeChar ++ '"' :: rest) := by
  simp [stringText]

/-- **A string is read back**, whatever its characters. -/
@[simp] theorem readString?_stringText (s : String) (rest : List Char) :
    readString? ((stringText s).toList ++ rest) = some (s, rest) := by
  simp [toList_stringText_append, readString?, readChars?_flatMap_escapeChar]

/-! ## Numbers -/

/-- What follows a value in a text over several lines: a comma, a line break or nothing. -/
def EndsValue (rest : List Char) : Prop :=
  ∀ c ∈ rest.head?, c = ',' ∨ c = '\n'

/-- No digits begin with a zero but those of zero. -/
theorem eq_zero_of_head?_toDigits {n : Nat} (h : (Nat.toDigits 10 n).head? = some '0') : n = 0 := by
  induction n using Nat.strongRecOn with
  | ind n ih =>
    rw [Nat.toDigits_eq_if (by decide)] at h
    split at h
    · simpa using h
    · rw [List.head?_append_of_ne_nil _ Nat.toDigits_ne_nil] at h
      have htenth := ih (n / 10) (by omega) h
      omega

/-- **The digits of a whole number are read back.** -/
theorem readUnsigned?_toDigits (negative : Bool) (n : Nat) {rest : List Char}
    (hrest : EndsValue rest) :
    readUnsigned? negative (Nat.toDigits 10 n ++ rest)
      = (makeWhole? negative (Nat.toDigits 10 n)).map fun number => (number, rest) := by
  have hdigits : ∀ c ∈ Nat.toDigits 10 n, isAsciiDigit c = true := fun c =>
    isAsciiDigit_of_mem_toDigits
  have hstop : ∀ c ∈ rest.head?, isAsciiDigit c = false := fun c hc => by
    rcases hrest c hc with rfl | rfl <;> rfl
  have hfirst : ¬(Nat.toDigits 10 n = [] ∨
      ((Nat.toDigits 10 n).head? = some '0' ∧ 1 < (Nat.toDigits 10 n).length)) := by
    rintro (hnil | ⟨hzero, hlength⟩)
    · exact Nat.toDigits_ne_nil hnil
    · rw [eq_zero_of_head?_toDigits hzero] at hlength
      simp at hlength
  have hfraction : readFraction? rest = some ([], rest) := by
    cases rest with
    | nil => rfl
    | cons c rest => rcases hrest c rfl with rfl | rfl <;> rfl
  have hexponent : readExponent? rest = some (0, rest) := by
    cases rest with
    | nil => rfl
    | cons c rest => rcases hrest c rfl with rfl | rfl <;> rfl
  simp only [readUnsigned?, Number.spanDigits, takeWhile_append_of_stop hdigits hstop,
    dropWhile_append_of_stop hdigits hstop, List.isEmpty_iff, if_neg hfirst, hfraction]
  cases makeWhole? negative (Nat.toDigits 10 n) <;> simp [hexponent]

/-- A whole number begins with its sign or a digit. -/
theorem exists_cons_of_numberText (n : Int) :
    ∃ c text, (numberText (.whole n)).toList = c :: text ∧ (c = '-' ∨ isAsciiDigit c = true) := by
  obtain ⟨c, digits, hdigits⟩ := List.exists_cons_of_ne_nil
    (Nat.toDigits_ne_nil : Nat.toDigits 10 n.natAbs ≠ [])
  have hc : isAsciiDigit c = true :=
    isAsciiDigit_of_mem_toDigits (n := n.natAbs) (by simp [hdigits])
  rw [numberText, toList_toString, hdigits]
  by_cases hnegative : n < 0 <;> simp [hnegative, hc]

theorem makeWhole?_toDigits_of_neg {n : Int} (hlow : Int64.minValue.toInt ≤ n) (hneg : n < 0) :
    makeWhole? true (Nat.toDigits 10 n.natAbs) = some (.whole n) := by
  have habs : -(n.natAbs : Int) = n := by omega
  have hhigh : n ≤ Int64.maxValue.toInt :=
    Int.le_trans (Int.le_of_lt hneg) (by decide : 0 ≤ Int64.maxValue.toInt)
  have hvalue : 0 < n.natAbs := by omega
  have hinteger : (Number.integer? n).isSome = true := by
    rw [Number.integer?, if_pos ⟨hlow, hhigh⟩, Option.isSome_some]
  simp only [makeWhole?, digitsValue_toDigits, habs, hvalue, hinteger, and_self, if_true]

theorem makeWhole?_toDigits_of_nonneg {n : Int} (hnonneg : 0 ≤ n) (hhigh : n < UInt64.size) :
    makeWhole? false (Nat.toDigits 10 n.natAbs) = some (.whole n) := by
  have habs : (n.natAbs : Int) = n := by omega
  have hvalue : n.natAbs < UInt64.size := by omega
  simp only [makeWhole?, digitsValue_toDigits, habs, hvalue, Bool.false_eq_true, if_false, if_true]

/-- **A whole number is read back.** -/
theorem readNumber?_numberText {number : JsonNumber} (hnumber : number.IsWhole) {rest : List Char}
    (hrest : EndsValue rest) :
    readNumber? ((numberText number).toList ++ rest) = some (.number number, rest) := by
  obtain ⟨n⟩ | _ := number
  · obtain ⟨hlow, hhigh⟩ := hnumber
    rw [numberText, toList_toString]
    by_cases hneg : n < 0
    · simp [hneg, readNumber?, readUnsigned?_toDigits _ _ hrest,
        makeWhole?_toDigits_of_neg hlow hneg]
    · have hsign : ∀ text, Nat.toDigits 10 n.natAbs ++ rest ≠ '-' :: text := by
        intro text htext
        have hdigit : '-' ∈ Nat.toDigits 10 n.natAbs := by
          refine List.mem_of_mem_head? ?_
          rw [← List.head?_append_of_ne_nil _ Nat.toDigits_ne_nil, htext]
          rfl
        exact absurd (isAsciiDigit_of_mem_toDigits hdigit) (by decide)
      rw [if_neg hneg, List.nil_append, readNumber?.eq_2 _ hsign,
        readUnsigned?_toDigits _ _ hrest, makeWhole?_toDigits_of_nonneg (Int.not_lt.1 hneg) hhigh]
      rfl
  · exact hnumber.elim

/-! ## Blanks -/

@[simp] theorem skipBlanks_cons {c : Char} (hc : c ∉ [' ', '\n', '\t', '\r'])
    (text : List Char) : skipBlanks (c :: text) = c :: text := by
  simp_all [skipBlanks]

theorem skipBlanks_skipBlanks (text : List Char) : skipBlanks (skipBlanks text) = skipBlanks text :=
  List.dropWhile_idempotent _ text

@[simp] theorem skipBlanks_lineBreak (level : Nat) (text : List Char) :
    skipBlanks ((lineBreak level).toList ++ text) = skipBlanks text := by
  rw [skipBlanks, skipBlanks, List.dropWhile_append_of_pos]
  simp [lineBreak]

@[simp] theorem skipBlanks_space (text : List Char) :
    skipBlanks (' ' :: text) = skipBlanks text := by
  simp [skipBlanks]

@[simp] theorem skipBlanks_stringText (s : String) (text : List Char) :
    skipBlanks ((stringText s).toList ++ text) = (stringText s).toList ++ text := by
  rw [toList_stringText_append, skipBlanks_cons (by decide)]

@[simp] theorem endsValue_comma (text : List Char) : EndsValue (',' :: text) := by
  simp [EndsValue]

@[simp] theorem endsValue_lineBreak (level : Nat) (text : List Char) :
    EndsValue ((lineBreak level).toList ++ text) := by
  simp [EndsValue, lineBreak]

/-! ## Values -/

/-- The text of the value begins with no blank, and the reader reads the value from it, whatever
follows. -/
structure IsReadBack (value : Reader Json) (level : Nat) (json : Json) : Prop where
  skipBlanks_eq (rest : List Char) :
    skipBlanks ((json.prettyAt level).toList ++ rest) = (json.prettyAt level).toList ++ rest
  read_eq {rest : List Char} (hrest : EndsValue rest) :
    value ((json.prettyAt level).toList ++ rest) = some (json, rest)

theorem readValueOf?_of_number (inner : Option (Reader Json)) {c : Char}
    (hc : c = '-' ∨ isAsciiDigit c = true) (text : List Char) :
    readValueOf? inner (c :: text) = readNumber? (c :: text) := by
  rw [readValueOf?.eq_def]
  split <;> simp_all [isAsciiDigit]

/-- What encloses no other value is read back without levels. -/
theorem isReadBack_of_fits_zero (inner : Option (Reader Json)) (level : Nat) {json : Json}
    (h : json.Fits 0) : IsReadBack (readValueOf? inner) level json := by
  cases json with
  | null => constructor <;> simp [prettyAt, readValueOf?, word?]
  | bool b =>
    cases b <;> constructor <;> simp [prettyAt, readValueOf?, word?]
  | number number =>
    obtain ⟨n⟩ | _ := number
    · obtain ⟨c, text, htext, hc⟩ := exists_cons_of_numberText n
      have hblank : c ∉ [' ', '\n', '\t', '\r'] := by
        rintro hmem
        simp only [List.mem_cons, List.not_mem_nil, or_false] at hmem
        rcases hmem with rfl | rfl | rfl | rfl <;> exact absurd hc (by decide)
      refine ⟨fun rest => ?_, fun hrest => ?_⟩
      · rw [prettyAt, htext, List.cons_append, skipBlanks_cons hblank]
      · rw [prettyAt, ← readNumber?_numberText h hrest, htext, List.cons_append,
          readValueOf?_of_number inner hc]
    · exact h.elim
  | string s =>
    refine ⟨fun rest => skipBlanks_stringText s rest, fun {rest} _ => ?_⟩
    have hread := readString?_stringText s rest
    rw [toList_stringText_append] at hread
    rw [prettyAt, toList_stringText_append]
    simp [readValueOf?, hread]
  | array items => exact h.elim
  | object fields => exact h.elim

/-! ## Items and fields -/

section Items

variable {value : Reader Json} {level : Nat}

theorem prettyItems_cons (level : Nat) (item : Json) {items : List Json} (hitems : items ≠ []) :
    prettyItems level (item :: items)
      = lineBreak level ++ item.prettyAt level ++ "," ++ prettyItems level items := by
  cases items with
  | nil => exact absurd rfl hitems
  | cons => rfl

theorem prettyFields_cons (level : Nat) (name : String) (field : Json)
    {fields : List (String × Json)} (hfields : fields ≠ []) :
    prettyFields level ((name, field) :: fields)
      = lineBreak level ++ stringText name ++ ": " ++ field.prettyAt level ++ ","
        ++ prettyFields level fields := by
  cases fields with
  | nil => exact absurd rfl hfields
  | cons => rfl

/-- **Items on lines of their own are read back** if each of them is. -/
theorem readItems?_prettyItems {items : List Json} (hitems : items ≠ [])
    (h : ∀ item ∈ items, IsReadBack value level item) {count : Nat} (hcount : items.length ≤ count)
    (outer : Nat) (rest : List Char) :
    readItems? value count
        ((prettyItems level items).toList ++ ((lineBreak outer).toList ++ ']' :: rest))
      = some (items, rest) := by
  induction items generalizing count with
  | nil => exact absurd rfl hitems
  | cons item items ih =>
    obtain ⟨hitem, h⟩ := List.forall_mem_cons.1 h
    obtain ⟨count, rfl⟩ := Nat.exists_eq_add_of_lt hcount
    by_cases hlast : items = []
    · subst hlast
      simp [readItems?, prettyItems, hitem.skipBlanks_eq, hitem.read_eq]
    · simp [readItems?, prettyItems_cons _ _ hlast, hitem.skipBlanks_eq, hitem.read_eq, ih hlast h]

/-- **Fields on lines of their own are read back** if the value of each of them is. -/
theorem readFields?_prettyFields {fields : List (String × Json)} (hfields : fields ≠ [])
    (h : ∀ field ∈ fields, IsReadBack value level field.2) {count : Nat}
    (hcount : fields.length ≤ count) (outer : Nat) (rest : List Char) :
    readFields? value count
        ((prettyFields level fields).toList ++ ((lineBreak outer).toList ++ '\x7d' :: rest))
      = some (fields, rest) := by
  induction fields generalizing count with
  | nil => exact absurd rfl hfields
  | cons field fields ih =>
    obtain ⟨name, field⟩ := field
    obtain ⟨hfield, h⟩ := List.forall_mem_cons.1 h
    obtain ⟨count, rfl⟩ := Nat.exists_eq_add_of_lt hcount
    by_cases hlast : fields = []
    · subst hlast
      simp [readFields?, prettyFields, hfield.skipBlanks_eq, hfield.read_eq]
    · simp [readFields?, prettyFields_cons _ _ _ hlast, hfield.skipBlanks_eq, hfield.read_eq,
        ih hlast h]

/-- Every item and every field has a line of its own. -/
theorem length_le_prettyItems (level : Nat) (items : List Json) :
    items.length ≤ (prettyItems level items).toList.length := by
  induction items with
  | nil => exact Nat.zero_le _
  | cons item items ih =>
    by_cases hlast : items = []
    · simp [hlast, prettyItems, lineBreak]
    · simp [prettyItems_cons _ _ hlast, lineBreak]
      omega

theorem length_le_prettyFields (level : Nat) (fields : List (String × Json)) :
    fields.length ≤ (prettyFields level fields).toList.length := by
  induction fields with
  | nil => exact Nat.zero_le _
  | cons field fields ih =>
    by_cases hlast : fields = []
    · simp [hlast, prettyFields, lineBreak]
    · simp [prettyFields_cons _ _ _ hlast, lineBreak]
      omega

/-- After the first line break the text goes on with the first item, and there are characters
enough for the others. -/
theorem exists_skipBlanks_prettyItems {items : List Json} (hitems : items ≠ [])
    (h : ∀ item ∈ items, IsReadBack value level item) (outer : Nat) (rest : List Char) :
    ∃ item ∈ items, ∃ tail, EndsValue tail ∧ items.length ≤ tail.length ∧
      skipBlanks ((prettyItems level items).toList ++ ((lineBreak outer).toList ++ ']' :: rest))
        = (item.prettyAt level).toList ++ tail := by
  obtain ⟨item, items, rfl⟩ := List.exists_cons_of_ne_nil hitems
  refine ⟨item, List.mem_cons_self, ?_⟩
  have hitem := (h item List.mem_cons_self).skipBlanks_eq
  by_cases hlast : items = []
  · refine ⟨(lineBreak outer).toList ++ ']' :: rest, endsValue_lineBreak _ _, ?_, ?_⟩
    · simp [hlast]
      omega
    · simp [hlast, prettyItems, hitem]
  · refine ⟨',' :: ((prettyItems level items).toList ++ ((lineBreak outer).toList ++ ']' :: rest)),
      endsValue_comma _, ?_, ?_⟩
    · have hlength := length_le_prettyItems level items
      simp
      omega
    · simp [prettyItems_cons _ _ hlast, hitem]

/-- The first field begins with the quote of its name. -/
theorem exists_skipBlanks_prettyFields (level : Nat) {fields : List (String × Json)}
    (hfields : fields ≠ []) (rest : List Char) :
    ∃ text, fields.length ≤ text.length + 1 ∧
      skipBlanks ((prettyFields level fields).toList ++ rest) = '"' :: text := by
  obtain ⟨⟨name, field⟩, fields, rfl⟩ := List.exists_cons_of_ne_nil hfields
  by_cases hlast : fields = []
  · simp [hlast, prettyFields, toList_stringText_append]
  · have hlength := length_le_prettyFields level fields
    simp [prettyFields_cons _ _ _ hlast, toList_stringText_append]
    omega

theorem readItems?_skipBlanks (count : Nat) (text : List Char) :
    readItems? value count (skipBlanks text) = readItems? value count text := by
  cases count <;> simp [readItems?, skipBlanks_skipBlanks]

theorem readFields?_skipBlanks (count : Nat) (text : List Char) :
    readFields? value count (skipBlanks text) = readFields? value count text := by
  cases count <;> simp [readFields?, skipBlanks_skipBlanks]

/-- No value begins with the bracket that closes an array, so the first item is not taken for the
end of the array. -/
theorem readArray?_prettyItems (hclose : ∀ text, value (']' :: text) = none) {items : List Json}
    (hitems : items ≠ []) (h : ∀ item ∈ items, IsReadBack value level item) (outer : Nat)
    (rest : List Char) :
    readArray? value
        ((prettyItems level items).toList ++ ((lineBreak outer).toList ++ ']' :: rest))
      = some (.array items, rest) := by
  obtain ⟨item, hitem, tail, htail, hlength, hskip⟩ :=
    exists_skipBlanks_prettyItems hitems h outer rest
  simp only [readArray?]
  split
  · rename_i text htext
    have hread := (h item hitem).read_eq htail
    rw [← hskip, htext, hclose] at hread
    cases hread
  · rw [readItems?_skipBlanks, readItems?_prettyItems hitems h]
    · rfl
    · rw [hskip, List.length_append]
      omega

theorem readObject?_prettyFields {fields : List (String × Json)} (hfields : fields ≠ [])
    (h : ∀ field ∈ fields, IsReadBack value level field.2) (outer : Nat) (rest : List Char) :
    readObject? value
        ((prettyFields level fields).toList ++ ((lineBreak outer).toList ++ '\x7d' :: rest))
      = some (.object fields, rest) := by
  obtain ⟨text, hlength, hskip⟩ := exists_skipBlanks_prettyFields level hfields
    ((lineBreak outer).toList ++ '\x7d' :: rest)
  have hread := readFields?_prettyFields hfields h hlength outer rest
  rw [← readFields?_skipBlanks, hskip] at hread
  simp [readObject?, hskip, hread]

/-- **An array is read back** if its items are. -/
theorem isReadBack_array (hclose : ∀ text, value (']' :: text) = none) {items : List Json}
    (h : ∀ item ∈ items, IsReadBack value (level + 1) item) :
    IsReadBack (readValueOf? (some value)) level (array items) := by
  by_cases hitems : items = []
  · subst hitems
    constructor <;> simp [prettyAt, readValueOf?, readArray?]
  · have htext : prettyAt level (array items)
        = "[" ++ prettyItems (level + 1) items ++ lineBreak level ++ "]" := by
      cases items with
      | nil => exact absurd rfl hitems
      | cons => rfl
    constructor <;>
      simp [htext, readValueOf?, readArray?_prettyItems hclose hitems h]

/-- **An object is read back** if the values of its fields are. -/
theorem isReadBack_object {fields : List (String × Json)}
    (h : ∀ field ∈ fields, IsReadBack value (level + 1) field.2) :
    IsReadBack (readValueOf? (some value)) level (object fields) := by
  by_cases hfields : fields = []
  · subst hfields
    constructor <;> simp [prettyAt, openBrace, closeBrace, readValueOf?, readObject?]
  · have htext : prettyAt level (object fields)
        = openBrace ++ prettyFields (level + 1) fields ++ lineBreak level ++ closeBrace := by
      cases fields with
      | nil => exact absurd rfl hfields
      | cons => rfl
    constructor <;>
      simp [htext, openBrace, closeBrace, readValueOf?, readObject?_prettyFields hfields h]

end Items

/-! ## Texts -/

@[simp] theorem fits_bool (levels : Nat) (b : Bool) : (bool b).Fits levels := by
  cases levels <;> trivial

@[simp] theorem fits_string (levels : Nat) (s : String) : (string s).Fits levels := by
  cases levels <;> trivial

@[simp] theorem fits_array_iff {levels : Nat} {items : List Json} :
    (array items).Fits (levels + 1) ↔ ∀ item ∈ items, item.Fits levels :=
  Iff.rfl

@[simp] theorem fits_object_iff {levels : Nat} {fields : List (String × Json)} :
    (object fields).Fits (levels + 1) ↔ ∀ field ∈ fields, field.2.Fits levels :=
  Iff.rfl

theorem Fits.mono {levels more : Nat} (hlevels : levels ≤ more) {json : Json}
    (h : json.Fits levels) : json.Fits more := by
  induction levels generalizing more json with
  | zero => cases json <;> simp_all [Fits]
  | succ levels ih =>
    obtain ⟨more, rfl⟩ := Nat.exists_eq_add_of_lt hlevels
    cases json with
    | array items => exact fun item hitem => ih (by omega) (h item hitem)
    | object fields => exact fun field hfield => ih (by omega) (h field hfield)
    | _ => exact h

theorem readValue?_closingBracket (levels : Nat) (text : List Char) :
    readValue? levels (']' :: text) = none := by
  have hnumber : readNumber? (']' :: text) = none := by
    simp [readNumber?, readUnsigned?, Number.spanDigits, isAsciiDigit]
  cases levels <;> simp [readValue?, readValueOf?, hnumber]

/-- **A value is read back from its text**, wherever in a text it stands.  The induction is on the
levels, as the reader of one level calls that of the next. -/
theorem readValue?_prettyAt {levels : Nat} {json : Json} (h : json.Fits levels) (level : Nat) :
    IsReadBack (readValue? levels) level json := by
  induction levels generalizing json level with
  | zero => exact isReadBack_of_fits_zero none level h
  | succ levels ih =>
    cases json with
    | array items =>
      exact isReadBack_array (readValue?_closingBracket levels) fun item hitem =>
        ih (h item hitem) (level + 1)
    | object fields =>
      exact isReadBack_object fun field hfield => ih (h field hfield) (level + 1)
    | _ => exact isReadBack_of_fits_zero _ level h

/-- **The text of a value holds the value.** -/
theorem parse?_pretty {json : Json} (h : json.Fits maxDepth) :
    parse? (json.pretty ++ "\n") = some json := by
  have hread := readValue?_prettyAt h 0
  have hend : EndsValue ['\n'] := by simp [EndsValue]
  have htext : (json.pretty ++ "\n").toList = (json.prettyAt 0).toList ++ ['\n'] := by
    simp [pretty]
  rw [parse?, parseWithin?, htext, hread.skipBlanks_eq, hread.read_eq hend]
  rfl

end Json
end ODataQuery
