import ODataQuery.Proofs.DateTime.RoundTrip
import ODataQuery.Proofs.Outcomes
import ODataQuery.QueryString.Lexer
import ODataQuery.Value.Text

/-!
# Texts of known tokens

A text whose tokens are known can be extended at its start by the text of one more token, as long as
the two do not run into each other.

* `Lexer.Tokenizes`: the tokens of a text, whatever their places are.
* `Lexer.scan_lexeme`, `Lexer.tokenizes_lexeme`: one more token at the start.
* `Lexer.Ends`: the text starts with a character that no name, number or quoted text goes on with;
  `Lexer.Delimited`: with one of those that stand between the tokens of a printed filter.
* `Lexer.IsSpelling`: before every such end, a text is read as one token.
* `Lexer.isName`, `Lexer.isSpelling_name`: a name is read as an identifier, and every identifier that
  is read is a name (`Lexer.isName_of_tokenize`).
* `Lexer.isSpelling_integer`, `isSpelling_string`, `isSpelling_dateTime`: the literals of values.
-/

set_option autoImplicit false

namespace ODataQuery
namespace Lexer

open Text

attribute [local simp] scan

/-! ## One more token -/

/-- The tokens of the text are of these kinds, wherever the text starts. -/
def Tokenizes (text : List Char) (kinds : List TokenKind) : Prop :=
  ∀ position, ∃ tokens, scan position 0 text = .ok tokens ∧ tokens.map Token.kind = kinds

/-- The characters of a token that is read are passed over. -/
theorem scan_passed (position : Nat) (passed rest : List Char) :
    scan position passed.length (passed ++ rest) = scan (position + passed.length) 0 rest := by
  induction passed generalizing position with
  | nil => rfl
  | cons c passed ih =>
    rw [List.length_cons, List.cons_append, scan, ih, Nat.add_assoc, Nat.add_comm 1]

theorem tokenizes_nil : Tokenizes [] [] :=
  fun position => ⟨[], by rw [scan], rfl⟩

theorem tokenizes_blank {c : Char} {rest : List Char} {kinds : List TokenKind}
    (hc : isBlank c = true) (h : Tokenizes rest kinds) : Tokenizes (c :: rest) kinds := by
  intro position
  obtain ⟨tokens, hscan, hkinds⟩ := h (position + 1)
  exact ⟨tokens, by rw [scan, if_pos hc, hscan], hkinds⟩

/-- **A text goes on with the token that it starts with**, and then after it. -/
theorem scan_lexeme (position : Nat) {c : Char} (more : List Char) {rest : List Char}
    {kind : TokenKind} (hc : isBlank c = false)
    (hlexeme : lexeme c (more ++ rest) = .ok (kind, more.length + 1)) :
    scan position 0 (c :: (more ++ rest))
      = (scan (position + (c :: more).length) 0 rest).map (⟨kind, position⟩ :: ·) := by
  rw [scan, hc, if_neg Bool.false_ne_true, hlexeme]
  show (scan (position + 1) (more.length + 1 - 1) (more ++ rest)).map _ = _
  rw [Nat.add_sub_cancel, scan_passed, List.length_cons, Nat.add_assoc, Nat.add_comm 1]

theorem tokenizes_lexeme {c : Char} (more : List Char) {rest : List Char} {kind : TokenKind}
    {kinds : List TokenKind} (hc : isBlank c = false)
    (hlexeme : lexeme c (more ++ rest) = .ok (kind, more.length + 1)) (h : Tokenizes rest kinds) :
    Tokenizes (c :: (more ++ rest)) (kind :: kinds) := by
  intro position
  obtain ⟨tokens, hscan, hkinds⟩ := h (position + (c :: more).length)
  refine ⟨⟨kind, position⟩ :: tokens, ?_, by rw [List.map_cons, hkinds]⟩
  rw [scan_lexeme position more hc hlexeme, hscan]
  rfl

theorem tokenizes_openParen {rest : List Char} {kinds : List TokenKind} (h : Tokenizes rest kinds) :
    Tokenizes ('(' :: rest) (.openParen :: kinds) :=
  tokenizes_lexeme [] (by decide) rfl h

theorem tokenizes_closeParen {rest : List Char} {kinds : List TokenKind}
    (h : Tokenizes rest kinds) : Tokenizes (')' :: rest) (.closeParen :: kinds) :=
  tokenizes_lexeme [] (by decide) rfl h

theorem tokenizes_comma {rest : List Char} {kinds : List TokenKind} (h : Tokenizes rest kinds) :
    Tokenizes (',' :: rest) (.comma :: kinds) :=
  tokenizes_lexeme [] (by decide) rfl h

/-! ## Where a token ends -/

/-- The text is empty or starts with a character that no name, number or quoted text goes on
with. -/
def Ends (text : List Char) : Prop :=
  ∀ c ∈ text.head?, isNamePart c = false ∧ c ≠ '\'' ∧ c ≠ '.'

theorem ends_nil : Ends [] := by
  rintro c ⟨⟩

/-- The codes of the blanks, as closed intervals. -/
def blankIntervals : List (Nat × Nat) := [
  (9, 13), (0x20, 0x20), (0x85, 0x85), (0xA0, 0xA0), (0x1680, 0x1680), (0x2000, 0x200A),
  (0x2028, 0x2029), (0x202F, 0x202F), (0x205F, 0x205F), (0x3000, 0x3000)]

theorem covers_blankIntervals {c : Char} (h : isBlank c = true) :
    CharacterTables.covers blankIntervals c.toNat = true := by
  simp only [isBlank, Bool.or_eq_true, Bool.and_eq_true, decide_eq_true_eq, beq_iff_eq] at h
  simp only [CharacterTables.covers, blankIntervals, List.any_cons, List.any_nil, Bool.or_eq_true,
    Bool.and_eq_true, decide_eq_true_eq, Bool.or_false]
  omega

/-- What is checked of the tables of characters: where letters and numbers begin, and that there is
no blank among them. -/
theorem tables_checked :
    (∀ interval ∈ CharacterTables.alphabetic, 65 ≤ interval.1)
      ∧ (∀ interval ∈ CharacterTables.numeric, 48 ≤ interval.1)
      ∧ (CharacterTables.alphabetic ++ CharacterTables.numeric).all (fun interval =>
        blankIntervals.all fun blank => interval.2 < blank.1 || blank.2 < interval.1) = true := by
  decide +kernel

theorem covers_of_lt {table : List (Nat × Nat)} {bound code : Nat}
    (h : ∀ interval ∈ table, bound ≤ interval.1) (hcode : code < bound) :
    CharacterTables.covers table code = false := by
  rw [CharacterTables.covers, List.any_eq_false]
  intro interval hinterval
  have hstart := h interval hinterval
  rw [Bool.and_eq_true, decide_eq_true_eq, decide_eq_true_eq]
  omega

/-- No letter comes before the capital ones. -/
theorem isAlphabetic_of_lt {c : Char} (h : c.toNat < 65) : isAlphabetic c = false :=
  covers_of_lt tables_checked.1 h

/-- No name goes on with what comes before the digits. -/
theorem isNamePart_of_lt {c : Char} (h : c.toNat < 48) : isNamePart c = false := by
  have hnumeric : isNumeric c = false := covers_of_lt tables_checked.2.1 h
  rw [isNamePart, isAlphabetic_of_lt (by omega), hnumeric, Bool.false_or, Bool.false_or,
    beq_eq_false_iff_ne]
  rintro rfl
  revert h
  decide

/-- No name goes on with a blank. -/
theorem isBlank_of_isNamePart {c : Char} (h : isNamePart c = true) : isBlank c = false := by
  have hcovers {table : List (Nat × Nat)} (h : CharacterTables.covers table c.toNat = true) :
      ∃ interval ∈ table, interval.1 ≤ c.toNat ∧ c.toNat ≤ interval.2 := by
    simpa [CharacterTables.covers] using h
  rw [Bool.eq_false_iff]
  intro hblank
  obtain ⟨blank, hmem, hbounds⟩ := hcovers (covers_blankIntervals hblank)
  have hapart : ∀ interval ∈ CharacterTables.alphabetic ++ CharacterTables.numeric,
      ¬ (interval.1 ≤ c.toNat ∧ c.toNat ≤ interval.2) := by
    intro interval hinterval hcode
    have hblanks := List.all_eq_true.1 tables_checked.2.2 interval hinterval
    have hdisjoint := List.all_eq_true.1 hblanks blank hmem
    rw [Bool.or_eq_true, decide_eq_true_eq, decide_eq_true_eq] at hdisjoint
    omega
  rw [isNamePart, Bool.or_eq_true, Bool.or_eq_true, beq_iff_eq] at h
  rcases h with (halphabetic | hnumeric) | rfl
  · obtain ⟨interval, hinterval, hcode⟩ := hcovers halphabetic
    exact hapart interval (List.mem_append_left _ hinterval) hcode
  · obtain ⟨interval, hinterval, hcode⟩ := hcovers hnumeric
    exact hapart interval (List.mem_append_right _ hinterval) hcode
  · exact absurd hblank (by decide)

/-- The ten digits are among those that names may go on with. -/
theorem isNamePart_of_isAsciiDigit {c : Char} (h : isAsciiDigit c = true) :
    isNamePart c = true := by
  have hall : (List.range' 48 10).all (CharacterTables.covers CharacterTables.numeric) = true := by
    decide
  rw [isAsciiDigit, Bool.and_eq_true, decide_eq_true_eq, decide_eq_true_eq] at h
  have hlow : 48 ≤ c.toNat := h.1
  have hhigh : c.toNat ≤ 57 := h.2
  have hnumeric : isNumeric c = true :=
    List.all_eq_true.1 hall _ (List.mem_range'_1.2 ⟨hlow, by omega⟩)
  rw [isNamePart, hnumeric, Bool.or_true, Bool.true_or]

theorem Ends.isAsciiDigit_eq_false {rest : List Char} (h : Ends rest) :
    ∀ c ∈ rest.head?, isAsciiDigit c = false := by
  intro c hc
  cases hdigit : isAsciiDigit c with
  | false => rfl
  | true =>
    have hpart := (h c hc).1
    rw [isNamePart_of_isAsciiDigit hdigit] at hpart
    cases hpart

/-- A blank ends every token. -/
theorem ends_blank {c : Char} (hc : isBlank c = true) (rest : List Char) : Ends (c :: rest) := by
  rintro _ ⟨⟩
  refine ⟨?_, ?_, ?_⟩
  · cases hpart : isNamePart c with
    | false => rfl
    | true =>
      rw [isBlank_of_isNamePart hpart] at hc
      cases hc
  · rintro rfl
    revert hc
    decide
  · rintro rfl
    revert hc
    decide

/-- The characters that stand between the tokens of a printed filter. -/
def delimiters : List Char := [' ', '(', ')', ',']

/-- The text is empty or starts with a character that stands between the tokens of a printed
filter. -/
def Delimited (text : List Char) : Prop :=
  ∀ c ∈ text.head?, c ∈ delimiters

theorem Delimited.ends {text : List Char} (h : Delimited text) : Ends text := by
  have hall : ∀ c ∈ delimiters, c.toNat < 48 ∧ c ≠ '\'' ∧ c ≠ '.' := by simp [delimiters]
  intro c hc
  obtain ⟨hlow, hmarks⟩ := hall c (h c hc)
  exact ⟨isNamePart_of_lt hlow, hmarks⟩

/-! ## Spellings -/

/-- Before everything that ends it, the text is read as one token of this kind. -/
def IsSpelling (text : List Char) (kind : TokenKind) : Prop :=
  ∃ c more, text = c :: more ∧ isBlank c = false ∧
    ∀ rest, Ends rest → lexeme c (more ++ rest) = .ok (kind, more.length + 1)

/-- **A spelled token is read, and then what follows it.** -/
theorem IsSpelling.scan_append {text rest : List Char} {kind : TokenKind}
    (h : IsSpelling text kind) (hrest : Ends rest) (position : Nat) :
    scan position 0 (text ++ rest)
      = (scan (position + text.length) 0 rest).map (⟨kind, position⟩ :: ·) := by
  obtain ⟨c, more, rfl, hc, hlexeme⟩ := h
  exact scan_lexeme position more hc (hlexeme rest hrest)

theorem IsSpelling.tokenizes {text rest : List Char} {kind : TokenKind} {kinds : List TokenKind}
    (h : IsSpelling text kind) (hrest : Ends rest) (hkinds : Tokenizes rest kinds) :
    Tokenizes (text ++ rest) (kind :: kinds) := by
  obtain ⟨c, more, rfl, hc, hlexeme⟩ := h
  exact tokenizes_lexeme more hc (hlexeme rest hrest) hkinds

/-! ## Names -/

/-- Does the word start as names do, and go on as they do. -/
def isName (word : String) : Bool :=
  word.toList.head?.any isNameStart && word.toList.all isNamePart

theorem isNameStart_of_lt {c : Char} (h : c.toNat < 65) : isNameStart c = false := by
  rw [isNameStart, isAlphabetic_of_lt h, Bool.false_or, beq_eq_false_iff_ne]
  rintro rfl
  revert h
  decide

/-- A lexeme that starts as a name does is a word. -/
theorem lexeme_of_isNameStart {c : Char} (h : isNameStart c = true) (rest : List Char) :
    lexeme c rest = word (c :: rest) := by
  have hne {other : Char} (hother : other.toNat < 65) : c ≠ other := by
    rintro rfl
    rw [isNameStart_of_lt hother] at h
    cases h
  have hdigit : isAsciiDigit c = false := by
    cases hdigit : isAsciiDigit c with
    | false => rfl
    | true =>
      rw [isAsciiDigit, Bool.and_eq_true, decide_eq_true_eq, decide_eq_true_eq] at hdigit
      have hhigh : c.toNat ≤ 57 := hdigit.2
      rw [isNameStart_of_lt (by omega)] at h
      cases h
  rw [lexeme, if_neg (hne (by decide)), if_neg (hne (by decide)), if_neg (hne (by decide)),
    if_neg (hne (by decide)), if_neg (fun hminus => hne (by decide) hminus.1), hdigit,
    if_neg Bool.false_ne_true, if_pos h]

/-- **A name is read as an identifier.** -/
theorem isSpelling_name {name : String} (hname : isName name = true) :
    IsSpelling name.toList (.identifier name) := by
  rw [isName, Bool.and_eq_true, List.all_eq_true] at hname
  obtain ⟨hstart, hparts⟩ := hname
  cases hchars : name.toList with
  | nil =>
    rw [hchars] at hstart
    cases hstart
  | cons c more =>
    rw [hchars] at hstart hparts
    refine ⟨c, more, rfl, isBlank_of_isNamePart (isNamePart_of_isNameStart hstart),
      fun rest hrest => ?_⟩
    have hread : (c :: (more ++ rest)).takeWhile isNamePart = c :: more :=
      takeWhile_append_of_stop hparts fun c hc => (hrest c hc).1
    have hleft : (c :: (more ++ rest)).dropWhile isNamePart = rest :=
      dropWhile_append_of_stop hparts fun c hc => (hrest c hc).1
    have hword : String.ofList (c :: more) = name := by rw [← hchars, String.ofList_toList]
    rw [lexeme_of_isNameStart hstart, word, hread, hleft]
    split
    · exact absurd rfl (hrest _ rfl).2.1
    · rw [hword]
      rfl

theorem tokenizes_name {name : String} (hname : isName name = true) {rest : List Char}
    (hrest : Delimited rest) {kinds : List TokenKind} (h : Tokenizes rest kinds) :
    Tokenizes (name.toList ++ rest) (.identifier name :: kinds) :=
  (isSpelling_name hname).tokenizes hrest.ends h

/-- Every identifier that starts as a name does is a name. -/
theorem isName_of_word {c : Char} (hc : isNameStart c = true) {rest : List Char} {name : String}
    {length : Nat} (h : word (c :: rest) = .ok (.identifier name, length)) :
    isName name = true := by
  have hread : (c :: rest).takeWhile isNamePart = c :: rest.takeWhile isNamePart := by
    rw [List.takeWhile_cons, if_pos (isNamePart_of_isNameStart hc)]
  have hname : name = String.ofList (c :: rest.takeWhile isNamePart) := by
    rw [word, hread] at h
    split at h
    · split at h
      · split at h
        · split at h <;> cases h
        · cases h
      · cases h
        rfl
    · cases h
      rfl
  rw [hname, isName, String.toList_ofList, Bool.and_eq_true, List.all_eq_true]
  refine ⟨hc, fun other hother => ?_⟩
  rw [← hread] at hother
  exact List.mem_takeWhile_imp hother

theorem number_ne_identifier {negative : Bool} {text : List Char} {name : String} {length : Nat} :
    number negative text ≠ .ok (.identifier name, length) := by
  intro h
  unfold number at h
  extract_lets sign whole rest fraction written after mark left length digits n at h
  split at h
  · cases h
  split at h
  · cases h
  split at h <;> cases h

/-- Every identifier that a lexeme gives is a name. -/
theorem isName_of_lexeme {c : Char} {rest : List Char} {name : String} {length : Nat}
    (h : lexeme c rest = .ok (.identifier name, length)) : isName name = true := by
  rw [lexeme] at h
  split_ifs at h with _ _ _ _ _ _ hstart
  · cases h
  · cases h
  · cases h
  · obtain ⟨_, -, hstring⟩ := map_eq_ok.1 h
    cases hstring
  · exact absurd h number_ne_identifier
  · exact absurd h number_ne_identifier
  · exact isName_of_word hstart h

theorem isName_of_scan {text : List Char} {position passed : Nat} {tokens : List Token}
    (h : scan position passed text = .ok tokens) {name : String}
    (hname : .identifier name ∈ tokens.map Token.kind) : isName name = true := by
  induction text generalizing position passed tokens with
  | nil =>
    cases passed <;> cases h <;> cases hname
  | cons c rest ih =>
    cases passed with
    | succ passed =>
      rw [scan] at h
      exact ih h hname
    | zero =>
      rw [scan] at h
      split at h
      · exact ih h hname
      split at h
      · cases h
      · rename_i kind length hlexeme
        obtain ⟨more, hmore, rfl⟩ := map_eq_ok.1 h
        rcases List.mem_cons.1 hname with hkind | hname
        · have hkind : TokenKind.identifier name = kind := hkind
          rw [← hkind] at hlexeme
          exact isName_of_lexeme hlexeme
        · exact ih hmore hname

/-- **Every identifier of a text is a name.** -/
theorem isName_of_tokenize {text : String} {tokens : List Token} (h : tokenize text = .ok tokens)
    {name : String} (hname : .identifier name ∈ tokens.map Token.kind) : isName name = true :=
  isName_of_scan h hname

/-! ## Literals -/

theorem fractionDigits_of_ends {rest : List Char} (h : Ends rest) : fractionDigits rest = [] := by
  cases rest with
  | nil => rfl
  | cons c rest =>
    rw [fractionDigits.eq_def]
    split
    · rename_i heq
      cases heq
      exact absurd rfl (h _ rfl).2.2
    · rfl

/-- The suffixes of numbers are letters. -/
theorem suffix_of_ends (hasFraction : Bool) {rest : List Char} (h : Ends rest) :
    suffix hasFraction rest = .none := by
  have hletters : ∀ letter ∈ ['L', 'l', 'd', 'D', 'f', 'F', 'm', 'M'],
      isNamePart letter = true := List.all_eq_true.1 (by decide)
  cases rest with
  | nil => rfl
  | cons c rest =>
    have hne : ∀ letter ∈ ['L', 'l', 'd', 'D', 'f', 'F', 'm', 'M'], (c == letter) = false := by
      intro letter hletter
      rw [beq_eq_false_iff_ne]
      rintro rfl
      have hpart := (h c rfl).1
      rw [hletters c hletter] at hpart
      cases hpart
    simp only [List.forall_mem_cons] at hne
    simp [suffix, hne]

/-- The digits of an integer are read up to their end. -/
theorem number_of_digits (negative : Bool) {digits rest : List Char} {i : Int64}
    (hdigits : ∀ c ∈ digits, isAsciiDigit c = true) (hrest : Ends rest)
    (hi : i.toInt = if negative then -(digitsValue digits : Int) else digitsValue digits) :
    number negative (digits ++ rest)
      = .ok (.integer i, digits.length + if negative then 1 else 0) := by
  have hread : (digits ++ rest).takeWhile isAsciiDigit = digits :=
    takeWhile_append_of_stop hdigits hrest.isAsciiDigit_eq_false
  have hleft : (digits ++ rest).dropWhile isAsciiDigit = rest :=
    dropWhile_append_of_stop hdigits hrest.isAsciiDigit_eq_false
  have hend : (rest.head?.map isNamePart).getD false = false := by
    cases rest with
    | nil => rfl
    | cons c rest => exact (hrest c rfl).1
  have hinteger : Number.integer? (if negative then -(digitsValue digits : Int)
      else digitsValue digits) = some i := Number.integer?_eq_some_iff.2 hi
  simp only [number, hread, hleft, fractionDigits_of_ends hrest, suffix_of_ends _ hrest,
    hend, hinteger, List.isEmpty_nil, Bool.not_true, Bool.false_eq_true, if_true, if_false]
  cases negative <;> simp

/-- A lexeme that starts with a digit is a number. -/
theorem lexeme_of_isAsciiDigit {c : Char} (h : isAsciiDigit c = true) (rest : List Char) :
    lexeme c rest = number false (c :: rest) := by
  have hne {other : Char} (hother : isAsciiDigit other = false) : c ≠ other := by
    rintro rfl
    rw [hother] at h
    cases h
  rw [lexeme, if_neg (hne (by decide)), if_neg (hne (by decide)), if_neg (hne (by decide)),
    if_neg (hne (by decide)), if_neg (fun hminus => hne (by decide) hminus.1), if_pos h]

/-- So is one that starts with a minus sign and a digit. -/
theorem lexeme_minus {c : Char} (h : isAsciiDigit c = true) (rest : List Char) :
    lexeme '-' (c :: rest) = number true (c :: rest) := by
  rw [lexeme, if_neg (by decide), if_neg (by decide), if_neg (by decide), if_neg (by decide),
    if_pos ⟨rfl, h⟩]

/-- **The literal of an integer is read back.** -/
theorem isSpelling_integer (i : Int64) : IsSpelling (toString i.toInt).toList (.integer i) := by
  have hdigits : ∀ c ∈ Nat.toDigits 10 i.toInt.natAbs, isAsciiDigit c = true :=
    fun c hc => isAsciiDigit_of_mem_toDigits hc
  have hvalue := digitsValue_toDigits i.toInt.natAbs
  obtain ⟨c, more, hmore⟩ := List.exists_cons_of_ne_nil
    (Nat.toDigits_ne_nil : Nat.toDigits 10 i.toInt.natAbs ≠ [])
  rw [toList_toString]
  rw [hmore] at hdigits hvalue ⊢
  have hc := hdigits c List.mem_cons_self
  by_cases hnegative : i.toInt < 0
  · have hi : i.toInt
        = if true then -(digitsValue (c :: more) : Int) else digitsValue (c :: more) := by
      rw [hvalue, if_pos rfl]
      omega
    rw [if_pos hnegative]
    refine ⟨'-', c :: more, rfl, by decide, fun rest hrest => ?_⟩
    rw [List.cons_append, lexeme_minus hc, ← List.cons_append]
    exact number_of_digits true hdigits hrest hi
  · have hi : i.toInt
        = if false then -(digitsValue (c :: more) : Int) else digitsValue (c :: more) := by
      rw [hvalue, if_neg Bool.false_ne_true]
      omega
    rw [if_neg hnegative]
    refine ⟨c, more, rfl, isBlank_of_isAsciiDigit hc, fun rest hrest => ?_⟩
    rw [lexeme_of_isAsciiDigit hc, ← List.cons_append]
    exact number_of_digits false hdigits hrest hi

theorem tokenizes_integer (i : Int64) {rest : List Char} (hrest : Delimited rest)
    {kinds : List TokenKind} (h : Tokenizes rest kinds) :
    Tokenizes ((toString i.toInt).toList ++ rest) (.integer i :: kinds) :=
  (isSpelling_integer i).tokenizes hrest.ends h

/-- A quoted text is read up to its closing quote. -/
theorem string_encoded (text : List Char) {rest : List Char} (hrest : Ends rest) :
    string (Quoted.double '\'' text ++ '\'' :: rest)
      = .ok (text, (Quoted.double '\'' text).length + 2) := by
  have hquote : rest.head? ≠ some '\'' := by
    intro hquote
    exact absurd rfl (hrest _ hquote).2.1
  rw [string, Quoted.decode_encode hquote]
  simp only [List.length_append, List.length_cons]
  congr 2
  omega

/-- **The literal of a string is read back.** -/
theorem isSpelling_string (s : String) : IsSpelling (Value.stringLiteral s).toList (.string s) := by
  rw [Value.stringLiteral, String.toList_ofList, Quoted.encode, List.cons_append]
  refine ⟨'\'', _, rfl, by decide, fun rest hrest => ?_⟩
  rw [lexeme, if_neg (by decide), if_neg (by decide), if_neg (by decide), if_pos rfl,
    List.append_assoc, List.singleton_append, string_encoded _ hrest, List.length_append]
  show Except.ok (TokenKind.string (String.ofList s.toList), _) = _
  rw [String.ofList_toList]
  rfl

theorem tokenizes_string (s : String) {rest : List Char} (hrest : Delimited rest)
    {kinds : List TokenKind} (h : Tokenizes rest kinds) :
    Tokenizes ((Value.stringLiteral s).toList ++ rest) (.string s :: kinds) :=
  (isSpelling_string s).tokenizes hrest.ends h

theorem double_eq_self {text : List Char} (h : '\'' ∉ text) :
    Quoted.double '\'' text = text := by
  induction text with
  | nil => rfl
  | cons c rest ih =>
    rw [List.mem_cons, not_or] at h
    rw [Quoted.double_cons, if_neg (Ne.symm h.1), ih h.2, List.singleton_append]

theorem quote_not_mem_padded (width n : Nat) : '\'' ∉ DateTime.padded width n := by
  intro h
  exact absurd (DateTime.isAsciiDigit_of_mem_padded h) (by decide)

/-- There is no quote in a written point of time. -/
theorem quote_not_mem_writeWith (t : DateTime) : '\'' ∉ t.writeWith 'T' := by
  have hyear : '\'' ∉ DateTime.yearText t.year := by
    rw [DateTime.yearText]
    split_ifs <;> simp [quote_not_mem_padded]
  have hfraction : '\'' ∉ DateTime.fractionText t.nanosecond := by
    rw [DateTime.fractionText]
    split_ifs <;> simp [quote_not_mem_padded]
  simp [DateTime.writeWith, hyear, hfraction, quote_not_mem_padded]

theorem word_datetime (text : List Char) :
    ('d' :: ("atetime".toList ++ '\'' :: text)).takeWhile isNamePart = "datetime".toList
      ∧ ('d' :: ("atetime".toList ++ '\'' :: text)).dropWhile isNamePart = '\'' :: text := by
  have hname : ∀ c ∈ 'd' :: "atetime".toList, isNamePart c = true :=
    List.all_eq_true.1 (by decide)
  have hquote : ∀ c ∈ ('\'' :: text).head?, isNamePart c = false := by
    rintro c ⟨⟩
    exact isNamePart_of_lt (by decide)
  rw [← List.cons_append]
  exact ⟨takeWhile_append_of_stop hname hquote, dropWhile_append_of_stop hname hquote⟩

/-- What `datetime` in front of a quote is read as. -/
theorem word_datetime_eq_ok {text : List Char} {kind : TokenKind} {length : Nat} :
    word ('d' :: ("atetime".toList ++ '\'' :: text)) = .ok (kind, length)
      ↔ ∃ value count t, string text = .ok (value, count)
        ∧ DateTime.readLiteral? value = some t ∧ kind = .dateTime t ∧ length = 8 + count := by
  obtain ⟨htake, hdrop⟩ := word_datetime text
  rw [word, htake, hdrop]
  simp only [if_true]
  cases string text with
  | error defect => simp
  | ok result =>
    obtain ⟨value, count⟩ := result
    cases ht : DateTime.readLiteral? value <;> simp [ht, eq_comm]

/-- The literal of a point of time is a word that a quoted text follows. -/
theorem word_dateTimeLiteral (t : DateTime) {rest : List Char} (hrest : Ends rest) :
    word ('d' :: ("atetime".toList ++ '\'' :: (t.writeWith 'T' ++ '\'' :: rest)))
      = .ok (.dateTime t, (t.writeWith 'T').length + 10) := by
  have hstring : string (t.writeWith 'T' ++ '\'' :: rest)
      = .ok (t.writeWith 'T', (t.writeWith 'T').length + 2) := by
    have hencoded := string_encoded (t.writeWith 'T') hrest
    rwa [double_eq_self (quote_not_mem_writeWith t)] at hencoded
  exact word_datetime_eq_ok.2
    ⟨_, _, t, hstring, DateTime.readLiteral?_writeWith t, rfl, by omega⟩

/-- **The literal of a point of time is read back.** -/
theorem isSpelling_dateTime (t : DateTime) :
    IsSpelling (Value.dateTimeLiteral t).toList (.dateTime t) := by
  have htext : t.text.toList = t.writeWith 'T' := String.toList_ofList
  have hopening : "datetime'".toList = 'd' :: ("atetime".toList ++ ['\'']) := by decide
  have hchars : (Value.dateTimeLiteral t).toList
      = 'd' :: ("atetime".toList ++ '\'' :: (t.writeWith 'T' ++ ['\''])) := by
    rw [Value.dateTimeLiteral, String.toList_append, String.toList_append, htext, hopening,
      List.cons_append, List.cons_append, List.append_assoc, List.append_assoc]
    rfl
  have hlength : ("atetime".toList ++ '\'' :: (t.writeWith 'T' ++ ['\''])).length + 1
      = (t.writeWith 'T').length + 10 := by
    have hname : "atetime".toList.length = 7 := by decide
    rw [List.length_append, List.length_cons, List.length_append, hname, List.length_singleton]
    omega
  refine ⟨'d', _, hchars, by decide, fun rest hrest => ?_⟩
  rw [lexeme_of_isNameStart (by decide), hlength, List.append_assoc, List.cons_append,
    List.append_assoc]
  exact word_dateTimeLiteral t hrest

theorem tokenizes_dateTime (t : DateTime) {rest : List Char} (hrest : Delimited rest)
    {kinds : List TokenKind} (h : Tokenizes rest kinds) :
    Tokenizes ((Value.dateTimeLiteral t).toList ++ rest) (.dateTime t :: kinds) :=
  (isSpelling_dateTime t).tokenizes hrest.ends h

end Lexer
end ODataQuery
