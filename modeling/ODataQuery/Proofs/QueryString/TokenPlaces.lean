import ODataQuery.Proofs.QueryString.Lexemes
import ODataQuery.Proofs.Text.Quoted

/-!
# Texts that are cut off

What a token is does not depend on what stands behind it, as far as a text may be cut off behind
the token.  So the characters before the place of a token are a text of their own, with the tokens
before it; and so are those before the place at which a text cannot be read on.

* `Lexer.lexeme_of_isPrefix`: a lexeme is read in the same way if the text is cut off behind it.
* `Lexer.Reaches`: a place of the text at a character that is not blank, up to which the text is
  read if it is cut off there; one lemma for each step of `Lexer.scan`.
* `Lexer.reaches_of_scan`: the places of all tokens are such, and so is the place of a failure.
-/

set_option autoImplicit false

namespace ODataQuery
namespace Text

/-- A part at the start of a text starts as the text does. -/
theorem mem_head?_of_isPrefix {α : Type} {part text : List α} (h : part <+: text) {a : α}
    (ha : a ∈ part.head?) : a ∈ text.head? := by
  obtain ⟨rest, rfl⟩ := h
  cases part with
  | nil => cases ha
  | cons first part => exact ha

/-- What follows the longest part of a kind does not go on with it. -/
theorem not_of_mem_head?_dropWhile {test : Char → Bool} {text : List Char} {c : Char}
    (hc : c ∈ (text.dropWhile test).head?) : test c = false := by
  have hstop := List.head?_dropWhile_not test text
  rw [Option.mem_def.1 hc] at hstop
  exact hstop

end Text

namespace Lexer

open Text

variable {c : Char} {rest : List Char} {kind : TokenKind} {length : Nat}

/-! ## Quoted texts and words in front of a cut -/

/-- A quoted text is read in the same way if the text is cut off behind it. -/
theorem string_of_isPrefix {value : List Char} (h : string rest = .ok (value, length)) :
    ∃ more after, rest = more ++ after ∧ length = more.length + 1
      ∧ ∀ later, later <+: after → string (more ++ later) = .ok (value, length) := by
  rw [string] at h
  split at h
  · rename_i text after hdecode
    cases h
    obtain ⟨rfl, hafter⟩ := Quoted.eq_of_decode hdecode
    refine ⟨Quoted.double '\'' value ++ ['\''], after, by simp, by simp; omega,
      fun later hlater => ?_⟩
    have hquote : later.head? ≠ some '\'' := fun hquote =>
      hafter (mem_head?_of_isPrefix hlater hquote)
    rw [List.append_assoc, List.singleton_append, string, Quoted.decode_encode hquote]
    simp only [List.length_append, List.length_cons]
    congr 2
    omega
  · cases h

/-- A name that no quoted text follows is an identifier. -/
theorem word_of_stop {name later : List Char} (hname : ∀ c ∈ name, isNamePart c = true)
    (hstop : ∀ c ∈ later.head?, isNamePart c = false)
    (hquote : name = "datetime".toList → later.head? ≠ some '\'') :
    word (name ++ later) = .ok (.identifier (String.ofList name), name.length) := by
  rw [word, takeWhile_append_of_stop hname hstop, dropWhile_append_of_stop hname hstop]
  split
  · rw [if_neg fun h => hquote h rfl]
  · rfl

theorem takeWhile_name (hc : isNameStart c = true) (rest : List Char) :
    (c :: rest).takeWhile isNamePart = c :: rest.takeWhile isNamePart := by
  rw [List.takeWhile_cons, if_pos (isNamePart_of_isNameStart hc)]

theorem isNamePart_of_mem_name (hc : isNameStart c = true) (rest : List Char) :
    ∀ other ∈ c :: rest.takeWhile isNamePart, isNamePart other = true := by
  rw [← takeWhile_name hc]
  exact fun other hother => List.mem_takeWhile_imp hother

/-- A word is `datetime` in front of a quote, or else its longest name is not. -/
theorem word_cases (c : Char) (rest : List Char) :
    (c = 'd' ∧ ∃ text, rest = "atetime".toList ++ '\'' :: text)
      ∨ (c :: rest.takeWhile isNamePart = "datetime".toList →
        (rest.dropWhile isNamePart).head? ≠ some '\'') := by
  rw [Classical.or_iff_not_imp_left]
  intro hnone hname hhead
  obtain ⟨text, htext⟩ := List.head?_eq_some_iff.1 hhead
  obtain ⟨hc, hmore⟩ : c = 'd' ∧ rest.takeWhile isNamePart = "atetime".toList :=
    List.cons_eq_cons.1 hname
  refine hnone ⟨hc, text, ?_⟩
  rw [← hmore, ← htext, List.takeWhile_append_dropWhile]

/-- The longest name that a word starts with, if the text is cut off behind it. -/
theorem word_name (hc : isNameStart c = true) {rest : List Char}
    (hquote : c :: rest.takeWhile isNamePart = "datetime".toList →
      (rest.dropWhile isNamePart).head? ≠ some '\'')
    {later : List Char} (hlater : later <+: rest.dropWhile isNamePart) :
    word (c :: (rest.takeWhile isNamePart ++ later))
      = .ok (.identifier (String.ofList (c :: rest.takeWhile isNamePart)),
        (rest.takeWhile isNamePart).length + 1) :=
  word_of_stop (isNamePart_of_mem_name hc rest)
    (fun _ hother => not_of_mem_head?_dropWhile (mem_head?_of_isPrefix hlater hother))
    fun heq hhead => hquote heq (mem_head?_of_isPrefix hlater hhead)

theorem offset_of_word_datetime {text : List Char} {defect : Defect}
    (h : word ('d' :: ("atetime".toList ++ '\'' :: text)) = .error defect) :
    defect.offset = 0 ∨ defect.offset = 8 := by
  obtain ⟨htake, hdrop⟩ := word_datetime text
  rw [word, htake, hdrop] at h
  simp only [if_true] at h
  split at h
  · split at h <;> cases h
    exact .inl rfl
  · cases h
    exact .inr rfl

/-- A word is read in the same way if the text is cut off behind it. -/
theorem word_of_isPrefix (hc : isNameStart c = true) (h : word (c :: rest) = .ok (kind, length)) :
    ∃ more after, rest = more ++ after ∧ length = more.length + 1
      ∧ ∀ later, later <+: after → word (c :: (more ++ later)) = .ok (kind, length) := by
  rcases word_cases c rest with ⟨rfl, text, rfl⟩ | hquote
  · obtain ⟨value, count, t, hstring, ht, rfl, rfl⟩ := word_datetime_eq_ok.1 h
    obtain ⟨more, after, rfl, rfl, hstring⟩ := string_of_isPrefix hstring
    refine ⟨"atetime".toList ++ '\'' :: more, after, ?_, ?_, fun later hlater => ?_⟩
    · rw [List.append_assoc, List.cons_append]
    · have hlength : "atetime".toList.length = 7 := by decide
      rw [List.length_append, hlength, List.length_cons]
      omega
    · rw [List.append_assoc, List.cons_append]
      exact word_datetime_eq_ok.2 ⟨value, _, t, hstring later hlater, ht, rfl, rfl⟩
  · have hsplit : rest = rest.takeWhile isNamePart ++ rest.dropWhile isNamePart :=
      List.takeWhile_append_dropWhile.symm
    have hword := word_name hc hquote List.prefix_rfl
    rw [← hsplit, h] at hword
    cases hword
    exact ⟨_, _, hsplit, rfl, fun later hlater => word_name hc hquote hlater⟩

/-- A word that is not read is cut off in front of it, or is a name in front of a quote. -/
theorem word_eq_error {defect : Defect} (hc : isNameStart c = true)
    (h : word (c :: rest) = .error defect) :
    defect.offset = 0 ∨ ∃ more after, rest = more ++ '\'' :: after
      ∧ defect.offset = more.length + 1
      ∧ word (c :: more) = .ok (.identifier (String.ofList (c :: more)), more.length + 1) := by
  rcases word_cases c rest with ⟨rfl, text, rfl⟩ | hquote
  · refine (offset_of_word_datetime h).imp_right fun hoffset => ?_
    have hword : word ('d' :: "atetime".toList) = .ok (.identifier "datetime", 8) := by decide
    exact ⟨"atetime".toList, text, rfl, hoffset, hword⟩
  · have hword := word_name hc hquote List.prefix_rfl
    rw [List.takeWhile_append_dropWhile, h] at hword
    cases hword

/-! ## Numbers in front of a cut -/

/-- A fraction with its point, if there is a fraction. -/
def pointed (fraction : List Char) : List Char :=
  if fraction.isEmpty then [] else '.' :: fraction

/-- A fraction is read in the same way if the text is cut off behind it. -/
theorem fractionDigits_of_isPrefix (text : List Char) :
    ∃ after, text = pointed (fractionDigits text) ++ after
      ∧ ∀ later, later <+: after →
        fractionDigits (pointed (fractionDigits text) ++ later) = fractionDigits text := by
  cases hfraction : fractionDigits text with
  | nil =>
    refine ⟨text, rfl, fun later hlater => ?_⟩
    obtain ⟨rest, rfl⟩ := hlater
    show fractionDigits later = []
    rw [fractionDigits.eq_def]
    split
    · rename_i digits
      have hall : (digits ++ rest).takeWhile isAsciiDigit = [] := hfraction
      cases digits with
      | nil => rfl
      | cons first digits =>
        rw [List.cons_append, List.takeWhile_cons] at hall
        rw [List.takeWhile_cons]
        split at hall
        · cases hall
        · rename_i hfirst
          rw [if_neg hfirst]
    · rfl
  | cons first fraction =>
    have htext := hfraction
    rw [fractionDigits.eq_def] at htext
    split at htext
    · rename_i digits
      have hdigits : ∀ c ∈ first :: fraction, isAsciiDigit c = true := by
        rw [← htext]
        exact fun c hc => List.mem_takeWhile_imp hc
      refine ⟨digits.dropWhile isAsciiDigit, ?_, fun later hlater => ?_⟩
      · show '.' :: digits = '.' :: ((first :: fraction) ++ digits.dropWhile isAsciiDigit)
        rw [← htext, List.takeWhile_append_dropWhile]
      · show ((first :: fraction) ++ later).takeWhile isAsciiDigit = _
        exact takeWhile_append_of_stop hdigits fun c hc =>
          not_of_mem_head?_dropWhile (mem_head?_of_isPrefix hlater hc)
    · cases htext

/-- The suffix of a number, if it has one, is one character. -/
theorem suffix_of_isPrefix (hasFraction : Bool) (text : List Char) :
    ∃ mark after, text = mark ++ after
      ∧ (mark.length = if suffix hasFraction text = .none then 0 else 1)
      ∧ ∀ later, later <+: after →
        suffix hasFraction (mark ++ later) = suffix hasFraction text := by
  by_cases hnone : suffix hasFraction text = .none
  · refine ⟨[], text, rfl, (if_pos hnone).symm, fun later hlater => ?_⟩
    cases later with
    | nil => rw [hnone]; rfl
    | cons first later =>
      obtain ⟨rest, rfl⟩ := hlater
      rfl
  · cases text with
    | nil => exact absurd rfl hnone
    | cons first after => exact ⟨[first], after, rfl, (if_neg hnone).symm, fun _ _ => rfl⟩

/-- The parts of the number that a text starts with, and what is left of the text behind it. -/
structure HasParts (text whole fraction : List Char) (mark : Suffix) (left : List Char) :
    Prop where
  takeWhile_eq : text.takeWhile isAsciiDigit = whole
  fractionDigits_eq : fractionDigits (text.dropWhile isAsciiDigit) = fraction
  suffix_eq : suffix (!fraction.isEmpty)
    ((text.dropWhile isAsciiDigit).drop (pointed fraction).length) = mark
  drop_eq : ((text.dropWhile isAsciiDigit).drop (pointed fraction).length).drop
    (if mark = .none then 0 else 1) = left

/-- The text has the same parts if it is cut off behind the number. -/
theorem hasParts_of_isPrefix (hc : isAsciiDigit c = true) (rest : List Char) :
    ∃ whole fraction mark suffixText after,
      rest = whole ++ (pointed fraction ++ (suffixText ++ after))
      ∧ (suffixText.length = if mark = .none then 0 else 1)
      ∧ ∀ later, later <+: after →
        HasParts (c :: (whole ++ (pointed fraction ++ (suffixText ++ later)))) (c :: whole)
          fraction mark later := by
  obtain ⟨afterPoint, hpoint, hfraction⟩ := fractionDigits_of_isPrefix (rest.dropWhile isAsciiDigit)
  generalize fractionDigits (rest.dropWhile isAsciiDigit) = fraction at hpoint hfraction
  obtain ⟨suffixText, after, rfl, hlength, hmark⟩ :=
    suffix_of_isPrefix (!fraction.isEmpty) afterPoint
  generalize suffix (!fraction.isEmpty) (suffixText ++ after) = mark at hlength hmark
  have hwhole : ∀ other ∈ c :: rest.takeWhile isAsciiDigit, isAsciiDigit other = true :=
    List.forall_mem_cons.2 ⟨hc, fun other hother => List.mem_takeWhile_imp hother⟩
  refine ⟨rest.takeWhile isAsciiDigit, fraction, mark, suffixText, after, ?_, hlength,
    fun later hlater => ?_⟩
  · rw [← hpoint, List.takeWhile_append_dropWhile]
  · have hpart : suffixText ++ later <+: suffixText ++ after :=
      (List.prefix_append_right_inj suffixText).2 hlater
    have hstop : ∀ other ∈ (pointed fraction ++ (suffixText ++ later)).head?,
        isAsciiDigit other = false := by
      intro other hother
      have hmem := mem_head?_of_isPrefix ((List.prefix_append_right_inj _).2 hpart) hother
      rw [← hpoint] at hmem
      exact not_of_mem_head?_dropWhile hmem
    have hread := takeWhile_append_of_stop hwhole hstop
    have hleft := dropWhile_append_of_stop hwhole hstop
    rw [List.cons_append] at hread hleft
    refine ⟨hread, ?_, ?_, ?_⟩
    · rw [hleft, hfraction _ hpart]
    · rw [hleft, List.drop_left, hmark later hlater]
    · rw [hleft, List.drop_left, ← hlength, List.drop_left]

variable {text text' whole fraction left left' : List Char} {mark : Suffix} {negative : Bool}

theorem drop_pointed (fraction text : List Char) :
    (if fraction.isEmpty then text else text.drop (fraction.length + 1))
      = text.drop (pointed fraction).length := by
  cases fraction <;> rfl

theorem drop_suffix (mark : Suffix) (text : List Char) :
    (if mark = .none then text else text.drop 1) = text.drop (if mark = .none then 0 else 1) := by
  split <;> rfl

/-- A number is what its parts say, if no name follows. -/
theorem number_congr (h : HasParts text whole fraction mark left)
    (h' : HasParts text' whole fraction mark left')
    (hleft : (left.head?.map isNamePart).getD false = (left'.head?.map isNamePart).getD false) :
    number negative text = number negative text' := by
  simp only [number, drop_pointed, drop_suffix, h.takeWhile_eq, h.fractionDigits_eq, h.suffix_eq,
    h.drop_eq, h'.takeWhile_eq, h'.fractionDigits_eq, h'.suffix_eq, h'.drop_eq, hleft]

/-- A number is as long as its parts, and no name follows it. -/
theorem length_of_number (h : HasParts text whole fraction mark left)
    (hnumber : number negative text = .ok (kind, length)) :
    (left.head?.map isNamePart).getD false = false
      ∧ length = whole.length + (pointed fraction).length + (if mark = .none then 0 else 1)
        + (if negative then 1 else 0) := by
  have hwritten : ((if negative then ['-'] else []) ++ whole ++ pointed fraction).length
      = whole.length + (pointed fraction).length + if negative then 1 else 0 := by
    cases negative <;> simp [Nat.add_comm, Nat.add_left_comm]
  simp only [number, drop_pointed, drop_suffix, h.takeWhile_eq, h.fractionDigits_eq, h.suffix_eq,
    h.drop_eq] at hnumber
  split at hnumber
  · cases hnumber
  rename_i hleft
  refine ⟨Bool.eq_false_iff.2 hleft, ?_⟩
  unfold pointed at hwritten ⊢
  split at hnumber
  · cases hnumber
    omega
  split at hnumber
  · cases hnumber
    omega
  · cases hnumber

/-- A number is read in the same way if the text is cut off behind it. -/
theorem number_of_isPrefix (hc : isAsciiDigit c = true)
    (h : number negative (c :: rest) = .ok (kind, length)) :
    ∃ more after, rest = more ++ after
      ∧ length = more.length + 1 + (if negative then 1 else 0)
      ∧ ∀ later, later <+: after → number negative (c :: (more ++ later)) = .ok (kind, length) := by
  obtain ⟨whole, fraction, mark, suffixText, after, rfl, hsuffix, hparts⟩ :=
    hasParts_of_isPrefix hc rest
  obtain ⟨hend, rfl⟩ := length_of_number (hparts after List.prefix_rfl) h
  refine ⟨whole ++ (pointed fraction ++ suffixText), after, by simp, ?_, fun later hlater => ?_⟩
  · simp only [List.length_cons, List.length_append]
    omega
  · have hlaterEnd : (later.head?.map isNamePart).getD false = false := by
      cases hhead : later.head? with
      | none => rfl
      | some other =>
        have hmem := mem_head?_of_isPrefix hlater (Option.mem_def.2 hhead)
        rw [Option.mem_def.1 hmem] at hend
        exact hend
    rw [← h, List.append_assoc, List.append_assoc]
    exact number_congr (hparts later hlater) (hparts after List.prefix_rfl)
      (hlaterEnd.trans hend.symm)

/-! ## Lexemes in front of a cut -/

/-- **A lexeme is read in the same way if the text is cut off behind it.** -/
theorem lexeme_of_isPrefix (h : lexeme c rest = .ok (kind, length)) :
    ∃ more after, rest = more ++ after ∧ length = more.length + 1
      ∧ ∀ later, later <+: after → lexeme c (more ++ later) = .ok (kind, length) := by
  rw [lexeme] at h
  split_ifs at h with hopen hclose hcomma hquote hminus hdigit hname
  · cases h
    exact ⟨[], rest, rfl, rfl, fun later _ => by rw [lexeme, if_pos hopen]⟩
  · cases h
    exact ⟨[], rest, rfl, rfl, fun later _ => by rw [lexeme, if_neg hopen, if_pos hclose]⟩
  · cases h
    exact ⟨[], rest, rfl, rfl, fun later _ => by
      rw [lexeme, if_neg hopen, if_neg hclose, if_pos hcomma]⟩
  · obtain ⟨⟨value, count⟩, hstring, heq⟩ := map_eq_ok.1 h
    cases heq
    obtain ⟨more, after, rfl, hlength, hlater⟩ := string_of_isPrefix hstring
    refine ⟨more, after, rfl, hlength, fun later hprefix => ?_⟩
    rw [lexeme, if_neg hopen, if_neg hclose, if_neg hcomma, if_pos hquote, hlater later hprefix]
    rfl
  · obtain ⟨rfl, hhead⟩ := hminus
    cases rest with
    | nil => cases hhead
    | cons first rest =>
      have hfirst : isAsciiDigit first = true := hhead
      obtain ⟨more, after, rfl, hlength, hlater⟩ := number_of_isPrefix hfirst h
      refine ⟨first :: more, after, rfl, hlength, fun later hprefix => ?_⟩
      rw [List.cons_append, lexeme_minus hfirst]
      exact hlater later hprefix
  · obtain ⟨more, after, rfl, hlength, hlater⟩ := number_of_isPrefix hdigit h
    refine ⟨more, after, rfl, hlength, fun later hprefix => ?_⟩
    rw [lexeme_of_isAsciiDigit hdigit]
    exact hlater later hprefix
  · obtain ⟨more, after, rfl, hlength, hlater⟩ := word_of_isPrefix hname h
    refine ⟨more, after, rfl, hlength, fun later hprefix => ?_⟩
    rw [lexeme_of_isNameStart hname]
    exact hlater later hprefix

/-- A text that does not start with a lexeme cannot be read on from its start; or from the quote of
a literal that is not ended, in front of which stands a name. -/
theorem lexeme_eq_error {defect : Defect} (h : lexeme c rest = .error defect) :
    defect.offset = 0 ∨ ∃ more after, rest = more ++ '\'' :: after
      ∧ defect.offset = more.length + 1
      ∧ lexeme c more = .ok (.identifier (String.ofList (c :: more)), more.length + 1) := by
  have hstring {text : List Char} {defect : Defect} (h : string text = .error defect) :
      defect.offset = 0 := by
    rw [string] at h
    split at h <;> cases h
    rfl
  have hnumber {negative : Bool} {text : List Char} (h : number negative text = .error defect) :
      defect.offset = 0 := by
    unfold number at h
    extract_lets sign whole rest fraction written after mark left length digits n at h
    split at h
    · cases h
      rfl
    split at h
    · cases h
    split at h
    · cases h
    · cases h
      rfl
  rw [lexeme] at h
  split_ifs at h with _ _ _ _ _ _ hname
  · exact .inl (hstring (map_eq_error.1 h))
  · exact .inl (hnumber h)
  · exact .inl (hnumber h)
  · refine (word_eq_error hname h).imp_right ?_
    rintro ⟨more, after, rfl, hoffset, hword⟩
    exact ⟨more, after, rfl, hoffset, (lexeme_of_isNameStart hname more).trans hword⟩
  · cases h
    exact .inl rfl

/-! ## Places up to which a text is read -/

/-- A place of a text that starts at a position and of which the first `passed` characters belong to
a token already read.  A character that is not blank stands there, and the text is read if it is cut
off in front of it. -/
def Reaches (position passed : Nat) (text : List Char) (place : Nat) : Prop :=
  ∃ n, place = position + n ∧ passed ≤ n ∧ (∃ c, text[n]? = some c ∧ isBlank c = false)
    ∧ ∃ tokens, scan position passed (text.take n) = .ok tokens

namespace Reaches

variable {position passed place : Nat}

/-- The place where a token starts. -/
theorem start (hc : isBlank c = false) (rest : List Char) :
    Reaches position 0 (c :: rest) position :=
  ⟨0, rfl, Nat.le_refl 0, ⟨c, rfl, hc⟩, [], rfl⟩

theorem passed_cons (h : Reaches (position + 1) passed rest place) :
    Reaches position (passed + 1) (c :: rest) place := by
  obtain ⟨n, rfl, hn, hplace, tokens, hscan⟩ := h
  refine ⟨n + 1, by omega, Nat.succ_le_succ hn, hplace, tokens, ?_⟩
  rw [List.take_succ_cons, scan, hscan]

theorem blank_cons (hc : isBlank c = true) (h : Reaches (position + 1) 0 rest place) :
    Reaches position 0 (c :: rest) place := by
  obtain ⟨n, rfl, -, hplace, tokens, hscan⟩ := h
  refine ⟨n + 1, by omega, Nat.zero_le _, hplace, tokens, ?_⟩
  rw [List.take_succ_cons, scan, if_pos hc, hscan]

/-- Behind a token that is read: if the text is cut off there, the token is still the same. -/
theorem lexeme_cons (hc : isBlank c = false) (hlexeme : lexeme c rest = .ok (kind, length))
    (h : Reaches (position + 1) (length - 1) rest place) :
    Reaches position 0 (c :: rest) place := by
  obtain ⟨n, rfl, hn, hplace, tokens, hscan⟩ := h
  obtain ⟨more, after, rfl, rfl, hlater⟩ := lexeme_of_isPrefix hlexeme
  have hcut : (more ++ after).take n = more ++ after.take (n - more.length) := by
    rw [List.take_append, List.take_of_length_le hn]
  refine ⟨n + 1, by omega, Nat.zero_le _, hplace, ⟨kind, position⟩ :: tokens, ?_⟩
  rw [List.take_succ_cons, scan, hc, if_neg Bool.false_ne_true]
  rw [hcut] at hscan ⊢
  rw [hlater _ (List.take_prefix _ _)]
  show (scan _ _ _).map _ = _
  rw [hscan]
  rfl

/-- The place at which no lexeme can be read. -/
theorem defect (hc : isBlank c = false) {defect : Defect} (h : lexeme c rest = .error defect) :
    Reaches position 0 (c :: rest) (position + defect.offset) := by
  rcases lexeme_eq_error h with hoffset | ⟨more, after, rfl, hoffset, hname⟩
  · rw [hoffset]
    exact start hc rest
  · refine ⟨defect.offset, rfl, Nat.zero_le _, ⟨'\'', ?_, by decide⟩,
      [⟨.identifier (String.ofList (c :: more)), position⟩], ?_⟩
    · rw [hoffset, List.getElem?_cons_succ, List.getElem?_append_right (Nat.le_refl _),
        Nat.sub_self, List.getElem?_cons_zero]
    · have hscan : scan position 0 (c :: (more ++ [])) = _ :=
        scan_lexeme position more hc (by rwa [List.append_nil])
      rw [List.append_nil] at hscan
      rw [hoffset, List.take_succ_cons, List.take_left]
      exact hscan

end Reaches

/-- **The places of the tokens of a text can be reached**, and so can the place at which it cannot
be read on: by induction over the text, one step of the reading at a time. -/
theorem reaches_of_scan (position passed : Nat) (text : List Char) :
    (∀ tokens, scan position passed text = .ok tokens →
        ∀ token ∈ tokens, Reaches position passed text token.position)
      ∧ ∀ failure, scan position passed text = .error failure →
        Reaches position passed text failure.position := by
  induction text generalizing position passed with
  | nil =>
    constructor
    · intro tokens h
      cases passed <;> cases h <;> exact List.forall_mem_nil _
    · intro failure h
      cases passed <;> cases h
  | cons c rest ih =>
    cases passed with
    | succ passed =>
      rw [scan]
      obtain ⟨htokens, hfailure⟩ := ih (position + 1) passed
      exact ⟨fun tokens h token htoken => (htokens tokens h token htoken).passed_cons,
        fun failure h => (hfailure failure h).passed_cons⟩
    | zero =>
      rw [scan]
      cases hc : isBlank c with
      | true =>
        rw [if_pos rfl]
        obtain ⟨htokens, hfailure⟩ := ih (position + 1) 0
        exact ⟨fun tokens h token htoken => (htokens tokens h token htoken).blank_cons hc,
          fun failure h => (hfailure failure h).blank_cons hc⟩
      | false =>
        rw [if_neg Bool.false_ne_true]
        cases hlexeme : lexeme c rest with
        | error defect =>
          refine ⟨fun tokens h => (by cases h), fun failure h => ?_⟩
          cases h
          exact .defect hc hlexeme
        | ok found =>
          obtain ⟨kind, length⟩ := found
          obtain ⟨htokens, hfailure⟩ := ih (position + 1) (length - 1)
          constructor
          · intro tokens h
            obtain ⟨later, hlater, rfl⟩ := map_eq_ok.1 h
            refine List.forall_mem_cons.2 ⟨.start hc rest, fun token htoken => ?_⟩
            exact (htokens later hlater token htoken).lexeme_cons hc hlexeme
          · intro failure h
            exact (hfailure failure (map_eq_error.1 h)).lexeme_cons hc hlexeme

end Lexer
end ODataQuery
