import ODataQuery.Proofs.QueryString.Decimals
import ODataQuery.Proofs.QueryString.Printing
import ODataQuery.QueryString.OrderBy

/-!
# Spelled tokens are read back

Tokens are spelled one after the other, with blanks between them.  Reading gives the same tokens,
each at the place where its spelling starts.

* `TokenKind.spelling`, `TokenKind.IsSpellable`: how a token is spelled, and which are.
* `Lexer.Piece`: a token with the blanks after it; `Lexer.spelled` is the text of several of them,
  and `Lexer.placed` has their tokens with their places.
* `Lexer.isSpelling_of_isSpellable`: every such token is read back before everything that ends it.
* `Lexer.tokenize_spelled`: so are all of them, one after the other.
* `Lexer.tokenize_text_iff`: which values are written as one token, theirs.
-/

set_option autoImplicit false

namespace ODataQuery

open Text

/-! ## The spelling of a token -/

/-- How a token is spelled: a literal is written as its value is, and an identifier as it is. -/
def TokenKind.spelling : TokenKind → String
  | identifier word => word
  | integer i => (Value.int i).text
  | decimal x => (Value.float x).text
  | string s => (Value.string s).text
  | dateTime t => (Value.dateTime t).text
  | openParen => "("
  | closeParen => ")"
  | comma => ","

/-- Is the spelling of the token one token.  Identifiers have to be names, and decimals have to be
written without an exponent. -/
def TokenKind.IsSpellable : TokenKind → Prop
  | identifier word => Lexer.isName word = true
  | decimal x => Number.IsPlain x
  | _ => True

namespace Lexer

/-- **The spelling of a token is read back**, before everything that ends it. -/
theorem isSpelling_of_isSpellable {kind : TokenKind} (h : kind.IsSpellable) :
    IsSpelling kind.spelling.toList kind := by
  cases kind with
  | identifier word => exact isSpelling_name h
  | integer i => exact isSpelling_integer i
  | decimal x => exact isSpelling_decimal h
  | string s => exact isSpelling_string s
  | dateTime t => exact isSpelling_dateTime t
  | openParen => exact ⟨'(', [], rfl, by decide, fun _ _ => rfl⟩
  | closeParen => exact ⟨')', [], rfl, by decide, fun _ _ => rfl⟩
  | comma => exact ⟨',', [], rfl, by decide, fun _ _ => rfl⟩

/-! ## Blanks -/

/-- Blanks are skipped, and count for the places of what follows. -/
theorem scan_blanks {blanks : List Char} (hblanks : ∀ c ∈ blanks, isBlank c = true)
    (rest : List Char) (position : Nat) :
    scan position 0 (blanks ++ rest) = scan (position + blanks.length) 0 rest := by
  induction blanks generalizing position with
  | nil => rfl
  | cons c blanks ih =>
    rw [List.forall_mem_cons] at hblanks
    rw [List.cons_append, scan, if_pos hblanks.1, ih hblanks.2, List.length_cons, Nat.add_assoc,
      Nat.add_comm 1]

/-- Blanks end a token, as the end of the text does. -/
theorem ends_blanks {blanks rest : List Char} (hblanks : ∀ c ∈ blanks, isBlank c = true)
    (hrest : blanks = [] → Ends rest) : Ends (blanks ++ rest) := by
  cases blanks with
  | nil => exact hrest rfl
  | cons c blanks => exact ends_blank (hblanks c List.mem_cons_self) (blanks ++ rest)

/-! ## Spelled tokens -/

/-- A token and the blanks that follow it. -/
structure Piece where
  kind : TokenKind
  blanks : List Char

/-- The text of a token and of the blanks that follow it. -/
def Piece.text (piece : Piece) : List Char :=
  piece.kind.spelling.toList ++ piece.blanks

/-- The text of tokens that are spelled one after the other. -/
def spelled (pieces : List Piece) : List Char :=
  pieces.flatMap Piece.text

/-- The tokens of a text that starts at a position, each at the place where it is spelled. -/
def placed (position : Nat) : List Piece → List Token
  | [] => []
  | piece :: pieces => ⟨piece.kind, position⟩ :: placed (position + piece.text.length) pieces

theorem map_kind_placed (position : Nat) (pieces : List Piece) :
    (placed position pieces).map Token.kind = pieces.map Piece.kind := by
  induction pieces generalizing position with
  | nil => rfl
  | cons piece pieces ih => rw [placed, List.map_cons, List.map_cons, ih]

/-- The tokens can be spelled, there is nothing but blanks between them, and any two are apart. -/
structure Separated (pieces : List Piece) : Prop where
  isSpellable : ∀ piece ∈ pieces, piece.kind.IsSpellable
  isBlank : ∀ piece ∈ pieces, ∀ c ∈ piece.blanks, isBlank c = true
  blanks_ne_nil : ∀ piece ∈ pieces.dropLast, piece.blanks ≠ []

theorem Separated.tail {piece : Piece} {pieces : List Piece} (h : Separated (piece :: pieces)) :
    Separated pieces where
  isSpellable other hother := h.isSpellable other (List.mem_cons_of_mem piece hother)
  isBlank other hother := h.isBlank other (List.mem_cons_of_mem piece hother)
  blanks_ne_nil other hother := h.blanks_ne_nil other (by
    cases pieces with
    | nil => cases hother
    | cons next pieces => exact List.mem_cons_of_mem piece hother)

/-- What follows a token does not go on with it. -/
theorem Separated.ends {piece : Piece} {pieces : List Piece} (h : Separated (piece :: pieces)) :
    Ends (piece.blanks ++ spelled pieces) := by
  refine ends_blanks (h.isBlank piece List.mem_cons_self) fun hnil => ?_
  cases pieces with
  | nil => exact ends_nil
  | cons next pieces => exact absurd hnil (h.blanks_ne_nil piece List.mem_cons_self)

/-- Spelled tokens are read back, wherever their text starts. -/
theorem scan_spelled {pieces : List Piece} (h : Separated pieces) (position : Nat) :
    scan position 0 (spelled pieces) = .ok (placed position pieces) := by
  induction pieces generalizing position with
  | nil => rfl
  | cons piece pieces ih =>
    have hpiece := isSpelling_of_isSpellable (h.isSpellable piece List.mem_cons_self)
    have hblanks := h.isBlank piece List.mem_cons_self
    have htext : spelled (piece :: pieces)
        = piece.kind.spelling.toList ++ (piece.blanks ++ spelled pieces) := by
      rw [spelled, List.flatMap_cons, Piece.text, List.append_assoc]
      rfl
    rw [htext, hpiece.scan_append h.ends, scan_blanks hblanks, ih h.tail, placed, Piece.text,
      List.length_append, Nat.add_assoc]
    rfl

/-- **Reading undoes spelling.**  After blanks, tokens that are spelled with blanks between them are
read as these tokens, each at the place of its first character; and both parsers take the number of
characters for the place of the end. -/
theorem tokenize_spelled {lead : List Char} {pieces : List Piece} {text : String}
    (hlead : ∀ c ∈ lead, isBlank c = true) (hpieces : Separated pieces)
    (htext : text.toList = lead ++ spelled pieces) :
    tokenize text = .ok (placed lead.length pieces)
      ∧ (∀ schema, Filter.parse schema text
          = Filter.ofTokens ⟨schema, lead.length + (spelled pieces).length⟩
            (placed lead.length pieces))
      ∧ ∀ schema, OrderBy.parse schema text
          = OrderBy.ofTokens schema (lead.length + (spelled pieces).length)
            (placed lead.length pieces) := by
  have htokens : tokenize text = .ok (placed lead.length pieces) := by
    rw [tokenize, htext, scan_blanks hlead, Nat.zero_add, scan_spelled hpieces]
  have hlength : text.length = lead.length + (spelled pieces).length := by
    rw [← String.length_toList, htext, List.length_append]
  refine ⟨htokens, fun schema => ?_, fun schema => ?_⟩
  · rw [Filter.parse, htokens, hlength]
    rfl
  · rw [OrderBy.parse, htokens, hlength]
    rfl

/-- A name before a string, the last second of a year with a leap second, and the least integer. -/
theorem tokenize_spelled_of_each_kind :
    let midnight : DateTime := ⟨2016, 12, 31, 23, 59, 60, 1, by decide, by decide⟩
    let pieces : List Piece :=
      [⟨.identifier "datetime", [' ']⟩, ⟨.string "l'été", ['\t', ' ']⟩, ⟨.openParen, [' ']⟩,
        ⟨.dateTime midnight, ['\n']⟩, ⟨.comma, [' ']⟩, ⟨.integer (-9223372036854775808), [' ']⟩,
        ⟨.closeParen, []⟩]
    Separated pieces
      ∧ tokenize (" datetime 'l''été'\t ( datetime'2016-12-31T23:59:60.000000001'\n, "
            ++ "-9223372036854775808 )")
          = .ok [⟨.identifier "datetime", 1⟩, ⟨.string "l'été", 10⟩, ⟨.openParen, 20⟩,
            ⟨.dateTime midnight, 22⟩, ⟨.comma, 62⟩, ⟨.integer (-9223372036854775808), 64⟩,
            ⟨.closeParen, 85⟩] := by
  intro midnight pieces
  have hpieces : Separated pieces := by
    refine ⟨?_, ?_, by decide⟩ <;> simp only [pieces, List.forall_mem_cons]
    · simp only [TokenKind.IsSpellable, true_and]
      exact ⟨by decide, by simp⟩
    · simp only [List.not_mem_nil, false_implies, implies_true, and_true]
      decide
  have htext : (" datetime 'l''été'\t ( datetime'2016-12-31T23:59:60.000000001'\n, "
      ++ "-9223372036854775808 )").toList = [' '] ++ spelled pieces := by
    decide
  have hplaced : placed 1 pieces = [⟨.identifier "datetime", 1⟩, ⟨.string "l'été", 10⟩,
      ⟨.openParen, 20⟩, ⟨.dateTime midnight, 22⟩, ⟨.comma, 62⟩,
      ⟨.integer (-9223372036854775808), 64⟩, ⟨.closeParen, 85⟩] := by
    decide
  rw [← hplaced]
  exact ⟨hpieces, (tokenize_spelled (List.forall_mem_singleton.2 (by decide)) hpieces htext).1⟩

/-! ## Written values -/

/-- A value is written as its token is spelled. -/
theorem spelling_token (value : Value) : value.token.spelling = value.text := by
  cases value with
  | bool b => cases b <;> rfl
  | _ => rfl

/-- The tokens of all values can be spelled, but for doubles that are written with an exponent. -/
theorem isSpellable_token {value : Value} (h : ∀ x, value = .float x → Number.IsPlain x) :
    value.token.IsSpellable := by
  cases value with
  | null => exact (by decide : isName "null" = true)
  | bool b =>
    cases b with
    | false => exact (by decide : isName "false" = true)
    | true => exact (by decide : isName "true" = true)
  | float x => exact h x rfl
  | int i => trivial
  | string s => trivial
  | dateTime t => trivial

/-- **A written value is read back** as the one token of the value, exactly if it is no double that
is written with an exponent or as a word. -/
theorem tokenize_text_iff (value : Value) :
    tokenize value.text = .ok [⟨value.token, 0⟩]
      ↔ ∀ x, value = .float x → Number.IsPlain x := by
  constructor
  · rintro h x rfl
    by_contra hplain
    exact tokenize_write_ne hplain h
  · intro h
    have hspelling := isSpelling_of_isSpellable (isSpellable_token h)
    have hscan := hspelling.scan_append ends_nil 0
    rw [List.append_nil, spelling_token] at hscan
    rw [tokenize, hscan]
    rfl

/-- The literal of ten million billions is read, but not what it is written as. -/
theorem exists_tokenize_text_ne :
    tokenize "10000000000000000.0" = .ok [⟨(Value.float 1e16).token, 0⟩]
      ∧ (Value.float 1e16).text = "1e16"
      ∧ tokenize (Value.float 1e16).text = .error ⟨0, .malformedNumber "1"⟩ := by
  decide +kernel

/-- The sum of a tenth and a fifth has seventeen digits. -/
example : tokenize (Value.float (0.1 + 0.2)).text = .ok [⟨.decimal 0.30000000000000004, 0⟩] := by
  decide

end Lexer
end ODataQuery
