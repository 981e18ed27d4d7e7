import ODataQuery.Number.Integer
import ODataQuery.QueryString.Token
import ODataQuery.Text.Quoted

/-!
# Reading tokens

A text is read as tokens from its start to its end; blanks separate tokens and are skipped.

* `lexeme` reads the token a text starts with and says how many characters it has.
* `scan` walks over the text one character at a time.  Where a token starts, it is read at once and
  the characters it has are then passed over, so that the walk ends with the text.
-/

set_option autoImplicit false

namespace ODataQuery
namespace Lexer

open Text

/-- A fault at a distance from the start of a token. -/
structure Defect where
  offset : Nat := 0
  fault : Fault
  deriving DecidableEq

/-- What a lexeme is: its token, and how many characters it has. -/
abbrev Lexeme := TokenKind × Nat

/-- The suffixes that make a number an integer, or a decimal. -/
inductive Suffix where
  | none
  | integer
  | decimal
  deriving DecidableEq, Repr

/-- The suffix a text starts with.  A number with a fraction is no integer. -/
def suffix (hasFraction : Bool) : List Char → Suffix
  | c :: _ =>
    if !hasFraction && (c == 'L' || c == 'l') then .integer
    else if c == 'd' || c == 'D' || c == 'f' || c == 'F' || c == 'm' || c == 'M' then .decimal
    else .none
  | [] => .none

/-- The digits after a point, if a digit follows the point. -/
def fractionDigits : List Char → List Char
  | '.' :: digits => digits.takeWhile isAsciiDigit
  | _ => []

/-- Read a number: digits, perhaps a fraction, perhaps a suffix.  A name may not follow. -/
def number (negative : Bool) (text : List Char) : Except Defect Lexeme :=
  let sign := if negative then ['-'] else []
  let whole := text.takeWhile isAsciiDigit
  let rest := text.dropWhile isAsciiDigit
  let fraction := fractionDigits rest
  let written := sign ++ whole ++ if fraction.isEmpty then [] else '.' :: fraction
  let rest := if fraction.isEmpty then rest else rest.drop (fraction.length + 1)
  let mark := suffix (!fraction.isEmpty) rest
  let rest := if mark = .none then rest else rest.drop 1
  let length := written.length + if mark = .none then 0 else 1
  if (rest.head?.map isNamePart).getD false then
    .error { fault := .malformedNumber (String.ofList written) }
  else if mark = .decimal ∨ !fraction.isEmpty then
    let digits := digitsValue (whole ++ fraction)
    .ok (.decimal (Number.ofDecimal negative ⟨digits, -fraction.length⟩), length)
  else
    let n : Int := digitsValue whole
    match Number.integer? (if negative then -n else n) with
    | some i => .ok (.integer i, length)
    | none => .error { fault := .integerOutOfRange (String.ofList written) }

/-- Read the string after its opening quote: its text, and how many characters it has with both
quotes. -/
def string (text : List Char) : Except Defect (List Char × Nat) :=
  match Quoted.decode '\'' text with
  | some (value, rest) => .ok (value, text.length - rest.length + 1)
  | none => .error { fault := .unterminatedString }

/-- Read a word, or the literal of a point of time that starts with one. -/
def word (text : List Char) : Except Defect Lexeme :=
  let name := text.takeWhile isNamePart
  match text.dropWhile isNamePart with
  | '\'' :: rest =>
    if name = "datetime".toList then
      match string rest with
      | .ok (value, length) =>
        match DateTime.readLiteral? value with
        | some t => .ok (.dateTime t, name.length + length)
        | none => .error { fault := .malformedDateTime (String.ofList value) }
      | .error defect => .error { defect with offset := name.length }
    else .ok (.identifier (String.ofList name), name.length)
  | _ => .ok (.identifier (String.ofList name), name.length)

/-- Read the token that a text starts with; the first character is given apart. -/
def lexeme (c : Char) (rest : List Char) : Except Defect Lexeme :=
  if c = '(' then .ok (.openParen, 1)
  else if c = ')' then .ok (.closeParen, 1)
  else if c = ',' then .ok (.comma, 1)
  else if c = '\'' then
    (string rest).map fun (value, length) => (.string (String.ofList value), length)
  else if c = '-' ∧ (rest.head?.map isAsciiDigit).getD false then number true rest
  else if isAsciiDigit c then number false (c :: rest)
  else if isNameStart c then word (c :: rest)
  else .error { fault := .unexpectedCharacter c }

/-- The tokens of a text that starts at a position and of which the first `passed` characters belong
to a token already read. -/
def scan (position : Nat) : (passed : Nat) → List Char → Except Failure (List Token)
  | _, [] => .ok []
  | passed + 1, _ :: rest => scan (position + 1) passed rest
  | 0, c :: rest =>
    if isBlank c then scan (position + 1) 0 rest
    else
      match lexeme c rest with
      | .error defect => .error ⟨position + defect.offset, defect.fault⟩
      | .ok (kind, length) =>
        (scan (position + 1) (length - 1) rest).map (⟨kind, position⟩ :: ·)

/-- The tokens of a text. -/
def tokenize (text : String) : Except Failure (List Token) :=
  scan 0 0 text.toList

end Lexer
end ODataQuery
