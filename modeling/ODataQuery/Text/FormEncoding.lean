import ODataQuery.Text.Utf8

/-!
# Form encoding of name and value pairs

The text `name=value&name=value`, in which a space is written `+` and every byte but letters,
digits, `*`, `-`, `.` and `_` is written `%` and two hexadecimal digits.

* Reading (`decode`) is lenient: empty parts are skipped, a part without `=` is a name with an
  empty value, a `%` without two hexadecimal digits stands for itself, and bytes that are no UTF-8
  become U+FFFD.
* Writing (`encode`) is canonical.
-/

set_option autoImplicit false

namespace ODataQuery
namespace Text
namespace FormEncoding

/-- The ASCII code of a character, as a byte. -/
def code (c : Char) : UInt8 := UInt8.ofNat c.toNat

/-- The value of a hexadecimal digit. -/
def hexValue? (byte : UInt8) : Option UInt8 :=
  if code '0' ≤ byte ∧ byte ≤ code '9' then some (byte - code '0')
  else if code 'A' ≤ byte ∧ byte ≤ code 'F' then some (byte - code 'A' + 10)
  else if code 'a' ≤ byte ∧ byte ≤ code 'f' then some (byte - code 'a' + 10)
  else none

/-- The byte that a byte outside an escape stands for. -/
def plain (byte : UInt8) : UInt8 :=
  if byte = code '+' then code ' ' else byte

/-- The bytes that a name or a value stands for. -/
def unescape : List UInt8 → List UInt8
  | [] => []
  | [first] => [plain first]
  | [first, second] => [plain first, plain second]
  | first :: high :: low :: rest =>
    if first = code '%' then
      match hexValue? high, hexValue? low with
      | some high, some low => (16 * high + low) :: unescape rest
      | _, _ => first :: unescape (high :: low :: rest)
    else plain first :: unescape (high :: low :: rest)

/-- The parts of a list between occurrences of a separator. -/
def splitAt (separator : UInt8) : List UInt8 → List (List UInt8)
  | [] => [[]]
  | byte :: rest =>
    if byte = separator then [] :: splitAt separator rest
    else
      match splitAt separator rest with
      | [] => [[byte]]
      | part :: parts => (byte :: part) :: parts

/-- One part of the text, cut at its first `=`. -/
def decodePair (part : List UInt8) : String × String :=
  let read (bytes : List UInt8) := String.ofList (Utf8.decode (unescape bytes))
  (read (part.takeWhile (· ≠ code '=')), read ((part.dropWhile (· ≠ code '=')).drop 1))

/-- The pairs that a text holds. -/
def decode (text : String) : List (String × String) :=
  ((splitAt (code '&') (Utf8.encode text.toList)).filter (!·.isEmpty)).map decodePair

/-! ## Writing -/

/-- Is the byte written as the character it is the code of. -/
def isPlain (byte : UInt8) : Bool :=
  (code '0' ≤ byte && byte ≤ code '9') || (code 'A' ≤ byte && byte ≤ code 'Z')
    || (code 'a' ≤ byte && byte ≤ code 'z') || byte == code '*' || byte == code '-'
    || byte == code '.' || byte == code '_'

/-- The hexadecimal digit of a value below sixteen. -/
def hexDigit (value : UInt8) : Char :=
  Char.ofNat (if value < 10 then '0'.toNat + value.toNat else 'A'.toNat + (value.toNat - 10))

/-- The written form of one byte. -/
def escapeByte (byte : UInt8) : List Char :=
  if byte = code ' ' then ['+']
  else if isPlain byte then [Char.ofNat byte.toNat]
  else ['%', hexDigit (byte / 16), hexDigit (byte % 16)]

/-- The written form of a name or a value. -/
def escape (text : String) : List Char :=
  (Utf8.encode text.toList).flatMap escapeByte

/-- The text that holds a list of pairs. -/
def encode (pairs : List (String × String)) : String :=
  String.ofList (List.intercalate ['&'] (pairs.map fun pair =>
    escape pair.1 ++ '=' :: escape pair.2))

end FormEncoding
end Text
end ODataQuery
