/-!
# Decoding UTF-8 that may be malformed

Bytes that are no UTF-8 decode to U+FFFD: one for each longest run of bytes that starts a character
but does not finish it, and one for each byte that can start none.  The decoder reads one byte at a
time and remembers the character it is inside of.

* `Progress`: the bits read so far, how many bytes are owed, and which values the next may have.
* `decode`: the characters of a list of bytes; `encode` is the core library's encoding.
-/

set_option autoImplicit false

namespace ODataQuery
namespace Text
namespace Utf8

/-- A character whose first bytes are read: the bits so far, the bytes owed, and the least and the
greatest value of the next one. -/
structure Progress where
  bits : Nat
  owed : Nat
  least : Nat
  greatest : Nat
  deriving DecidableEq, Repr

/-- What stands for bytes that are no UTF-8. -/
def replacement : Char := Char.ofNat 0xFFFD

/-- Read the first byte of a character: a whole character, a character begun, or no UTF-8. -/
def lead (byte : Nat) : List Char × Option Progress :=
  if byte < 0x80 then ([Char.ofNat byte], none)
  else if byte < 0xC2 then ([replacement], none)
  else if byte < 0xE0 then ([], some ⟨byte - 0xC0, 1, 0x80, 0xBF⟩)
  else if byte = 0xE0 then ([], some ⟨0, 2, 0xA0, 0xBF⟩)
  else if byte = 0xED then ([], some ⟨0xD, 2, 0x80, 0x9F⟩)
  else if byte < 0xF0 then ([], some ⟨byte - 0xE0, 2, 0x80, 0xBF⟩)
  else if byte = 0xF0 then ([], some ⟨0, 3, 0x90, 0xBF⟩)
  else if byte < 0xF4 then ([], some ⟨byte - 0xF0, 3, 0x80, 0xBF⟩)
  else if byte = 0xF4 then ([], some ⟨4, 3, 0x80, 0x8F⟩)
  else ([replacement], none)

/-- Read one byte: the characters it completes, and the character it leaves begun. -/
def step (progress : Option Progress) (byte : Nat) : List Char × Option Progress :=
  match progress with
  | none => lead byte
  | some ⟨bits, owed, least, greatest⟩ =>
    if least ≤ byte ∧ byte ≤ greatest then
      let bits := 64 * bits + (byte - 0x80)
      if owed ≤ 1 then ([Char.ofNat bits], none) else ([], some ⟨bits, owed - 1, 0x80, 0xBF⟩)
    else
      let (characters, next) := lead byte
      (replacement :: characters, next)

/-- The characters of the bytes that follow an unfinished character. -/
def decodeFrom (progress : Option Progress) : List UInt8 → List Char
  | [] => if progress.isSome then [replacement] else []
  | byte :: rest =>
    let (characters, next) := step progress byte.toNat
    characters ++ decodeFrom next rest

/-- The characters of a list of bytes. -/
def decode (bytes : List UInt8) : List Char :=
  decodeFrom none bytes

/-- The bytes of a list of characters. -/
def encode (text : List Char) : List UInt8 :=
  text.flatMap String.utf8EncodeChar

end Utf8
end Text
end ODataQuery
