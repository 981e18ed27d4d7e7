import ODataQuery.Text.Utf8

/-!
# Encoded text is decoded

A character is written as one to four bytes.  The first says how many there are, and each of the
others adds six bits; so reading them gives the character back, whatever follows.

* `Utf8.lead_of_two`, `lead_of_three`, `lead_of_four`: what the first byte of a longer character
  says; `Utf8.step_inner` and `step_last` are the steps over the others.
* `Utf8.decodeFrom_character`: the bytes of a character are read as the character.
* `Utf8.decode_encode`: reading undoes writing.
-/

set_option autoImplicit false

namespace ODataQuery
namespace Text
namespace Utf8

/-! ## Single bytes -/

theorem lead_of_two {bits : Nat} (hleast : 2 ≤ bits) (hgreatest : bits < 0x20) :
    lead (bits + 0xC0) = ([], some ⟨bits, 1, 0x80, 0xBF⟩) := by
  rw [lead, if_neg (by omega), if_neg (by omega), if_pos (by omega), Nat.add_sub_cancel]

/-- The second byte of three excludes values that are too small and surrogates. -/
theorem lead_of_three {bits second : Nat} (hbits : bits < 0x10) (hsecond : second < 0x40)
    (hleast : 0x20 ≤ 0x40 * bits + second)
    (hsurrogate : bits = 0xD → second < 0x20) :
    ∃ least greatest, lead (bits + 0xE0) = ([], some ⟨bits, 2, least, greatest⟩)
      ∧ least ≤ second + 0x80 ∧ second + 0x80 ≤ greatest := by
  rw [lead, if_neg (by omega), if_neg (by omega), if_neg (by omega)]
  by_cases hfirst : bits = 0
  · subst hfirst
    exact ⟨_, _, if_pos rfl, by omega, by omega⟩
  by_cases hlast : bits = 0xD
  · subst hlast
    have := hsurrogate rfl
    exact ⟨_, _, rfl, by omega, by omega⟩
  · rw [if_neg (by omega), if_neg (by omega), if_pos (by omega), Nat.add_sub_cancel]
    exact ⟨_, _, rfl, by omega, by omega⟩

/-- The second byte of four excludes values that are too small or too great. -/
theorem lead_of_four {bits second : Nat} (hsecond : second < 0x40)
    (hleast : 0x10 ≤ 0x40 * bits + second) (hgreatest : 0x40 * bits + second < 0x110) :
    ∃ least greatest, lead (bits + 0xF0) = ([], some ⟨bits, 3, least, greatest⟩)
      ∧ least ≤ second + 0x80 ∧ second + 0x80 ≤ greatest := by
  rw [lead, if_neg (by omega), if_neg (by omega), if_neg (by omega), if_neg (by omega),
    if_neg (by omega), if_neg (by omega)]
  by_cases hfirst : bits = 0
  · subst hfirst
    exact ⟨_, _, if_pos rfl, by omega, by omega⟩
  by_cases hlast : bits = 4
  · subst hlast
    exact ⟨_, _, rfl, by omega, by omega⟩
  · rw [if_neg (by omega), if_pos (by omega), Nat.add_sub_cancel]
    exact ⟨_, _, rfl, by omega, by omega⟩

/-- A byte inside a character adds its bits. -/
theorem step_inner {bits owed least greatest six : Nat} (howed : 1 < owed)
    (hleast : least ≤ six + 0x80) (hgreatest : six + 0x80 ≤ greatest) :
    step (some ⟨bits, owed, least, greatest⟩) (six + 0x80)
      = ([], some ⟨64 * bits + six, owed - 1, 0x80, 0xBF⟩) := by
  rw [step, if_pos ⟨hleast, hgreatest⟩, Nat.add_sub_cancel]
  exact if_neg (by omega)

/-- The last byte of a character completes it. -/
theorem step_last {bits least greatest six : Nat} (hleast : least ≤ six + 0x80)
    (hgreatest : six + 0x80 ≤ greatest) :
    step (some ⟨bits, 1, least, greatest⟩) (six + 0x80)
      = ([Char.ofNat (64 * bits + six)], none) := by
  rw [step, if_pos ⟨hleast, hgreatest⟩, Nat.add_sub_cancel]
  rfl

/-! ## Characters -/

theorem decodeFrom_cons {progress next : Option Progress} {byte : Nat} {characters : List Char}
    (hbyte : byte < 256) (h : step progress byte = (characters, next)) (rest : List UInt8) :
    decodeFrom progress (UInt8.ofNat byte :: rest) = characters ++ decodeFrom next rest := by
  rw [decodeFrom, UInt8.toNat_ofNat_of_lt' hbyte, h]

/-- **The bytes of a character are read as the character**, by the number of bytes. -/
theorem decodeFrom_character (c : Char) (rest : List UInt8) :
    decodeFrom none (String.utf8EncodeChar c ++ rest) = c :: decodeFrom none rest := by
  have hvalid : c.val.toNat < 0xD800 ∨ 0xDFFF < c.val.toNat ∧ c.val.toNat < 0x110000 := c.valid
  have hself : Char.ofNat c.val.toNat = c := Char.ofNat_toNat c
  rw [String.utf8EncodeChar]
  generalize c.val.toNat = code at hvalid hself ⊢
  rw [← hself]
  split
  · have hlead : step none code = ([Char.ofNat code], none) := if_pos (by omega)
    rw [List.singleton_append, decodeFrom_cons (by omega) hlead]
    rfl
  split
  · have hlead : step none (code / 64 % 32 + 0xC0) = _ := lead_of_two (by omega) (by omega)
    have hcode : 64 * (code / 64 % 32) + code % 64 = code := by omega
    rw [List.cons_append, List.singleton_append, decodeFrom_cons (by omega) hlead,
      decodeFrom_cons (by omega) (step_last (by omega) (by omega)), hcode]
    rfl
  split
  · have hbits : code / 4096 % 16 < 0x10 := by omega
    have hsecond : code / 64 % 64 < 0x40 := by omega
    obtain ⟨least, greatest, hlead, hleast, hgreatest⟩ :=
      lead_of_three hbits hsecond (by omega) (by omega)
    have hcode : 64 * (64 * (code / 4096 % 16) + code / 64 % 64) + code % 64 = code := by omega
    rw [List.cons_append, List.cons_append, List.singleton_append,
      decodeFrom_cons (by omega) (show step none _ = _ from hlead),
      decodeFrom_cons (by omega) (step_inner (by omega) hleast hgreatest),
      decodeFrom_cons (by omega) (step_last (by omega) (by omega)), hcode]
    rfl
  · have hsecond : code / 4096 % 64 < 0x40 := by omega
    have hfirst : 0x10 ≤ 0x40 * (code / 262144 % 8) + code / 4096 % 64 := by omega
    obtain ⟨least, greatest, hlead, hleast, hgreatest⟩ :=
      lead_of_four hsecond hfirst (by omega)
    have hcode : 64 * (64 * (64 * (code / 262144 % 8) + code / 4096 % 64) + code / 64 % 64)
        + code % 64 = code := by omega
    rw [List.cons_append, List.cons_append, List.cons_append, List.singleton_append,
      decodeFrom_cons (by omega) (show step none _ = _ from hlead),
      decodeFrom_cons (by omega) (step_inner (by omega) hleast hgreatest),
      decodeFrom_cons (by omega) (step_inner (by omega) (by omega) (by omega)),
      decodeFrom_cons (by omega) (step_last (by omega) (by omega)), hcode]
    rfl

/-- **Reading undoes writing.** -/
theorem decode_encode (text : List Char) : decode (encode text) = text := by
  rw [decode, encode]
  induction text with
  | nil => rfl
  | cons c rest ih => rw [List.flatMap_cons, decodeFrom_character, ih]

end Utf8
end Text
end ODataQuery
