import ODataQuery.Proofs.Text.Parts
import ODataQuery.Proofs.Text.Utf8
import ODataQuery.Text.FormEncoding

/-!
# Form-encoded pairs are decoded

No byte of a name or a value is written as a separator, so the written pairs can be taken apart at
their separators; and each byte is written so that it is read as itself.

* `FormEncoding.forall_mem_escapeByte`: which characters are written for a byte.
* `FormEncoding.unescape_written`: a name or a value is read back.
* `FormEncoding.splitAt_eq_splitOn`, `FormEncoding.decodePair_written`: the pairs are taken apart.
* `FormEncoding.decode_encode`: so reading undoes writing.
* `FormEncoding.not_mem_encode`: a written text holds no question mark.
-/

set_option autoImplicit false

namespace ODataQuery
namespace Text
namespace FormEncoding

/-! ## Bytes -/

/-- A byte is written in ASCII, without separators and question marks. -/
theorem forall_mem_escapeByte (byte : UInt8) : ∀ c ∈ escapeByte byte,
    c.toNat < 128 ∧ c ≠ '?' ∧ code c ≠ code '&' ∧ code c ≠ code '=' := by
  -- a Boolean check of all bytes: to decide the quantifiers themselves nests too deeply
  have hall : ((List.range 256).all fun n => (escapeByte (UInt8.ofNat n)).all fun c =>
      c.toNat < 128 ∧ c ≠ '?' ∧ code c ≠ code '&' ∧ code c ≠ code '=') = true := by
    decide +kernel
  have hbyte := List.all_eq_true.1 hall byte.toNat (List.mem_range.2 byte.toNat_lt)
  rw [UInt8.ofNat_toNat] at hbyte
  exact fun c hc => of_decide_eq_true (List.all_eq_true.1 hbyte c hc)

theorem hexValue?_hexDigit {value : UInt8} (h : value.toNat < 16) :
    hexValue? (code (hexDigit value)) = some value := by
  have hall : ∀ n < 16, hexValue? (code (hexDigit (UInt8.ofNat n))) = some (UInt8.ofNat n) := by
    decide
  have hvalue := hall value.toNat h
  rwa [UInt8.ofNat_toNat] at hvalue

theorem unescape_cons_of_ne {byte : UInt8} (h : byte ≠ code '%') (rest : List UInt8) :
    unescape (byte :: rest) = plain byte :: unescape rest := by
  rcases rest with _ | ⟨second, _ | ⟨third, rest⟩⟩
  · rfl
  · rfl
  · rw [unescape, if_neg h]

/-- A written byte is read as itself, whatever follows. -/
theorem unescape_escapeByte (byte : UInt8) (rest : List UInt8) :
    unescape ((escapeByte byte).map code ++ rest) = byte :: unescape rest := by
  rw [escapeByte]
  split
  · rename_i hspace
    rw [hspace]
    exact unescape_cons_of_ne (by decide) rest
  split
  · rename_i hplain
    have hcode : code (Char.ofNat byte.toNat) = byte := by
      have hvalid : byte.toNat.isValidChar := .inl (Nat.lt_trans byte.toNat_lt (by decide))
      rw [code, Char.ofNat, dif_pos hvalid]
      exact UInt8.ofNat_toNat
    have hne {other : UInt8} (hother : isPlain other = false) : byte ≠ other := by
      rintro rfl
      rw [hother] at hplain
      cases hplain
    rw [List.map_singleton, hcode, List.singleton_append,
      unescape_cons_of_ne (hne (by decide)), plain, if_neg (hne (by decide))]
  · have hbound := byte.toNat_lt
    have hhigh : (byte / 16).toNat < 16 := by
      rw [UInt8.toNat_div]
      exact Nat.div_lt_of_lt_mul hbound
    have hlow : (byte % 16).toNat < 16 := by
      rw [UInt8.toNat_mod]
      exact Nat.mod_lt _ (by decide)
    have hbyte : 16 * (byte / 16) + byte % 16 = byte := by
      rw [← UInt8.toNat_inj, UInt8.toNat_add, UInt8.toNat_mul, UInt8.toNat_div, UInt8.toNat_mod]
      show (16 * (byte.toNat / 16) % 256 + byte.toNat % 16) % 256 = byte.toNat
      omega
    show unescape (code '%' :: code (hexDigit (byte / 16)) :: code (hexDigit (byte % 16)) :: rest)
      = _
    rw [unescape, if_pos rfl, hexValue?_hexDigit hhigh, hexValue?_hexDigit hlow]
    dsimp only
    rw [hbyte]

/-! ## Names and values -/

/-- Texts in ASCII are written as their codes. -/
theorem encode_of_ascii {text : List Char} (h : ∀ c ∈ text, c.toNat < 128) :
    Utf8.encode text = text.map code := by
  rw [Utf8.encode, List.map_eq_flatMap]
  refine List.flatMap_congr fun c hc => ?_
  rw [String.utf8EncodeChar]
  exact if_pos (Nat.le_of_lt_succ (h c hc))

/-- The bytes of a written name or value. -/
def written (text : String) : List UInt8 :=
  (Utf8.encode text.toList).flatMap fun byte => (escapeByte byte).map code

theorem encode_escape (text : String) : Utf8.encode (escape text) = written text := by
  have hascii : ∀ c ∈ escape text, c.toNat < 128 := by
    intro c hc
    obtain ⟨byte, -, hc⟩ := List.mem_flatMap.1 hc
    exact (forall_mem_escapeByte byte c hc).1
  rw [encode_of_ascii hascii, escape, List.map_flatMap, written]

/-- A written name or value holds no separator. -/
theorem not_mem_written (text : String) : code '&' ∉ written text ∧ code '=' ∉ written text := by
  have hmem : ∀ byte ∈ written text, byte ≠ code '&' ∧ byte ≠ code '=' := by
    intro byte hbyte
    obtain ⟨origin, -, hbyte⟩ := List.mem_flatMap.1 hbyte
    obtain ⟨c, hc, rfl⟩ := List.mem_map.1 hbyte
    exact (forall_mem_escapeByte origin c hc).2.2
  exact ⟨fun h => (hmem _ h).1 rfl, fun h => (hmem _ h).2 rfl⟩

/-- **A written name or value is read back.** -/
theorem unescape_written (text : String) :
    String.ofList (Utf8.decode (unescape (written text))) = text := by
  have hbytes (bytes : List UInt8) :
      unescape (bytes.flatMap fun byte => (escapeByte byte).map code) = bytes := by
    induction bytes with
    | nil => rfl
    | cons byte rest ih => rw [List.flatMap_cons, unescape_escapeByte, ih]
  rw [written, hbytes, Utf8.decode_encode, String.ofList_toList]

/-! ## Pairs -/

theorem splitAt_eq_splitOn (separator : UInt8) (bytes : List UInt8) :
    splitAt separator bytes = bytes.splitOn separator := by
  induction bytes with
  | nil => rfl
  | cons byte rest ih =>
    rw [splitAt, List.splitOn_cons_eq_if_modifyHead, ih]
    by_cases h : byte = separator
    · rw [if_pos h, if_pos (beq_iff_eq.2 h)]
    · rw [if_neg h, if_neg (fun heq => h (beq_iff_eq.1 heq))]
      cases hparts : rest.splitOn separator with
      | nil => exact absurd hparts (List.splitOn_ne_nil _ _)
      | cons part parts => rfl

/-- The bytes of a written pair. -/
def writtenPair (pair : String × String) : List UInt8 :=
  written pair.1 ++ code '=' :: written pair.2

theorem not_mem_writtenPair (pair : String × String) : code '&' ∉ writtenPair pair := by
  rw [writtenPair, List.mem_append, List.mem_cons, not_or, not_or]
  exact ⟨(not_mem_written pair.1).1, by decide, (not_mem_written pair.2).1⟩

theorem encode_pair (pair : String × String) :
    Utf8.encode (escape pair.1 ++ '=' :: escape pair.2) = writtenPair pair := by
  have hequals : Utf8.encode ['='] = [code '='] := by decide
  rw [← List.singleton_append, Utf8.encode, List.flatMap_append, List.flatMap_append]
  show Utf8.encode _ ++ (Utf8.encode _ ++ Utf8.encode _) = _
  rw [encode_escape, encode_escape, hequals]
  rfl

/-- A written pair is read back: its first equals sign is the one between its name and its value. -/
theorem decodePair_written (pair : String × String) : decodePair (writtenPair pair) = pair := by
  have hname : ∀ byte ∈ written pair.1, decide (byte ≠ code '=') = true := by
    intro byte hbyte
    rw [decide_eq_true_eq]
    rintro rfl
    exact (not_mem_written pair.1).2 hbyte
  have htake : (code '=' :: written pair.2).takeWhile (· ≠ code '=') = [] := rfl
  have hdrop : (code '=' :: written pair.2).dropWhile (· ≠ code '=')
      = code '=' :: written pair.2 := rfl
  rw [decodePair, writtenPair, List.takeWhile_append_of_pos hname,
    List.dropWhile_append_of_pos hname, htake, hdrop, List.append_nil, List.drop_one,
    List.tail_cons]
  dsimp only
  rw [unescape_written, unescape_written]

/-- Separators are written between the bytes of the pieces, by induction on the pieces. -/
theorem encode_intercalate (pieces : List (List Char)) :
    Utf8.encode (['&'].intercalate pieces) = [code '&'].intercalate (pieces.map Utf8.encode) := by
  have hmark : Utf8.encode ['&'] = [code '&'] := by decide
  induction pieces with
  | nil => rfl
  | cons piece rest ih =>
    rcases rest with _ | ⟨next, rest⟩
    · rw [List.map_singleton, List.intercalate_singleton, List.intercalate_singleton]
    · have hne : next :: rest ≠ [] := List.cons_ne_nil _ _
      rw [List.map_cons, List.intercalate_cons_of_ne_nil hne,
        List.intercalate_cons_of_ne_nil (mt List.map_eq_nil_iff.1 hne), ← ih, ← hmark]
      simp only [Utf8.encode, List.flatMap_append]

/-- The bytes of written pairs are those of each pair, with `&` between them. -/
theorem encode_encode (pairs : List (String × String)) :
    Utf8.encode (encode pairs).toList = [code '&'].intercalate (pairs.map writtenPair) := by
  rw [encode, String.toList_ofList, encode_intercalate, List.map_map]
  exact congrArg _ (List.map_congr_left fun pair _ => encode_pair pair)

/-- **Reading undoes writing.** -/
theorem decode_encode (pairs : List (String × String)) : decode (encode pairs) = pairs := by
  rw [decode, encode_encode, splitAt_eq_splitOn]
  cases pairs with
  | nil => rfl
  | cons pair rest =>
    have hparts : ∀ part ∈ (pair :: rest).map writtenPair,
        code '&' ∉ part ∧ (!part.isEmpty) = true := by
      intro part hpart
      obtain ⟨origin, -, rfl⟩ := List.mem_map.1 hpart
      exact ⟨not_mem_writtenPair origin, by simp [writtenPair]⟩
    have hread : decodePair ∘ writtenPair = id := funext decodePair_written
    rw [List.splitOn_intercalate _ (fun part hpart => (hparts part hpart).1) (by simp),
      List.filter_eq_self.2 (fun part hpart => (hparts part hpart).2), List.map_map, hread,
      List.map_id]

/-- A written text holds no question mark: it is neither a separator nor part of a written byte. -/
theorem not_mem_encode (pairs : List (String × String)) : '?' ∉ (encode pairs).toList := by
  have hescape (text : String) : '?' ∉ escape text := by
    intro hmem
    obtain ⟨byte, -, hmem⟩ := List.mem_flatMap.1 hmem
    exact (forall_mem_escapeByte byte _ hmem).2.1 rfl
  have hpair (pair : String × String) : '?' ∉ escape pair.1 ++ '=' :: escape pair.2 := by
    rw [List.mem_append, List.mem_cons, not_or, not_or]
    exact ⟨hescape _, by decide, hescape _⟩
  rw [encode, String.toList_ofList]
  rcases List.eq_nil_or_concat pairs with rfl | ⟨init, last, rfl⟩
  · exact List.not_mem_nil
  · rw [List.concat_eq_append, List.map_append, List.map_singleton, intercalate_concat,
      List.mem_append, not_or]
    refine ⟨fun hmem => ?_, hpair last⟩
    obtain ⟨piece, hpiece, hmem⟩ := List.mem_flatMap.1 hmem
    obtain ⟨pair, -, rfl⟩ := List.mem_map.1 hpiece
    rcases List.mem_append.1 hmem with hmem | hmem
    · exact hpair pair hmem
    · exact absurd (List.mem_singleton.1 hmem) (by decide)

end FormEncoding
end Text
end ODataQuery
