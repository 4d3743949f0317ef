import Mathlib.Data.List.Basic

/-!
# Texts of ASCII characters

An ASCII character is one byte, so in a text of such characters a place can be counted either way.
It also works the other way round: bytes below 128 can only come from ASCII characters, and so a
check for digits may look at the bytes of a text without knowing where its characters begin.
-/

namespace TellerTerminal

theorem utf8Encode_of_ascii {chars : List Char} (hascii : ∀ c ∈ chars, c.val < 128) :
    chars.utf8Encode = (chars.map fun c => c.val.toUInt8).toByteArray := by
  have hbytes : chars.flatMap String.utf8EncodeChar = chars.map fun c => c.val.toUInt8 := by
    rw [List.map_eq_flatMap]
    refine List.flatMap_congr fun c hc => ?_
    have hle : c.val ≤ 127 := by grind
    exact String.utf8EncodeChar_eq_singleton (Char.utf8Size_eq_one_iff.mpr hle)
  rw [List.utf8Encode, hbytes]

section Places

variable {text : String}

theorem toByteArray_of_ascii (hascii : ∀ c ∈ text.toList, c.val < 128) :
    text.toByteArray = (text.toList.map fun c => c.val.toUInt8).toByteArray := by
  rw [← utf8Encode_of_ascii hascii, ← String.toByteArray_ofList, String.ofList_toList]

theorem utf8ByteSize_of_ascii (hascii : ∀ c ∈ text.toList, c.val < 128) :
    text.utf8ByteSize = text.toList.length := by
  rw [← String.size_toByteArray, toByteArray_of_ascii hascii]
  simp

/-- No byte offset of such a text lies within a character. -/
theorem isValid_of_ascii (hascii : ∀ c ∈ text.toList, c.val < 128) {offset : Nat}
    (hoffset : offset ≤ text.toList.length) : (String.Pos.Raw.mk offset).IsValid text := by
  have htake : ∀ c ∈ (String.ofList (text.toList.take offset)).toList, c.val < 128 := by
    intro c hc
    rw [String.toList_ofList] at hc
    exact hascii c (List.mem_of_mem_take hc)
  have hsize : (String.ofList (text.toList.take offset)).utf8ByteSize = offset := by
    rw [utf8ByteSize_of_ascii htake, String.toList_ofList, List.length_take_of_le hoffset]
  exact String.Pos.Raw.isValid_iff_exists_take_toList.mpr ⟨offset, hsize.symm⟩

/-- The bytes of a part are those of the text at the same places. -/
theorem toByteArray_part_of_ascii (hascii : ∀ c ∈ text.toList, c.val < 128) (offset count : Nat) :
    (String.ofList ((text.toList.drop offset).take count)).toByteArray =
      text.toByteArray.extract offset (offset + count) := by
  have hpart : ∀ c ∈ (text.toList.drop offset).take count, c.val < 128 :=
    fun c hc => hascii c (List.mem_of_mem_drop (List.mem_of_mem_take hc))
  rw [String.toByteArray_ofList, utf8Encode_of_ascii hpart, toByteArray_of_ascii hascii]
  ext1
  apply Array.ext'
  simp [List.extract, List.map_take, List.map_drop]

/-- Bytes below 128 spell the characters with these numbers, and they spell no other text. -/
theorem ascii_of_bytes (hbytes : ∀ byte ∈ text.toByteArray.data, byte < 128) :
    ∀ c ∈ text.toList, c.val < 128 := by
  have hascii : ∀ c ∈ text.toByteArray.data.toList.map Char.ofUInt8, c.val < 128 := by
    intro c hc
    obtain ⟨byte, hbyte, rfl⟩ := List.mem_map.mp hc
    have hlt := UInt8.lt_iff_toNat_lt.mp (hbytes byte (Array.mem_toList_iff.mp hbyte))
    exact UInt32.lt_iff_toNat_lt.mpr (byte.toNat_toUInt32.symm ▸ hlt)
  -- Written as characters, the bytes make a text that has these bytes itself.
  have hnumbers : (text.toByteArray.data.toList.map Char.ofUInt8).map (fun c => c.val.toUInt8) =
      text.toByteArray.data.toList := by
    rw [List.map_map]
    exact List.map_id'' (fun byte => UInt8.toUInt8_toUInt32 byte) _
  have hspelled : String.ofList (text.toByteArray.data.toList.map Char.ofUInt8) = text := by
    rw [← String.toByteArray_inj, String.toByteArray_ofList, utf8Encode_of_ascii hascii, hnumbers]
    ext1
    simp
  rw [← hspelled, String.toList_ofList]
  exact hascii

end Places

section Digits

variable {text : String} {c : Char}

theorem ascii_of_isDigit (h : c.isDigit) : c.val < 128 := by
  simp only [Char.isDigit, Bool.and_eq_true, decide_eq_true_eq] at h
  exact UInt32.lt_of_le_of_lt h.2 (by decide)

theorem isDigit_iff_byte (hascii : c.val < 128) :
    c.isDigit ↔ 48 ≤ c.val.toUInt8 ∧ c.val.toUInt8 ≤ 57 := by
  have hbyte : c.val.toUInt8.toNat = c.val.toNat := by
    rw [UInt32.toNat_toUInt8]
    exact Nat.mod_eq_of_lt (Nat.lt_trans (UInt32.lt_iff_toNat_lt.mp hascii) (by decide))
  simp only [Char.isDigit, Bool.and_eq_true, decide_eq_true_eq, UInt8.le_iff_toNat_le,
    UInt32.le_iff_toNat_le, ge_iff_le, hbyte]
  rfl

/-- A text is a text of digits exactly if its bytes are digits, one by one. -/
theorem forall_isDigit_iff_bytes :
    (∀ c ∈ text.toList, c.isDigit) ↔
      ∀ byte ∈ text.toByteArray.data, 48 ≤ byte ∧ byte ≤ 57 := by
  have hbyte (hascii : ∀ c ∈ text.toList, c.val < 128) (byte : UInt8) :
      byte ∈ text.toByteArray.data ↔ ∃ c ∈ text.toList, c.val.toUInt8 = byte := by
    rw [toByteArray_of_ascii hascii]
    simp
  constructor
  · intro h byte hmem
    have hascii : ∀ c ∈ text.toList, c.val < 128 := fun c hc => ascii_of_isDigit (h c hc)
    obtain ⟨c, hc, rfl⟩ := (hbyte hascii byte).mp hmem
    exact (isDigit_iff_byte (hascii c hc)).mp (h c hc)
  · intro h c hc
    have hascii := ascii_of_bytes fun byte hmem =>
      UInt8.lt_of_le_of_lt (h byte hmem).2 (by decide)
    exact (isDigit_iff_byte (hascii c hc)).mpr (h _ ((hbyte hascii _).mpr ⟨c, hc, rfl⟩))

end Digits

end TellerTerminal
