import TellerTerminal.Buffers.Opcode
import TellerTerminal.FunctionKey
import TellerTerminal.Proofs.AsciiText
import TellerTerminal.Proofs.FieldText

/-!
# Writing the opcode buffer

The location code of a record is three digits, and of all texts only one is the code of a location.
The cells hold eight ASCII characters whatever is written, so that their bytes are a text at any
time.  A write at a location replaces one character of this text, counted from its other end.
Letters of keys are printable, so that nothing but the location can keep one out of the buffer.
-/

namespace TellerTerminal

namespace BufferLocation

/-- The three digits that denote the location. -/
def code (location : BufferLocation) : String :=
  String.ofList ['0', '0', location.val.digitChar]

/-- The code of a location is three digits, and their value is the location. -/
theorem ofCode_eq_ok_iff_value {text : String} {location : BufferLocation} :
    ofCode text = .ok location ↔
      StateNumber.IsText text ∧ Nat.ofDigitChars 10 text.toList 0 = location.val := by
  unfold ofCode
  split_ifs with hdigits
  · have hisText : StateNumber.IsText text := hdigits
    simp only [ofNat?, hisText, true_and]
    split_ifs with hlt
    · rw [Except.ok.injEq, Fin.ext_iff]
    · refine iff_of_false (by simp) fun hvalue => hlt ?_
      exact hvalue ▸ location.isLt
  · exact iff_of_false (by simp) fun h => hdigits h.1

theorem exists_ofCode_iff {text : String} : (∃ location, ofCode text = .ok location) ↔
    StateNumber.IsText text ∧ Nat.ofDigitChars 10 text.toList 0 ≤ 7 := by
  simp only [ofCode_eq_ok_iff_value]
  constructor
  · rintro ⟨location, htext, hvalue⟩
    exact ⟨htext, by omega⟩
  · rintro ⟨htext, hle⟩
    exact ⟨⟨_, Nat.lt_succ_of_le hle⟩, htext, rfl⟩

theorem val_rev (location : BufferLocation) : location.rev.val = 7 - location.val := by
  rw [Fin.val_rev]
  omega

end BufferLocation

/-- The visible characters are those from `!` on, and the space comes right before them. -/
theorem isPrintableAscii_iff {c : Char} :
    isPrintableAscii c ↔ c = ' ' ∨ '!' ≤ c ∧ c ≤ '~' := by
  have hspace : ' '.toNat = 32 := rfl
  have hmark : '!'.toNat = 33 := rfl
  have htilde : '~'.toNat = 126 := rfl
  simp only [isPrintableAscii, Bool.and_eq_true, decide_eq_true_eq, Char.le_def,
    UInt32.le_iff_toNat_le, ← Char.toNat_inj]
  simp only [Char.toNat] at *
  omega

namespace OpcodeBuffer

variable {opcode after : OpcodeBuffer} {c : Char}

/-- The cells as bytes, one byte for each. -/
def bytes (opcode : OpcodeBuffer) : ByteArray :=
  (opcode.cells.toList.map fun c => c.val.toUInt8).toByteArray

/-- The bytes of the cells always are a text, namely the characters of the cells. -/
theorem fromUTF8?_bytes (opcode : OpcodeBuffer) :
    String.fromUTF8? opcode.bytes = some opcode.text := by
  have hascii : ∀ c ∈ opcode.cells.toList, c.val < 128 := by
    intro c hc
    have hprintable := opcode.printable c (Vector.mem_toList_iff.mp hc)
    simp only [isPrintableAscii, Bool.and_eq_true, decide_eq_true_eq] at hprintable
    exact UInt32.lt_of_le_of_lt hprintable.2 (by decide)
  have hbytes : opcode.bytes = opcode.text.toByteArray := by
    rw [bytes, text, String.toByteArray_ofList, utf8Encode_of_ascii hascii]
  rw [hbytes, String.fromUTF8?, dif_pos opcode.text.isValidUTF8]
  rfl

theorem mem_text : c ∈ opcode.text.toList ↔ c ∈ opcode.cells := by
  rw [text, String.toList_ofList, Vector.mem_toList_iff]

theorem length_text (opcode : OpcodeBuffer) : opcode.text.toList.length = 8 := by
  rw [text, String.toList_ofList]
  exact opcode.cells.length_toList

theorem mem_cells_of_write {location : BufferLocation} {char : Char}
    (hwrite : opcode.write location char = .ok after) (hc : c ∈ after.cells) :
    c ∈ opcode.cells ∨ c = char := by
  unfold write at hwrite
  split_ifs at hwrite
  obtain rfl := Except.ok.inj hwrite
  have hset : c ∈ opcode.cells.set location.rev char := hc
  exact Vector.mem_or_eq_of_mem_set hset

/-- The character at a location stands in the text as far from its other end. -/
theorem getElem?_text (opcode : OpcodeBuffer) (location : BufferLocation) :
    opcode.text.toList[7 - location.val]? = some (opcode.get location) := by
  rw [text, String.toList_ofList, ← location.val_rev]
  simp [get]

theorem eq_of_get_eq {other : OpcodeBuffer}
    (h : ∀ location, opcode.get location = other.get location) : opcode = other := by
  have hcells : opcode.cells = other.cells := by
    refine Vector.ext fun i hi => ?_
    have hcell := h (Fin.rev ⟨i, hi⟩)
    simpa only [get, Fin.rev_rev, Fin.getElem_fin] using hcell
  cases opcode
  cases other
  cases hcells
  rfl

theorem get_of_write {location : BufferLocation} (h : opcode.write location c = .ok after)
    (other : BufferLocation) :
    after.get other = if other = location then c else opcode.get other := by
  unfold write at h
  split_ifs at h
  obtain rfl := Except.ok.inj h
  have hrev : (location.rev : Nat) = other.rev ↔ other = location := by
    rw [Fin.val_inj, Fin.rev_inj, eq_comm]
  simp only [get, Fin.getElem_fin, Vector.getElem_set, hrev]

theorem exists_write_iff (opcode : OpcodeBuffer) (location : BufferLocation) :
    (∃ after, opcode.write location c = .ok after) ↔ isPrintableAscii c := by
  unfold write
  split_ifs with hprintable
  · simp [hprintable]
  · simp [hprintable]

end OpcodeBuffer

end TellerTerminal
