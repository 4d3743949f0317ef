import TellerTerminal.Proofs.AsciiText
import TellerTerminal.Proofs.FieldText
import TellerTerminal.Proofs.Success

/-!
# What a record says about its entry

A record is read by its layout: an entry comes out of it exactly if the record is laid out and each
field of the entry is what stands at the place of that field.  Nothing in a record of 28 ASCII
characters lies out of reach, and a place counted in bytes is the same place counted in characters.

Executions rely on the layout for the width of the amount buffer and for the form of the active-key
masks.
-/

namespace TellerTerminal.StateEntry

/-- The three characters of a record from `offset`. -/
def part (record : String) (offset : Nat) : String :=
  String.ofList ((record.toList.drop offset).take 3)

/-- The record has 28 characters, and all of them are ASCII. -/
def IsLaidOut (record : String) : Prop :=
  record.toList.length = 28 ∧ ∀ c ∈ record.toList, c.val < 128

/-- What a next-state text of a selection state says about its key. -/
def IsChoice (text : String) : Option StateNumber → Prop
  | none => text = "255"
  | some number => number.text = text ∧ text ≠ "255"

/-- Each field of the entry stands at its own place in the record. -/
def HoldsFields (record : String) : StateEntry → Prop
  | information s =>
      s.screen = part record 4 ∧ s.timeout.text = part record 7 ∧ s.cancel.text = part record 10 ∧
        s.next.text = part record 13 ∧ s.extension.text = part record 16 ∧
        s.bufferId.IsWritten (part record 19) ∧ s.mask = part record 22
  | selection s =>
      s.screen = part record 4 ∧ s.timeout.text = part record 7 ∧ s.cancel.text = part record 10 ∧
        IsChoice (part record 13) s.nextA ∧ IsChoice (part record 16) s.nextB ∧
        IsChoice (part record 19) s.nextC ∧ IsChoice (part record 22) s.nextD ∧
        s.location = part record 25
  | extension s => ∀ (i : Nat) (h : i < 8), s.literals[i] = part record (4 + 3 * i)
  | other s => s.typeCode ∉ ['X', 'E', 'Z'] ∧
      ∀ (i : Nat) (h : i < 8), s.fields[i] = part record (4 + 3 * i)

/-- The entry is what stands in the record: its number, its type and its fields. -/
structure Holds (record : String) (entry : StateEntry) : Prop where
  number : entry.number.text = part record 0
  typeCode : record.toList[3]? = some entry.typeCode
  fields : HoldsFields record entry

section Layout

variable {record : String}

theorem length_part (h : IsLaidOut record) {offset : Nat} (hoffset : offset + 3 ≤ 28) :
    (part record offset).toList.length = 3 := by
  simp only [part, String.toList_ofList, List.length_take, List.length_drop, h.1]
  omega

theorem mem_of_mem_part {offset : Nat} {c : Char} (hc : c ∈ (part record offset).toList) :
    c ∈ record.toList := by
  rw [part, String.toList_ofList] at hc
  exact List.mem_of_mem_drop (List.mem_of_mem_take hc)

/-- The bytes of a part are those of the record at the same places. -/
theorem bytes_part (h : IsLaidOut record) (offset : Nat) :
    (part record offset).toByteArray = record.toByteArray.extract offset (offset + 3) :=
  toByteArray_part_of_ascii h.2 offset 3

theorem utf8ByteSize_of_isLaidOut (h : IsLaidOut record) : record.utf8ByteSize = 28 :=
  (utf8ByteSize_of_ascii h.2).trans h.1

/-- No byte offset of a record lies within a character. -/
theorem isValid_of_isLaidOut (h : IsLaidOut record) {offset : Nat} (hoffset : offset ≤ 28) :
    (String.Pos.Raw.mk offset).IsValid record :=
  isValid_of_ascii h.2 (h.1 ▸ hoffset)

end Layout

section Reading

variable {record : String} {number : StateNumber} {entry : StateEntry}

theorem readState_eq_ok_iff {state : StateNumber} {kind : StateField} {value : String} :
    readState state kind value = .ok number ↔ number.text = value := by
  rw [← StateNumber.ofText?_eq_some_iff, readState]
  cases StateNumber.ofText? value <;> simp

theorem readBufferId_eq_ok_iff {value : String} {bufferId : BufferId} :
    readBufferId number value = .ok bufferId ↔ bufferId.IsWritten value := by
  rw [← BufferId.ofText?_eq_some_iff, readBufferId]
  cases BufferId.ofText? value <;> simp

theorem readChoice_eq_ok_iff {key : FunctionKey} {value : String} {choice : Option StateNumber} :
    readChoice number key value = .ok choice ↔ IsChoice value choice := by
  rw [readChoice, disabled]
  by_cases hdisabled : value = "255"
  · cases choice <;> simp [IsChoice, hdisabled]
  · rw [if_neg hdisabled, map_eq_ok_iff]
    cases choice <;> simp [IsChoice, hdisabled, readState_eq_ok_iff]

theorem readInformation_eq_ok_iff {state : InformationEntry} :
    readInformation number (fieldAt record.toList) = .ok state ↔
      number = state.number ∧ HoldsFields record (.information state) := by
  simp only [readInformation, bind_eq_ok_iff, readState_eq_ok_iff, readBufferId_eq_ok_iff]
  constructor
  · rintro ⟨timeout, htimeout, cancel, hcancel, next, hnext, extension, hextension, bufferId,
      hbufferId, hpure⟩
    obtain rfl := Except.ok.inj hpure
    exact ⟨rfl, rfl, htimeout, hcancel, hnext, hextension, hbufferId, rfl⟩
  · rintro ⟨rfl, hscreen, htimeout, hcancel, hnext, hextension, hbufferId, hmask⟩
    refine ⟨_, htimeout, _, hcancel, _, hnext, _, hextension, _, hbufferId, ?_⟩
    change Except.ok { state with screen := part record 4, mask := part record 22 } = _
    rw [← hscreen, ← hmask]

theorem readSelection_eq_ok_iff {state : Selection} :
    readSelection number (fieldAt record.toList) = .ok state ↔
      number = state.number ∧ HoldsFields record (.selection state) := by
  simp only [readSelection, bind_eq_ok_iff, readState_eq_ok_iff, readChoice_eq_ok_iff]
  constructor
  · rintro ⟨timeout, htimeout, cancel, hcancel, nextA, ha, nextB, hb, nextC, hc, nextD, hd, hpure⟩
    obtain rfl := Except.ok.inj hpure
    exact ⟨rfl, rfl, htimeout, hcancel, ha, hb, hc, hd, rfl⟩
  · rintro ⟨rfl, hscreen, htimeout, hcancel, ha, hb, hc, hd, hlocation⟩
    refine ⟨_, htimeout, _, hcancel, _, ha, _, hb, _, hc, _, hd, ?_⟩
    change Except.ok { state with screen := part record 4, location := part record 25 } = _
    rw [← hscreen, ← hlocation]

theorem ofFn_fieldAt_eq_iff {values : Vector String 8} :
    (Vector.ofFn fun i => fieldAt record.toList i) = values ↔
      ∀ (i : Nat) (h : i < 8), values[i] = part record (4 + 3 * i) := by
  rw [eq_comm, Vector.ext_iff]
  simp only [Vector.getElem_ofFn]
  rfl

section Types

variable {typeCode : Char} {field : Nat → String}

theorem readFields_eq_information_iff {state : InformationEntry} :
    readFields number typeCode field = .ok (.information state) ↔
      typeCode = 'X' ∧ readInformation number field = .ok state := by
  unfold readFields
  split_ifs <;> simp_all [map_eq_ok_iff]

theorem readFields_eq_selection_iff {state : Selection} :
    readFields number typeCode field = .ok (.selection state) ↔
      typeCode = 'E' ∧ readSelection number field = .ok state := by
  unfold readFields
  split_ifs <;> simp_all [map_eq_ok_iff]

theorem readFields_eq_extension_iff {state : Extension} :
    readFields number typeCode field = .ok (.extension state) ↔
      typeCode = 'Z' ∧ number = state.number ∧
        (Vector.ofFn fun i => field i) = state.literals := by
  obtain ⟨stateNumber, literals⟩ := state
  unfold readFields
  split_ifs with hx he hz
  · simp [map_eq_ok_iff, hx]
  · simp [map_eq_ok_iff, he]
  · simp [hz]
  · simp [hz]

theorem readFields_eq_other_iff {state : OtherState} :
    readFields number typeCode field = .ok (.other state) ↔
      typeCode = state.typeCode ∧ number = state.number ∧ state.typeCode ∉ ['X', 'E', 'Z'] ∧
        (Vector.ofFn fun i => field i) = state.fields := by
  by_cases hcode : typeCode ∈ ['X', 'E', 'Z']
  · refine iff_of_false ?_ fun h => h.2.2.1 (h.1 ▸ hcode)
    unfold readFields
    split_ifs <;> simp_all [map_eq_ok_iff]
  · obtain ⟨hx, he, hz⟩ : typeCode ≠ 'X' ∧ typeCode ≠ 'E' ∧ typeCode ≠ 'Z' := by
      simpa using hcode
    rw [readFields, if_neg hx, if_neg he, if_neg hz]
    constructor
    · intro h
      obtain rfl := other.inj (Except.ok.inj h)
      exact ⟨rfl, rfl, hcode, rfl⟩
    · rintro ⟨rfl, rfl, -, hfields⟩
      rw [hfields]

/-- The fields of a type make an entry of that type, with the number that stands before them. -/
theorem readFields_eq_ok_iff :
    readFields number typeCode (fieldAt record.toList) = .ok entry ↔
      typeCode = entry.typeCode ∧ number = entry.number ∧ HoldsFields record entry := by
  cases entry with
  | information state => rw [readFields_eq_information_iff, readInformation_eq_ok_iff]; rfl
  | selection state => rw [readFields_eq_selection_iff, readSelection_eq_ok_iff]; rfl
  | extension state => rw [readFields_eq_extension_iff, ofFn_fieldAt_eq_iff]; rfl
  | other state => rw [readFields_eq_other_iff, ofFn_fieldAt_eq_iff]; rfl

end Types

theorem ofRecord_of_isLaidOut (h : IsLaidOut record) :
    ofRecord record = match StateNumber.ofText? (part record 0) with
      | some number => readFields number (record.toList.getD 3 ' ') (fieldAt record.toList)
      | none => .error (.stateNumber (part record 0)) := by
  have hlayout : record.toList.length = 28 ∧ record.toList.all fun c => c.val < 128 := by
    simpa [IsLaidOut] using h
  rw [ofRecord, if_pos hlayout]
  rfl

theorem ofRecord_of_not_isLaidOut (h : ¬ IsLaidOut record) :
    ofRecord record = .error (.length record record.toList.length) := by
  have hlayout : ¬ (record.toList.length = 28 ∧ record.toList.all fun c => c.val < 128) := by
    simpa [IsLaidOut] using h
  rw [ofRecord, if_neg hlayout]

theorem getElem?_three_of_isLaidOut (h : IsLaidOut record) :
    record.toList[3]? = some (record.toList.getD 3 ' ') := by
  have hlength : 3 < record.toList.length := by rw [h.1]; decide
  rw [List.getD_eq_getElem?_getD, List.getElem?_eq_getElem hlength, Option.getD_some]

/-- An entry is read from a record exactly if the record is laid out and holds the entry. -/
theorem ofRecord_eq_ok_iff :
    ofRecord record = .ok entry ↔ IsLaidOut record ∧ Holds record entry := by
  by_cases hlayout : IsLaidOut record
  · have htype := getElem?_three_of_isLaidOut hlayout
    rw [ofRecord_of_isLaidOut hlayout]
    cases hnumber : StateNumber.ofText? (part record 0) with
    | none =>
        refine iff_of_false (by simp) fun h => ?_
        rw [StateNumber.ofText?_eq_some_iff.mpr h.2.number] at hnumber
        contradiction
    | some number =>
        have htext := StateNumber.text_of_ofText? hnumber
        simp only [readFields_eq_ok_iff]
        constructor
        · rintro ⟨hcode, rfl, hfields⟩
          exact ⟨hlayout, htext, hcode ▸ htype, hfields⟩
        · rintro ⟨-, hentry, hcode, hfields⟩
          rw [StateNumber.ofText?_eq_some_iff.mpr hentry] at hnumber
          exact ⟨Option.some.inj (htype.symm.trans hcode), (Option.some.inj hnumber).symm, hfields⟩
  · rw [ofRecord_of_not_isLaidOut hlayout]
    exact iff_of_false (by simp) fun h => hlayout h.1

end Reading

/-- The entry stands in some record. -/
def IsRecorded (entry : StateEntry) : Prop :=
  ∃ record, ofRecord record = .ok entry

theorem length_mask_of_isRecorded {state : InformationEntry}
    (h : (information state).IsRecorded) : state.mask.toList.length = 3 := by
  obtain ⟨record, hrecord⟩ := h
  obtain ⟨hlayout, -, -, -, -, -, -, -, -, hmask⟩ := ofRecord_eq_ok_iff.mp hrecord
  rw [hmask]
  exact length_part hlayout (by decide)

theorem zeros_le_nine_of_isRecorded {state : InformationEntry}
    (h : (information state).IsRecorded) : state.bufferId.zeros ≤ 9 := by
  obtain ⟨record, hrecord⟩ := h
  obtain ⟨-, -, -, -, -, -, -, -, hbufferId, -⟩ := ofRecord_eq_ok_iff.mp hrecord
  exact Nat.le_of_lt_succ hbufferId.1

/-- A literal is a part of a record. -/
theorem exists_part_of_isRecorded {state : Extension} (h : (extension state).IsRecorded)
    {literal : String} (hliteral : literal ∈ state.literals) :
    ∃ record offset, IsLaidOut record ∧ offset + 3 ≤ 28 ∧ part record offset = literal := by
  obtain ⟨record, hrecord⟩ := h
  obtain ⟨hlayout, -, -, hfields⟩ := ofRecord_eq_ok_iff.mp hrecord
  obtain ⟨i, hi, rfl⟩ := Vector.mem_iff_getElem.mp hliteral
  exact ⟨record, 4 + 3 * i, hlayout, by omega, (hfields i hi).symm⟩

theorem length_literal_of_isRecorded {state : Extension} (h : (extension state).IsRecorded)
    {literal : String} (hliteral : literal ∈ state.literals) : literal.toList.length = 3 := by
  obtain ⟨record, offset, hlayout, hoffset, rfl⟩ := exists_part_of_isRecorded h hliteral
  exact length_part hlayout hoffset

theorem ascii_literal_of_isRecorded {state : Extension} (h : (extension state).IsRecorded)
    {literal : String} (hliteral : literal ∈ state.literals) {c : Char}
    (hc : c ∈ literal.toList) : c.val < 128 := by
  obtain ⟨record, offset, hlayout, -, rfl⟩ := exists_part_of_isRecorded h hliteral
  exact hlayout.2 c (mem_of_mem_part hc)

end TellerTerminal.StateEntry
