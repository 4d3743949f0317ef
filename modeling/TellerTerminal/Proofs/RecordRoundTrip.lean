import TellerTerminal.Proofs.Record

/-!
# What an entry keeps of its record

The entry of a record is written back as the record it was read from.  Only an information entry
state loses something: the marker digit of its buffer id and the reserved field, which no execution
reads.  Two records therefore have one entry only if they are the same, or differ in nothing but
these four characters.
-/

namespace TellerTerminal.StateEntry

/-- The places that the entry of an information entry state does not keep. -/
def unkept : List Nat := [19, 25, 26, 27]

/-- The records are equally long and have the same characters at all other places. -/
structure AgreeOutside (places : List Nat) (first second : String) : Prop where
  length_eq : first.toList.length = second.toList.length
  getElem?_eq : ∀ i, i ∉ places → first.toList[i]? = second.toList[i]?

section Agreement

variable {places : List Nat} {first second third : String}

theorem AgreeOutside.symm (h : AgreeOutside places first second) :
    AgreeOutside places second first where
  length_eq := h.length_eq.symm
  getElem?_eq i hi := (h.getElem?_eq i hi).symm

theorem AgreeOutside.trans (h : AgreeOutside places first second)
    (h' : AgreeOutside places second third) : AgreeOutside places first third where
  length_eq := h.length_eq.trans h'.length_eq
  getElem?_eq i hi := (h.getElem?_eq i hi).trans (h'.getElem?_eq i hi)

end Agreement

section Parts

variable {record other : String}

theorem flatMap_take_three {chars : List Char} {count : Nat} (h : chars.length = 3 * count) :
    ((List.range count).flatMap fun i => (chars.drop (3 * i)).take 3) = chars := by
  induction count generalizing chars with
  | zero => simp [List.length_eq_zero_iff.mp h]
  | succ count ih =>
      have hrest : ((List.range count).flatMap fun i => (chars.drop (3 * (i + 1))).take 3) =
          chars.drop 3 := by
        have hlength : (chars.drop 3).length = 3 * count := by
          rw [List.length_drop]
          omega
        rw [← ih hlength]
        refine List.flatMap_congr fun i _ => ?_
        rw [List.drop_drop, Nat.mul_add, Nat.add_comm]
      rw [List.range_succ_eq_map, List.flatMap_cons, List.flatMap_map, hrest]
      exact List.take_append_drop 3 chars

/-- A record is its number, its type and its eight fields. -/
theorem toList_eq_parts (h : IsLaidOut record) {typeCode : Char}
    (htype : record.toList[3]? = some typeCode) :
    record.toList = (part record 0).toList ++
      typeCode :: (List.range 8).flatMap fun i => (part record (4 + 3 * i)).toList := by
  have hfields : ((List.range 8).flatMap fun i => (part record (4 + 3 * i)).toList) =
      record.toList.drop 4 := by
    have hlength : (record.toList.drop 4).length = 3 * 8 := by rw [List.length_drop, h.1]
    rw [← flatMap_take_three hlength]
    simp only [part, String.toList_ofList, List.drop_drop]
  obtain ⟨hthree, hcode⟩ := List.getElem?_eq_some_iff.mp htype
  calc
    record.toList = record.toList.take 3 ++ record.toList.drop 3 :=
      (List.take_append_drop 3 record.toList).symm
    _ = (part record 0).toList ++ typeCode :: record.toList.drop 4 := by
      rw [List.drop_eq_getElem_cons hthree, hcode, part, String.toList_ofList, List.drop_zero]
    _ = _ := by rw [hfields]

theorem getElem?_part (record : String) (offset : Nat) {j : Nat} (hj : j < 3) :
    (part record offset).toList[j]? = record.toList[offset + j]? := by
  rw [part, String.toList_ofList, List.getElem?_take_of_lt hj, List.getElem?_drop]

/-- Records that agree on the three characters from `offset` have the same part there. -/
theorem part_congr {offset : Nat}
    (h : ∀ j < 3, record.toList[offset + j]? = other.toList[offset + j]?) :
    part record offset = part other offset := by
  rw [← String.toList_inj]
  refine List.ext_getElem? fun j => ?_
  by_cases hj : j < 3
  · rw [getElem?_part record offset hj, getElem?_part other offset hj, h j hj]
  · rw [List.getElem?_eq_none, List.getElem?_eq_none] <;>
      simp only [part, String.toList_ofList, List.length_take] <;> omega

theorem toList_part {offset : Nat} {a b c : Char} (ha : record.toList[offset]? = some a)
    (hb : record.toList[offset + 1]? = some b) (hc : record.toList[offset + 2]? = some c) :
    (part record offset).toList = [a, b, c] := by
  obtain ⟨hfirst, rfl⟩ := List.getElem?_eq_some_iff.mp ha
  obtain ⟨hsecond, rfl⟩ := List.getElem?_eq_some_iff.mp hb
  obtain ⟨hthird, rfl⟩ := List.getElem?_eq_some_iff.mp hc
  rw [part, String.toList_ofList, List.drop_eq_getElem_cons hfirst,
    List.drop_eq_getElem_cons hsecond, List.drop_eq_getElem_cons hthird]
  rfl

end Parts

section Writing

variable {record : String} {entry : StateEntry}

theorem choiceText_of_isChoice {text : String} {choice : Option StateNumber}
    (h : IsChoice text choice) : choiceText choice = text := by
  cases choice with
  | none => exact h.symm
  | some number => exact h.1

/-- Apart from information entry states, the fields are written as they were read. -/
theorem fieldTexts_of_holdsFields (h : HoldsFields record entry)
    (hother : ∀ state, entry ≠ .information state) :
    entry.fieldTexts = (List.range 8).map fun i => part record (4 + 3 * i) := by
  cases entry with
  | information state => exact absurd rfl (hother state)
  | selection state =>
      obtain ⟨hscreen, htimeout, hcancel, ha, hb, hc, hd, hlocation⟩ := h
      simp only [fieldTexts, hscreen, htimeout, hcancel, choiceText_of_isChoice ha,
        choiceText_of_isChoice hb, choiceText_of_isChoice hc, choiceText_of_isChoice hd, hlocation]
      rfl
  | extension state =>
      rw [fieldTexts, ← ofFn_fieldAt_eq_iff.mpr h]
      rfl
  | other state =>
      rw [fieldTexts, ← ofFn_fieldAt_eq_iff.mpr h.2]
      rfl

theorem Holds.typeCode_eq_x_iff (h : Holds record entry) :
    record.toList[3]? = some 'X' ↔ ∃ state, entry = .information state := by
  rw [h.typeCode]
  cases entry with
  | information state => simp [StateEntry.typeCode]
  | selection state => simp [StateEntry.typeCode]
  | extension state => simp [StateEntry.typeCode]
  | other state =>
      have hcode : state.typeCode ≠ 'X' := fun hx => h.fields.1 (hx ▸ List.mem_cons_self)
      simpa [StateEntry.typeCode] using hcode

theorem record_eq_of_ofRecord (h : ofRecord record = .ok entry)
    (hx : record.toList[3]? ≠ some 'X') : entry.record = record := by
  obtain ⟨hlayout, hholds⟩ := ofRecord_eq_ok_iff.mp h
  have hother : ∀ state, entry ≠ .information state := fun state hstate =>
    hx (hholds.typeCode_eq_x_iff.mpr ⟨state, hstate⟩)
  rw [← String.toList_inj, toList_eq_parts hlayout hholds.typeCode, StateEntry.record,
    String.toList_ofList, fieldTexts_of_holdsFields hholds.fields hother, List.flatMap_map,
    ← hholds.number, StateNumber.text, String.toList_ofList]

/-- The record of an information entry state, with the marker and the reserved field apart: what
stands before, between and behind them is what is written as well. -/
theorem exists_frame_of_holds {state : InformationEntry} (hlayout : IsLaidOut record)
    (h : Holds record (.information state)) :
    ∃ kept marker middle reserved, kept.length = 19 ∧ middle.length = 5 ∧ reserved.length = 3 ∧
      record.toList = kept ++ marker :: (middle ++ reserved) ∧
      (information state).record.toList = kept ++ '0' :: (middle ++ "000".toList) := by
  obtain ⟨hscreen, htimeout, hcancel, hnext, hextension, ⟨-, marker, -, htext⟩, hmask⟩ := h.fields
  have hlength {offset : Nat} (hoffset : offset + 3 ≤ 28) := length_part hlayout hoffset
  -- Of the three characters of the buffer id only the marker is written in another way.
  refine ⟨(part record 0).toList ++ 'X' :: ([4, 7, 10, 13, 16].flatMap fun offset =>
      (part record offset).toList), marker,
    state.bufferId.target.mark :: state.bufferId.zeros.digitChar :: (part record 22).toList,
    (part record 25).toList, ?_, ?_, hlength (by decide), ?_, ?_⟩
  · simp [hlength]
  · simp [hlength]
  · rw [toList_eq_parts hlayout h.typeCode]
    simp [List.range_succ, htext, typeCode]
  · have hnumber : state.number.digits = (part record 0).toList := by
      rw [← h.number, StateNumber.text, String.toList_ofList]
      rfl
    simp [StateEntry.record, fieldTexts, hscreen, htimeout, hcancel, hnext, hextension, hmask,
      BufferId.text, StateEntry.number, typeCode, hnumber]

theorem getElem?_frame {kept middle first second : List Char} {x y : Char}
    (hkept : kept.length = 19) (hmiddle : middle.length = 5) (hfirst : first.length = 3)
    (hsecond : second.length = 3) {i : Nat} (hi : i ∉ unkept) :
    (kept ++ x :: (middle ++ first))[i]? = (kept ++ y :: (middle ++ second))[i]? := by
  by_cases hbefore : i < 19
  · rw [List.getElem?_append_left (by omega), List.getElem?_append_left (by omega)]
  · have hplace : 20 ≤ i ∧ (i < 25 ∨ 28 ≤ i) := by
      simp only [unkept, List.mem_cons, List.not_mem_nil, or_false, not_or] at hi
      omega
    obtain ⟨j, rfl⟩ := Nat.exists_eq_add_of_le hplace.1
    have hbehind (z : Char) (rest : List Char) : (kept ++ z :: rest)[20 + j]? = rest[j]? := by
      rw [List.getElem?_append_right (by omega), hkept, show 20 + j - 19 = j + 1 by omega,
        List.getElem?_cons_succ]
    rw [hbehind, hbehind]
    rcases hplace.2 with hmid | hend
    · rw [List.getElem?_append_left (by omega), List.getElem?_append_left (by omega)]
    · rw [List.getElem?_eq_none, List.getElem?_eq_none] <;> rw [List.length_append] <;> omega

theorem agreeOutside_record (h : ofRecord record = .ok entry)
    (hx : record.toList[3]? = some 'X') : AgreeOutside unkept entry.record record := by
  obtain ⟨hlayout, hholds⟩ := ofRecord_eq_ok_iff.mp h
  obtain ⟨state, rfl⟩ := hholds.typeCode_eq_x_iff.mp hx
  obtain ⟨kept, marker, middle, reserved, hkept, hmiddle, hreserved, hrecord, hwritten⟩ :=
    exists_frame_of_holds hlayout hholds
  constructor
  · simp [hrecord, hwritten, hreserved]
  · intro i hi
    rw [hrecord, hwritten]
    exact getElem?_frame hkept hmiddle rfl hreserved hi

end Writing

section Comparing

variable {record other : String} {state : InformationEntry}

theorem part_eq_of_agree (h : AgreeOutside unkept record other) {offset : Nat}
    (hkept : ∀ j < 3, offset + j ∉ unkept) : part record offset = part other offset :=
  part_congr fun j hj => h.getElem?_eq (offset + j) (hkept j hj)

/-- A record that differs in the unkept places alone holds the same entry, as long as it has a
marker digit as well. -/
theorem holds_of_agree (h : Holds record (.information state))
    (hagree : AgreeOutside unkept record other) {marker : Char} (hmarker : marker.isDigit)
    (hother : other.toList[19]? = some marker) : Holds other (.information state) := by
  obtain ⟨hscreen, htimeout, hcancel, hnext, hextension, ⟨hzeros, first, -, htext⟩, hmask⟩ :=
    h.fields
  have hpart {offset : Nat} (hkept : ∀ j < 3, offset + j ∉ unkept) :=
    part_eq_of_agree hagree hkept
  have hkept {j : Nat} (hj : j < 3) (hplace : 19 + j ∉ unkept) :
      other.toList[19 + j]? =
        [first, state.bufferId.target.mark, state.bufferId.zeros.digitChar][j]? := by
    rw [← hagree.getElem?_eq _ hplace, ← getElem?_part record 19 hj, htext]
  have hbufferId : (part other 19).toList =
      [marker, state.bufferId.target.mark, state.bufferId.zeros.digitChar] :=
    toList_part hother (hkept (j := 1) (by decide) (by decide))
      (hkept (j := 2) (by decide) (by decide))
  constructor
  · rw [h.number, hpart (by decide)]
  · rw [← hagree.getElem?_eq 3 (by decide), h.typeCode]
  · rw [hpart (by decide)] at hscreen htimeout hcancel hnext hextension hmask
    exact ⟨hscreen, htimeout, hcancel, hnext, hextension, ⟨hzeros, marker, hmarker, hbufferId⟩,
      hmask⟩

/-- Two accepted records of information entry states that agree in what is kept have one entry. -/
theorem eq_of_agree {entry otherEntry : StateEntry} (h : ofRecord record = .ok entry)
    (hother : ofRecord other = .ok otherEntry) (hx : record.toList[3]? = some 'X')
    (hotherX : other.toList[3]? = some 'X') (hagree : AgreeOutside unkept record other) :
    entry = otherEntry := by
  obtain ⟨-, hholds⟩ := ofRecord_eq_ok_iff.mp h
  obtain ⟨hlayout, hotherHolds⟩ := ofRecord_eq_ok_iff.mp hother
  obtain ⟨state, rfl⟩ := hholds.typeCode_eq_x_iff.mp hx
  obtain ⟨otherState, rfl⟩ := hotherHolds.typeCode_eq_x_iff.mp hotherX
  obtain ⟨-, -, -, -, -, ⟨-, marker, hmarker, htext⟩, -⟩ := hotherHolds.fields
  have hplace : other.toList[19]? = some marker := by
    rw [← getElem?_part other 19 (j := 0) (by decide), htext]
    rfl
  have hsame : ofRecord other = .ok (.information state) :=
    ofRecord_eq_ok_iff.mpr ⟨hlayout, holds_of_agree hholds hagree hmarker hplace⟩
  exact Except.ok.inj (hsame.symm.trans hother)

end Comparing

/-- The entry of a record is written back as the record, except for the unkept places of an
information entry state.  Records therefore have the same entry if and only if they are the same, or
both are of information entry states and agree in all other places. -/
theorem record_of_ofRecord {record : String} {entry : StateEntry}
    (h : ofRecord record = .ok entry) :
    (record.toList[3]? ≠ some 'X' → entry.record = record) ∧
      (record.toList[3]? = some 'X' → AgreeOutside unkept entry.record record) ∧
      ∀ other otherEntry, ofRecord other = .ok otherEntry →
        (entry = otherEntry ↔ record = other ∨
          record.toList[3]? = some 'X' ∧ other.toList[3]? = some 'X' ∧
            AgreeOutside unkept record other) := by
  refine ⟨record_eq_of_ofRecord h, agreeOutside_record h, fun other otherEntry hother => ?_⟩
  constructor
  · rintro rfl
    have htype : record.toList[3]? = other.toList[3]? := by
      rw [(ofRecord_eq_ok_iff.mp h).2.typeCode, (ofRecord_eq_ok_iff.mp hother).2.typeCode]
    by_cases hx : record.toList[3]? = some 'X'
    · have hotherX := htype.symm.trans hx
      exact .inr ⟨hx, hotherX,
        (agreeOutside_record h hx).symm.trans (agreeOutside_record hother hotherX)⟩
    · have hotherX : other.toList[3]? ≠ some 'X' := fun hother => hx (htype.trans hother)
      exact .inl ((record_eq_of_ofRecord h hx).symm.trans (record_eq_of_ofRecord hother hotherX))
  · rintro (rfl | ⟨hx, hotherX, hagree⟩)
    · exact Except.ok.inj (h.symm.trans hother)
    · exact eq_of_agree h hother hx hotherX hagree

/-- A record with a marker digit and a reserved field that its entry does not keep. -/
def markedRecord : String := "037X037002131038050933255 A\x7f"

/-- The same record as it is written. -/
def plainRecord : String := "037X037002131038050033255000"

theorem record_of_markedRecord :
    ∃ entry, ofRecord markedRecord = .ok entry ∧ ofRecord plainRecord = .ok entry ∧
      AgreeOutside unkept entry.record markedRecord := by
  obtain ⟨entry, hentry⟩ : ∃ entry, ofRecord markedRecord = .ok entry := ⟨_, rfl⟩
  obtain ⟨other, hother⟩ : ∃ entry, ofRecord plainRecord = .ok entry := ⟨_, rfl⟩
  have hagree : AgreeOutside unkept markedRecord plainRecord := by
    refine ⟨by decide, fun i hi => ?_⟩
    by_cases hplace : i < 28
    · have hall : ∀ i < 28, i ∉ unkept →
          markedRecord.toList[i]? = plainRecord.toList[i]? := by decide
      exact hall i hplace hi
    · rw [List.getElem?_eq_none (Nat.le_of_not_lt hplace),
        List.getElem?_eq_none (Nat.le_of_not_lt hplace)]
  obtain ⟨-, hwritten, hsame⟩ := record_of_ofRecord hentry
  obtain rfl := (hsame plainRecord other hother).mpr (.inr ⟨rfl, rfl, hagree⟩)
  exact ⟨entry, hentry, hother, hwritten rfl⟩

end TellerTerminal.StateEntry
