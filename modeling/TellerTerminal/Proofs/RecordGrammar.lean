import TellerTerminal.Proofs.FieldText
import TellerTerminal.Proofs.Record

/-!
# The grammar of records

A type checks some of its parts, from left to right, and leaves the others free.  Reading a record
performs these checks in that order, so that a record is accepted exactly if it is laid out, begins
with a number and passes them all, and is otherwise rejected with the first of these faults.

`Performs` relates one step of reading to one check, and `Performs.bind_eq_error_iff` puts a step in
front of the others; the types with fields are chains of such steps.
-/

namespace TellerTerminal.StateEntry

/-- A part of a record that can be at fault: its place, the texts that it may hold, and the error
that names it with its value. -/
structure Check where
  offset : Nat
  Accepts : String → Prop
  error : StateNumber → String → RecordError

def Check.number (offset : Nat) (kind : StateField) : Check where
  offset
  Accepts := StateNumber.IsText
  error state value := .field state kind value

def Check.bufferId (offset : Nat) : Check where
  offset
  Accepts := BufferId.IsText
  error := .bufferId

/-- The parts that a type checks, in their order.  The screen, the mask and the location are free,
and so is every part of an extension and of a type that is not executed. -/
def checks (typeCode : Char) : List Check :=
  if typeCode = 'X' then
    [.number 7 .timeout, .number 10 .cancel, .number 13 .next, .number 16 .extension,
      .bufferId 19]
  else if typeCode = 'E' then
    [.number 7 .timeout, .number 10 .cancel, .number 13 (.nextOf .a), .number 16 (.nextOf .b),
      .number 19 (.nextOf .c), .number 22 (.nextOf .d)]
  else
    []

/-- The error of the first check that the record fails. -/
inductive FirstFailed (record : String) (number : StateNumber) : List Check → RecordError → Prop
  | here {check : Check} {rest : List Check} (h : ¬ check.Accepts (part record check.offset)) :
      FirstFailed record number (check :: rest)
        (check.error number (part record check.offset))
  | later {check : Check} {rest : List Check} {error : RecordError}
      (haccepts : check.Accepts (part record check.offset))
      (h : FirstFailed record number rest error) : FirstFailed record number (check :: rest) error

/-- What is wrong with a record: its layout, else its number, else the first part that fails. -/
inductive FirstFault (record : String) : RecordError → Prop
  | length (h : ¬ IsLaidOut record) : FirstFault record (.length record record.toList.length)
  | stateNumber (hlayout : IsLaidOut record) (h : ¬ StateNumber.IsText (part record 0)) :
      FirstFault record (.stateNumber (part record 0))
  | field {number : StateNumber} {typeCode : Char} {error : RecordError}
      (hlayout : IsLaidOut record) (hnumber : number.text = part record 0)
      (htype : record.toList[3]? = some typeCode)
      (h : FirstFailed record number (checks typeCode) error) : FirstFault record error

section Faults

variable {α : Type} {record : String} {number : StateNumber}

/-- The step fails as the check says, and only then. -/
def Performs (record : String) (number : StateNumber) (check : Check)
    (step : Except RecordError α) : Prop :=
  ∀ error, step = .error error ↔ ¬ check.Accepts (part record check.offset) ∧
    error = check.error number (part record check.offset)

theorem performs_readState (offset : Nat) (kind : StateField) :
    Performs record number (.number offset kind)
      (readState number kind (part record offset)) := by
  intro error
  simp only [Check.number, ← StateNumber.exists_text_eq_iff, ← StateNumber.ofText?_eq_some_iff]
  unfold readState
  cases StateNumber.ofText? (part record offset) <;> simp [eq_comm]

theorem performs_readChoice (offset : Nat) (key : FunctionKey) :
    Performs record number (.number offset (.nextOf key))
      (readChoice number key (part record offset)) := by
  intro error
  unfold readChoice
  split_ifs with hdisabled
  · -- The text for a key without a state is a number as well, so that the check accepts it.
    have htext : StateNumber.IsText disabled := by decide
    simp [Check.number, hdisabled, htext]
  · rw [← performs_readState offset (.nextOf key) error]
    cases readState number (.nextOf key) (part record offset) <;> simp [Except.map]

theorem performs_readBufferId (offset : Nat) :
    Performs record number (.bufferId offset) (readBufferId number (part record offset)) := by
  intro error
  simp only [Check.bufferId, ← BufferId.exists_isWritten_iff, ← BufferId.ofText?_eq_some_iff]
  unfold readBufferId
  cases BufferId.ofText? (part record offset) <;> simp [eq_comm]

/-- A step in front of others that report the first failed check makes them report it as well. -/
theorem Performs.bind_eq_error_iff {β : Type} {check : Check} {rest : List Check}
    {step : Except RecordError α} {next : α → Except RecordError β}
    (hstep : Performs record number check step)
    (hnext : ∀ value error, next value = .error error ↔ FirstFailed record number rest error)
    (error : RecordError) :
    (step >>= next) = .error error ↔ FirstFailed record number (check :: rest) error := by
  cases hvalue : step with
  | error cause =>
      obtain ⟨hfails, rfl⟩ := (hstep cause).mp hvalue
      constructor
      · intro h
        obtain rfl := Except.error.inj h
        exact .here hfails
      · intro h
        cases h with
        | here => rfl
        | later haccepts => contradiction
  | ok value =>
      have haccepts : check.Accepts (part record check.offset) := by
        by_contra hfails
        have herror := (hstep _).mpr ⟨hfails, rfl⟩
        rw [hvalue] at herror
        contradiction
      rw [show (Except.ok value >>= next) = next value from rfl, hnext]
      constructor
      · exact .later haccepts
      · intro h
        cases h with
        | here hfails => contradiction
        | later _ h => exact h

theorem ok_eq_error_iff {β : Type} (value : β) (error : RecordError) :
    (Except.ok value : Except RecordError β) = .error error ↔
      FirstFailed record number [] error :=
  iff_of_false (by simp) nofun

theorem readInformation_eq_error_iff (error : RecordError) :
    readInformation number (fieldAt record.toList) = .error error ↔
      FirstFailed record number (checks 'X') error :=
  (performs_readState 7 .timeout).bind_eq_error_iff (fun _ =>
    (performs_readState 10 .cancel).bind_eq_error_iff fun _ =>
    (performs_readState 13 .next).bind_eq_error_iff fun _ =>
    (performs_readState 16 .extension).bind_eq_error_iff fun _ =>
    (performs_readBufferId 19).bind_eq_error_iff fun _ => ok_eq_error_iff _) error

theorem readSelection_eq_error_iff (error : RecordError) :
    readSelection number (fieldAt record.toList) = .error error ↔
      FirstFailed record number (checks 'E') error :=
  (performs_readState 7 .timeout).bind_eq_error_iff (fun _ =>
    (performs_readState 10 .cancel).bind_eq_error_iff fun _ =>
    (performs_readChoice 13 .a).bind_eq_error_iff fun _ =>
    (performs_readChoice 16 .b).bind_eq_error_iff fun _ =>
    (performs_readChoice 19 .c).bind_eq_error_iff fun _ =>
    (performs_readChoice 22 .d).bind_eq_error_iff fun _ => ok_eq_error_iff _) error

/-- Reading the fields of a type fails with the first check of the type that they fail. -/
theorem readFields_eq_error_iff (typeCode : Char) (error : RecordError) :
    readFields number typeCode (fieldAt record.toList) = .error error ↔
      FirstFailed record number (checks typeCode) error := by
  unfold readFields
  by_cases hx : typeCode = 'X'
  · rw [if_pos hx, map_eq_error_iff, readInformation_eq_error_iff, hx]
  · by_cases he : typeCode = 'E'
    · rw [if_neg hx, if_pos he, map_eq_error_iff, readSelection_eq_error_iff, he]
    · rw [if_neg hx, if_neg he, checks, if_neg hx, if_neg he]
      exact iff_of_false (by split_ifs <;> simp) nofun

end Faults

variable {record : String}

theorem ofRecord_eq_error_iff (error : RecordError) :
    ofRecord record = .error error ↔ FirstFault record error := by
  by_cases hlayout : IsLaidOut record
  · rw [ofRecord_of_isLaidOut hlayout]
    cases hnumber : StateNumber.ofText? (part record 0) with
    | none =>
        have hnone : ∀ number : StateNumber, number.text ≠ part record 0 := by
          intro number htext
          rw [StateNumber.ofText?_eq_some_iff.mpr htext] at hnumber
          contradiction
        have hfault : ¬ StateNumber.IsText (part record 0) := fun htext =>
          (StateNumber.exists_text_eq_iff.mpr htext).elim hnone
        constructor
        · intro h
          obtain rfl := Except.error.inj h
          exact .stateNumber hlayout hfault
        · intro h
          cases h with
          | length hfails => exact absurd hlayout hfails
          | stateNumber => rfl
          | @field number _ _ _ htext => exact absurd htext (hnone number)
    | some number =>
        have htext : number.text = part record 0 := StateNumber.text_of_ofText? hnumber
        have htype := getElem?_three_of_isLaidOut hlayout
        simp only [readFields_eq_error_iff]
        constructor
        · exact .field hlayout htext htype
        · intro h
          cases h with
          | length hfails => exact absurd hlayout hfails
          | stateNumber _ hfault => exact absurd (htext ▸ number.isText_text) hfault
          | @field other typeCode _ _ hother hcode hfailed =>
              have hsame : some number = some other := by
                rw [← hnumber, StateNumber.ofText?_eq_some_iff.mpr hother]
              obtain rfl := Option.some.inj hsame
              obtain rfl := Option.some.inj (htype.symm.trans hcode)
              exact hfailed
  · rw [ofRecord_of_not_isLaidOut hlayout]
    constructor
    · intro h
      obtain rfl := Except.error.inj h
      exact .length hlayout
    · intro h
      cases h with
      | length => rfl
      | stateNumber h => exact absurd h hlayout
      | field h => exact absurd h hlayout

theorem exists_firstFailed_iff {number : StateNumber} {checks : List Check} :
    (∃ error, FirstFailed record number checks error) ↔
      ∃ check ∈ checks, ¬ check.Accepts (part record check.offset) := by
  constructor
  · rintro ⟨error, h⟩
    induction h with
    | here hfails => exact ⟨_, List.mem_cons_self, hfails⟩
    | later _ _ ih =>
        obtain ⟨check, hmem, hfails⟩ := ih
        exact ⟨check, List.mem_cons_of_mem _ hmem, hfails⟩
  · rintro ⟨check, hmem, hfails⟩
    induction checks with
    | nil => contradiction
    | cons first rest ih =>
        by_cases hfirst : first.Accepts (part record first.offset)
        · rcases List.mem_cons.mp hmem with rfl | hrest
          · contradiction
          · obtain ⟨error, herror⟩ := ih hrest
            exact ⟨error, .later hfirst herror⟩
        · exact ⟨_, .here hfirst⟩

/-- The record is laid out, begins with a number, and passes the checks of its type. -/
structure InGrammar (record : String) : Prop where
  layout : IsLaidOut record
  number : StateNumber.IsText (part record 0)
  checks : ∀ typeCode ∈ record.toList[3]?, ∀ check ∈ checks typeCode,
    check.Accepts (part record check.offset)

theorem inGrammar_iff_not_fault : InGrammar record ↔ ¬ ∃ error, FirstFault record error := by
  constructor
  · rintro h ⟨error, hfault⟩
    cases hfault with
    | length hlayout => exact hlayout h.layout
    | stateNumber _ hnumber => exact hnumber h.number
    | field _ _ htype hfailed =>
        obtain ⟨check, hmem, hfails⟩ := exists_firstFailed_iff.mp ⟨error, hfailed⟩
        exact hfails (h.checks _ htype check hmem)
  · intro h
    have hlayout : IsLaidOut record := by
      by_contra hlayout
      exact h ⟨_, .length hlayout⟩
    have hnumber : StateNumber.IsText (part record 0) := by
      by_contra hnumber
      exact h ⟨_, .stateNumber hlayout hnumber⟩
    obtain ⟨number, htext⟩ := StateNumber.exists_text_eq_iff.mpr hnumber
    refine ⟨hlayout, hnumber, fun typeCode htype check hmem => ?_⟩
    by_contra hfails
    obtain ⟨error, hfailed⟩ := exists_firstFailed_iff.mpr ⟨check, hmem, hfails⟩
    exact h ⟨error, .field hlayout htext htype hfailed⟩

theorem exists_ofRecord_eq_ok_iff : (∃ entry, ofRecord record = .ok entry) ↔ InGrammar record := by
  rw [inGrammar_iff_not_fault]
  simp only [← ofRecord_eq_error_iff]
  cases ofRecord record <;> simp

/-- A record in the grammar is accepted, and its entry is what stands in it; every other record is
rejected with its first fault.  The places that are read lie within the record and between
characters, so that they are the same in bytes. -/
theorem ofRecord_accepts_grammar (record : String) :
    ((∃ entry, ofRecord record = .ok entry) ↔ InGrammar record) ∧
      (∀ entry, ofRecord record = .ok entry ↔ IsLaidOut record ∧ Holds record entry) ∧
      (∀ error, ofRecord record = .error error ↔ FirstFault record error) ∧
      (IsLaidOut record → record.utf8ByteSize = 28 ∧ ∀ offset, offset + 3 ≤ 28 →
        (String.Pos.Raw.mk offset).IsValid record ∧
        (String.Pos.Raw.mk (offset + 3)).IsValid record ∧
        (part record offset).toByteArray = record.toByteArray.extract offset (offset + 3)) := by
  refine ⟨exists_ofRecord_eq_ok_iff, fun _ => ofRecord_eq_ok_iff, ofRecord_eq_error_iff,
    fun hlayout => ⟨utf8ByteSize_of_isLaidOut hlayout, fun offset hoffset => ?_⟩⟩
  exact ⟨isValid_of_isLaidOut hlayout (by omega), isValid_of_isLaidOut hlayout hoffset,
    bytes_part hlayout offset⟩

/-- Of two faults the one further left is reported. -/
example : ofRecord "037X0020X2131038050093255000" =
    .error (.field ⟨37, by decide⟩ .timeout "0X2") := by decide

end TellerTerminal.StateEntry
