import TellerTerminal.Proofs.BufferCalls
import TellerTerminal.Proofs.Opcode

/-!
# The cells of the opcode buffer

A caller names a location by its index or by its code, and writes one character at it.  Whatever is
called, each cell holds the last character that was stored in it since the buffer was last cleared,
or else a space.  A write changes one cell and looks at none, and so the order of two writes to
different cells makes no difference.
-/

namespace TellerTerminal.OpcodeBuffer

/-- What a caller names a location by. -/
inductive Address
  | index (index : Nat)
  | code (code : String)

/-- The location, or the error of a code.  An index out of range has no error to it. -/
def Address.location : Address → Except (Option BufferError) BufferLocation
  | index value =>
      match BufferLocation.ofNat? value with
      | some location => .ok location
      | none => .error none
  | code text => (BufferLocation.ofCode text).mapError some

structure Input where
  address : Address
  char : Char

/-- A write at the location that an address names. -/
def store (opcode : OpcodeBuffer) (input : Input) : Except (Option BufferError) OpcodeBuffer := do
  let location ← input.address.location
  (opcode.write location input.char).mapError some

/-- The buffer after calls, reset at first. -/
def afterCalls (calls : List (BufferCall Input)) : OpcodeBuffer :=
  BufferCall.run store reset calls

/-- The character that a write stores at a location, if it succeeds and is to this location. -/
def storedAt? (location : BufferLocation) (input : Input) : Option Char :=
  if input.address.location = .ok location ∧ isPrintableAscii input.char then some input.char
  else none

/-- The last character that was stored at a location since the last clearing, or else a space. -/
def lastStored (location : BufferLocation) (calls : List (BufferCall Input)) : Char :=
  (BufferCall.last? (storedAt? location) calls).getD ' '

variable {opcode after one both : OpcodeBuffer} {input : Input} {location : BufferLocation}

theorem store_eq_ok_iff : store opcode input = .ok after ↔
    ∃ location, input.address.location = .ok location ∧
      opcode.write location input.char = .ok after := by
  rw [store, bind_eq_ok_iff]
  simp only [mapError_eq_ok_iff]

theorem exists_store_iff : (∃ after, store opcode input = .ok after) ↔
    (∃ location, input.address.location = .ok location) ∧ isPrintableAscii input.char := by
  simp only [store_eq_ok_iff]
  constructor
  · rintro ⟨after, location, hlocation, hwrite⟩
    exact ⟨⟨location, hlocation⟩, (exists_write_iff _ _).mp ⟨after, hwrite⟩⟩
  · rintro ⟨⟨location, hlocation⟩, hprintable⟩
    obtain ⟨after, hwrite⟩ := (exists_write_iff opcode location).mpr hprintable
    exact ⟨after, location, hlocation, hwrite⟩

theorem get_of_store (h : store opcode input = .ok after) (location : BufferLocation) :
    after.get location = (storedAt? location input).getD (opcode.get location) := by
  obtain ⟨written, hwritten, hwrite⟩ := store_eq_ok_iff.mp h
  have hprintable := (exists_write_iff _ _).mp ⟨after, hwrite⟩
  have hlocation : input.address.location = .ok location ↔ location = written := by
    rw [hwritten, Except.ok.injEq, eq_comm]
  rw [get_of_write hwrite]
  simp only [storedAt?, hlocation, hprintable, and_true]
  split_ifs <;> rfl

theorem get_reset (location : BufferLocation) : reset.get location = ' ' := by
  revert location
  decide

theorem get_afterCalls (location : BufferLocation) (calls : List (BufferCall Input)) :
    (afterCalls calls).get location = lastStored location calls := by
  refine BufferCall.run_last
    (fun last (opcode : OpcodeBuffer) => opcode.get location = last.getD ' ') (get_reset location)
    (fun opcode input written last hstore hlast => ?_) (fun opcode input hrejected => ?_) calls
  · rw [get_of_store hstore, hlast]
    cases storedAt? location input with
    | none => rfl
    | some stored => rfl
  · exact if_neg fun h => hrejected (exists_store_iff.mpr ⟨⟨location, h.1⟩, h.2⟩)

theorem write_comm {other : BufferLocation} {c d : Char} (hne : location ≠ other)
    (hone : opcode.write location c = .ok one) (hboth : one.write other d = .ok both) :
    ∃ swapped, opcode.write other d = .ok swapped ∧ swapped.write location c = .ok both := by
  have hc := (exists_write_iff _ _).mp ⟨one, hone⟩
  have hd := (exists_write_iff _ _).mp ⟨both, hboth⟩
  obtain ⟨swapped, hswapped⟩ := (exists_write_iff opcode other).mpr hd
  obtain ⟨last, hlast⟩ := (exists_write_iff swapped location).mpr hc
  refine ⟨swapped, hswapped, hlast.trans (congrArg _ (eq_of_get_eq fun place => ?_))⟩
  -- No place is written twice, so that no cell can tell which write came first.
  rw [get_of_write hlast, get_of_write hswapped, get_of_write hboth, get_of_write hone]
  split_ifs with hlocation hother
  · exact absurd (hlocation.symm.trans hother) hne
  · rfl
  · rfl
  · rfl

theorem store_comm {first second : Input}
    (hne : first.address.location ≠ second.address.location)
    (hone : store opcode first = .ok one) (hboth : store one second = .ok both) :
    ∃ swapped, store opcode second = .ok swapped ∧ store swapped first = .ok both := by
  obtain ⟨location, hlocation, hwrite⟩ := store_eq_ok_iff.mp hone
  obtain ⟨other, hother, hwrite'⟩ := store_eq_ok_iff.mp hboth
  have hlocations : location ≠ other := by
    rintro rfl
    exact hne (hlocation.trans hother.symm)
  obtain ⟨swapped, hswapped, hlast⟩ := write_comm hlocations hwrite hwrite'
  exact ⟨swapped, store_eq_ok_iff.mpr ⟨other, hother, hswapped⟩,
    store_eq_ok_iff.mpr ⟨location, hlocation, hlast⟩⟩

/-- A code names a location exactly if it is three digits of a value up to seven, and then the value
is the location.  A write stores every visible ASCII character and the space, and no other one.  A
call that fails, be it for its address or for its character, may as well be left out.  After any
calls the buffer is a text of eight characters, where the cell of a location is counted from the
other end, and it holds what was stored there last.  Writes to different locations may be called in
either order. -/
theorem cells_hold_last_stored :
    (∀ code, (∃ location, BufferLocation.ofCode code = .ok location) ↔
        (code.toList.length = 3 ∧ code.toList.all Char.isDigit) ∧
          Nat.ofDigitChars 10 code.toList 0 ≤ 7) ∧
      (∀ code location, BufferLocation.ofCode code = .ok location →
        Nat.ofDigitChars 10 code.toList 0 = location.val) ∧
      (∀ (opcode : OpcodeBuffer) location c, (∃ after, opcode.write location c = .ok after) ↔
        c = ' ' ∨ '!' ≤ c ∧ c ≤ '~') ∧
      (∀ (opcode : OpcodeBuffer) input,
        ((BufferCall.write input).apply store reset opcode).1 = .ok () ↔
          (∃ location, input.address.location = .ok location) ∧
            (input.char = ' ' ∨ '!' ≤ input.char ∧ input.char ≤ '~')) ∧
      (∀ calls rest input error,
        ((BufferCall.write input).apply store reset (afterCalls calls)).1 = .error error →
          afterCalls (calls ++ .write input :: rest) = afterCalls (calls ++ rest)) ∧
      (∀ calls, (afterCalls calls).text.toList.length = 8 ∧
        String.fromUTF8? (afterCalls calls).bytes = some (afterCalls calls).text ∧
        ∀ location : BufferLocation,
          (afterCalls calls).text.toList[7 - location.val]? =
              some ((afterCalls calls).get location) ∧
            (afterCalls calls).get location = lastStored location calls) ∧
      ∀ opcode one both first second,
        first.address.location ≠ second.address.location → store opcode first = .ok one →
          store one second = .ok both →
            ∃ swapped, store opcode second = .ok swapped ∧ store swapped first = .ok both := by
  refine ⟨fun code => BufferLocation.exists_ofCode_iff,
    fun code location hcode => (BufferLocation.ofCode_eq_ok_iff_value.mp hcode).2,
    fun opcode location c => ?_, fun opcode input => ?_, fun calls rest input error h => ?_,
    fun calls => ⟨length_text _, fromUTF8?_bytes _, fun location => ?_⟩,
    fun opcode one both first second => store_comm⟩
  · rw [exists_write_iff, isPrintableAscii_iff]
  · rw [BufferCall.apply_eq_ok_iff, exists_store_iff, isPrintableAscii_iff]
  · exact BufferCall.run_append_cons_of_error (BufferCall.apply_eq_error_iff.mp h)
  · exact ⟨getElem?_text _ location, get_afterCalls location calls⟩

/-- A write before the clearing, a code without a location, an index out of range and a letter with
an accent all leave nothing behind, and the code `007` and the index 0 are the two ends. -/
theorem cells_hold_last_stored_at_both_ends :
    let before : List (BufferCall Input) :=
      [.write ⟨.index 3, 'B'⟩, .clear, .write ⟨.code "007", 'A'⟩]
    let rest : List (BufferCall Input) :=
      [.write ⟨.index 8, 'X'⟩, .write ⟨.index 1, 'é'⟩, .write ⟨.index 0, 'C'⟩]
    let calls := before ++ .write ⟨.code "008", 'X'⟩ :: rest
    (BufferLocation.ofCode "007" = .ok 7 ∧ Nat.ofDigitChars 10 "007".toList 0 = 7) ∧
      afterCalls calls = afterCalls (before ++ rest) ∧
      ((afterCalls calls).get 7 = 'A' ∧ (afterCalls calls).get 3 = ' ' ∧
        (afterCalls calls).get 0 = 'C') ∧
      ∃ one both swapped, store (afterCalls calls) ⟨.code "006", 'D'⟩ = .ok one ∧
        store one ⟨.index 0, ' '⟩ = .ok both ∧
          store (afterCalls calls) ⟨.index 0, ' '⟩ = .ok swapped ∧
            store swapped ⟨.code "006", 'D'⟩ = .ok both := by
  intro before rest calls
  obtain ⟨-, hvalue, -, -, hrejected, hcells, hcomm⟩ := cells_hold_last_stored
  have hseven : BufferLocation.ofCode "007" = .ok 7 := by decide
  have hskipped := hrejected before rest ⟨.code "008", 'X'⟩ (some (.invalidLocation "008")) rfl
  obtain ⟨one, hone⟩ : ∃ one, store (afterCalls calls) ⟨.code "006", 'D'⟩ = .ok one :=
    exists_store_iff.mpr ⟨⟨6, by decide⟩, by decide⟩
  obtain ⟨both, hboth⟩ : ∃ both, store one ⟨.index 0, ' '⟩ = .ok both :=
    exists_store_iff.mpr ⟨⟨0, by decide⟩, by decide⟩
  obtain ⟨swapped, hswapped⟩ := hcomm _ _ _ _ _ (by decide) hone hboth
  exact ⟨⟨hseven, hvalue _ _ hseven⟩, hskipped,
    ⟨((hcells calls).2.2 7).2.trans (by decide), ((hcells calls).2.2 3).2.trans (by decide),
      ((hcells calls).2.2 0).2.trans (by decide)⟩, one, both, swapped, hone, hboth, hswapped⟩

end TellerTerminal.OpcodeBuffer
