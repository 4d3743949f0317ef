import TellerTerminal.Proofs.Idle
import TellerTerminal.Proofs.InformationExecution
import TellerTerminal.Proofs.Operations

/-!
# What is written into the buffers

An execution writes one buffer at most: a general purpose buffer or the amount receives a literal
of the linked extension, or the opcode buffer is marked with the letter of a selection key.  Key
buffer and PIN are out of its reach.  A press that is accepted adds its letter to the key buffer
before it executes anything, and nothing else that can be done to a terminal adds one.
-/

namespace TellerTerminal

/-- The value may be stored by an execution of the entry: it is a literal of the extension with the
zeros of the state. -/
def StateEntry.Supplies (entry : StateEntry) (extension? : Option Extension) (value : String) :
    Prop :=
  ∃ state extension, entry = .information state ∧ extension? = some extension ∧
    ∃ literal ∈ extension.literals, value = state.value literal

/-- Some entry of the table supplies the value. -/
def StateTable.Supplies (table : StateTable) (value : String) : Prop :=
  ∃ entry ∈ table.entries, entry.Supplies (table.extensionFor? entry) value

namespace Buffers

/-- What one execution can do to the buffers, with the values that it may store. -/
inductive Write (buffers : Buffers) (supplied : String → Prop) : Buffers → Prop
  | nothing : Write buffers supplied buffers
  | b {value : String} (hvalue : supplied value) :
      Write buffers supplied { buffers with b := value }
  | c {value : String} (hvalue : supplied value) :
      Write buffers supplied { buffers with c := value }
  | amount (amount : AmountBuffer) : Write buffers supplied { buffers with amount }
  | opcode (state : Selection) {key : FunctionKey} (hkey : key ∈ Selection.keys) :
      Write buffers supplied { buffers with opcode := state.mark key buffers.opcode }

variable {supplied : String → Prop} {buffers after : Buffers}

theorem Write.mono {others : String → Prop} (hvalues : ∀ value, supplied value → others value)
    (h : buffers.Write supplied after) : buffers.Write others after := by
  cases h with
  | nothing => exact .nothing
  | b hvalue => exact .b (hvalues _ hvalue)
  | c hvalue => exact .c (hvalues _ hvalue)
  | amount amount => exact .amount amount
  | opcode state hkey => exact .opcode state hkey

theorem Write.keys_eq (h : buffers.Write supplied after) : after.keys = buffers.keys := by
  cases h with
  | _ => rfl

theorem Write.pin_eq (h : buffers.Write supplied after) : after.pin = buffers.pin := by
  cases h with
  | _ => rfl

end Buffers

theorem InformationEntry.Stores.write {state : InformationEntry} {literal : String}
    {buffers after : Buffers} {supplied : String → Prop} (h : state.Stores literal buffers after)
    (hvalue : supplied (state.value literal)) : buffers.Write supplied after := by
  cases h with
  | b => exact .b hvalue
  | c => exact .c hvalue
  | amount => exact .amount _

theorem InformationEntry.write_of_storeKey {state : InformationEntry}
    {extension? : Option Extension} {key : FunctionKey} {buffers after : Buffers}
    (h : state.storeKey extension? key buffers = .ok after) :
    buffers.Write ((StateEntry.information state).Supplies extension?) after := by
  unfold storeKey at h
  split at h
  next => contradiction
  next extension =>
    split at h
    next => contradiction
    next literal hliteral =>
      exact (store_eq_ok_iff.mp h).write
        ⟨state, extension, rfl, rfl, literal, Vector.mem_of_getElem? hliteral, rfl⟩

/-- An execution does one write at most, whatever its history and its registers. -/
theorem StateEntry.write_of_execute (entry : StateEntry) (extension? : Option Extension)
    (pressed : List FunctionKey) (registers : Registers) :
    registers.buffers.Write (entry.Supplies extension?)
      (entry.execute extension? pressed registers).2.buffers := by
  cases entry with
  | information state =>
      simp only [execute, InformationEntry.execute]
      split
      next => exact .nothing
      next key _ =>
        split
        next => exact .nothing
        next after hstore => exact InformationEntry.write_of_storeKey hstore
  | selection state =>
      simp only [execute, Selection.execute]
      split
      next => exact .nothing
      next key _ =>
        split_ifs with hkey
        · exact .opcode state hkey
        · exact .nothing
  | extension state => exact .nothing
  | other state => exact .nothing

namespace Terminal

variable {terminal after : Terminal}

theorem write_of_runKey (terminal : Terminal) (state : StateNumber) (key : FunctionKey) :
    (logKey terminal.registers key).buffers.Write terminal.table.Supplies
      (terminal.runKey state key).2.buffers := by
  cases hentry : terminal.table.get? state with
  | none =>
      rw [runKey, runState, hentry]
      exact .nothing
  | some entry =>
      rw [runKey, runState_of_get? hentry]
      refine (entry.write_of_execute _ _ _).mono fun value hvalue => ?_
      exact ⟨entry, StateTable.mem_entries_of_get? hentry, hvalue⟩

/-- Whether a press was accepted, with or without a change of state. -/
def wasAccepted : Except ExecutionError KeyPress → Bool
  | .ok .stayed => true
  | .ok (.moved _) => true
  | _ => false

variable {letter : Char} {result : Except ExecutionError KeyPress}

theorem isIdle_of_not_wasAccepted (h : wasAccepted result = false) :
    (OperationResult.press result).isIdle := by
  rcases result with error | _ | _ | next
  · rfl
  · rfl
  · contradiction
  · contradiction

theorem PressEnd.buffers_eq (hend : terminal.PressEnd letter result after)
    (hrejected : wasAccepted result = false) : after.buffers = terminal.buffers := by
  rw [hend.eq_of_isIdle (isIdle_of_not_wasAccepted hrejected)]

/-- The letter of an accepted press is logged before the current state is executed.  Entering the
next state writes nothing more. -/
theorem PressEnd.exists_write (hend : terminal.PressEnd letter result after)
    (haccepted : wasAccepted result) :
    ∃ key, FunctionKey.ofLetter? letter = some key ∧
      (logKey terminal.registers key).buffers.Write terminal.table.Supplies after.buffers := by
  cases hend with
  | ignored => contradiction
  | noted hkey => exact ⟨_, hkey, .nothing⟩
  | @pressedIn key state _ _ hkey _ _ hend =>
      have hwrite := terminal.write_of_runKey state key
      cases hend with
      | failed => contradiction
      | blocked => contradiction
      | stayed hrun =>
          rw [hrun] at hwrite
          exact ⟨key, hkey, hwrite⟩
      | moved hrun =>
          rw [hrun] at hwrite
          exact ⟨key, hkey, hwrite⟩

theorem FollowEnd.buffers_eq {path : Option StateNumber}
    {followed : Except ExecutionError (Option StateNumber)}
    (hend : terminal.FollowEnd path followed after) : after.buffers = terminal.buffers := by
  cases hend with
  | nowhere => rfl
  | entered => rfl
  | failed => rfl

theorem ReceiveEnd.buffers_eq {message : HostMessage} {settings stored : Settings}
    {response? : Option Response}
    (hend : terminal.ReceiveEnd settings message response? after stored) :
    after.buffers = terminal.buffers := by
  cases hend with
  | unanswered => rfl
  | rejected => rfl
  | outOfService => rfl
  | inService =>
      rw [goInService_eq]
      cases terminal.entryOfInitial? with
      | none => rfl
      | some entry => rfl
  | loaded => rfl

end Terminal

namespace Operation

/-- The capital letter of a press that was accepted. -/
def acceptedLetter? : Operation × OperationResult → Option Char
  | (press letter, .press result) =>
      if Terminal.wasAccepted result then some letter.toUpper else none
  | _ => none

def isReset : Operation × OperationResult → Bool
  | (initBuffers, _) => true
  | _ => false

/-- What an operation with its result can do to the buffers. -/
inductive BuffersEnd (buffers : Buffers) : Operation × OperationResult → Buffers → Prop
  | written {step : Operation × OperationResult} {after : Buffers}
      (hletter : acceptedLetter? step = none) (hreset : isReset step = false)
      (hwrite : buffers.Write (fun _ => True) after) : BuffersEnd buffers step after
  | pressed {letter : Char} {key : FunctionKey} {result : Except ExecutionError KeyPress}
      {after : Buffers} (haccepted : Terminal.wasAccepted result)
      (hkey : FunctionKey.ofLetter? letter = some key)
      (hwrite : Buffers.Write { buffers with keys := buffers.keys.push key.letter }
        (fun _ => True) after) : BuffersEnd buffers (press letter, .press result) after
  | reset : BuffersEnd buffers (initBuffers, .done) {}

theorem BuffersEnd.unchanged {buffers after : Buffers} {step : Operation × OperationResult}
    (hletter : acceptedLetter? step = none) (hreset : isReset step = false)
    (hsame : after = buffers) : BuffersEnd buffers step after := by
  rw [hsame]
  exact .written hletter hreset .nothing

theorem buffers_end (operation : Operation) (terminal : Terminal) (settings : Settings) :
    BuffersEnd terminal.buffers (operation, (operation.apply terminal settings).1)
      (operation.apply terminal settings).2.1.buffers := by
  cases operation with
  | receive message =>
      exact .unchanged rfl rfl (terminal.receive_end settings message).buffers_eq
  | enter state => exact .unchanged rfl rfl (terminal.follow_end (some state)).buffers_eq
  | press letter =>
      have hend := terminal.press_end letter
      by_cases haccepted : Terminal.wasAccepted (terminal.press letter).1
      · obtain ⟨key, hkey, hwrite⟩ := hend.exists_write haccepted
        exact .pressed haccepted hkey (hwrite.mono fun _ _ => trivial)
      · exact .unchanged (if_neg haccepted) rfl (hend.buffers_eq (by simpa using haccepted))
  | timeout => exact .unchanged rfl rfl (terminal.follow_end _).buffers_eq
  | cancel => exact .unchanged rfl rfl (terminal.follow_end _).buffers_eq
  | recordKey key => exact .unchanged rfl rfl rfl
  | execute entry extension? =>
      have hwrite := entry.write_of_execute extension? terminal.pressed terminal.registers
      exact .written rfl rfl (hwrite.mono fun _ _ => trivial)
  | setMask mask =>
      refine .unchanged rfl rfl ?_
      show (terminal.setMask mask).2.buffers = terminal.buffers
      rw [Terminal.setMask_eq]
      rfl
  | setAmount value =>
      refine .written rfl rfl ?_
      show terminal.buffers.Write _ (terminal.setAmount value).2.buffers
      rw [Terminal.setAmount_eq]
      exact .amount _
  | initBuffers => exact .reset

end Operation

end TellerTerminal
