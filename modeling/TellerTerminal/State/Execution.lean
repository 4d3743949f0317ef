import TellerTerminal.Buffers
import TellerTerminal.KeySet.Mask
import TellerTerminal.State.Entry

/-!
# State execution

One execution of a state reads the most recent key of the history, updates the active keys and at
most one buffer, and decides where to go. It gives the registers after it also when it fails.
-/

namespace TellerTerminal

inductive Transition
  | stay
  | next (state : StateNumber)
  deriving DecidableEq, Repr

inductive ExecutionError
  | unknownState (state : StateNumber)
  | missingExtension (state extension : StateNumber)
  | missingEntry (extension : StateNumber) (key : FunctionKey)
  | amountOverflow (state : StateNumber) (value : String)
  | unsupported (state : StateNumber) (typeCode : Char)
  deriving DecidableEq, Repr

def ExecutionError.message : ExecutionError → String
  | unknownState state => s!"state {state} is not in the loaded state table"
  | missingExtension state extension =>
      s!"state {state} links extension state {extension}, which is not available"
  | missingEntry extension key =>
      s!"extension state {extension} has no entry for key {key.letter}"
  | amountOverflow state value =>
      s!"state {state}: value '{value}' does not fit the amount buffer"
  | unsupported state typeCode => s!"state {state} of type '{typeCode}' cannot be executed"

/-- What the execution of a state reads and writes. -/
structure Registers where
  buffers : Buffers := {}
  active : KeySet := .empty
  deriving DecidableEq

namespace InformationEntry

/-- The active keys that the state asks for; an invalid mask keeps those that were active. -/
def activeKeys (state : InformationEntry) (active : KeySet) : KeySet :=
  match KeySet.ofMask state.mask with
  | .ok keys => keys
  | .error _ => active

/-- The literal of an extension with the zeros of the state after it. -/
def value (state : InformationEntry) (literal : String) : String :=
  literal ++ String.ofList (List.replicate state.bufferId.zeros '0')

/-- The buffers after storing `value` in the target of the state. -/
def store (state : InformationEntry) (value : String) (buffers : Buffers) :
    Except ExecutionError Buffers :=
  match state.bufferId.target with
  | .b => .ok { buffers with b := value }
  | .c => .ok { buffers with c := value }
  | .amount =>
      match AmountBuffer.ofText value with
      | .ok amount => .ok { buffers with amount }
      | .error _ => .error (.amountOverflow state.number value)

/-- The buffers after the value of `key` has been stored. -/
def storeKey (state : InformationEntry) (extension? : Option Extension) (key : FunctionKey)
    (buffers : Buffers) : Except ExecutionError Buffers :=
  match extension? with
  | none => .error (.missingExtension state.number state.extension)
  | some extension =>
      match extension.literal? key with
      | none => .error (.missingEntry extension.number key)
      | some literal => state.store (state.value literal) buffers

def execute (state : InformationEntry) (extension? : Option Extension)
    (pressed : List FunctionKey) (registers : Registers) :
    Except ExecutionError Transition × Registers :=
  let active := state.activeKeys registers.active
  match pressed.getLast? with
  -- Without a key the state only waits for one.
  | none => (.ok .stay, { registers with active })
  | some key =>
      match state.storeKey extension? key registers.buffers with
      -- What can fail comes before the first write.
      | .error error => (.error error, registers)
      | .ok buffers => (.ok (.next state.next), { buffers, active })

end InformationEntry

namespace Selection

/-- The keys that have a next state. -/
def enabledKeys (state : Selection) : KeySet :=
  .ofList (keys.filter fun key => (state.next? key).isSome)

/-- The opcode buffer with the letter of `key` at the location of the state. A letter is always
printable, so the write cannot fail. -/
def mark (state : Selection) (key : FunctionKey) (opcode : OpcodeBuffer) : OpcodeBuffer :=
  match BufferLocation.ofCode state.location with
  | .error _ => opcode
  | .ok location =>
      match opcode.write location key.letter with
      | .ok marked => marked
      | .error _ => opcode

def execute (state : Selection) (pressed : List FunctionKey) (registers : Registers) :
    Transition × Registers :=
  let registers := { registers with active := state.enabledKeys }
  match pressed.getLast? with
  | none => (.stay, registers)
  | some key =>
      -- The letter of a disabled key is marked too.
      if key ∈ keys then
        let opcode := state.mark key registers.buffers.opcode
        let transition := match state.next? key with
          | some next => Transition.next next
          | none => .stay
        (transition, { registers with buffers := { registers.buffers with opcode } })
      else
        (.stay, registers)

end Selection

/-- Executes an entry once with its linked extension and the history of pressed keys. -/
def StateEntry.execute (entry : StateEntry) (extension? : Option Extension)
    (pressed : List FunctionKey) (registers : Registers) :
    Except ExecutionError Transition × Registers :=
  match entry with
  | information state => state.execute extension? pressed registers
  | selection state =>
      let (transition, registers) := state.execute pressed registers
      (.ok transition, registers)
  | extension _ => (.error (.unsupported entry.number entry.typeCode), registers)
  | other _ => (.error (.unsupported entry.number entry.typeCode), registers)

end TellerTerminal
