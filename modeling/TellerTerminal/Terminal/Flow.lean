import TellerTerminal.Terminal

/-!
# The flow of states

Entering a state executes it with an empty history. A key press executes the current state with the
key added to the history, and then the state that it leads to. Executions work on a copy of the
registers, which takes effect together with history and current state once each has succeeded.
-/

namespace TellerTerminal

/-- The result of a key press: the key is not active, is accepted without a change of state, or
leads to another state. -/
inductive KeyPress
  | ignored
  | stayed
  | moved (state : StateNumber)
  deriving DecidableEq, Repr

namespace Terminal

/-- Executes the entry of a number with its linked extension. -/
def runState (terminal : Terminal) (number : StateNumber) (pressed : List FunctionKey)
    (registers : Registers) : Except ExecutionError Transition × Registers :=
  match terminal.table.get? number with
  | none => (.error (.unknownState number), registers)
  | some entry => entry.execute (terminal.table.extensionFor? entry) pressed registers

/-- The terminal in the state of a number, with the registers of its execution. -/
def arrive (terminal : Terminal) (number : StateNumber) (registers : Registers) : Terminal :=
  { terminal with current := some number, pressed := [], registers }

def enter (terminal : Terminal) (number : StateNumber) :
    Except ExecutionError Transition × Terminal :=
  match terminal.runState number [] terminal.registers with
  | (.ok transition, registers) => (.ok transition, terminal.arrive number registers)
  | (.error error, _) => (.error error, terminal)

/-- The registers with the letter of a key added to the key buffer. -/
def logKey (registers : Registers) (key : FunctionKey) : Registers :=
  { registers with
    buffers := { registers.buffers with keys := registers.buffers.keys.push key.letter } }

/-- Presses an active key in a state. -/
def pressIn (terminal : Terminal) (state : StateNumber) (key : FunctionKey) :
    Except ExecutionError KeyPress × Terminal :=
  let pressed := terminal.pressed ++ [key]
  match terminal.runState state pressed (logKey terminal.registers key) with
  | (.error error, _) => (.error error, terminal)
  | (.ok .stay, registers) => (.ok .stayed, { terminal with pressed, registers })
  | (.ok (.next next), registers) =>
      -- The next state starts from the registers of this one: an invalid mask keeps its keys.
      match terminal.runState next [] registers with
      | (.error error, _) => (.error error, terminal)
      | (.ok _, registers) => (.ok (.moved next), terminal.arrive next registers)

def press (terminal : Terminal) (letter : Char) : Except ExecutionError KeyPress × Terminal :=
  match FunctionKey.ofLetter? letter with
  | none => (.ok .ignored, terminal)
  | some key =>
      if terminal.active.contains key then
        match terminal.current with
        | some state => terminal.pressIn state key
        | none =>
            (.ok .stayed, { terminal with
              pressed := terminal.pressed ++ [key]
              registers := logKey terminal.registers key })
      else
        (.ok .ignored, terminal)

/-- The entry of the current state. -/
def entryOfCurrent? (terminal : Terminal) : Option StateEntry :=
  terminal.current.bind terminal.table.get?

/-- Enters the state that a path leads to, if there is one. -/
def follow (terminal : Terminal) (path : Option StateNumber) :
    Except ExecutionError (Option StateNumber) × Terminal :=
  match path with
  | none => (.ok none, terminal)
  | some next =>
      let (result, terminal) := terminal.enter next
      (result.map fun _ => some next, terminal)

def timeout (terminal : Terminal) : Except ExecutionError (Option StateNumber) × Terminal :=
  terminal.follow (terminal.entryOfCurrent?.bind StateEntry.timeout?)

def cancel (terminal : Terminal) : Except ExecutionError (Option StateNumber) × Terminal :=
  terminal.follow (terminal.entryOfCurrent?.bind StateEntry.cancel?)

end Terminal

end TellerTerminal
