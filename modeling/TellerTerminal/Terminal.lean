import TellerTerminal.Card
import TellerTerminal.Config
import TellerTerminal.Host.Status
import TellerTerminal.Settings
import TellerTerminal.State.Execution
import TellerTerminal.State.Table

/-!
# Terminals

A terminal owns its status, registers, key history, state table and current state. It reads the
settings store once, when it starts, and afterwards shares nothing but writes to it. A step gives
its result together with the terminal after it, also when it fails.
-/

namespace TellerTerminal

/-- The history holds the keys that were accepted since the last change of state, oldest first. -/
structure Terminal where
  config : TerminalConfig := {}
  status : TerminalStatus := .offline
  registers : Registers := {}
  pressed : List FunctionKey := []
  table : StateTable := .empty
  current : Option StateNumber := none

namespace Terminal

/-- The settings key under which the records of the installed table are stored. -/
def tableKey : String := "state_tables"

def buffers (terminal : Terminal) : Buffers :=
  terminal.registers.buffers

def active (terminal : Terminal) : KeySet :=
  terminal.registers.active

/-- The terminal with another table, which leaves it without state and history. -/
def install (terminal : Terminal) (table : StateTable) : Terminal :=
  { terminal with table, current := none, pressed := [] }

/-- The table of a stored value: a list whose texts are the chunks of a payload. Items that are no
text are passed over. -/
def storedTable? : Json → Option StateTable
  | .array items => (StateTable.ofChunks (items.filterMap Json.string?)).toOption
  | _ => none

/-- A new terminal, with the stored table if the configuration asks for it. -/
def start (config : TerminalConfig) (settings : Settings) : Terminal :=
  let terminal : Terminal := { config }
  if config.restoreStateTables then
    match storedTable? (settings.get tableKey) with
    | some table => terminal.install table
    | none => terminal
  else
    terminal

def initBuffers (terminal : Terminal) : Terminal :=
  { terminal with registers := { terminal.registers with buffers := {} } }

/-- Writes the amount buffer; without a value nothing happens. -/
def setAmount (terminal : Terminal) : Option String → Except BufferError Unit × Terminal
  | none => (.ok (), terminal)
  | some value =>
      match AmountBuffer.ofText value with
      | .ok amount => (.ok (), { terminal with registers := { terminal.registers with
          buffers := { terminal.registers.buffers with amount } } })
      | .error error => (.error error, terminal)

/-- Replaces the active keys by those of a mask. -/
def setMask (terminal : Terminal) (mask : String) : Except MaskError Unit × Terminal :=
  match KeySet.ofMask mask with
  | .ok active => (.ok (), { terminal with registers := { terminal.registers with active } })
  | .error error => (.error error, terminal)

/-- Whether the key of a letter is active. -/
def isActive (terminal : Terminal) (letter : Char) : Bool :=
  (FunctionKey.ofLetter? letter).any terminal.active.contains

/-- Notes a key in the history without executing anything. -/
def recordKey (terminal : Terminal) (key : FunctionKey) : Terminal :=
  { terminal with pressed := terminal.pressed ++ [key] }

/-- Executes an entry with the history and on the registers of the terminal. No change of state is
committed. -/
def execute (terminal : Terminal) (entry : StateEntry) (extension? : Option Extension) :
    Except ExecutionError Transition × Terminal :=
  let (result, registers) := entry.execute extension? terminal.pressed terminal.registers
  (result, { terminal with registers })

/-- The card of a track, if the track is well formed. -/
def readCard (_terminal : Terminal) (track : String) : Option Card :=
  (Card.ofTrack2 track).toOption

end Terminal

end TellerTerminal
