import TellerTerminal.Host.Command
import TellerTerminal.Terminal.Flow

/-!
# Host messages at a terminal

A terminal answers every message that has a class: `Ready` to a command that it carries out and
`Command Reject` to any other. Only an accepted load of state tables writes the settings.
-/

namespace TellerTerminal.Terminal

/-- The terminal in its initial state; without such a state in the table it stays as it is. -/
def enterInitial (terminal : Terminal) : Terminal :=
  match StateNumber.ofText? terminal.config.initialState with
  | none => terminal
  | some number =>
      if terminal.table.contains number then (terminal.enter number).2 else terminal

def goInService (terminal : Terminal) : Terminal :=
  enterInitial { terminal with status := .inService }

def goOutOfService (terminal : Terminal) : Terminal :=
  { terminal with status := .outOfService }

/-- Installs the table of a payload and stores its records. -/
def load (terminal : Terminal) (settings : Settings) (states : StatesPayload) :
    Except RecordError Unit × Terminal × Settings :=
  match StateTable.ofChunks states.chunks with
  | .ok table =>
      (.ok (), terminal.install table, settings.set tableKey (.strings table.records))
  | .error error => (.error error, terminal, settings)

def obey (terminal : Terminal) (settings : Settings) :
    HostCommand → Response × Terminal × Settings
  | .goOutOfService => (.ready, terminal.goOutOfService, settings)
  | .goInService => (.ready, terminal.goInService, settings)
  | .loadStateTables states =>
      match terminal.load settings states with
      | (.ok _, terminal, settings) => (.ready, terminal, settings)
      | (.error _, terminal, settings) => (.commandReject, terminal, settings)
  | .reject _ => (.commandReject, terminal, settings)

/-- Processes a host message; without a class it has no response and no effect. -/
def receive (terminal : Terminal) (settings : Settings) (message : HostMessage) :
    Option Response × Terminal × Settings :=
  match message.command? with
  | none => (none, terminal, settings)
  | some command =>
      let (response, terminal, settings) := terminal.obey settings command
      (some response, terminal, settings)

end TellerTerminal.Terminal
