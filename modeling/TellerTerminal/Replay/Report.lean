import TellerTerminal.Replay.Event
import TellerTerminal.Terminal.Host

/-!
# Reports

One event applied to a terminal gives a report: what came of the event, and a snapshot of the
terminal after it.
-/

namespace TellerTerminal

inductive Outcome
  | response (response : Response)
  | noResponse
  | key (letter : Char) (press : KeyPress)
  | card (card : Option Card)
  | transition (next : Option StateNumber)
  | error (message : String)
  deriving DecidableEq, Repr

structure Report where
  outcome : Outcome
  status : TerminalStatus
  state : Option StateNumber
  active : KeySet
  buffers : Buffers
  deriving DecidableEq

namespace Report

/-- The report of an outcome that left the terminal as it is now. -/
def ofTerminal (terminal : Terminal) (outcome : Outcome) : Report :=
  { outcome
    status := terminal.status
    state := terminal.current
    active := terminal.active
    buffers := terminal.buffers }

end Report

namespace Outcome

/-- The outcome of a step that may fail. -/
def ofResult {α : Type} (outcome : α → Outcome) : Except ExecutionError α → Outcome
  | .ok value => outcome value
  | .error cause => .error cause.message

end Outcome

namespace Event

def act (event : Event) (terminal : Terminal) (settings : Settings) :
    Outcome × Terminal × Settings :=
  match event with
  | host message =>
      match terminal.receive settings message with
      | (some response, terminal, settings) => (.response response, terminal, settings)
      | (none, terminal, settings) => (.noResponse, terminal, settings)
  | key letter =>
      let (result, terminal) := terminal.press letter
      (.ofResult (.key letter) result, terminal, settings)
  | card track => (.card (terminal.readCard track), terminal, settings)
  | timeout =>
      let (result, terminal) := terminal.timeout
      (.ofResult .transition result, terminal, settings)
  | cancel =>
      let (result, terminal) := terminal.cancel
      (.ofResult .transition result, terminal, settings)

def apply (event : Event) (terminal : Terminal) (settings : Settings) :
    Report × Terminal × Settings :=
  let (outcome, terminal, settings) := event.act terminal settings
  (.ofTerminal terminal outcome, terminal, settings)

end Event

end TellerTerminal
