import TellerTerminal.State.Number
import TellerTerminal.Text.Blank

/-!
# Configuration

What a terminal is started with. A configuration from a file is checked before it is used: the
initial state must be a state number and the filter of the log must not be blank.
-/

namespace TellerTerminal

/-- The state to enter when the terminal goes in service, and whether the stored state table is
restored at the start. -/
structure TerminalConfig where
  initialState : String := "000"
  restoreStateTables : Bool := true
  deriving DecidableEq, Repr

structure LoggingConfig where
  filter : String := "info"
  file : Option String := none
  deriving DecidableEq, Repr

/-- Without a path the settings live in memory only. -/
structure SettingsConfig where
  path : Option String := none
  deriving DecidableEq, Repr

structure Config where
  terminal : TerminalConfig := {}
  logging : LoggingConfig := {}
  settings : SettingsConfig := {}
  deriving DecidableEq, Repr

inductive ConfigFault
  | initialState (text : String)
  | blankFilter
  deriving DecidableEq, Repr

def ConfigFault.message : ConfigFault → String
  | initialState text =>
      s!"Config validation failed: Initial state '{text}' is not a three-digit state number"
  | blankFilter => "Config validation failed: Logging filter must not be empty"

namespace Config

def validate (config : Config) : Except ConfigFault Unit :=
  if (StateNumber.ofText? config.terminal.initialState).isNone then
    .error (.initialState config.terminal.initialState)
  else if Text.isBlankText config.logging.filter.toList then
    .error .blankFilter
  else
    .ok ()

end Config

end TellerTerminal
