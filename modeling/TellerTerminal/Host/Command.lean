import TellerTerminal.Host.Message
import TellerTerminal.Text.Quoted

/-!
# Host commands

The command that a host message asks for. A message without a class asks for nothing and is not
answered; one of a known shape that cannot be obeyed is rejected with a reason.
-/

namespace TellerTerminal

inductive Rejection
  | unknownTerminalCommand (code : Option String)
  | missingSubclass
  | unknownSubclass (subclass : String)
  | unknownIdentifier (identifier : Option String)
  | missingStates
  | unknownClass (messageClass : String)
  deriving DecidableEq, Repr

def Rejection.message : Rejection → String
  | unknownTerminalCommand code => "unknown terminal command " ++ Text.quotedOption code
  | missingSubclass => "data command without a subclass"
  | unknownSubclass subclass => s!"unknown data command subclass '{subclass}'"
  | unknownIdentifier identifier =>
      "unknown customization command " ++ Text.quotedOption identifier
  | missingStates => "state tables load without state records"
  | unknownClass messageClass => s!"unknown message class '{messageClass}'"

inductive HostCommand
  | goOutOfService
  | goInService
  | loadStateTables (states : StatesPayload)
  | reject (reason : Rejection)
  deriving DecidableEq, Repr

namespace HostMessage

def serviceCommand (message : HostMessage) : HostCommand :=
  if message.commandCode = some goOutOfServiceCode then .goOutOfService
  else if message.commandCode = some goInServiceCode then .goInService
  else .reject (.unknownTerminalCommand message.commandCode)

/-- A load needs states that are not blank altogether. -/
def customizationCommand (message : HostMessage) : HostCommand :=
  if message.messageIdentifier = some stateTablesLoadIdentifier then
    match message.states with
    | some states =>
        if states.isBlank then .reject .missingStates else .loadStateTables states
    | none => .reject .missingStates
  else
    .reject (.unknownIdentifier message.messageIdentifier)

def dataCommand (message : HostMessage) : HostCommand :=
  match message.messageSubclass with
  | none => .reject .missingSubclass
  | some subclass =>
      if subclass = customizationSubclass then message.customizationCommand
      else .reject (.unknownSubclass subclass)

/-- The command of a message, if it has a class. -/
def command? (message : HostMessage) : Option HostCommand :=
  message.messageClass.map fun messageClass =>
    if messageClass = terminalCommandClass then message.serviceCommand
    else if messageClass = dataCommandClass then message.dataCommand
    else .reject (.unknownClass messageClass)

end HostMessage

end TellerTerminal
