import TellerTerminal.Text.Blank

/-!
# Host messages and responses

Every field of a host message may be absent: which ones are needed depends on the class. A response
is a solicited status message with one of two descriptors.
-/

namespace TellerTerminal

/-- State records as the host sends them. -/
inductive StatesPayload
  | single (chunk : String)
  | many (chunks : List String)
  deriving DecidableEq, Repr

namespace StatesPayload

def chunks : StatesPayload → List String
  | single chunk => [chunk]
  | many chunks => chunks

/-- Nothing but blanks in any chunk. -/
def isBlank (states : StatesPayload) : Bool :=
  states.chunks.all fun chunk => Text.isBlankText chunk.toList

end StatesPayload

structure HostMessage where
  messageClass : Option String := none
  messageSubclass : Option String := none
  commandCode : Option String := none
  messageIdentifier : Option String := none
  states : Option StatesPayload := none
  deriving DecidableEq, Repr

namespace HostMessage

def terminalCommandClass : String := "Terminal Command"

def dataCommandClass : String := "Data Command"

def customizationSubclass : String := "Customization Command"

def stateTablesLoadIdentifier : String := "State Tables load"

def goInServiceCode : String := "Go in-service"

def goOutOfServiceCode : String := "Go out-of-service"

def terminalCommand (code : String) : HostMessage :=
  { messageClass := some terminalCommandClass, commandCode := some code }

def stateTablesLoad (states : StatesPayload) : HostMessage :=
  { messageClass := some dataCommandClass
    messageSubclass := some customizationSubclass
    messageIdentifier := some stateTablesLoadIdentifier
    states := some states }

end HostMessage

inductive StatusDescriptor
  | ready
  | commandReject
  deriving DecidableEq, Repr

namespace StatusDescriptor

def name : StatusDescriptor → String
  | ready => "Ready"
  | commandReject => "Command Reject"

def ofName? (name : String) : Option StatusDescriptor :=
  [ready, commandReject].find? fun descriptor => descriptor.name = name

end StatusDescriptor

structure Response where
  messageClass : String
  messageSubclass : String
  descriptor : StatusDescriptor
  deriving DecidableEq, Repr

namespace Response

def solicitedStatus (descriptor : StatusDescriptor) : Response :=
  { messageClass := "Solicited", messageSubclass := "Status", descriptor }

def ready : Response := solicitedStatus .ready

def commandReject : Response := solicitedStatus .commandReject

end Response

end TellerTerminal
