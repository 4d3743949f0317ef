/-!
# Terminal status

The operational status of a terminal as the host sees it. Only host messages change it.
-/

namespace TellerTerminal

inductive TerminalStatus
  | offline
  | online
  | inService
  | outOfService
  deriving DecidableEq, Repr

namespace TerminalStatus

def all : List TerminalStatus := [offline, online, inService, outOfService]

def name : TerminalStatus → String
  | offline => "Offline"
  | online => "Online"
  | inService => "In-Service"
  | outOfService => "Out-Of-Service"

def ofName? (name : String) : Option TerminalStatus :=
  all.find? fun status => status.name = name

end TerminalStatus

end TellerTerminal
