/-!
# Rejected buffer writes

A rejected write leaves its buffer as it was.
-/

namespace TellerTerminal

inductive BufferError
  | nonDigitAmount (value : String)
  | amountTooLong (value : String)
  | invalidLocation (code : String)
  | invalidOpcodeChar (char : Char)
  deriving DecidableEq, Repr

def BufferError.message : BufferError → String
  | nonDigitAmount value => s!"amount '{value}' is not a digit string"
  | amountTooLong value => s!"amount '{value}' does not fit in 12 digits"
  | invalidLocation code => s!"buffer location '{code}' is outside 0-7"
  | invalidOpcodeChar char => s!"'{char}' cannot be stored in the opcode buffer"

end TellerTerminal
