import TellerTerminal.Buffers.Amount
import TellerTerminal.Buffers.Opcode

/-!
# The buffers of a terminal

The PIN and the general purpose buffers `B` and `C` hold text of any length, and the key buffer
gathers the letters of the accepted keys. The amount and opcode buffers have a fixed width.
-/

namespace TellerTerminal

structure Buffers where
  pin : String := ""
  b : String := ""
  c : String := ""
  amount : AmountBuffer := .reset
  opcode : OpcodeBuffer := .reset
  keys : String := ""
  deriving DecidableEq

end TellerTerminal
