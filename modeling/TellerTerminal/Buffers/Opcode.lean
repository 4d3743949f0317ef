import TellerTerminal.Buffers.Error

/-!
# The opcode buffer

Eight characters, spaces at first. Locations run from the right: location 0 is the last character
of the text and location 7 the first.
-/

namespace TellerTerminal

/-- A position of the opcode buffer, counted from the right. -/
abbrev BufferLocation := Fin 8

namespace BufferLocation

def ofNat? (index : Nat) : Option BufferLocation :=
  if h : index < 8 then some ⟨index, h⟩ else none

/-- The location of a three-digit code, `000` to `007`. -/
def ofCode (code : String) : Except BufferError BufferLocation :=
  if code.toList.length = 3 ∧ code.toList.all Char.isDigit then
    match ofNat? (Nat.ofDigitChars 10 code.toList 0) with
    | some location => .ok location
    | none => .error (.invalidLocation code)
  else
    .error (.invalidLocation code)

end BufferLocation

/-- A visible ASCII character or the space. -/
def isPrintableAscii (c : Char) : Bool :=
  ' ' ≤ c && c ≤ '~'

structure OpcodeBuffer where
  cells : Vector Char 8
  printable : ∀ c ∈ cells, isPrintableAscii c = true
  deriving DecidableEq

namespace OpcodeBuffer

/-- The number of characters that the buffer holds. -/
def width : Nat := 8

def reset : OpcodeBuffer where
  cells := Vector.replicate 8 ' '
  printable := by
    intro c hc
    rw [(Vector.mem_replicate.mp hc).2]
    decide

def text (opcode : OpcodeBuffer) : String :=
  String.ofList opcode.cells.toList

def get (opcode : OpcodeBuffer) (location : BufferLocation) : Char :=
  opcode.cells[location.rev]

def write (opcode : OpcodeBuffer) (location : BufferLocation) (char : Char) :
    Except BufferError OpcodeBuffer :=
  if h : isPrintableAscii char = true then
    .ok {
      cells := opcode.cells.set location.rev char
      printable := by
        intro c hc
        rcases Vector.mem_or_eq_of_mem_set hc with hold | hnew
        · exact opcode.printable c hold
        · exact hnew ▸ h }
  else
    .error (.invalidOpcodeChar char)

end OpcodeBuffer

end TellerTerminal
