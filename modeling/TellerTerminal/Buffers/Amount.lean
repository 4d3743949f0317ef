import TellerTerminal.Buffers.Error

/-!
# The amount buffer

Twelve decimal digits. A written value stands at the right, with zeros before it, so the buffer
denotes the same number as the value.
-/

namespace TellerTerminal

structure AmountBuffer where
  digits : List Char
  length_eq : digits.length = 12
  isDigit : ∀ c ∈ digits, c.isDigit = true
  deriving DecidableEq

namespace AmountBuffer

/-- The number of digits that the buffer holds. -/
def width : Nat := 12

def reset : AmountBuffer where
  digits := List.replicate 12 '0'
  length_eq := rfl
  isDigit := by
    intro c hc
    rw [(List.mem_replicate.mp hc).2]
    decide

def text (amount : AmountBuffer) : String :=
  String.ofList amount.digits

/-- The number that the digits denote. -/
def value (amount : AmountBuffer) : Nat :=
  Nat.ofDigitChars 10 amount.digits 0

/-- The buffer that holds the digits of `chars` on the right. -/
def pad (chars : List Char) (hdigit : ∀ c ∈ chars, c.isDigit = true)
    (hlength : chars.length ≤ 12) : AmountBuffer where
  digits := chars.leftpad 12 '0'
  length_eq := by
    rw [List.length_leftpad]
    omega
  isDigit := by
    intro c hc
    rcases List.mem_append.mp hc with hzero | hchar
    · rw [(List.mem_replicate.mp hzero).2]
      decide
    · exact hdigit c hchar

/-- The buffer after writing `value`. The digits are checked before the length, and nothing is cut
off. -/
def ofText (value : String) : Except BufferError AmountBuffer :=
  if hdigit : value.toList.all Char.isDigit = true then
    if hlength : value.toList.length ≤ 12 then
      .ok (pad value.toList (List.all_eq_true.mp hdigit) hlength)
    else
      .error (.amountTooLong value)
  else
    .error (.nonDigitAmount value)

end AmountBuffer

end TellerTerminal
