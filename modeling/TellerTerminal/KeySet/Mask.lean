import TellerTerminal.KeySet

/-!
# Active-key masks

A mask names a set of keys in one of two forms, told apart by the number of characters.

* Three characters: a decimal number up to 255, read as eight bits for `A B C D F G H I`, most
  significant bit first. Key `E` has no bit in this form.
* Ten characters: a reserved character that may be anything, then a `0` or `1` for each of `A`
  to `I`.
-/

namespace TellerTerminal

inductive MaskError
  | invalidLength (length : Nat)
  | invalidDecimal (mask : String)
  | invalidBinary (mask : String)
  deriving DecidableEq, Repr

def MaskError.message : MaskError → String
  | invalidLength length => s!"FDK mask must be 3 or 10 characters, got {length}"
  | invalidDecimal mask => s!"decimal FDK mask '{mask}' is not a number in 0-255"
  | invalidBinary mask =>
      s!"binary FDK mask '{mask}' contains characters other than 0 and 1"

namespace KeySet

/-- The bit that each key has in a decimal mask. -/
def decimalBits : List (FunctionKey × Nat) :=
  [(.a, 7), (.b, 6), (.c, 5), (.d, 4), (.f, 3), (.g, 2), (.h, 1), (.i, 0)]

/-- The keys whose bit is set in a decimal mask of this value. -/
def ofDecimal (value : Nat) : KeySet :=
  ofList ((decimalBits.filter fun bit => value.testBit bit.2).map Prod.fst)

/-- The keys whose flag is `1`, where the flags stand in letter order. -/
def ofFlags (flags : List Char) : KeySet :=
  ofList (((FunctionKey.all.zip flags).filter fun flag => flag.2 = '1').map Prod.fst)

def ofMask (mask : String) : Except MaskError KeySet :=
  let chars := mask.toList
  if chars.length = 3 then
    if chars.all Char.isDigit && Nat.ofDigitChars 10 chars 0 ≤ 255 then
      .ok (ofDecimal (Nat.ofDigitChars 10 chars 0))
    else
      .error (.invalidDecimal mask)
  else if chars.length = 10 then
    if chars.tail.all fun flag => flag = '0' || flag = '1' then
      .ok (ofFlags chars.tail)
    else
      .error (.invalidBinary mask)
  else
    .error (.invalidLength chars.length)

end KeySet

end TellerTerminal
