/-!
# Hexadecimal digits

Numbers are written in lower case; digits of either case are read.
-/

namespace TellerTerminal.Text

def isHexDigit (c : Char) : Bool :=
  c.isDigit || ('a' ≤ c && c ≤ 'f') || ('A' ≤ c && c ≤ 'F')

/-- The value of a hexadecimal digit. -/
def hexValue (c : Char) : Nat :=
  if c.isDigit then c.toNat - '0'.toNat
  else if 'a' ≤ c then c.toNat - 'a'.toNat + 10
  else c.toNat - 'A'.toNat + 10

def ofHex (digits : List Char) : Nat :=
  digits.foldl (fun value c => 16 * value + hexValue c) 0

/-- The last four hexadecimal digits of a number, zeros in front. -/
def fourHexDigits (value : Nat) : List Char :=
  [(value / 4096 % 16).digitChar, (value / 256 % 16).digitChar, (value / 16 % 16).digitChar,
    (value % 16).digitChar]

end TellerTerminal.Text
