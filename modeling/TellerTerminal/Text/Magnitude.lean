/-!
# Decimals beyond the range of a double

A decimal `significand · 10 ^ exponent` has no finite double-precision value when it lies at or
above the middle between the largest finite double and the next power of two. One reader decides
this for the number itself, another after it has rounded both factors.
-/

namespace TellerTerminal.Text

/-- The least number that rounds to infinity. -/
def doubleOverflow : Nat := Nat.pow 2 1024 - Nat.pow 2 970

/-- The number of decimal digits decides, save within a few powers of ten of the limit, where the
number itself is compared. -/
def overflowsDouble (significand : Nat) (exponent : Int) : Bool :=
  -- The number lies below `10 ^ magnitude`, and not below a tenth of it.
  let magnitude := (Nat.toDigits 10 significand).length + exponent
  if significand = 0 ∨ magnitude < 300 then false
  else if 320 < magnitude then true
  else if 0 ≤ exponent then doubleOverflow ≤ significand * Nat.pow 10 exponent.toNat
  else doubleOverflow * Nat.pow 10 (-exponent).toNat ≤ significand

/-- The nearest number of 53 significant bits; of two that are equally near the even one. -/
def roundToDouble (value : Nat) : Nat :=
  -- The distance between neighbours of 53 bits at this size.
  let unit := Nat.pow 2 (value.log2 - 52)
  let below := value / unit
  let rest := value % unit
  if 2 * rest < unit ∨ (2 * rest = unit ∧ below % 2 = 0) then below * unit
  else (below + 1) * unit

/-- Whether the product of the rounded factors rounds to infinity, for a significand of 64 bits.
A double holds no power of ten above `10 ^ 308`. -/
def productOverflows (significand : Nat) (exponent : Int) : Bool :=
  if significand = 0 ∨ exponent ≤ 0 then false
  else if 308 < exponent then true
  else doubleOverflow ≤ roundToDouble significand * roundToDouble (Nat.pow 10 exponent.toNat)

end TellerTerminal.Text
