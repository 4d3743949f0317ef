import TellerTerminal.Json
import TellerTerminal.Text.Magnitude

/-!
# JSON numbers

A minus sign, digits without needless zeros, a fraction and an exponent, of which only the digits
must be there. A number whose value rounds to infinity has no meaning.
-/

namespace TellerTerminal.Json

/-- The parts of a written number. The fraction is empty when there is none. -/
structure Numeral where
  negative : Bool
  whole : List Char
  fraction : List Char
  exponent : Option (Bool × List Char)
  deriving DecidableEq, Repr

namespace Numeral

/-- The digits at the front, of which there must be one. -/
def digits? (chars : List Char) : Option (List Char × List Char) :=
  match chars.takeWhile Char.isDigit with
  | [] => none
  | digits => some (digits, chars.dropWhile Char.isDigit)

/-- A zero stands alone in front of the point. -/
def whole? : List Char → Option (List Char × List Char)
  | '0' :: rest => some (['0'], rest)
  | chars => digits? chars

def fraction? : List Char → Option (List Char × List Char)
  | '.' :: rest => digits? rest
  | chars => some ([], chars)

def signedDigits? : List Char → Option ((Bool × List Char) × List Char)
  | '-' :: rest => (digits? rest).map fun (digits, rest) => ((true, digits), rest)
  | '+' :: rest => (digits? rest).map fun (digits, rest) => ((false, digits), rest)
  | chars => (digits? chars).map fun (digits, rest) => ((false, digits), rest)

def exponent? : List Char → Option (Option (Bool × List Char) × List Char)
  | 'e' :: rest => (signedDigits? rest).map fun (digits, rest) => (some digits, rest)
  | 'E' :: rest => (signedDigits? rest).map fun (digits, rest) => (some digits, rest)
  | chars => some (none, chars)

def unsigned? (negative : Bool) (chars : List Char) : Option (Numeral × List Char) := do
  let (whole, rest) ← whole? chars
  let (fraction, rest) ← fraction? rest
  let (exponent, rest) ← exponent? rest
  return ({ negative, whole, fraction, exponent }, rest)

/-- The number at the front and what follows it. -/
def read? : List Char → Option (Numeral × List Char)
  | '-' :: rest => unsigned? true rest
  | chars => unsigned? false chars

theorem length_of_digits? {chars digits rest : List Char}
    (h : digits? chars = some (digits, rest)) : rest.length < chars.length := by
  have hsplit := List.takeWhile_append_dropWhile (p := Char.isDigit) (l := chars)
  unfold digits? at h
  split at h
  next => simp at h
  next hne => grind [List.length_pos_iff.mpr hne]

theorem length_of_whole? {chars digits rest : List Char}
    (h : whole? chars = some (digits, rest)) : rest.length < chars.length := by
  unfold whole? at h
  split at h <;> grind [→ length_of_digits?]

theorem length_of_fraction? {chars digits rest : List Char}
    (h : fraction? chars = some (digits, rest)) : rest.length ≤ chars.length := by
  unfold fraction? at h
  split at h <;> grind [→ length_of_digits?]

theorem length_of_signedDigits? {chars rest : List Char} {digits : Bool × List Char}
    (h : signedDigits? chars = some (digits, rest)) : rest.length < chars.length := by
  unfold signedDigits? at h
  split at h <;> grind [→ length_of_digits?, Option.map_eq_some_iff]

theorem length_of_exponent? {chars rest : List Char} {exponent : Option (Bool × List Char)}
    (h : exponent? chars = some (exponent, rest)) : rest.length ≤ chars.length := by
  unfold exponent? at h
  split at h <;> grind [→ length_of_signedDigits?, Option.map_eq_some_iff]

theorem length_of_unsigned? {negative : Bool} {chars rest : List Char} {numeral : Numeral}
    (h : unsigned? negative chars = some (numeral, rest)) : rest.length < chars.length := by
  simp only [unsigned?, Option.bind_eq_bind, Option.bind_eq_some_iff] at h
  grind [→ length_of_whole?, → length_of_fraction?, → length_of_exponent?]

/-- A number takes at least one character. -/
theorem length_of_read? {chars rest : List Char} {numeral : Numeral}
    (h : read? chars = some (numeral, rest)) : rest.length < chars.length := by
  unfold read? at h
  split at h <;> grind [→ length_of_unsigned?]

def signText (negative : Bool) : List Char :=
  if negative then ['-'] else []

def text (numeral : Numeral) : List Char :=
  signText numeral.negative ++ numeral.whole ++
    (if numeral.fraction.isEmpty then [] else '.' :: numeral.fraction) ++
    match numeral.exponent with
    | some (negative, digits) => 'e' :: signText negative ++ digits
    | none => []

def exponentValue (numeral : Numeral) : Int :=
  match numeral.exponent with
  | some (true, digits) => -(Nat.ofDigitChars 10 digits 0 : Int)
  | some (false, digits) => Nat.ofDigitChars 10 digits 0
  | none => 0

/-- The number of the digits at the front as long as it fits a word of 64 bits, and how many digits
are left over. -/
def leading (value : Nat) : List Char → Nat × Nat
  | [] => (value, 0)
  | c :: rest =>
      let next := Nat.ofDigitChars 10 [c] value
      if next < UInt64.size then leading next rest else (value, rest.length + 1)

/-- Whether the value rounds to infinity, where only the leading digits count. -/
def overflows (numeral : Numeral) : Bool :=
  let (significand, left) := leading 0 (numeral.whole ++ numeral.fraction)
  Text.productOverflows significand (numeral.exponentValue + left - numeral.fraction.length)

/-- The integer that the number denotes, if it has no fraction and no exponent and fits a signed or
an unsigned word of 64 bits. Minus zero is not an integer. -/
def integer? (numeral : Numeral) : Option Int :=
  let value := Nat.ofDigitChars 10 numeral.whole 0
  if numeral.fraction ≠ [] ∨ numeral.exponent ≠ none then none
  else if numeral.negative then
    if value ≠ 0 ∧ 2 * value ≤ UInt64.size then some (-(value : Int)) else none
  else if value < UInt64.size then some value
  else none

def toJson? (numeral : Numeral) : Option Json :=
  match numeral.integer? with
  | some value => some (.integer value)
  | none =>
      if numeral.overflows then none else some (.decimal (String.ofList numeral.text))

end Numeral

end TellerTerminal.Json
