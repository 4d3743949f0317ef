import TellerTerminal.Text.Hex
import TellerTerminal.Text.Magnitude
import TellerTerminal.Toml.Value

/-!
# TOML scalars without quotes

Booleans, integers, floats and dates, each from the whole word that stands in the place of a value.
Underscores may stand between digits. A word with the outline of an integer passes for a value that
cannot be read.
-/

namespace TellerTerminal.Toml.Scalar

/-- Digits with single underscores between them, without the underscores. -/
def digits? (isDigit : Char → Bool) : List Char → Option (List Char)
  | [] => none
  | [c] => if isDigit c then some [c] else none
  | c :: '_' :: rest => if isDigit c then (digits? isDigit rest).map (c :: ·) else none
  | c :: rest => if isDigit c then (digits? isDigit rest).map (c :: ·) else none

def decimal? (word : List Char) : Option (List Char) :=
  digits? Char.isDigit word

/-- Decimal digits without a needless zero in front. -/
def whole? (word : List Char) : Option (List Char) :=
  match decimal? word with
  | some ['0'] => some ['0']
  | some ('0' :: _) => none
  | digits => digits

def isOctal (c : Char) : Bool :=
  '0' ≤ c && c ≤ '7'

def isBinary (c : Char) : Bool :=
  c = '0' || c = '1'

def ofBase (base : Nat) (digits : List Char) : Int :=
  digits.foldl (fun value c => base * value + Text.hexValue c) 0

def unsignedInteger? : List Char → Option Int
  | '0' :: 'x' :: rest => (digits? Text.isHexDigit rest).map (ofBase 16)
  | '0' :: 'o' :: rest => (digits? isOctal rest).map (ofBase 8)
  | '0' :: 'b' :: rest => (digits? isBinary rest).map (ofBase 2)
  | word => (whole? word).map (ofBase 10)

/-- A sign goes with decimal integers only. -/
def integer? (word : List Char) : Option Int :=
  match word with
  | '+' :: rest => (whole? rest).map (ofBase 10)
  | '-' :: rest => (whole? rest).map fun digits => -ofBase 10 digits
  | word => unsignedInteger? word

def dropSign : List Char → List Char
  | '+' :: rest => rest
  | '-' :: rest => rest
  | word => word

def exponent? : List Char → Option Int
  | '-' :: rest => (decimal? rest).map fun digits => -ofBase 10 digits
  | word => (decimal? (dropSign word)).map (ofBase 10)

/-- The mantissa of a float: its digits, and how many of them stand after the point. -/
def mantissa? (word : List Char) : Option (List Char × Nat) :=
  match word.splitOn '.' with
  | [whole] => (whole? whole).map (·, 0)
  | [whole, fraction] => do
      let whole ← whole? whole
      let fraction ← decimal? fraction
      return (whole ++ fraction, fraction.length)
  | _ => none

def isExponentMark (c : Char) : Bool :=
  c = 'e' || c = 'E'

/-- Whether a float is in the range of doubles, if the word is a float at all. The words for
infinity and no number are in it. -/
def float? (word : List Char) : Option Bool :=
  let word := dropSign word
  if word = ['i', 'n', 'f'] ∨ word = ['n', 'a', 'n'] then some true
  else
    -- Without an exponent there must be a point, or the word is an integer.
    let mantissa := word.takeWhile (!isExponentMark ·)
    let exponent? := match word.dropWhile (!isExponentMark ·) with
      | [] => if '.' ∈ word then some 0 else none
      | _ :: rest => exponent? rest
    match mantissa? mantissa, exponent? with
    | some (digits, places), some exponent =>
        some (!Text.overflowsDouble (ofBase 10 digits).toNat (exponent - places))
    | _, _ => none

/-- A number of exactly `count` digits at the front. -/
def fixed? (count : Nat) (word : List Char) : Option (Nat × List Char) :=
  let digits := word.take count
  if digits.length = count ∧ digits.all Char.isDigit then
    some ((ofBase 10 digits).toNat, word.drop count)
  else
    none

def expect? (c : Char) : List Char → Option (List Char)
  | [] => none
  | d :: rest => if c = d then some rest else none

def isLeapYear (year : Nat) : Bool :=
  year % 4 = 0 && (year % 100 ≠ 0 || year % 400 = 0)

def daysIn (year month : Nat) : Nat :=
  if month = 2 then (if isLeapYear year then 29 else 28)
  else if month = 4 ∨ month = 6 ∨ month = 9 ∨ month = 11 then 30
  else 31

/-- What follows a valid date. -/
def afterDate? (word : List Char) : Option (List Char) := do
  let (year, rest) ← fixed? 4 word
  let (month, rest) ← fixed? 2 (← expect? '-' rest)
  let (day, rest) ← fixed? 2 (← expect? '-' rest)
  if 1 ≤ month ∧ month ≤ 12 ∧ 1 ≤ day ∧ day ≤ daysIn year month then some rest else none

/-- What follows the seconds and their fraction, which may both be missing. -/
def afterSeconds? : List Char → Option (List Char)
  | ':' :: rest => do
      let (second, rest) ← fixed? 2 rest
      if second ≤ 60 then
        match rest with
        | '.' :: rest =>
            if (rest.takeWhile Char.isDigit).isEmpty then none
            else some (rest.dropWhile Char.isDigit)
        | rest => some rest
      else
        none
  | rest => some rest

def afterClock? (word : List Char) : Option (List Char) := do
  let (hour, rest) ← fixed? 2 word
  let (minute, rest) ← fixed? 2 (← expect? ':' rest)
  if hour ≤ 23 ∧ minute ≤ 59 then some rest else none

def afterTime? (word : List Char) : Option (List Char) :=
  (afterClock? word).bind afterSeconds?

/-- Nothing, a letter for universal time, or a signed number of hours and minutes. -/
def isOffset : List Char → Bool
  | [] => true
  | ['Z'] => true
  | ['z'] => true
  | '+' :: rest => afterClock? rest = some []
  | '-' :: rest => afterClock? rest = some []
  | _ => false

/-- A date, a time of day, or both with a separator and an offset. -/
def isDateTime (word : List Char) : Bool :=
  match afterDate? word with
  | none => afterTime? word = some []
  | some [] => true
  | some (separator :: rest) =>
      (separator = 'T' || separator = 't' || separator = ' ') && (afterTime? rest).any isOffset

/-- Whether every underscore stands between two hexadecimal digits. -/
def separatesDigits (word : List Char) : Bool :=
  let parts := word.splitOn '_'
  parts.tail.all (fun part => part.head?.any Text.isHexDigit) &&
    parts.dropLast.all (fun part => part.getLast?.any Text.isHexDigit)

/-- Whether a word has the outline of an integer: the mark of a base, or decimal digits and, behind
an underscore, anything that is no sign of a float. -/
def hasIntegerOutline (word : List Char) : Bool :=
  let unsigned := dropSign word
  let rest := unsigned.dropWhile Char.isDigit
  word = ['0', 'x'] || word = ['0', 'o'] || word = ['0', 'b'] ||
    ((unsigned.head?.any fun c => c.isDigit && c ≠ '0') && rest.head? = some '_' &&
      rest.all (fun c => c ≠ ' ' && c ≠ '.' && !isExponentMark c) && separatesDigits word)

def value? (word : List Char) : Option Value :=
  if word = ['t', 'r', 'u', 'e'] then some (.boolean true)
  else if word = ['f', 'a', 'l', 's', 'e'] then some (.boolean false)
  else
    match integer? word with
    | some value => some (.integer value)
    | none =>
        match float? word with
        | some finite => some (.float finite)
        | none =>
            if isDateTime word then some .dateTime
            else if hasIntegerOutline word then some .unreadable
            else none

end TellerTerminal.Toml.Scalar
