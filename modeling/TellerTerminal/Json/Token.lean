import TellerTerminal.Json.Numeral
import TellerTerminal.Text.Hex

/-!
# JSON tokens

The tokens of a JSON text. A string is checked for its form here: no control characters, and only
the escapes that there are. What its code units mean is decided when the string is used.
-/

namespace TellerTerminal.Json

/-- A piece of a string: a character, or a code unit of 16 bits that was given by its number. -/
inductive StringPart
  | char (c : Char)
  | unit (value : Nat)
  deriving DecidableEq, Repr

namespace StringPart

def isHighSurrogate (value : Nat) : Bool :=
  0xd800 ≤ value && value < 0xdc00

def isLowSurrogate (value : Nat) : Bool :=
  0xdc00 ≤ value && value < 0xe000

/-- The character of a pair of surrogates. -/
def paired (high low : Nat) : Char :=
  Char.ofNat (0x10000 + (high - 0xd800) * 0x400 + (low - 0xdc00))

/-- The text of a string. A surrogate stands for a character only as the first or second half of a
pair. -/
def text? : List StringPart → Option (List Char)
  | [] => some []
  | .char c :: rest => (text? rest).map (c :: ·)
  | .unit high :: .unit low :: rest =>
      -- The first half of a pair needs the second half right behind it.
      if isHighSurrogate high then
        if isLowSurrogate low then (text? rest).map (paired high low :: ·) else none
      else if isLowSurrogate high then none
      -- An ordinary code unit stands for itself, and the next one is looked at again.
      else (text? (.unit low :: rest)).map (Char.ofNat high :: ·)
  | .unit value :: rest =>
      if isHighSurrogate value || isLowSurrogate value then none
      else (text? rest).map (Char.ofNat value :: ·)

/-- The character that a backslash and a letter stand for. -/
def escaped? : Char → Option Char
  | '"' => some '"'
  | '\\' => some '\\'
  | '/' => some '/'
  | 'b' => some '\x08'
  | 'f' => some '\x0c'
  | 'n' => some '\n'
  | 'r' => some '\r'
  | 't' => some '\t'
  | _ => none

/-- The string up to its closing quote and what follows the quote. -/
def read? : List Char → Option (List StringPart × List Char)
  | [] => none
  | '"' :: rest => some ([], rest)
  | '\\' :: 'u' :: d₁ :: d₂ :: d₃ :: d₄ :: rest =>
      if [d₁, d₂, d₃, d₄].all Text.isHexDigit then
        (read? rest).map fun (parts, rest) =>
          (.unit (Text.ofHex [d₁, d₂, d₃, d₄]) :: parts, rest)
      else
        none
  | '\\' :: mark :: rest =>
      match escaped? mark with
      | some c => (read? rest).map fun (parts, rest) => (.char c :: parts, rest)
      | none => none
  | c :: rest =>
      -- A backslash gets here only at the end of the text.
      if c = '\\' ∨ c < ' ' then none
      else (read? rest).map fun (parts, rest) => (.char c :: parts, rest)

/-- A string takes at least its closing quote. -/
theorem length_of_read? {chars rest : List Char} {parts : List StringPart}
    (h : read? chars = some (parts, rest)) : rest.length < chars.length := by
  fun_induction read? chars generalizing parts rest <;> grind [Option.map_eq_some_iff]

end StringPart

inductive Token
  | openArray
  | closeArray
  | openObject
  | closeObject
  | comma
  | colon
  | null
  | bool (value : Bool)
  | number (numeral : Numeral)
  | string (parts : List StringPart)
  deriving DecidableEq, Repr

namespace Token

def isSpace (c : Char) : Bool :=
  c = ' ' || c = '\n' || c = '\t' || c = '\r'

/-- The token at the front of a text that does not start with space, and what follows it. -/
def next? : List Char → Option (Token × List Char)
  | '[' :: rest => some (.openArray, rest)
  | ']' :: rest => some (.closeArray, rest)
  | '\x7b' :: rest => some (.openObject, rest)
  | '\x7d' :: rest => some (.closeObject, rest)
  | ',' :: rest => some (.comma, rest)
  | ':' :: rest => some (.colon, rest)
  | 'n' :: 'u' :: 'l' :: 'l' :: rest => some (.null, rest)
  | 't' :: 'r' :: 'u' :: 'e' :: rest => some (.bool true, rest)
  | 'f' :: 'a' :: 'l' :: 's' :: 'e' :: rest => some (.bool false, rest)
  | '"' :: rest => (StringPart.read? rest).map fun (parts, rest) => (.string parts, rest)
  | chars => (Numeral.read? chars).map fun (numeral, rest) => (.number numeral, rest)

/-- A token takes at least one character. -/
theorem length_of_next? {chars rest : List Char} {token : Token}
    (h : next? chars = some (token, rest)) : rest.length < chars.length := by
  unfold next? at h
  split at h <;>
    grind [→ StringPart.length_of_read?, → Numeral.length_of_read?, Option.map_eq_some_iff]

/-- All tokens of a text. -/
def all? (chars : List Char) : Option (List Token) :=
  let chars' := chars.dropWhile isSpace
  if chars'.isEmpty then
    some []
  else
    match h : next? chars' with
    | none => none
    | some (token, rest) =>
        have := length_of_next? h
        (all? rest).map (token :: ·)
termination_by chars.length
decreasing_by
  exact Nat.lt_of_lt_of_le this (List.dropWhile_sublist isSpace).length_le

end Token

end TellerTerminal.Json
