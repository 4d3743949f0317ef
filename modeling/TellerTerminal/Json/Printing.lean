import TellerTerminal.Json
import TellerTerminal.Text.Hex

/-!
# Writing JSON values

The compact form has no space at all. The pretty form puts every item and member on a line of its
own, two spaces deeper than its array or object. Strings escape the quote, the backslash and the
control characters below the space.
-/

namespace TellerTerminal.Json

def escapedChar (c : Char) : List Char :=
  if c = '"' then ['\\', '"']
  else if c = '\\' then ['\\', '\\']
  else if c = '\x08' then ['\\', 'b']
  else if c = '\x0c' then ['\\', 'f']
  else if c = '\n' then ['\\', 'n']
  else if c = '\r' then ['\\', 'r']
  else if c = '\t' then ['\\', 't']
  else if c < ' ' then '\\' :: 'u' :: Text.fourHexDigits c.toNat
  else [c]

def quote (text : String) : List Char :=
  '"' :: text.toList.flatMap escapedChar ++ ['"']

def integerText : Int → List Char
  | .ofNat value => Nat.toDigits 10 value
  | .negSucc value => '-' :: Nat.toDigits 10 (value + 1)

def boolText : Bool → List Char
  | true => ['t', 'r', 'u', 'e']
  | false => ['f', 'a', 'l', 's', 'e']

def compact : Json → List Char
  | null => ['n', 'u', 'l', 'l']
  | bool value => boolText value
  | integer value => integerText value
  | decimal literal => literal.toList
  | string text => quote text
  | array items => '[' :: compactItems items ++ [']']
  | object members => '\x7b' :: compactMembers members ++ ['\x7d']
where
  compactItems : List Json → List Char
    | [] => []
    | [item] => compact item
    | item :: rest => compact item ++ ',' :: compactItems rest
  compactMembers : List (String × Json) → List Char
    | [] => []
    | [(name, value)] => quote name ++ ':' :: compact value
    | (name, value) :: rest => quote name ++ ':' :: compact value ++ ',' :: compactMembers rest

/-- A line end and the indentation of the next line. -/
def lineBreak (level : Nat) : List Char :=
  '\n' :: List.replicate (2 * level) ' '

def prettyAt (level : Nat) : Json → List Char
  | array [] => ['[', ']']
  | array items => '[' :: prettyItems items ++ lineBreak level ++ [']']
  | object [] => ['\x7b', '\x7d']
  | object members => '\x7b' :: prettyMembers members ++ lineBreak level ++ ['\x7d']
  | value => compact value
where
  prettyItems : List Json → List Char
    | [] => []
    | [item] => lineBreak (level + 1) ++ prettyAt (level + 1) item
    | item :: rest => lineBreak (level + 1) ++ prettyAt (level + 1) item ++ ',' :: prettyItems rest
  prettyMembers : List (String × Json) → List Char
    | [] => []
    | [(name, value)] =>
        lineBreak (level + 1) ++ quote name ++ [':', ' '] ++ prettyAt (level + 1) value
    | (name, value) :: rest =>
        lineBreak (level + 1) ++ quote name ++ [':', ' '] ++ prettyAt (level + 1) value ++
          ',' :: prettyMembers rest

def pretty (value : Json) : List Char :=
  prettyAt 0 value

end TellerTerminal.Json
