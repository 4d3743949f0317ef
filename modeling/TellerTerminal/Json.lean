/-!
# JSON values

A number without fraction and exponent that fits a 64-bit word is an integer; every other number is
kept as it is written. An object read from text lists its members in ascending order of their
names, each name once.
-/

namespace TellerTerminal

inductive Json
  | null
  | bool (value : Bool)
  | integer (value : Int)
  | decimal (literal : String)
  | string (text : String)
  | array (items : List Json)
  | object (members : List (String × Json))
  deriving Inhabited

namespace Json

def ofOption {α : Type} (toJson : α → Json) : Option α → Json
  | some value => toJson value
  | none => .null

def strings (texts : List String) : Json :=
  .array (texts.map .string)

def string? : Json → Option String
  | string text => some text
  | _ => none

end Json

end TellerTerminal
