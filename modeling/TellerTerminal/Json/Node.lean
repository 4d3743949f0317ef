import TellerTerminal.Json.Token

/-!
# The form of a JSON text

A node is a JSON text as it is written: strings not yet decoded, numbers not yet measured, repeated
members still there. A machine with a stack of open arrays and objects builds it token by token.
-/

namespace TellerTerminal.Json

inductive Node
  | null
  | bool (value : Bool)
  | number (numeral : Numeral)
  | string (parts : List StringPart)
  | array (items : List Node)
  | object (members : List (List StringPart × Node))
  deriving Inhabited

namespace Node

/-- An open array with its items so far, or an open object with its members so far and the name of
the member whose value is being read. The latest item or member comes first. -/
inductive Frame
  | array (items : List Node)
  | object (members : List (List StringPart × Node)) (name : List StringPart)

/-- What may come next. -/
inductive Place
  | value
  | firstItem
  | firstName
  | name (members : List (List StringPart × Node))
  | colon (members : List (List StringPart × Node)) (name : List StringPart)
  | after (node : Node)

structure Machine where
  stack : List Frame
  place : Place

namespace Machine

def start : Machine := ⟨[], .value⟩

/-- Takes a token where a value may start. -/
def value? (stack : List Frame) : Token → Option Machine
  | .null => some ⟨stack, .after .null⟩
  | .bool value => some ⟨stack, .after (.bool value)⟩
  | .number numeral => some ⟨stack, .after (.number numeral)⟩
  | .string parts => some ⟨stack, .after (.string parts)⟩
  | .openArray => some ⟨.array [] :: stack, .firstItem⟩
  -- An object has no frame yet: it gets one with the first name.
  | .openObject => some ⟨stack, .firstName⟩
  | _ => none

/-- Takes a token after a complete value. -/
def after? (node : Node) : List Frame → Token → Option Machine
  | .array items :: stack, .comma => some ⟨.array (node :: items) :: stack, .value⟩
  | .array items :: stack, .closeArray =>
      some ⟨stack, .after (.array (node :: items).reverse)⟩
  | .object members name :: stack, .comma => some ⟨stack, .name ((name, node) :: members)⟩
  | .object members name :: stack, .closeObject =>
      some ⟨stack, .after (.object ((name, node) :: members).reverse)⟩
  | _, _ => none

def step? (machine : Machine) (token : Token) : Option Machine :=
  match machine.place, token with
  | .value, token => value? machine.stack token
  -- The empty array closes the frame that was opened for it.
  | .firstItem, .closeArray => some ⟨machine.stack.tail, .after (.array [])⟩
  | .firstItem, token => value? machine.stack token
  | .firstName, .closeObject => some ⟨machine.stack, .after (.object [])⟩
  | .firstName, .string name => some ⟨machine.stack, .colon [] name⟩
  | .name members, .string name => some ⟨machine.stack, .colon members name⟩
  | .colon members name, .colon => some ⟨.object members name :: machine.stack, .value⟩
  | .after node, token => after? node machine.stack token
  | _, _ => none

def run? (machine : Machine) : List Token → Option Machine
  | [] => some machine
  | token :: rest => (machine.step? token).bind fun machine => machine.run? rest

/-- The value, once it is complete and nothing is left open. -/
def result? : Machine → Option Node
  | ⟨[], .after node⟩ => some node
  | _ => none

end Machine

def ofTokens? (tokens : List Token) : Option Node :=
  (Machine.start.run? tokens).bind Machine.result?

def ofText? (text : List Char) : Option Node :=
  (Token.all? text).bind ofTokens?

/-- The member of a name in a list of decoded members; `none` if the name occurs twice. -/
def member? (members : List (String × Node)) (name : String) : Option (Option Node) :=
  match members.filter fun member => member.1 = name with
  | [] => some none
  | [member] => some (some member.2)
  | _ => none

def textOf? (parts : List StringPart) : Option String :=
  (StringPart.text? parts).map String.ofList

/-- The members of an object with their names decoded. -/
def named? (members : List (List StringPart × Node)) : Option (List (String × Node)) :=
  members.mapM fun member => (textOf? member.1).map (·, member.2)

def text? : Node → Option String
  | string parts => textOf? parts
  | _ => none

end Node

end TellerTerminal.Json
