import TellerTerminal.Ascending
import TellerTerminal.Json.Node

/-!
# Reading JSON values

A JSON text has a value if every string decodes, no number rounds to infinity and no more than 127
arrays and objects lie within each other. Of two members with the same name the later one counts.
-/

namespace TellerTerminal.Json

/-- The members in ascending order of their names, each name with its last value. -/
def ordered (members : List (String × Json)) : List (String × Json) :=
  members.foldl (fun sorted member => Ascending.insert Prod.fst member sorted) []

namespace Node

/-- The number of arrays and objects that lie within each other. -/
def depth : Node → Nat
  | array items => itemsDepth items + 1
  | object members => membersDepth members + 1
  | _ => 0
where
  itemsDepth : List Node → Nat
    | [] => 0
    | item :: rest => max (depth item) (itemsDepth rest)
  membersDepth : List (List StringPart × Node) → Nat
    | [] => 0
    | (_, value) :: rest => max (depth value) (membersDepth rest)

def toJson? : Node → Option Json
  | null => some .null
  | bool value => some (.bool value)
  | number numeral => numeral.toJson?
  | string parts => (textOf? parts).map .string
  | array items => (itemsToJson? items).map .array
  | object members => (membersToJson? members).map fun members => .object (ordered members)
where
  itemsToJson? : List Node → Option (List Json)
    | [] => some []
    | item :: rest => do
        let item ← toJson? item
        let rest ← itemsToJson? rest
        return item :: rest
  membersToJson? : List (List StringPart × Node) → Option (List (String × Json))
    | [] => some []
    | (name, value) :: rest => do
        let name ← textOf? name
        let value ← toJson? value
        let rest ← membersToJson? rest
        return (name, value) :: rest

/-- The greatest depth of a text that is read in full. -/
def depthLimit : Nat := 127

/-- Whether the text can be read in full. -/
def isReadable (node : Node) : Bool :=
  node.depth ≤ depthLimit && node.toJson?.isSome

end Node

def ofText? (text : List Char) : Option Json := do
  let node ← Node.ofText? text
  if node.depth ≤ Node.depthLimit then node.toJson? else none

end TellerTerminal.Json
