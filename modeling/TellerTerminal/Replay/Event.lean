import TellerTerminal.Host.Codec

/-!
# Events

What can happen to a terminal in a script. An event is a JSON object with its kind under `event`
and one field, or a list of the kind and the field. The whole text must be readable JSON, also where
members of other names are skipped.
-/

namespace TellerTerminal

inductive Event
  | host (message : HostMessage)
  | key (letter : Char)
  | card (track : String)
  | timeout
  | cancel
  deriving DecidableEq, Repr

namespace Event

open Json (Node)

/-- A text of exactly one character. -/
def letter? (node : Node) : Option Char :=
  match node.text?.map String.toList with
  | some [c] => some c
  | _ => none

/-- The event of an object, from its decoded members. -/
def ofMembers? (members : List (String × Node)) : Option Event := do
  -- A field that is missing and one that occurs twice are equally wrong.
  let field (name : String) : Option Node := (Node.member? members name).join
  let kind ← (← field "event").text?
  match kind with
  | "host" => (HostMessage.ofNode? (← field "message")).map .host
  | "key" => (letter? (← field "key")).map .key
  | "card" => (← field "track2").text?.map .card
  | "timeout" => some .timeout
  | "cancel" => some .cancel
  | _ => none

/-- The event of a list, from its kind and its fields. -/
def ofList? (kind : String) : List Node → Option Event
  | [] =>
      match kind with
      | "timeout" => some .timeout
      | "cancel" => some .cancel
      | _ => none
  | [field] =>
      match kind with
      | "host" => (HostMessage.ofNode? field).map .host
      | "key" => (letter? field).map .key
      | "card" => field.text?.map .card
      | _ => none
  | _ => none

def ofNode? (node : Node) : Option Event :=
  if node.isReadable then
    match node with
    | .object members => (Node.named? members).bind ofMembers?
    | .array (kind :: fields) => kind.text?.bind fun kind => ofList? kind fields
    | _ => none
  else
    none

def ofText? (text : List Char) : Option Event :=
  (Node.ofText? text).bind ofNode?

end Event

end TellerTerminal
