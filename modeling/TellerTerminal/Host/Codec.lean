import TellerTerminal.FunctionKey
import TellerTerminal.Host.Message
import TellerTerminal.Host.Status
import TellerTerminal.Json.Printing
import TellerTerminal.Json.Reading

/-!
# Host messages as JSON

A message is an object in which every field may be missing or null, or a list of at most five
values in the order of the fields. Members of other names are skipped without a look at their
strings and numbers. A message is written as an object without the absent fields.
-/

namespace TellerTerminal

open Json (Node)

/-- An optional text, where null stands for none. -/
def readOptionalText : Node → Option (Option String)
  | .null => some none
  | node => node.text?.map some

namespace StatesPayload

def ofNode? : Node → Option StatesPayload
  | .array items => (items.mapM Node.text?).map .many
  | node => node.text?.map .single

def toJson : StatesPayload → Json
  | single chunk => .string chunk
  | many chunks => .strings chunks

end StatesPayload

namespace HostMessage

def readStates : Node → Option (Option StatesPayload)
  | .null => some none
  | node => (StatesPayload.ofNode? node).map some

/-- The message with these five values; a missing value is none. -/
def ofValues? (messageClass messageSubclass commandCode messageIdentifier states : Option Node) :
    Option HostMessage := do
  let text (value : Option Node) := readOptionalText (value.getD .null)
  let messageClass ← text messageClass
  let messageSubclass ← text messageSubclass
  let commandCode ← text commandCode
  let messageIdentifier ← text messageIdentifier
  let states ← readStates (states.getD .null)
  return { messageClass, messageSubclass, commandCode, messageIdentifier, states }

def ofNode? : Node → Option HostMessage
  | .object members => do
      let members ← Node.named? members
      let messageClass ← Node.member? members "message_class"
      let messageSubclass ← Node.member? members "message_subclass"
      let commandCode ← Node.member? members "command_code"
      let messageIdentifier ← Node.member? members "message_identifier"
      let states ← Node.member? members "states"
      ofValues? messageClass messageSubclass commandCode messageIdentifier states
  | .array items =>
      if items.length ≤ 5 then ofValues? items[0]? items[1]? items[2]? items[3]? items[4]?
      else none
  | _ => none

def ofText? (text : List Char) : Option HostMessage :=
  (Node.ofText? text).bind ofNode?

/-- The fields that are there, in order. -/
def members (message : HostMessage) : List (String × Json) :=
  [("message_class", message.messageClass.map .string),
    ("message_subclass", message.messageSubclass.map .string),
    ("command_code", message.commandCode.map .string),
    ("message_identifier", message.messageIdentifier.map .string),
    ("states", message.states.map StatesPayload.toJson)].filterMap fun field =>
      field.2.map (field.1, ·)

def toJson (message : HostMessage) : Json :=
  .object message.members

/-- The compact text of a message. -/
def encode (message : HostMessage) : List Char :=
  message.toJson.compact

end HostMessage

/-- A name by itself, or as the only member of an object, with null as its value. -/
def Json.Node.variantName? : Node → Option String
  | .string parts => textOf? parts
  | .object [(name, .null)] => textOf? name
  | _ => none

def StatusDescriptor.ofNode? (node : Node) : Option StatusDescriptor :=
  node.variantName?.bind ofName?

def TerminalStatus.ofNode? (node : Node) : Option TerminalStatus :=
  node.variantName?.bind ofName?

/-- A key by its upper-case letter. -/
def FunctionKey.ofNode? (node : Node) : Option FunctionKey :=
  node.variantName?.bind fun name => all.find? fun key => name = key.letter.toString

namespace Response

def ofNode? : Node → Option Response
  | .object members => do
      let members ← Node.named? members
      let messageClass ← (← Node.member? members "message_class").bind Node.text?
      let messageSubclass ← (← Node.member? members "message_subclass").bind Node.text?
      let descriptor ←
        (← Node.member? members "status_descriptor").bind StatusDescriptor.ofNode?
      return { messageClass, messageSubclass, descriptor }
  | .array [messageClass, messageSubclass, descriptor] => do
      let messageClass ← messageClass.text?
      let messageSubclass ← messageSubclass.text?
      let descriptor ← StatusDescriptor.ofNode? descriptor
      return { messageClass, messageSubclass, descriptor }
  | _ => none

def toJson (response : Response) : Json :=
  .object [("message_class", .string response.messageClass),
    ("message_subclass", .string response.messageSubclass),
    ("status_descriptor", .string response.descriptor.name)]

end Response

end TellerTerminal
