import TellerTerminal.Replay.Report

/-!
# Reports as JSON

The members of a report come in a fixed order: the outcome with its fields, then the snapshot.
-/

namespace TellerTerminal

def FunctionKey.toJson (key : FunctionKey) : Json :=
  .string key.letter.toString

def StateNumber.toJson (number : StateNumber) : Json :=
  .string number.text

def KeySet.toJson (keys : KeySet) : Json :=
  .array (keys.toList.map FunctionKey.toJson)

def Card.toJson (card : Card) : Json :=
  .object [("number", .string card.number), ("service_code", .string card.serviceCode),
    ("track2", .string card.track2)]

def KeyPress.toJson : KeyPress → Json
  | ignored => .object [("result", .string "ignored")]
  | stayed => .object [("result", .string "stayed")]
  | moved state => .object [("result", .string "moved"), ("state", state.toJson)]

def Buffers.toJson (buffers : Buffers) : Json :=
  .object [("pin", .string buffers.pin), ("buffer_b", .string buffers.b),
    ("buffer_c", .string buffers.c), ("amount", .string buffers.amount.text),
    ("opcode", .string buffers.opcode.text), ("fdk", .string buffers.keys)]

namespace Outcome

def name : Outcome → String
  | response _ => "response"
  | noResponse => "no_response"
  | key _ _ => "key"
  | card _ => "card"
  | transition _ => "transition"
  | error _ => "error"

def fields : Outcome → List (String × Json)
  | response answer => [("response", answer.toJson)]
  | noResponse => []
  | key letter press => [("key", .string letter.toString), ("press", press.toJson)]
  | card data => [("card", .ofOption Card.toJson data)]
  | transition next => [("next_state", .ofOption StateNumber.toJson next)]
  | error message => [("message", .string message)]

end Outcome

namespace Report

def toJson (report : Report) : Json :=
  .object (("outcome", .string report.outcome.name) :: report.outcome.fields ++
    [("status", .string report.status.name), ("state", .ofOption StateNumber.toJson report.state),
      ("active_fdks", report.active.toJson), ("buffers", report.buffers.toJson)])

/-- The line that shows a report. -/
def line (report : Report) : String :=
  String.ofList report.toJson.compact

end Report

end TellerTerminal
