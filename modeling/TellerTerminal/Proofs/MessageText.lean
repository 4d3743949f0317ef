import TellerTerminal.Host.Codec
import TellerTerminal.Proofs.Json.Printing

/-!
# Host messages and their text

A message is read back from its text as it was.  An absent field leaves no member behind, and a
member that is there is found under its name, since the names are distinct.  The payload keeps its
form: a string is a single chunk, and a list of strings is a list of chunks.
-/

namespace TellerTerminal

open Json (Node StringPart)

/-- The members of the fields that are there. -/
def Json.present (fields : List (String × Option Json)) : List (String × Json) :=
  fields.filterMap fun field => field.2.map (field.1, ·)

/-- A member as a reading sees it, with its name decoded and its value not. -/
def Json.decodedMember (member : String × Json) : String × Node :=
  (member.1, member.2.node)

namespace Json.Node

variable {fields : List (String × Option Json)}

theorem named?_membersNodes (members : List (String × Json)) :
    named? (node.membersNodes members) = some (members.map decodedMember) := by
  induction members with
  | nil => rfl
  | cons member rest ih =>
      have hrest : (node.membersNodes rest).mapM
          (fun member => (textOf? member.1).map (·, member.2)) =
            some (rest.map decodedMember) := ih
      simp [named?, node.membersNodes, hrest, decodedMember]

theorem filter_present_eq_nil {name : String} (h : name ∉ fields.map Prod.fst) :
    ((present fields).map decodedMember).filter (fun member => member.1 = name) = [] := by
  rw [List.filter_eq_nil_iff]
  intro member hmember
  obtain ⟨written, hwritten, rfl⟩ := List.mem_map.mp hmember
  obtain ⟨field, hfield, hvalue⟩ := List.mem_filterMap.mp hwritten
  obtain ⟨value, -, rfl⟩ := Option.map_eq_some_iff.mp hvalue
  have hne : field.1 ≠ name := fun heq => h (heq ▸ List.mem_map_of_mem hfield)
  simp [decodedMember, hne]

/-- The member of a field is its value, or missing if the field is. -/
theorem member?_present (hdistinct : (fields.map Prod.fst).Nodup) {name : String}
    {value? : Option Json} (hfield : (name, value?) ∈ fields) :
    member? ((present fields).map decodedMember) name = some (value?.map Json.node) := by
  have hfilter : ((present fields).map decodedMember).filter (fun member => member.1 = name) =
      (value?.map fun value => (name, value.node)).toList := by
    induction fields with
    | nil => simp at hfield
    | cons field rest ih =>
        obtain ⟨hnew, hrest⟩ := List.nodup_cons.mp hdistinct
        rcases List.mem_cons.mp hfield with rfl | hmem
        · have hnone := filter_present_eq_nil hnew
          cases value? with
          | none => simpa [present] using hnone
          | some value => simpa [present, decodedMember] using hnone
        · have hne : field.1 ≠ name := fun heq =>
            hnew (heq ▸ List.mem_map_of_mem hmem)
          obtain ⟨other, value?'⟩ := field
          cases value?' with
          | none => simpa [present] using ih hrest hmem
          | some value => simpa [present, decodedMember, hne] using ih hrest hmem
  unfold member?
  rw [hfilter]
  cases value? with
  | none => rfl
  | some value => rfl

end Json.Node

theorem readOptionalText_node (text? : Option String) :
    readOptionalText (((text?.map Json.string).map Json.node).getD .null) = some text? := by
  cases text? with
  | none => rfl
  | some text => simp [readOptionalText, Json.node, Node.text?]

theorem StatesPayload.ofNode?_node (states : StatesPayload) :
    ofNode? states.toJson.node = some states := by
  cases states with
  | single chunk => simp [toJson, Json.node, ofNode?, Node.text?]
  | many chunks =>
      have hchunks : (Json.node.itemsNodes (chunks.map Json.string)).mapM Node.text? =
          some chunks := by
        induction chunks with
        | nil => rfl
        | cons chunk rest ih => simp [Json.node.itemsNodes, Json.node, Node.text?, ih]
      simp [toJson, Json.strings, Json.node, ofNode?, hchunks]

theorem StatesPayload.floatFree_toJson (states : StatesPayload) : states.toJson.FloatFree := by
  cases states with
  | single chunk => exact .string chunk
  | many chunks =>
      refine .array fun item hitem => ?_
      obtain ⟨chunk, -, rfl⟩ := List.mem_map.mp hitem
      exact .string chunk

namespace HostMessage

theorem readStates_node (states? : Option StatesPayload) :
    readStates (((states?.map StatesPayload.toJson).map Json.node).getD .null) =
      some states? := by
  cases states? with
  | none => rfl
  | some states =>
      have hnode := StatesPayload.ofNode?_node states
      cases states with
      | single chunk => exact congrArg (Option.map some) hnode
      | many chunks => exact congrArg (Option.map some) hnode

/-- The fields of a message, absent ones included. -/
def fields (message : HostMessage) : List (String × Option Json) :=
  [("message_class", message.messageClass.map .string),
    ("message_subclass", message.messageSubclass.map .string),
    ("command_code", message.commandCode.map .string),
    ("message_identifier", message.messageIdentifier.map .string),
    ("states", message.states.map StatesPayload.toJson)]

theorem members_eq_present (message : HostMessage) :
    message.members = Json.present message.fields := by
  rfl

theorem nodup_names (message : HostMessage) : (message.fields.map Prod.fst).Nodup := by
  simp [fields]

theorem floatFree_of_mem_fields {message : HostMessage} {name : String} {value : Json}
    (h : (name, some value) ∈ message.fields) : value.FloatFree := by
  simp only [fields, List.mem_cons, List.not_mem_nil, or_false, Prod.mk.injEq] at h
  have htext {text? : Option String} (heq : some value = text?.map Json.string) :
      value.FloatFree := by
    obtain ⟨text, -, rfl⟩ := Option.map_eq_some_iff.mp heq.symm
    exact .string text
  rcases h with ⟨-, heq⟩ | ⟨-, heq⟩ | ⟨-, heq⟩ | ⟨-, heq⟩ | ⟨-, heq⟩
  · exact htext heq
  · exact htext heq
  · exact htext heq
  · exact htext heq
  · obtain ⟨states, -, rfl⟩ := Option.map_eq_some_iff.mp heq.symm
    exact states.floatFree_toJson

theorem floatFree_toJson (message : HostMessage) : message.toJson.FloatFree := by
  refine .object fun member hmember => ?_
  rw [members_eq_present] at hmember
  obtain ⟨⟨name, value?⟩, hfield, hvalue⟩ := List.mem_filterMap.mp hmember
  obtain ⟨value, rfl, rfl⟩ := Option.map_eq_some_iff.mp hvalue
  exact floatFree_of_mem_fields hfield

theorem ofValues?_nodes (message : HostMessage) :
    ofValues? ((message.messageClass.map Json.string).map Json.node)
      ((message.messageSubclass.map Json.string).map Json.node)
      ((message.commandCode.map Json.string).map Json.node)
      ((message.messageIdentifier.map Json.string).map Json.node)
      ((message.states.map StatesPayload.toJson).map Json.node) = some message := by
  simp only [ofValues?, readOptionalText_node, readStates_node, Option.bind_eq_bind,
    Option.bind_some]
  rfl

theorem ofNode?_node (message : HostMessage) : ofNode? message.toJson.node = some message := by
  have hmember (name : String) (value? : Option Json) (h : (name, value?) ∈ message.fields) :
      Node.member? (message.members.map Json.decodedMember) name =
        some (value?.map Json.node) := by
    rw [members_eq_present]
    exact Node.member?_present message.nodup_names h
  have hclass := hmember "message_class" _ (.head _)
  have hsubclass := hmember "message_subclass" _ (.tail _ (.head _))
  have hcode := hmember "command_code" _ (.tail _ (.tail _ (.head _)))
  have hidentifier := hmember "message_identifier" _ (.tail _ (.tail _ (.tail _ (.head _))))
  have hstates := hmember "states" _ (.tail _ (.tail _ (.tail _ (.tail _ (.head _)))))
  simp only [toJson, Json.node, ofNode?, Node.named?_membersNodes, Option.bind_eq_bind,
    Option.bind_some, hclass, hsubclass, hcode, hidentifier, hstates, ofValues?_nodes]

theorem ofText?_encode (message : HostMessage) : ofText? message.encode = some message := by
  rw [ofText?, encode, message.floatFree_toJson.ofText?_compact, Option.bind_some, ofNode?_node]

/-- Decoding undoes encoding, so no two messages share a text.  In particular a single chunk is told
from a list of one chunk, and an absent text from an empty one. -/
theorem decoding_undoes_encoding :
    (∀ message : HostMessage, ofText? message.encode = some message) ∧
      Function.Injective encode := by
  refine ⟨ofText?_encode, fun first second hencode => ?_⟩
  have hfirst := first.ofText?_encode
  rw [hencode, second.ofText?_encode] at hfirst
  exact (Option.some.inj hfirst).symm

example : (stateTablesLoad (.single "")).encode ≠ (stateTablesLoad (.many [""])).encode := by
  decide

end HostMessage

end TellerTerminal
