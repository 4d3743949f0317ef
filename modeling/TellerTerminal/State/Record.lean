import TellerTerminal.State.Entry

/-!
# State records

A record is 28 ASCII characters: three digits of state number, a type character and eight fields of
three characters. Reading reports the first fault from the left; writing puts an entry back into
the same layout.
-/

namespace TellerTerminal

/-- A field that must hold a state number. -/
inductive StateField
  | timeout
  | cancel
  | next
  | extension
  | nextOf (key : FunctionKey)
  deriving DecidableEq, Repr

def StateField.name : StateField → String
  | timeout => "timeout next state"
  | cancel => "cancel next state"
  | next => "FDK next state"
  | extension => "extension state"
  | nextOf key => s!"FDK {key.letter} next state"

inductive RecordError
  | length (record : String) (count : Nat)
  | stateNumber (text : String)
  | bufferId (state : StateNumber) (value : String)
  | field (state : StateNumber) (kind : StateField) (value : String)
  | empty
  deriving DecidableEq, Repr

def RecordError.message : RecordError → String
  | length record count => s!"state record '{record}' must be 28 ASCII characters, got {count}"
  | stateNumber text => s!"invalid state number '{text}'"
  | bufferId state value => s!"state {state}: invalid buffer id '{value}'"
  | field state kind value => s!"state {state}: invalid {kind.name} '{value}'"
  | empty => "state table payload is empty"

namespace StateEntry

/-- The next-state text that disables a key of a selection state. -/
def disabled : String := "255"

/-- The field of a record at `index`, counted from zero. -/
def fieldAt (record : List Char) (index : Nat) : String :=
  String.ofList ((record.drop (4 + 3 * index)).take 3)

def readState (state : StateNumber) (kind : StateField) (value : String) :
    Except RecordError StateNumber :=
  match StateNumber.ofText? value with
  | some number => .ok number
  | none => .error (.field state kind value)

/-- A next state of a selection state, which may be disabled. -/
def readChoice (state : StateNumber) (key : FunctionKey) (value : String) :
    Except RecordError (Option StateNumber) :=
  if value = disabled then
    .ok none
  else
    (readState state (.nextOf key) value).map some

def readBufferId (state : StateNumber) (value : String) : Except RecordError BufferId :=
  match BufferId.ofText? value with
  | some bufferId => .ok bufferId
  | none => .error (.bufferId state value)

def readInformation (number : StateNumber) (field : Nat → String) :
    Except RecordError InformationEntry := do
  let timeout ← readState number .timeout (field 1)
  let cancel ← readState number .cancel (field 2)
  let next ← readState number .next (field 3)
  let extension ← readState number .extension (field 4)
  let bufferId ← readBufferId number (field 5)
  return { number, screen := field 0, timeout, cancel, next, extension, bufferId, mask := field 6 }

def readSelection (number : StateNumber) (field : Nat → String) :
    Except RecordError Selection := do
  let timeout ← readState number .timeout (field 1)
  let cancel ← readState number .cancel (field 2)
  let nextA ← readChoice number .a (field 3)
  let nextB ← readChoice number .b (field 4)
  let nextC ← readChoice number .c (field 5)
  let nextD ← readChoice number .d (field 6)
  return {
    number, screen := field 0, timeout, cancel, nextA, nextB, nextC, nextD, location := field 7 }

/-- The entry of a type, from its number and its fields. -/
def readFields (number : StateNumber) (typeCode : Char) (field : Nat → String) :
    Except RecordError StateEntry :=
  if typeCode = 'X' then
    (readInformation number field).map .information
  else if typeCode = 'E' then
    (readSelection number field).map .selection
  else if typeCode = 'Z' then
    .ok (.extension { number, literals := Vector.ofFn fun i => field i })
  else
    .ok (.other { number, typeCode, fields := Vector.ofFn fun i => field i })

def ofRecord (record : String) : Except RecordError StateEntry :=
  let chars := record.toList
  if chars.length = 28 ∧ chars.all fun c => c.val < 128 then
    match StateNumber.ofText? (String.ofList (chars.take 3)) with
    | some number => readFields number (chars.getD 3 ' ') (fieldAt chars)
    | none => .error (.stateNumber (String.ofList (chars.take 3)))
  else
    .error (.length record chars.length)

end StateEntry

/-- The mark of a target buffer in a buffer id. -/
def TargetBuffer.mark : TargetBuffer → Char
  | b => '1'
  | c => '2'
  | amount => '3'

/-- The text of a buffer id, with the marker digit zero. -/
def BufferId.text (bufferId : BufferId) : String :=
  String.ofList ['0', bufferId.target.mark, bufferId.zeros.digitChar]

namespace StateEntry

def choiceText : Option StateNumber → String
  | some number => number.text
  | none => disabled

/-- The eight fields of an entry in the layout of its type. The reserved field of an information
entry state is written as zeros. -/
def fieldTexts : StateEntry → List String
  | information s =>
      [s.screen, s.timeout.text, s.cancel.text, s.next.text, s.extension.text, s.bufferId.text,
        s.mask, "000"]
  | selection s =>
      [s.screen, s.timeout.text, s.cancel.text, choiceText s.nextA, choiceText s.nextB,
        choiceText s.nextC, choiceText s.nextD, s.location]
  | extension s => s.literals.toList
  | other s => s.fields.toList

/-- The record of an entry. -/
def record (entry : StateEntry) : String :=
  String.ofList (entry.number.digits ++ entry.typeCode ::
    (entry.fieldTexts.flatMap String.toList))

end StateEntry

end TellerTerminal
