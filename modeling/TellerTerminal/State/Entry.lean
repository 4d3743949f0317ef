import TellerTerminal.FunctionKey
import TellerTerminal.State.Number

/-!
# State entries

Two types of state can be executed: information entry (`X`) stores the value of a pressed key in a
buffer, and selection (`E`) branches on one of four keys. An extension (`Z`) supplies the values of
an information entry state. Entries of every other type are kept as they came.
-/

namespace TellerTerminal

/-- The buffer that an information entry state writes. -/
inductive TargetBuffer
  | b | c | amount
  deriving DecidableEq, Repr

/-- The target of a write and the number of zeros that follow the written literal. -/
structure BufferId where
  target : TargetBuffer
  zeros : Nat
  deriving DecidableEq, Repr

namespace BufferId

def ofMark? : Char → Option TargetBuffer
  | '1' => some .b
  | '2' => some .c
  | '3' => some .amount
  | _ => none

/-- A marker digit, the target and the count of zeros, such as `033`. -/
def ofText? (text : String) : Option BufferId :=
  match text.toList with
  | [marker, mark, zeros] =>
      if marker.isDigit && zeros.isDigit then
        (ofMark? mark).map fun target => ⟨target, Nat.ofDigitChars 10 [zeros] 0⟩
      else
        none
  | _ => none

end BufferId

/-- Type `X`. The mask is decoded when the state is executed. -/
structure InformationEntry where
  number : StateNumber
  screen : String
  timeout : StateNumber
  cancel : StateNumber
  next : StateNumber
  extension : StateNumber
  bufferId : BufferId
  mask : String
  deriving DecidableEq, Repr

/-- Type `E`. A key without a next state is disabled, and a location code that names no location
leaves the opcode buffer alone. -/
structure Selection where
  number : StateNumber
  screen : String
  timeout : StateNumber
  cancel : StateNumber
  nextA : Option StateNumber
  nextB : Option StateNumber
  nextC : Option StateNumber
  nextD : Option StateNumber
  location : String
  deriving DecidableEq, Repr

namespace Selection

/-- The keys of a selection state. -/
def keys : List FunctionKey := [.a, .b, .c, .d]

def next? (state : Selection) : FunctionKey → Option StateNumber
  | .a => state.nextA
  | .b => state.nextB
  | .c => state.nextC
  | .d => state.nextD
  | _ => none

end Selection

/-- Type `Z`: one literal for each of the keys `A` to `H`. -/
structure Extension where
  number : StateNumber
  literals : Vector String 8
  deriving DecidableEq, Repr

def Extension.literal? (state : Extension) (key : FunctionKey) : Option String :=
  state.literals[key.rank.val]?

/-- A state of a type that is not executed. -/
structure OtherState where
  number : StateNumber
  typeCode : Char
  fields : Vector String 8
  deriving DecidableEq, Repr

inductive StateEntry
  | information (state : InformationEntry)
  | selection (state : Selection)
  | extension (state : Extension)
  | other (state : OtherState)
  deriving DecidableEq, Repr

namespace StateEntry

def number : StateEntry → StateNumber
  | information state => state.number
  | selection state => state.number
  | extension state => state.number
  | other state => state.number

def typeCode : StateEntry → Char
  | information _ => 'X'
  | selection _ => 'E'
  | extension _ => 'Z'
  | other state => state.typeCode

def timeout? : StateEntry → Option StateNumber
  | information state => some state.timeout
  | selection state => some state.timeout
  | extension _ => none
  | other _ => none

def cancel? : StateEntry → Option StateNumber
  | information state => some state.cancel
  | selection state => some state.cancel
  | extension _ => none
  | other _ => none

/-- The number of the linked extension, which only an information entry state has. -/
def extension? : StateEntry → Option StateNumber
  | information state => some state.extension
  | _ => none

end StateEntry

end TellerTerminal
