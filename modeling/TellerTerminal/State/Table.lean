import TellerTerminal.Ascending
import TellerTerminal.State.Payload
import TellerTerminal.State.Record

/-!
# State tables

A table is read from the chunks of a payload as a whole and never changed afterwards. It keeps the
records as they came, in load order, and for each state number the entry of its last record.
-/

namespace TellerTerminal

/-- The entries stand in ascending order of their numbers. -/
structure StateTable where
  entries : List StateEntry := []
  records : List String := []
  ascending : entries.Pairwise fun x y => x.number < y.number := by simp
  deriving DecidableEq

namespace StateTable

def empty : StateTable := {}

/-- The table with a further record and its entry, which replaces an entry of the same number. -/
def add (table : StateTable) (item : String × StateEntry) : StateTable where
  entries := Ascending.insert StateEntry.number item.2 table.entries
  records := table.records ++ [item.1]
  ascending := Ascending.pairwise_insert item.2 table.ascending

def readItem (record : String) : Except RecordError (String × StateEntry) :=
  (StateEntry.ofRecord record).map (record, ·)

/-- The table of a payload. The first faulty record rejects the whole payload, and so does a
payload without records. -/
def ofChunks (chunks : List String) : Except RecordError StateTable := do
  let items ← (chunks.flatMap Payload.records).mapM readItem
  if items.isEmpty then
    throw .empty
  return items.foldl add empty

def get? (table : StateTable) (number : StateNumber) : Option StateEntry :=
  table.entries.find? fun entry => entry.number = number

def contains (table : StateTable) (number : StateNumber) : Bool :=
  (table.get? number).isSome

def size (table : StateTable) : Nat :=
  table.entries.length

def isEmpty (table : StateTable) : Bool :=
  table.entries.isEmpty

/-- The extension that an entry links to, if it stands in the table. -/
def extensionFor? (table : StateTable) (entry : StateEntry) : Option Extension :=
  match entry.extension?.bind table.get? with
  | some (.extension state) => some state
  | _ => none

end StateTable

end TellerTerminal
