import TellerTerminal.Proofs.Host
import TellerTerminal.Proofs.Store
import TellerTerminal.Terminal.Operation

/-!
# Terminals that share a store

A fleet is a settings store with the terminals that were started on it.  Its actions may come in
any order: another terminal is started, one of them is operated, or someone else writes a setting.

`Remembers` is the invariant of the store.  It says what stands under the key of the table records
after the last accepted load, whichever terminal accepted it.  Only an accepted load writes there,
and the records of a load, read as chunks, are its records again.
-/

namespace TellerTerminal

structure Fleet where
  settings : Settings := {}
  terminals : List Terminal := []

namespace Fleet

/-- What can happen around a store: a terminal is started on it, the terminal at an index is
operated, or a setting is written by someone else. -/
inductive Action
  | start (config : TerminalConfig)
  | operate (index : Nat) (operation : Operation)
  | write (key : String) (value : Json)

/-- The fleet after an action.  An operation of a terminal that is not there does nothing. -/
def apply (fleet : Fleet) : Action → Fleet
  | .start config =>
      { fleet with terminals := fleet.terminals ++ [Terminal.start config fleet.settings] }
  | .operate index operation =>
      match fleet.terminals[index]? with
      | some terminal =>
          let (_, terminal, settings) := operation.apply terminal fleet.settings
          { settings, terminals := fleet.terminals.set index terminal }
      | none => fleet
  | .write key value => { fleet with settings := fleet.settings.set key value }

def run (fleet : Fleet) (actions : List Action) : Fleet :=
  actions.foldl apply fleet

/-- An accepted load: its payload, and the table that its terminal had after it. -/
structure Load where
  states : StatesPayload
  table : StateTable

/-- The records of a load, in load order. -/
def Load.records (load : Load) : List String :=
  load.states.chunks.flatMap Payload.records

/-- The load that an action carries out, if its terminal answers that it did. -/
def load? (fleet : Fleet) : Action → Option Load
  | .operate index (.receive message) =>
      match fleet.terminals[index]?, message.command? with
      | some terminal, some (.loadStateTables states) =>
          let (response?, terminal, _) := terminal.receive fleet.settings message
          if response? = some .ready then some { states, table := terminal.table } else none
      | _, _ => none
  | _ => none

/-- The accepted loads of a run, in their order. -/
def loads (fleet : Fleet) : List Action → List Load
  | [] => []
  | action :: rest => (fleet.load? action).toList ++ (fleet.apply action).loads rest

/-- The store holds the records of the last load, and the table of the load is the one that its
payload gives. -/
structure Remembers (settings : Settings) (last? : Option Load) : Prop where
  value : settings.find? Terminal.tableKey = last?.map fun load => .strings load.records
  accepted : ∀ load ∈ last?, StateTable.ofChunks load.states.chunks = .ok load.table

variable {fleet : Fleet} {last? : Option Load}

theorem settings_operate (index : Nat) {operation : Operation}
    (h : ∀ terminal, (operation.apply terminal fleet.settings).2.2 = fleet.settings) :
    (fleet.apply (.operate index operation)).settings = fleet.settings := by
  cases hterminal : fleet.terminals[index]? with
  | none => simp [apply, hterminal]
  | some terminal => simpa [apply, hterminal] using h terminal

theorem load?_eq_none {message : HostMessage} (h : message.loadedTable? = none) (index : Nat) :
    fleet.load? (.operate index (.receive message)) = none := by
  simp only [load?]
  split
  next hcommand =>
    rw [Terminal.rejects_load h hcommand]
    rfl
  next => rfl

theorem load?_eq_some {message : HostMessage} {table : StateTable} {terminal : Terminal}
    (h : message.loadedTable? = some table) {index : Nat}
    (hterminal : fleet.terminals[index]? = some terminal) :
    ∃ states, StateTable.ofChunks states.chunks = .ok table ∧
      fleet.load? (.operate index (.receive message)) = some { states, table } := by
  obtain ⟨states, hcommand, hchunks⟩ := HostMessage.exists_of_loadedTable? h
  refine ⟨states, hchunks, ?_⟩
  simp [load?, hterminal, hcommand, Terminal.receive_of_loadedTable? h, Terminal.install]

theorem Remembers.receive (h : Remembers fleet.settings last?) (index : Nat)
    (message : HostMessage) :
    Remembers (fleet.apply (.operate index (.receive message))).settings
      ((fleet.load? (.operate index (.receive message))).or last?) := by
  cases hterminal : fleet.terminals[index]? with
  | none => simpa [apply, load?, hterminal] using h
  | some terminal =>
      cases htable : message.loadedTable? with
      | none =>
          have hsettings :
              (fleet.apply (.operate index (.receive message))).settings = fleet.settings :=
            settings_operate index fun _ => Terminal.settings_receive htable
          rw [load?_eq_none htable, hsettings, Option.none_or]
          exact h
      | some table =>
          obtain ⟨states, hchunks, hload⟩ := load?_eq_some htable hterminal
          have hsettings : (fleet.apply (.operate index (.receive message))).settings =
              fleet.settings.set Terminal.tableKey (.strings table.records) := by
            simp only [apply, hterminal, Operation.apply, Terminal.receive_of_loadedTable? htable]
          rw [hload, hsettings, Option.some_or]
          constructor
          · simp [Load.records, StateTable.records_of_ofChunks hchunks]
          · intro load hmem
            obtain rfl := Option.some.inj hmem
            exact hchunks

theorem Remembers.apply (h : Remembers fleet.settings last?) {action : Action}
    (hother : ∀ key value, action = .write key value → key ≠ Terminal.tableKey) :
    Remembers (fleet.apply action).settings ((fleet.load? action).or last?) := by
  cases action with
  | start config => exact h
  | write key value =>
      refine ⟨?_, h.accepted⟩
      have hkey : key ≠ Terminal.tableKey := hother key value rfl
      simpa [Fleet.apply, load?, hkey] using h.value
  | operate index operation =>
      cases operation with
      | receive message => exact h.receive index message
      | _ =>
          rw [settings_operate index fun _ => rfl]
          exact h

theorem Remembers.run {actions : List Action} (h : Remembers fleet.settings last?)
    (hothers : ∀ key value, .write key value ∈ actions → key ≠ Terminal.tableKey) :
    Remembers (fleet.run actions).settings ((fleet.loads actions).getLast?.or last?) := by
  induction actions generalizing fleet last? with
  | nil => exact h
  | cons action rest ih =>
      have hfirst : Remembers (fleet.apply action).settings ((fleet.load? action).or last?) :=
        h.apply fun key value haction => hothers key value (haction ▸ List.mem_cons_self)
      have hrest := ih hfirst fun key value hmem =>
        hothers key value (List.mem_cons_of_mem _ hmem)
      rw [loads, getLast?_toList_append, Option.or_assoc]
      exact hrest

/-- A terminal takes from the store the table of the last load, if it may. -/
theorem Remembers.restored? (h : Remembers fleet.settings last?) (config : TerminalConfig) :
    Terminal.restored? config fleet.settings =
      if config.restoreStateTables then last?.map Load.table else none := by
  rw [Terminal.restored?, Settings.get, h.value]
  split_ifs
  · cases last? with
    | none => rfl
    | some load =>
        have htable := h.accepted load rfl
        have hrecords : load.records = load.table.records :=
          (StateTable.records_of_ofChunks htable).symm
        -- The chunks of the stored value are records, not the chunks that were loaded.
        rw [Option.map_some, Option.getD_some, Terminal.storedTable?_strings, hrecords,
          StateTable.ofChunks_records htable]
        rfl
  · rfl

end Fleet

end TellerTerminal
