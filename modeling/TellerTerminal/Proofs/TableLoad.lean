import TellerTerminal.Proofs.Answers
import TellerTerminal.Proofs.TableReading

/-!
# What a load replaces

An accepted load gives every terminal the same table, which is that of its payload and has nothing
in it from the table before: its entries are those of the records of the payload, and where two
records have one number, the entry is that of the later one.  The terminal has no part in whether
the load is accepted, and keeps everything but its table, its state and its history.
-/

namespace TellerTerminal

namespace Terminal

variable {first : Terminal} {settings : Settings} {message : HostMessage}

/-- Among the data commands only a load with a table is carried out. -/
theorem exists_loadedTable?_of_ready (hclass : message.messageClass = some "Data Command")
    (hready : (first.receive settings message).1 = some .ready) :
    ∃ table, message.loadedTable? = some table := by
  have hservice : message.service? = none := by simp [HostMessage.service?, hclass]
  rcases (first.receive_end settings message).eq_ready_iff.mp hready with hsome | hloaded
  · rw [hservice] at hsome
    contradiction
  · exact Option.isSome_iff_exists.mp hloaded

/-- A load that one terminal accepts is accepted by every terminal.  It installs the table of its
payload, whose records are those of the payload and whose entries are the last ones of these
records.  The terminal is left without state and history and otherwise as it was, and in the
settings only the stored records change. -/
theorem load_replaces_table (hclass : message.messageClass = some "Data Command")
    (haccepted : (first.receive settings message).1 = some .ready) :
    ∃ states table, message.IsTableLoad states ∧ StateTable.ofChunks states.chunks = .ok table ∧
      table.records = states.chunks.flatMap Payload.records ∧
      (∀ number, table.get? number = StateTable.lastEntry? table.records number) ∧
      (∀ entry ∈ table.entries, ∃ record ∈ table.records,
        StateEntry.ofRecord record = .ok entry) ∧
      ∀ (terminal : Terminal) (store : Settings),
        let outcome := terminal.receive store message
        outcome.1 = some .ready ∧
          outcome.2.1 = { terminal with table, current := none, pressed := [] } ∧
          outcome.2.2.find? tableKey = some (.strings table.records) ∧
          ∀ key, key ≠ tableKey → outcome.2.2.find? key = store.find? key := by
  obtain ⟨table, hloaded⟩ := exists_loadedTable?_of_ready hclass haccepted
  obtain ⟨states, hload, htable⟩ := HostMessage.loadedTable?_eq_some_iff.mp hloaded
  refine ⟨states, table, hload, htable, StateTable.records_of_ofChunks htable,
    StateTable.get?_of_ofChunks htable,
    fun _ => StateTable.exists_record_of_mem_entries htable, fun terminal store => ?_⟩
  intro outcome
  have houtcome : outcome = (some .ready, terminal.install table,
      store.set tableKey (.strings table.records)) := receive_of_loadedTable? hloaded
  rw [houtcome]
  refine ⟨rfl, rfl, by simp, fun key hkey => ?_⟩
  simp [Ne.symm hkey]

/-- A terminal in a state, with a history and a key that is active. -/
def busyTerminal : Terminal :=
  { status := .inService
    table := (StateTable.ofChunks
      ["000X001010010010040033254000", "040Z001002003004005006007008"]).toOption.getD .empty
    current := StateNumber.ofText? "000"
    registers := { active := .ofList [.a], buffers := { keys := "BA" } }
    pressed := [.b, .a] }

/-- A load of one number twice, with another extension for the state that it leaves out. -/
def replacement : HostMessage :=
  HostMessage.stateTablesLoad (.single
    "001E001000000255255255255000\x1c040Z111222333444555666777888\x1c001D000000000000000000000000")

theorem load_replaces_busyTerminal :
    replacement.messageClass = some "Data Command" ∧
      ((start {} {}).receive {} replacement).1 = some .ready ∧
      ∀ store, let after := (busyTerminal.receive store replacement).2.1
        after.table = ((start {} {}).receive {} replacement).2.1.table ∧
          after.table.get? ⟨0, by decide⟩ = none ∧ after.current = none ∧ after.pressed = [] ∧
          after.status = .inService ∧ after.registers = busyTerminal.registers := by
  have haccepted : ((start {} {}).receive {} replacement).1 = some .ready := by decide
  refine ⟨rfl, haccepted, fun store => ?_⟩
  obtain ⟨states, table, -, -, -, -, -, hreceive⟩ := load_replaces_table rfl haccepted
  obtain ⟨-, hbusy, -⟩ := hreceive busyTerminal store
  obtain ⟨-, hnew, -⟩ := hreceive (start {} {}) {}
  have htable : ((start {} {}).receive {} replacement).2.1.table = table := by rw [hnew]
  have hgone : table.get? ⟨0, by decide⟩ = none := by
    rw [← htable]
    decide
  intro after
  have hafter : after = { busyTerminal with table, current := none, pressed := [] } := hbusy
  rw [hafter, htable]
  exact ⟨rfl, hgone, rfl, rfl, rfl, rfl⟩

end Terminal

end TellerTerminal
