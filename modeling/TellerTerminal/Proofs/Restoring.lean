import TellerTerminal.Proofs.Host
import TellerTerminal.Proofs.Store

/-!
# Restoring a stored table

A terminal that restores takes the stored value as a payload: of an array it reads the items that
are texts, and any other value leaves it with the empty table.  If the array holds texts only, it is
restored as a whole or not at all.  An array with other items is not recognised as damaged: what is
left of it without these items is restored.
-/

namespace TellerTerminal.Terminal

theorem array_eq_strings {items : List Json} (h : ∀ item ∈ items, ∃ text, item = .string text) :
    Json.array items = .strings (items.filterMap Json.string?) := by
  induction items with
  | nil => rfl
  | cons item rest ih =>
      obtain ⟨⟨text, rfl⟩, hrest⟩ := List.forall_mem_cons.mp h
      have hhead : Json.string? (.string text) = some text := rfl
      have htail := Json.array.inj (ih hrest)
      rw [Json.strings, List.filterMap_cons_some hhead, List.map_cons, ← htail]

theorem table_start_iff {config : TerminalConfig} (hrestore : config.restoreStateTables = true)
    (settings : Settings) (table : StateTable) :
    ((start config settings).table = table ∧ table ≠ .empty) ↔
      ∃ items, settings.get tableKey = .array items ∧
        StateTable.ofChunks (items.filterMap Json.string?) = .ok table := by
  rw [← storedTable?_eq_some_iff, start_eq, restored?, if_pos hrestore]
  cases hstored : storedTable? (settings.get tableKey) with
  | none => exact iff_of_false (fun h => h.2 h.1.symm) nofun
  | some stored =>
      obtain ⟨items, -, hread⟩ := storedTable?_eq_some_iff.mp hstored
      rw [Option.some.injEq]
      constructor
      · exact fun h => h.1
      · rintro rfl
        exact ⟨rfl, StateTable.ne_empty_of_ofChunks hread⟩

/-- A terminal that restores has a table other than the empty one exactly if the stored value is an
array whose texts are accepted as chunks, and then it is the table of these chunks.  As long as an
array holds nothing but texts, that makes it the list of the chunks. -/
theorem start_restores_texts {config : TerminalConfig} (hrestore : config.restoreStateTables = true)
    (settings : Settings) (table : StateTable) :
    (((start config settings).table = table ∧ table ≠ .empty) ↔
      ∃ items, settings.get tableKey = .array items ∧
        StateTable.ofChunks (items.filterMap Json.string?) = .ok table) ∧
      ((∀ items, settings.get tableKey = .array items →
          ∀ item ∈ items, ∃ text, item = .string text) →
        (((start config settings).table = table ∧ table ≠ .empty) ↔
          ∃ texts, settings.get tableKey = .strings texts ∧
            StateTable.ofChunks texts = .ok table)) := by
  have hstart := table_start_iff hrestore settings table
  refine ⟨hstart, fun htexts => hstart.trans ⟨?_, ?_⟩⟩
  · rintro ⟨items, hvalue, htable⟩
    exact ⟨_, hvalue.trans (array_eq_strings (htexts items hvalue)), htable⟩
  · rintro ⟨texts, hvalue, htable⟩
    exact ⟨_, hvalue, by rwa [filterMap_string?]⟩

/-- Two records of one number, of which the second counts. -/
def storedRecords : List String :=
  ["040Z001002003004005006007008", "040E001000000255255001255000"]

theorem start_restores_storedRecords :
    ({} : TerminalConfig).restoreStateTables = true ∧
      (∀ items, (({} : Settings).set tableKey (.strings storedRecords)).get tableKey =
          .array items → ∀ item ∈ items, ∃ text, item = .string text) ∧
        ∃ table, StateTable.ofChunks storedRecords = .ok table ∧
          (start {} (({} : Settings).set tableKey (.strings storedRecords))).table = table := by
  have hvalue : (({} : Settings).set tableKey (.strings storedRecords)).get tableKey =
      .strings storedRecords := by
    simp [Settings.get]
  have htexts : ∀ items, (({} : Settings).set tableKey (.strings storedRecords)).get tableKey =
      .array items → ∀ item ∈ items, ∃ text, item = .string text := by
    intro items hitems item hitem
    obtain rfl : items = storedRecords.map .string := Json.array.inj (hitems.symm.trans hvalue)
    obtain ⟨text, -, rfl⟩ := List.mem_map.mp hitem
    exact ⟨text, rfl⟩
  obtain ⟨table, htable⟩ : ∃ table, StateTable.ofChunks storedRecords = .ok table := ⟨_, rfl⟩
  have hinstalled := (start_restores_texts (show ({} : TerminalConfig).restoreStateTables = true
    from rfl) (({} : Settings).set tableKey (.strings storedRecords)) table).2 htexts
  exact ⟨rfl, htexts, table, htable, (hinstalled.mpr ⟨storedRecords, hvalue, htable⟩).1⟩

/-- Settings with a list of which one item is no record and no text. -/
def damagedRecords : Settings :=
  ({} : Settings).set tableKey (.array [.string "001K003004004127127127127127", .integer 5])

/-- The damage is not noticed: a table is restored, although the value is no list of texts. -/
theorem restores_damagedRecords :
    (¬ ∃ texts, damagedRecords.get tableKey = .strings texts) ∧
      (start {} damagedRecords).table.records = ["001K003004004127127127127127"] ∧
      (start {} damagedRecords).table ≠ .empty := by
  refine ⟨?_, by decide, by decide⟩
  rintro ⟨texts, htexts⟩
  have hvalue : damagedRecords.get tableKey =
      .array [.string "001K003004004127127127127127", .integer 5] := by
    simp [damagedRecords, Settings.get]
  rw [hvalue, Json.strings] at htexts
  cases texts with
  | nil => simp at htexts
  | cons first rest => cases rest <;> simp at htexts

end TellerTerminal.Terminal
