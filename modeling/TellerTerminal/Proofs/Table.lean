import TellerTerminal.Proofs.Payload
import TellerTerminal.Proofs.Record
import TellerTerminal.State.Table

/-!
# Tables and their records

The records of a table are the pieces of the payload that it was read from, in load order, and every
entry stands in one of them.  Reading the records of a table again gives the same table, whatever
the payload looked like and also where a later record replaced an earlier one.
-/

namespace TellerTerminal.StateTable

theorem mem_entries_of_get? {table : StateTable} {number : StateNumber} {entry : StateEntry}
    (h : table.get? number = some entry) : entry ∈ table.entries :=
  List.mem_of_find?_eq_some h

theorem number_of_get? {table : StateTable} {number : StateNumber} {entry : StateEntry}
    (h : table.get? number = some entry) : entry.number = number := by
  simpa using List.find?_some h

/-- Only an information entry state links to an extension, and only to one that is in the table. -/
theorem extensionFor?_eq_some_iff {table : StateTable} {entry : StateEntry}
    {extension : Extension} :
    table.extensionFor? entry = some extension ↔
      ∃ state, entry = .information state ∧
        table.get? state.extension = some (.extension extension) := by
  cases entry with
  | information state =>
      simp only [extensionFor?, StateEntry.extension?, Option.bind_some,
        StateEntry.information.injEq, exists_eq_left']
      split <;> simp_all
  | selection state => simp [extensionFor?, StateEntry.extension?]
  | extension state => simp [extensionFor?, StateEntry.extension?]
  | other state => simp [extensionFor?, StateEntry.extension?]

theorem get?_of_extensionFor? {table : StateTable} {entry : StateEntry}
    {extension : Extension} (h : table.extensionFor? entry = some extension) :
    ∃ number, table.get? number = some (.extension extension) := by
  obtain ⟨state, -, hlinked⟩ := extensionFor?_eq_some_iff.mp h
  exact ⟨state.extension, hlinked⟩

theorem records_foldl_add (items : List (String × StateEntry)) (table : StateTable) :
    (items.foldl add table).records = table.records ++ items.map Prod.fst := by
  induction items generalizing table with
  | nil => simp
  | cons item rest ih => simp [ih, add]

theorem mem_entries_foldl_add {items : List (String × StateEntry)} {table : StateTable}
    {entry : StateEntry} (h : entry ∈ (items.foldl add table).entries) :
    entry ∈ table.entries ∨ ∃ item ∈ items, item.2 = entry := by
  induction items generalizing table with
  | nil => exact .inl h
  | cons item rest ih =>
      rcases ih h with hadd | ⟨later, hlater, rfl⟩
      · rcases Ascending.mem_of_mem_insert hadd with rfl | hold
        · exact .inr ⟨item, List.mem_cons_self, rfl⟩
        · exact .inl hold
      · exact .inr ⟨later, List.mem_cons_of_mem _ hlater, rfl⟩

theorem readItem_eq_ok_iff {record : String} {item : String × StateEntry} :
    readItem record = .ok item ↔ item.1 = record ∧ StateEntry.ofRecord record = .ok item.2 := by
  obtain ⟨first, entry⟩ := item
  rw [readItem, map_eq_ok_iff]
  constructor
  · rintro ⟨value, hvalue, hpair⟩
    obtain ⟨rfl, rfl⟩ := Prod.mk.inj hpair
    exact ⟨rfl, hvalue⟩
  · rintro ⟨rfl, hentry⟩
    exact ⟨entry, hentry, rfl⟩

theorem forall₂_readItem_iff {records : List String} {items : List (String × StateEntry)} :
    List.Forall₂ (fun record item => readItem record = .ok item) records items ↔
      items.map Prod.fst = records ∧ ∀ item ∈ items, StateEntry.ofRecord item.1 = .ok item.2 := by
  induction items generalizing records with
  | nil => simp [eq_comm]
  | cons item rest ih =>
      cases records with
      | nil => simp
      | cons record others =>
          rw [List.forall₂_cons, ih, readItem_eq_ok_iff, List.forall_mem_cons, List.map_cons,
            List.cons.injEq]
          constructor
          · rintro ⟨⟨rfl, hitem⟩, hrecords, hrest⟩
            exact ⟨⟨rfl, hrecords⟩, hitem, hrest⟩
          · rintro ⟨⟨rfl, hrecords⟩, hitem, hrest⟩
            exact ⟨⟨rfl, hitem⟩, hrecords, hrest⟩

/-- A payload is accepted if it has records and each of them can be read. -/
theorem ofChunks_eq_ok_iff {chunks : List String} {table : StateTable} :
    ofChunks chunks = .ok table ↔
      ∃ items, items.map Prod.fst = chunks.flatMap Payload.records ∧
        (∀ item ∈ items, StateEntry.ofRecord item.1 = .ok item.2) ∧ items ≠ [] ∧
          items.foldl add empty = table := by
  simp only [ofChunks, bind_eq_ok_iff, mapM_eq_ok_iff, forall₂_readItem_iff, and_assoc]
  refine exists_congr fun items => and_congr_right fun _ => and_congr_right fun _ => ?_
  cases items with
  | nil => simp [throw, throwThe, MonadExceptOf.throw, bind, Except.bind]
  | cons item rest => simp [pure, Except.pure]

theorem records_of_ofChunks {chunks : List String} {table : StateTable}
    (h : ofChunks chunks = .ok table) : table.records = chunks.flatMap Payload.records := by
  obtain ⟨items, hrecords, -, -, rfl⟩ := ofChunks_eq_ok_iff.mp h
  rw [records_foldl_add, hrecords]
  rfl

/-- No payload has the table that a terminal starts with. -/
theorem ne_empty_of_ofChunks {chunks : List String} {table : StateTable}
    (h : ofChunks chunks = .ok table) : table ≠ empty := by
  obtain ⟨items, hrecords, -, hne, -⟩ := ofChunks_eq_ok_iff.mp h
  rintro rfl
  rw [← records_of_ofChunks h] at hrecords
  exact hne (List.map_eq_nil_iff.mp hrecords)

/-- The records of a table, taken as chunks, give the table again. -/
theorem ofChunks_records {chunks : List String} {table : StateTable}
    (h : ofChunks chunks = .ok table) : ofChunks table.records = .ok table := by
  rw [ofChunks_eq_ok_iff] at h ⊢
  have hrecords := records_of_ofChunks (ofChunks_eq_ok_iff.mpr h)
  rwa [hrecords, Payload.flatMap_records_flatMap_records]

/-- Every entry stands in some record. -/
def IsRecorded (table : StateTable) : Prop :=
  ∀ entry ∈ table.entries, entry.IsRecorded

theorem isRecorded_empty : empty.IsRecorded :=
  fun _ hentry => absurd hentry List.not_mem_nil

theorem isRecorded_of_ofChunks {chunks : List String} {table : StateTable}
    (h : ofChunks chunks = .ok table) : table.IsRecorded := by
  intro entry hentry
  obtain ⟨items, -, hitems, -, rfl⟩ := ofChunks_eq_ok_iff.mp h
  rcases mem_entries_foldl_add hentry with hempty | ⟨item, hitem, rfl⟩
  · exact absurd hempty List.not_mem_nil
  · exact ⟨item.1, hitems item hitem⟩

end TellerTerminal.StateTable
