import Mathlib.Data.List.Dedup
import TellerTerminal.Proofs.Store
import TellerTerminal.Proofs.Table

/-!
# The table of a payload

A payload is read record by record, and the first record that is rejected rejects it as a whole.
Otherwise its table keeps the records as they came and, for each number that occurs in them, the
entry of the last record with that number, in ascending order of the numbers.
-/

namespace TellerTerminal

instance : Std.Irrefl fun m n : StateNumber => m < n :=
  ⟨fun number => Nat.lt_irrefl number.value⟩

namespace StateTable

/-- The entry of the last record that has the number. -/
def lastEntry? (records : List String) (number : StateNumber) : Option StateEntry :=
  ((records.filterMap fun record => (StateEntry.ofRecord record).toOption).filter
    fun entry => entry.number = number).getLast?

theorem get?_add (table : StateTable) (item : String × StateEntry) (number : StateNumber) :
    (table.add item).get? number =
      if item.2.number = number then some item.2 else table.get? number :=
  Ascending.find?_insert StateEntry.number item.2 table.entries number

/-- The last of the added entries decides, and without one the table that they were added to. -/
theorem get?_foldl_add (items : List (String × StateEntry)) (table : StateTable)
    (number : StateNumber) :
    (items.foldl add table).get? number =
      ((items.map Prod.snd).filter fun entry => entry.number = number).getLast?.or
        (table.get? number) := by
  induction items generalizing table with
  | nil => rfl
  | cons item rest ih =>
      rw [List.foldl_cons, ih, get?_add, List.map_cons]
      by_cases hnumber : item.2.number = number
      · -- A later entry with the number, if there is one, still comes before this one.
        have hlast := getLast?_toList_append (some item.2)
          ((rest.map Prod.snd).filter fun entry => entry.number = number)
        rw [List.filter_cons_of_pos (by simpa using hnumber), if_pos hnumber]
        rw [Option.toList_some, List.singleton_append] at hlast
        rw [hlast, Option.or_assoc, Option.some_or]
      · rw [List.filter_cons_of_neg (by simpa using hnumber), if_neg hnumber]

theorem filterMap_ofRecord {items : List (String × StateEntry)}
    (h : ∀ item ∈ items, StateEntry.ofRecord item.1 = .ok item.2) :
    (items.map Prod.fst).filterMap (fun record => (StateEntry.ofRecord record).toOption) =
      items.map Prod.snd := by
  rw [List.filterMap_map, ← List.filterMap_eq_map]
  refine List.filterMap_congr fun item hitem => ?_
  exact toOption_eq_some_iff.mpr (h item hitem)

variable {chunks : List String} {table : StateTable}

theorem get?_of_ofChunks (h : ofChunks chunks = .ok table) (number : StateNumber) :
    table.get? number = lastEntry? table.records number := by
  rw [records_of_ofChunks h]
  obtain ⟨items, hrecords, hitems, -, rfl⟩ := ofChunks_eq_ok_iff.mp h
  rw [get?_foldl_add, lastEntry?, ← hrecords, filterMap_ofRecord hitems]
  exact Option.or_none

theorem exists_record_of_mem_entries (h : ofChunks chunks = .ok table) {entry : StateEntry}
    (hentry : entry ∈ table.entries) :
    ∃ record ∈ table.records, StateEntry.ofRecord record = .ok entry := by
  rw [records_of_ofChunks h]
  obtain ⟨items, hrecords, hitems, -, rfl⟩ := ofChunks_eq_ok_iff.mp h
  rcases mem_entries_foldl_add hentry with hempty | ⟨item, hitem, rfl⟩
  · exact absurd hempty List.not_mem_nil
  · exact ⟨item.1, hrecords ▸ List.mem_map_of_mem hitem, hitems item hitem⟩

section Rejected

/-- The error of the first record that is rejected. -/
def FirstRejected (records : List String) (error : RecordError) : Prop :=
  ∃ before record after, records = before ++ record :: after ∧
    (∀ earlier ∈ before, ∃ entry, StateEntry.ofRecord earlier = .ok entry) ∧
      StateEntry.ofRecord record = .error error

theorem mapM_readItem_eq_error_iff {records : List String} {error : RecordError} :
    records.mapM readItem = .error error ↔ FirstRejected records error := by
  have herror (record : String) :
      readItem record = .error error ↔ StateEntry.ofRecord record = .error error :=
    map_eq_error_iff
  have hok (record : String) : (∃ item, readItem record = .ok item) ↔
      ∃ entry, StateEntry.ofRecord record = .ok entry := by
    simp [readItem, map_eq_ok_iff]
  simp only [mapM_eq_error_iff, FirstRejected, herror, hok]

theorem ofChunks_eq_error_iff {error : RecordError} :
    ofChunks chunks = .error error ↔
      FirstRejected (chunks.flatMap Payload.records) error ∨
        chunks.flatMap Payload.records = [] ∧ error = .empty := by
  rw [ofChunks, bind_eq_error_iff, mapM_readItem_eq_error_iff]
  refine or_congr Iff.rfl ⟨?_, ?_⟩
  · rintro ⟨items, hitems, h⟩
    cases items with
    | nil =>
        have hrecords := forall₂_readItem_iff.mp (mapM_eq_ok_iff.mp hitems)
        exact ⟨hrecords.1.symm, (Except.error.inj h).symm⟩
    | cons item rest => simp [pure, Except.pure] at h
  · rintro ⟨hrecords, rfl⟩
    exact ⟨[], by rw [hrecords]; rfl, rfl⟩

theorem exists_ofChunks_iff :
    (∃ table, ofChunks chunks = .ok table) ↔
      chunks.flatMap Payload.records ≠ [] ∧ ∀ record ∈ chunks.flatMap Payload.records,
        ∃ entry, StateEntry.ofRecord record = .ok entry := by
  constructor
  · rintro ⟨table, h⟩
    obtain ⟨items, hrecords, hitems, hne, -⟩ := ofChunks_eq_ok_iff.mp h
    rw [← hrecords]
    refine ⟨by simpa using hne, fun record hrecord => ?_⟩
    obtain ⟨item, hitem, rfl⟩ := List.mem_map.mp hrecord
    exact ⟨item.2, hitems item hitem⟩
  · rintro ⟨hne, hrecords⟩
    cases h : ofChunks chunks with
    | ok table => exact ⟨table, rfl⟩
    | error error =>
        rcases ofChunks_eq_error_iff.mp h with ⟨before, record, after, hsplit, -, herror⟩ | hempty
        · obtain ⟨entry, hentry⟩ := hrecords record (by simp [hsplit])
          rw [herror] at hentry
          contradiction
        · exact absurd hempty.1 hne

end Rejected

/-- The number that a record begins with. -/
def numberOf? (record : String) : Option StateNumber :=
  StateNumber.ofText? (StateEntry.part record 0)

theorem numberOf?_of_ofRecord {record : String} {entry : StateEntry}
    (h : StateEntry.ofRecord record = .ok entry) : numberOf? record = some entry.number :=
  StateNumber.ofText?_eq_some_iff.mpr (StateEntry.ofRecord_eq_ok_iff.mp h).2.number

/-- The last record that begins with the number. -/
def lastRecord? (records : List String) (number : StateNumber) : Option String :=
  (records.filter fun record => numberOf? record = some number).getLast?

/-- The table is what the records say. -/
structure Tabulates (records : List String) (table : StateTable) : Prop where
  records_eq : table.records = records
  get?_eq : ∀ number, table.get? number =
    (lastRecord? records number).bind fun record => (StateEntry.ofRecord record).toOption
  contains_iff : ∀ number, table.contains number ↔ ∃ entry, table.get? number = some entry
  ascending : table.entries.Pairwise fun x y => x.number < y.number
  listed : ∀ number entry, table.get? number = some entry ↔
    entry ∈ table.entries ∧ entry.number = number
  size_eq : table.size = (records.filterMap numberOf?).dedup.length
  extensionFor?_iff : ∀ entry extension, table.extensionFor? entry = some extension ↔
    ∃ state, entry = .information state ∧
      table.get? state.extension = some (.extension extension)

theorem nodup_numbers (table : StateTable) : (table.entries.map StateEntry.number).Nodup := by
  rw [List.Nodup, List.pairwise_map]
  refine table.ascending.imp fun {x y} hlt heq => ?_
  rw [heq] at hlt
  exact Nat.lt_irrefl _ hlt

theorem get?_eq_some_iff {number : StateNumber} {entry : StateEntry} :
    table.get? number = some entry ↔ entry ∈ table.entries ∧ entry.number = number := by
  constructor
  · intro h
    exact ⟨mem_entries_of_get? h, number_of_get? h⟩
  · rintro ⟨hmem, rfl⟩
    obtain ⟨found, hfound⟩ : ∃ found, table.get? entry.number = some found := by
      rw [← Option.isSome_iff_exists, get?, List.find?_isSome]
      exact ⟨entry, hmem, by simp⟩
    rw [hfound, List.inj_on_of_nodup_map table.nodup_numbers (mem_entries_of_get? hfound) hmem
      (number_of_get? hfound)]

theorem get?_eq_lastRecord? (h : ofChunks chunks = .ok table) (number : StateNumber) :
    table.get? number = (lastRecord? table.records number).bind fun record =>
      (StateEntry.ofRecord record).toOption := by
  rw [records_of_ofChunks h]
  obtain ⟨items, hrecords, hitems, -, rfl⟩ := ofChunks_eq_ok_iff.mp h
  have hnumbers : ∀ item ∈ items, numberOf? item.1 = some item.2.number :=
    fun item hitem => numberOf?_of_ofRecord (hitems item hitem)
  -- Both sides look at the last of the items with the number.
  let last? := (items.filter fun item => item.2.number = number).getLast?
  have hget : (items.foldl add empty).get? number = last?.map Prod.snd := by
    rw [get?_foldl_add, List.filter_map, List.getLast?_map]
    exact Option.or_none
  have hlast : lastRecord? (items.map Prod.fst) number = last?.map Prod.fst := by
    have hfilter : items.filter ((fun record => numberOf? record = some number) ∘ Prod.fst) =
        items.filter fun item => item.2.number = number := by
      refine List.filter_congr fun item hitem => ?_
      simp [hnumbers item hitem]
    rw [lastRecord?, List.filter_map, List.getLast?_map, hfilter]
  rw [← hrecords, hget, hlast]
  cases hitem : last? with
  | none => rfl
  | some item =>
      have hmem : item ∈ items := List.mem_of_mem_filter (List.mem_of_getLast? hitem)
      simp [hitems item hmem, Except.toOption]

/-- A number has an entry exactly if some record begins with it. -/
theorem exists_get?_iff (h : ofChunks chunks = .ok table) (number : StateNumber) :
    (∃ entry, table.get? number = some entry) ↔ number ∈ table.records.filterMap numberOf? := by
  rw [List.mem_filterMap]
  constructor
  · rintro ⟨entry, hentry⟩
    obtain ⟨record, hrecord, hread⟩ :=
      exists_record_of_mem_entries h (mem_entries_of_get? hentry)
    exact ⟨record, hrecord, number_of_get? hentry ▸ numberOf?_of_ofRecord hread⟩
  · rintro ⟨record, hrecord, hnumber⟩
    obtain ⟨entry, hentry⟩ :=
      (exists_ofChunks_iff.mp ⟨table, h⟩).2 record (records_of_ofChunks h ▸ hrecord)
    have hsame : entry.number = number :=
      Option.some.inj ((numberOf?_of_ofRecord hentry).symm.trans hnumber)
    have hread : entry ∈
        table.records.filterMap fun record => (StateEntry.ofRecord record).toOption :=
      List.mem_filterMap.mpr ⟨record, hrecord, toOption_eq_some_iff.mpr hentry⟩
    rw [← Option.isSome_iff_exists, get?_of_ofChunks h, lastEntry?, List.getLast?_isSome]
    exact List.ne_nil_of_mem (List.mem_filter.mpr ⟨hread, decide_eq_true hsame⟩)

theorem size_of_ofChunks (h : ofChunks chunks = .ok table) :
    table.size = (table.records.filterMap numberOf?).dedup.length := by
  -- Neither list has a number twice, and both have the numbers of the records.
  have hmem (number : StateNumber) : number ∈ table.entries.map StateEntry.number ↔
      number ∈ (table.records.filterMap numberOf?).dedup := by
    simp only [List.mem_dedup, ← exists_get?_iff h, List.mem_map, get?_eq_some_iff]
  have hperm := (List.perm_ext_iff_of_nodup table.nodup_numbers (List.nodup_dedup _)).mpr hmem
  rw [size, ← List.length_map StateEntry.number, hperm.length_eq]

/-- A payload is rejected with the error of its first record that cannot be read, or because it has
no record at all; every other payload has a table, and the table is what its records say. -/
theorem ofChunks_tabulates (chunks : List String) :
    (∀ error, ofChunks chunks = .error error ↔
      FirstRejected (chunks.flatMap Payload.records) error ∨
        chunks.flatMap Payload.records = [] ∧ error = .empty) ∧
      ((∃ table, ofChunks chunks = .ok table) ↔
        chunks.flatMap Payload.records ≠ [] ∧ ∀ record ∈ chunks.flatMap Payload.records,
          ∃ entry, StateEntry.ofRecord record = .ok entry) ∧
      ∀ table, ofChunks chunks = .ok table →
        Tabulates (chunks.flatMap Payload.records) table := by
  refine ⟨fun _ => ofChunks_eq_error_iff, exists_ofChunks_iff, fun table h => ?_⟩
  have hrecords := records_of_ofChunks h
  exact {
    records_eq := hrecords
    get?_eq := hrecords ▸ get?_eq_lastRecord? h
    contains_iff := fun number => Option.isSome_iff_exists
    ascending := table.ascending
    listed := fun _ _ => get?_eq_some_iff
    size_eq := hrecords ▸ size_of_ofChunks h
    extensionFor?_iff := fun _ _ => extensionFor?_eq_some_iff }

end StateTable

end TellerTerminal
