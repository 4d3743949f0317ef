import TellerTerminal.Proofs.Host

/-!
# Which messages are commands

The command of a message is decided by its class and by the fields that belong to the class.  The
blank check before a load never stops a payload that could be read: every record begins with a
digit, which is no blank.
-/

namespace TellerTerminal

theorem Text.isBlank_eq_false_of_isDigit {c : Char} (h : c.isDigit) : isBlank c = false := by
  simp only [Char.isDigit, Bool.and_eq_true, decide_eq_true_eq] at h
  have hlow : '0'.toNat ≤ c.toNat := UInt32.le_iff_toNat_le.mp h.1
  have hhigh : c.toNat ≤ '9'.toNat := UInt32.le_iff_toNat_le.mp h.2
  have hapart : ∀ range ∈ blankRanges, range.2 < '0'.toNat ∨ '9'.toNat < range.1 := by decide
  rw [isBlank, List.any_eq_false]
  intro range hrange
  have := hapart range hrange
  simp only [Bool.and_eq_true, decide_eq_true_eq]
  omega

/-- A record begins with the digits of its number. -/
theorem StateEntry.exists_isDigit_of_ofRecord {record : String} {entry : StateEntry}
    (h : ofRecord record = .ok entry) : ∃ c ∈ record.toList, c.isDigit := by
  obtain ⟨-, hholds⟩ := ofRecord_eq_ok_iff.mp h
  obtain ⟨hlength, hdigits⟩ := entry.number.isText_text
  rw [hholds.number] at hlength hdigits
  obtain ⟨c, hc⟩ := List.exists_mem_of_length_pos (by omega : 0 < (part record 0).toList.length)
  exact ⟨c, mem_of_mem_part hc, List.all_eq_true.mp hdigits c hc⟩

/-- A payload with a table is not blank. -/
theorem StatesPayload.isBlank_eq_false {states : StatesPayload} {table : StateTable}
    (h : StateTable.ofChunks states.chunks = .ok table) : states.isBlank = false := by
  obtain ⟨items, hrecords, hitems, hne, -⟩ := StateTable.ofChunks_eq_ok_iff.mp h
  obtain ⟨item, hitem⟩ := List.exists_mem_of_ne_nil items hne
  have hrecord : item.1 ∈ states.chunks.flatMap Payload.records :=
    hrecords ▸ List.mem_map_of_mem hitem
  obtain ⟨chunk, hchunk, hmem⟩ := List.mem_flatMap.mp hrecord
  obtain ⟨c, hc, hdigit⟩ := StateEntry.exists_isDigit_of_ofRecord (hitems item hitem)
  rw [isBlank, List.all_eq_false]
  refine ⟨chunk, hchunk, ?_⟩
  rw [Text.isBlankText, List.all_eq_true]
  intro hblank
  have hfalse := Text.isBlank_eq_false_of_isDigit hdigit
  rw [hblank c (Payload.mem_of_mem_records hmem hc)] at hfalse
  contradiction

namespace HostMessage

/-- The status that a service command asks for. -/
def service? (message : HostMessage) : Option TerminalStatus :=
  if message.messageClass = some "Terminal Command" then
    if message.commandCode = some "Go in-service" then some .inService
    else if message.commandCode = some "Go out-of-service" then some .outOfService
    else none
  else
    none

/-- The message asks for a load of these states. -/
structure IsTableLoad (message : HostMessage) (states : StatesPayload) : Prop where
  messageClass : message.messageClass = some "Data Command"
  messageSubclass : message.messageSubclass = some "Customization Command"
  messageIdentifier : message.messageIdentifier = some "State Tables load"
  payload : message.states = some states

variable {message : HostMessage} {states : StatesPayload} {table : StateTable}

/-- What a message asks for, by the fields that belong to its class. -/
inductive Asks (message : HostMessage) : Option HostCommand → Prop
  | nothing (hclass : message.messageClass = none) : message.Asks none
  | outOfService (hservice : message.service? = some .outOfService) :
      message.Asks (some .goOutOfService)
  | inService (hservice : message.service? = some .inService) : message.Asks (some .goInService)
  | load {states : StatesPayload} (hload : message.IsTableLoad states)
      (hblank : states.isBlank = false) : message.Asks (some (.loadStateTables states))
  | rejected {reason : Rejection} (hservice : message.service? = none)
      (hload : ∀ states, message.IsTableLoad states → states.isBlank) :
      message.Asks (some (.reject reason))

theorem IsTableLoad.service?_eq_none (h : message.IsTableLoad states) :
    message.service? = none := by
  simp [service?, h.messageClass]

theorem asks_serviceCommand (hclass : message.messageClass = some "Terminal Command") :
    message.Asks (some message.serviceCommand) := by
  unfold serviceCommand
  split_ifs with hout hin
  · exact .outOfService (by simp [service?, hclass, hout, goOutOfServiceCode])
  · exact .inService (by simp [service?, hclass, hin, goInServiceCode])
  · refine .rejected ?_ fun states hload => ?_
    · exact (if_pos hclass).trans ((if_neg hin).trans (if_neg hout))
    · exact absurd (hclass.symm.trans hload.messageClass) (by simp)

theorem asks_customizationCommand (hclass : message.messageClass = some "Data Command")
    (hsubclass : message.messageSubclass = some "Customization Command") :
    message.Asks (some message.customizationCommand) := by
  have hservice : message.service? = none := by simp [service?, hclass]
  unfold customizationCommand
  split_ifs with hidentifier
  · split
    next states hstates =>
      split_ifs with hblank
      · refine .rejected hservice fun other hload => ?_
        obtain rfl := Option.some.inj (hstates.symm.trans hload.payload)
        exact hblank
      · exact .load ⟨hclass, hsubclass, hidentifier, hstates⟩ (by simpa using hblank)
    next hstates =>
      exact .rejected hservice fun _ hload => absurd (hstates.symm.trans hload.payload) (by simp)
  · exact .rejected hservice fun _ hload => absurd hload.messageIdentifier hidentifier

theorem asks_dataCommand (hclass : message.messageClass = some "Data Command") :
    message.Asks (some message.dataCommand) := by
  have hservice : message.service? = none := by simp [service?, hclass]
  unfold dataCommand
  split
  next hsubclass =>
    exact .rejected hservice fun _ hload =>
      absurd (hsubclass.symm.trans hload.messageSubclass) (by simp)
  next subclass hsubclass =>
    split_ifs with hcustomization
    · exact asks_customizationCommand hclass (hsubclass.trans (congrArg some hcustomization))
    · exact .rejected hservice fun _ hload =>
        absurd (Option.some.inj (hsubclass.symm.trans hload.messageSubclass)) hcustomization

theorem asks_command? (message : HostMessage) : message.Asks message.command? := by
  unfold command?
  cases hclass : message.messageClass with
  | none => exact .nothing hclass
  | some messageClass =>
      simp only [Option.map_some]
      split_ifs with hterminal hdata
      · exact asks_serviceCommand (hclass.trans (congrArg some hterminal))
      · exact asks_dataCommand (hclass.trans (congrArg some hdata))
      · refine .rejected ?_ fun states hload => ?_
        · exact if_neg fun h => hterminal (Option.some.inj (hclass.symm.trans h))
        · exact absurd (Option.some.inj (hclass.symm.trans hload.messageClass)) hdata

theorem command?_eq_none_iff : message.command? = none ↔ message.messageClass = none := by
  simp [command?]

/-- A status is asked for by the service commands and by nothing else. -/
theorem service?_eq (message : HostMessage) :
    message.service? =
      match message.command? with
      | some .goInService => some .inService
      | some .goOutOfService => some .outOfService
      | _ => none := by
  have hasks := message.asks_command?
  generalize message.command? = command? at hasks ⊢
  cases hasks with
  | nothing hclass => simp [service?, hclass]
  | outOfService hservice => exact hservice
  | inService hservice => exact hservice
  | load hload => exact hload.service?_eq_none
  | rejected hservice => exact hservice

theorem isSome_service?_iff :
    message.service?.isSome ↔
      message.command? = some .goInService ∨ message.command? = some .goOutOfService := by
  rw [service?_eq]
  split
  next h => simp [h]
  next h => simp [h]
  next hin hout =>
    refine iff_of_false (by simp) ?_
    rintro (h | h)
    · exact hin h
    · exact hout h

theorem service?_eq_none
    (h : message.command? ≠ some .goInService ∧ message.command? ≠ some .goOutOfService) :
    message.service? = none := by
  rw [← Option.not_isSome_iff_eq_none, isSome_service?_iff]
  rintro (hin | hout)
  · exact h.1 hin
  · exact h.2 hout

theorem isSome_service?_iff_fields :
    message.service?.isSome ↔
      message.messageClass = some "Terminal Command" ∧
        (message.commandCode = some "Go out-of-service" ∨
          message.commandCode = some "Go in-service") := by
  unfold service?
  split_ifs with hclass hin hout
  · simp [hclass, hin]
  · simp [hclass, hout]
  · simp [hin, hout]
  · simp [hclass]

theorem command?_eq_load_iff :
    message.command? = some (.loadStateTables states) ↔
      message.IsTableLoad states ∧ states.isBlank = false := by
  have hasks := message.asks_command?
  generalize message.command? = command? at hasks ⊢
  constructor
  · rintro rfl
    cases hasks with
    | load hload hblank => exact ⟨hload, hblank⟩
  · rintro ⟨hload, hblank⟩
    have hservice := hload.service?_eq_none
    cases hasks with
    | nothing hclass => exact absurd (hclass.symm.trans hload.messageClass) (by simp)
    | outOfService hout => exact absurd (hservice.symm.trans hout) (by simp)
    | inService hin => exact absurd (hservice.symm.trans hin) (by simp)
    | load hother =>
        obtain rfl := Option.some.inj (hother.payload.symm.trans hload.payload)
        rfl
    | rejected _ hreject => exact absurd (hblank.symm.trans (hreject states hload)) (by simp)

/-- The blank check is all that stands between a load and its command. -/
theorem IsTableLoad.command?_eq (h : message.IsTableLoad states) :
    message.command? =
      some (if states.isBlank then .reject .missingStates else .loadStateTables states) := by
  have hterminal : ¬ "Data Command" = terminalCommandClass := by decide
  have hdata : "Data Command" = dataCommandClass := rfl
  have hcustomization : "Customization Command" = customizationSubclass := rfl
  have hidentifier : message.messageIdentifier = some stateTablesLoadIdentifier :=
    h.messageIdentifier
  simp only [command?, h.messageClass, Option.map_some, if_neg hterminal, if_pos hdata,
    dataCommand, h.messageSubclass, if_pos hcustomization, customizationCommand,
    if_pos hidentifier, h.payload]

/-- A load is accepted for its states alone: the blank check takes nothing away. -/
theorem loadedTable?_eq_some_iff :
    message.loadedTable? = some table ↔
      ∃ states, message.IsTableLoad states ∧ StateTable.ofChunks states.chunks = .ok table := by
  constructor
  · intro h
    obtain ⟨states, hcommand, htable⟩ := exists_of_loadedTable? h
    exact ⟨states, (command?_eq_load_iff.mp hcommand).1, htable⟩
  · rintro ⟨states, hload, htable⟩
    have hcommand : message.command? = some (.loadStateTables states) :=
      command?_eq_load_iff.mpr ⟨hload, StatesPayload.isBlank_eq_false htable⟩
    simp [loadedTable?, hcommand, htable, Except.toOption]

end HostMessage

end TellerTerminal
