import TellerTerminal.Proofs.Flow
import TellerTerminal.Terminal.Host

/-!
# What a start and a host message can do

A new terminal differs from a default one in its table only, which is the stored one or none.  A
message is left without an answer, is rejected, changes the service, or loads a table.  Whether a
load is accepted depends on the payload alone.  Going in service enters the initial state if the
table has an executable entry for it, and otherwise it only changes the status.
-/

namespace TellerTerminal

/-- The table that a message installs, if it asks for a load and the payload is accepted. -/
def HostMessage.loadedTable? (message : HostMessage) : Option StateTable :=
  match message.command? with
  | some (.loadStateTables states) => (StateTable.ofChunks states.chunks).toOption
  | _ => none

theorem HostMessage.exists_of_loadedTable? {message : HostMessage} {table : StateTable}
    (h : message.loadedTable? = some table) :
    ∃ states, message.command? = some (.loadStateTables states) ∧
      StateTable.ofChunks states.chunks = .ok table := by
  unfold loadedTable? at h
  split at h
  next states hcommand => exact ⟨states, hcommand, toOption_eq_some_iff.mp h⟩
  next => contradiction

namespace Terminal

/-- The table that a new terminal takes from the settings. -/
def restored? (config : TerminalConfig) (settings : Settings) : Option StateTable :=
  if config.restoreStateTables then storedTable? (settings.get tableKey) else none

theorem start_eq (config : TerminalConfig) (settings : Settings) :
    start config settings = { config, table := (restored? config settings).getD .empty } := by
  unfold start restored?
  split_ifs
  · cases storedTable? (settings.get tableKey) <;> rfl
  · rfl

theorem storedTable?_eq_some_iff {value : Json} {table : StateTable} :
    storedTable? value = some table ↔ ∃ items, value = .array items ∧
      StateTable.ofChunks (items.filterMap Json.string?) = .ok table := by
  cases value with
  | array items => simp [storedTable?, toOption_eq_some_iff]
  | _ => simp [storedTable?]

theorem filterMap_string? (texts : List String) :
    (texts.map Json.string).filterMap Json.string? = texts := by
  simp [List.filterMap_map, Function.comp_def, Json.string?]

theorem storedTable?_strings (texts : List String) :
    storedTable? (.strings texts) = (StateTable.ofChunks texts).toOption := by
  rw [Json.strings, storedTable?, filterMap_string?]

theorem exists_ofChunks_of_restored? {config : TerminalConfig} {settings : Settings}
    {table : StateTable} (h : restored? config settings = some table) :
    ∃ chunks, StateTable.ofChunks chunks = .ok table := by
  unfold restored? at h
  split_ifs at h
  obtain ⟨items, -, htable⟩ := storedTable?_eq_some_iff.mp h
  exact ⟨_, htable⟩

/-- A new terminal has a table that was read from records, or the empty one. -/
theorem isRecorded_start (config : TerminalConfig) (settings : Settings) :
    (start config settings).table.IsRecorded := by
  rw [start_eq]
  cases hrestored : restored? config settings with
  | none => exact StateTable.isRecorded_empty
  | some table =>
      obtain ⟨chunks, htable⟩ := exists_ofChunks_of_restored? hrestored
      exact StateTable.isRecorded_of_ofChunks htable

/-- The entry of the initial state, if the table has an executable one for it. -/
def entryOfInitial? (terminal : Terminal) : Option StateEntry :=
  ((StateNumber.ofText? terminal.config.initialState).bind terminal.table.get?).filter
    StateEntry.isExecutable

/-- The initial state is the one whose three digits the configuration gives. -/
theorem entryOfInitial?_eq_some_iff {terminal : Terminal} {entry : StateEntry} :
    terminal.entryOfInitial? = some entry ↔
      ∃ number : StateNumber, number.text = terminal.config.initialState ∧
        terminal.table.get? number = some entry ∧ entry.isExecutable := by
  constructor
  · intro h
    obtain ⟨hbind, hexecutable⟩ := Option.filter_eq_some_iff.mp h
    obtain ⟨number, hnumber, hentry⟩ := Option.bind_eq_some_iff.mp hbind
    exact ⟨number, StateNumber.text_of_ofText? hnumber, hentry, hexecutable⟩
  · rintro ⟨number, htext, hentry, hexecutable⟩
    have hnumber := StateNumber.ofText?_eq_some_iff.mpr htext
    exact Option.filter_eq_some_iff.mpr
      ⟨Option.bind_eq_some_iff.mpr ⟨number, hnumber, hentry⟩, hexecutable⟩

theorem executes_of_entryOfInitial? {terminal : Terminal} {entry : StateEntry}
    (h : terminal.entryOfInitial? = some entry) :
    terminal.table.get? entry.number = some entry ∧ entry.isExecutable := by
  obtain ⟨number, -, hentry, hexecutable⟩ := entryOfInitial?_eq_some_iff.mp h
  obtain rfl := StateTable.number_of_get? hentry
  exact ⟨hentry, hexecutable⟩

theorem enterInitial_eq (terminal : Terminal) :
    terminal.enterInitial = terminal.entryOfInitial?.elim terminal terminal.entered := by
  unfold enterInitial entryOfInitial?
  cases StateNumber.ofText? terminal.config.initialState with
  | none => rfl
  | some number =>
      cases hentry : terminal.table.get? number with
      | none => simp [StateTable.contains, hentry]
      | some entry =>
          have hcontains : terminal.table.contains number := by simp [StateTable.contains, hentry]
          simp only [hcontains, if_true, Option.bind_some, hentry]
          by_cases hexecutable : entry.isExecutable
          · rw [enter_eq_ok hentry hexecutable, Option.filter_some_pos hexecutable]
            rfl
          · have hother : ¬ terminal.table.Executes number := by
              rintro ⟨found, hfound, hexecutes⟩
              obtain rfl := Option.some.inj (hentry.symm.trans hfound)
              exact hexecutable hexecutes
            obtain ⟨error, herror⟩ := enter_eq_error hother
            rw [herror, Option.filter_some_neg (by simpa using hexecutable)]
            rfl

theorem goInService_eq (terminal : Terminal) :
    terminal.goInService =
      { terminal.entryOfInitial?.elim terminal terminal.entered with status := .inService } := by
  rw [goInService, enterInitial_eq]
  -- The choice of the initial state does not depend on the status.
  show (terminal.entryOfInitial?.elim _ _) = _
  cases terminal.entryOfInitial? with
  | none => rfl
  | some entry => rfl

/-- How the receipt of a message can end. -/
inductive ReceiveEnd (terminal : Terminal) (settings : Settings) (message : HostMessage) :
    Option Response → Terminal → Settings → Prop
  | unanswered (hcommand : message.command? = none) :
      ReceiveEnd terminal settings message none terminal settings
  | rejected (htable : message.loadedTable? = none)
      (hservice : message.command? ≠ some .goInService ∧ message.command? ≠ some .goOutOfService) :
      ReceiveEnd terminal settings message (some .commandReject) terminal settings
  | outOfService (hcommand : message.command? = some .goOutOfService) :
      ReceiveEnd terminal settings message (some .ready) terminal.goOutOfService settings
  | inService (hcommand : message.command? = some .goInService) :
      ReceiveEnd terminal settings message (some .ready) terminal.goInService settings
  | loaded {table : StateTable} (htable : message.loadedTable? = some table) :
      ReceiveEnd terminal settings message (some .ready) (terminal.install table)
        (settings.set tableKey (.strings table.records))

theorem receive_end (terminal : Terminal) (settings : Settings) (message : HostMessage) :
    terminal.ReceiveEnd settings message (terminal.receive settings message).1
      (terminal.receive settings message).2.1 (terminal.receive settings message).2.2 := by
  rw [receive]
  cases hcommand : message.command? with
  | none => exact .unanswered hcommand
  | some command =>
      cases command with
      | goOutOfService => exact .outOfService hcommand
      | goInService => exact .inService hcommand
      | reject reason =>
          exact .rejected (by simp [HostMessage.loadedTable?, hcommand]) (by simp [hcommand])
      | loadStateTables states =>
          cases htable : StateTable.ofChunks states.chunks with
          | ok table =>
              simp only [obey, load, htable]
              exact .loaded (by simp [HostMessage.loadedTable?, hcommand, htable, Except.toOption])
          | error error =>
              simp only [obey, load, htable]
              exact .rejected
                (by simp [HostMessage.loadedTable?, hcommand, htable, Except.toOption])
                (by simp [hcommand])

variable {terminal : Terminal} {settings : Settings} {message : HostMessage}

theorem receive_of_loadedTable? {table : StateTable} (h : message.loadedTable? = some table) :
    terminal.receive settings message =
      (some .ready, terminal.install table, settings.set tableKey (.strings table.records)) := by
  obtain ⟨states, hcommand, hchunks⟩ := HostMessage.exists_of_loadedTable? h
  simp only [receive, hcommand, obey, load, hchunks]

/-- Only an accepted load has an effect on the settings. -/
theorem settings_receive (h : message.loadedTable? = none) :
    (terminal.receive settings message).2.2 = settings := by
  have hend := terminal.receive_end settings message
  rcases hreceive : terminal.receive settings message with ⟨response?, after, stored⟩
  rw [hreceive] at hend
  cases hend with
  | loaded htable => exact absurd (h.symm.trans htable) (by simp)
  | _ => rfl

theorem rejects_load (h : message.loadedTable? = none) {states : StatesPayload}
    (hcommand : message.command? = some (.loadStateTables states)) :
    (terminal.receive settings message).1 = some .commandReject := by
  have hend := terminal.receive_end settings message
  rcases hreceive : terminal.receive settings message with ⟨response?, after, stored⟩
  rw [hreceive] at hend
  cases hend with
  | rejected => rfl
  | unanswered hnone => exact absurd (hnone.symm.trans hcommand) (by simp)
  | outOfService hout => exact absurd (hout.symm.trans hcommand) (by simp)
  | inService hin => exact absurd (hin.symm.trans hcommand) (by simp)
  | loaded htable => exact absurd (h.symm.trans htable) (by simp)

end Terminal

end TellerTerminal
