import TellerTerminal.Proofs.InformationExecution
import TellerTerminal.Proofs.Run

/-!
# Closed tables never fail

A table is closed if every state that an entry refers to has an entry of a type that fits: paths
lead to executable states, an information entry state links an extension whose literals fit its
target, and no mask names the key `I`, for which extensions have no literal.  The records leave
three characters to a literal and one digit to the count of zeros, so that a value always fits the
amount buffer.

`Sound` is the invariant of a terminal on a closed table.  The key `I` stays inactive when a load
replaces the table, because only the masks of states that were entered ever activate a key.
-/

namespace TellerTerminal

/-- The literals of an extension can be written to the target of the state. -/
def InformationEntry.Accepts (state : InformationEntry) (extension : Extension) : Prop :=
  state.bufferId.target = .amount →
    ∀ literal ∈ extension.literals.toList, literal.toList.all Char.isDigit

instance (state : InformationEntry) (extension : Extension) :
    Decidable (state.Accepts extension) := by
  dsimp only [InformationEntry.Accepts]
  infer_instance

namespace StateEntry

/-- What the entry refers to stands in the table, and no key that it activates is without a
value. -/
def ClosedIn (table : StateTable) : StateEntry → Prop
  | information state =>
      table.Executes state.timeout ∧ table.Executes state.cancel ∧ table.Executes state.next ∧
        (∃ extension ∈ table.extensionFor? (.information state), state.Accepts extension) ∧
        ∀ keys ∈ (KeySet.ofMask state.mask).toOption, keys.contains .i = false
  | selection state =>
      table.Executes state.timeout ∧ table.Executes state.cancel ∧
        ∀ key ∈ Selection.keys, ∀ next ∈ state.next? key, table.Executes next
  | extension _ => True
  | other _ => True

instance (table : StateTable) : (entry : StateEntry) → Decidable (entry.ClosedIn table)
  | information _ => by
      dsimp only [ClosedIn]
      infer_instance
  | selection _ => by
      dsimp only [ClosedIn]
      infer_instance
  | extension _ => isTrue trivial
  | other _ => isTrue trivial

end StateEntry

/-- Every entry finds in the table what it refers to. -/
def StateTable.Closed (table : StateTable) : Prop :=
  ∀ entry ∈ table.entries, entry.ClosedIn table

instance (table : StateTable) : Decidable table.Closed := by
  dsimp only [StateTable.Closed]
  infer_instance

theorem StateTable.closed_empty : StateTable.empty.Closed :=
  fun _ hentry => absurd hentry List.not_mem_nil

theorem Extension.exists_literal? (state : Extension) {key : FunctionKey} (hkey : key ≠ .i) :
    ∃ literal ∈ state.literals, state.literal? key = some literal := by
  obtain ⟨literal, hliteral⟩ := Option.ne_none_iff_exists'.mp (mt literal?_eq_none_iff.mp hkey)
  exact ⟨literal, Vector.mem_of_getElem? hliteral, hliteral⟩

namespace InformationEntry

/-- A value that does not go to the amount buffer fits as it is. -/
theorem exists_store_eq_ok {state : InformationEntry} {literal : String}
    (h : state.bufferId.target = .amount → AmountBuffer.Fits (state.value literal))
    (buffers : Buffers) : ∃ stored, state.store (state.value literal) buffers = .ok stored := by
  cases hstore : state.store (state.value literal) buffers with
  | ok stored => exact ⟨stored, rfl⟩
  | error error =>
      obtain ⟨⟨htarget, hfits⟩, -⟩ := store_eq_error_iff.mp hstore
      exact absurd (h htarget) hfits

theorem exists_storeKey_eq_ok {state : InformationEntry} {extension : Extension}
    (hstate : (StateEntry.information state).IsRecorded)
    (hextension : (StateEntry.extension extension).IsRecorded)
    (haccepts : state.Accepts extension) {key : FunctionKey} (hkey : key ≠ .i)
    (buffers : Buffers) :
    ∃ stored, state.storeKey (some extension) key buffers = .ok stored := by
  obtain ⟨literal, hmem, hliteral⟩ := extension.exists_literal? hkey
  simp only [storeKey, hliteral]
  refine exists_store_eq_ok (fun htarget => ?_) buffers
  have hdigit : literal.toList.all Char.isDigit :=
    haccepts htarget literal (Vector.mem_toList_iff.mpr hmem)
  exact (fits_value_iff_of_isRecorded hstate hextension hmem).mpr (List.all_eq_true.mp hdigit)

end InformationEntry

theorem Selection.exists_next?_of_execute {state : Selection} {pressed : List FunctionKey}
    {registers : Registers} {next : StateNumber}
    (h : (state.execute pressed registers).1 = .next next) :
    ∃ key ∈ keys, state.next? key = some next := by
  unfold execute at h
  split at h
  next => contradiction
  next key _ =>
    split_ifs at h with hmem
    cases hnext : state.next? key with
    | none => simp [hnext] at h
    | some target =>
        simp only [hnext, Transition.next.injEq] at h
        exact ⟨key, hmem, h ▸ hnext⟩

namespace StateEntry

variable {table : StateTable} {entry : StateEntry}

theorem contains_i_of_keyRule? (hclosed : entry.ClosedIn table) {keys : KeySet}
    (hrule : entry.keyRule? = some keys) : keys.contains .i = false := by
  cases entry with
  | information state => exact hclosed.2.2.2.2 keys hrule
  | selection state =>
      obtain rfl := Option.some.inj hrule
      exact state.contains_keyRule .i
  | extension state => exact absurd hrule (by simp [keyRule?])
  | other state => exact absurd hrule (by simp [keyRule?])

theorem executes_of_timeout? (hclosed : entry.ClosedIn table) {next : StateNumber}
    (hnext : entry.timeout? = some next) : table.Executes next := by
  cases entry with
  | information state => exact Option.some.inj hnext ▸ hclosed.1
  | selection state => exact Option.some.inj hnext ▸ hclosed.1
  | extension state => contradiction
  | other state => contradiction

theorem executes_of_cancel? (hclosed : entry.ClosedIn table) {next : StateNumber}
    (hnext : entry.cancel? = some next) : table.Executes next := by
  cases entry with
  | information state => exact Option.some.inj hnext ▸ hclosed.2.1
  | selection state => exact Option.some.inj hnext ▸ hclosed.2.1
  | extension state => contradiction
  | other state => contradiction

/-- An execution with a last key that has a literal succeeds, and leads to a state that can be
executed. -/
theorem exists_execute_eq_ok (hrecorded : table.IsRecorded) (hentry : entry ∈ table.entries)
    (hclosed : entry.ClosedIn table) (hexecutable : entry.isExecutable)
    {pressed : List FunctionKey} (hkey : pressed.getLast? ≠ some .i) (registers : Registers) :
    ∃ transition after,
      entry.execute (table.extensionFor? entry) pressed registers = (.ok transition, after) ∧
        ∀ next, transition = .next next → table.Executes next := by
  cases entry with
  | information state =>
      obtain ⟨-, -, hnext, ⟨extension, hextension, haccepts⟩, -⟩ := hclosed
      obtain ⟨number, hlinked⟩ := StateTable.get?_of_extensionFor? hextension
      simp only [execute, InformationEntry.execute, Option.mem_def.mp hextension]
      cases hlast : pressed.getLast? with
      | none => exact ⟨_, _, rfl, by simp⟩
      | some key =>
          have hliteral : key ≠ .i := fun h => hkey (h ▸ hlast)
          obtain ⟨stored, hstored⟩ := InformationEntry.exists_storeKey_eq_ok
            (hrecorded _ hentry) (hrecorded _ (StateTable.mem_entries_of_get? hlinked)) haccepts
            hliteral registers.buffers
          refine ⟨.next state.next, ⟨stored, state.activeKeys registers.active⟩,
            by simp only [hstored], fun next hgo => ?_⟩
          obtain rfl := Transition.next.inj hgo
          exact hnext
  | selection state =>
      refine ⟨_, _, rfl, fun next hgo => ?_⟩
      obtain ⟨key, hmem, hnext⟩ := Selection.exists_next?_of_execute hgo
      exact hclosed.2.2 key hmem next hnext
  | extension state => contradiction
  | other state => contradiction

end StateEntry

namespace Terminal

/-- What a closed table keeps true of its terminal. -/
structure Sound (terminal : Terminal) : Prop where
  closed : terminal.table.Closed
  recorded : terminal.table.IsRecorded
  current : ∀ state ∈ terminal.current, terminal.table.Executes state
  inactive : terminal.active.contains .i = false

variable {terminal : Terminal} {number : StateNumber} {entry : StateEntry}

theorem Sound.setStatus (h : terminal.Sound) (status : TerminalStatus) :
    Sound { terminal with status } :=
  ⟨h.closed, h.recorded, h.current, h.inactive⟩

theorem Sound.closedIn (h : terminal.Sound) (hentry : terminal.table.get? number = some entry) :
    entry.ClosedIn terminal.table :=
  h.closed entry (StateTable.mem_entries_of_get? hentry)

theorem Sound.contains_i_getD (h : terminal.Sound)
    (hentry : terminal.table.get? number = some entry) {keys : KeySet}
    (hkeys : keys.contains .i = false) : (entry.keyRule?.getD keys).contains .i = false := by
  cases hrule : entry.keyRule? with
  | none => exact hkeys
  | some rule => exact StateEntry.contains_i_of_keyRule? (h.closedIn hentry) hrule

theorem Sound.arrive (h : terminal.Sound) (hentry : terminal.table.get? number = some entry)
    (hexecutable : entry.isExecutable) {registers : Registers}
    (hinactive : registers.active.contains .i = false) :
    (terminal.arrive number { registers with
      active := entry.keyRule?.getD registers.active }).Sound where
  closed := h.closed
  recorded := h.recorded
  current := by
    intro state hstate
    obtain rfl := Option.some.inj hstate
    exact ⟨entry, hentry, hexecutable⟩
  inactive := h.contains_i_getD hentry hinactive

theorem Sound.entered (h : terminal.Sound) (hentry : terminal.table.get? number = some entry)
    (hexecutable : entry.isExecutable) : (terminal.entered entry).Sound := by
  obtain rfl := StateTable.number_of_get? hentry
  exact h.arrive hentry hexecutable h.inactive

theorem Sound.install (h : terminal.Sound) {table : StateTable} (hclosed : table.Closed)
    (hrecorded : table.IsRecorded) : (terminal.install table).Sound where
  closed := hclosed
  recorded := hrecorded
  current := by simp [Terminal.install]
  inactive := h.inactive

/-- A path of the current state leads to a state that can be executed. -/
theorem Sound.executes_of_path (h : terminal.Sound) {path? : StateEntry → Option StateNumber}
    (hpath : ∀ entry : StateEntry, entry.ClosedIn terminal.table →
      ∀ next, path? entry = some next → terminal.table.Executes next)
    {next : StateNumber} (hnext : terminal.entryOfCurrent?.bind path? = some next) :
    terminal.table.Executes next := by
  obtain ⟨entry, hcurrent, hentry⟩ := Option.bind_eq_some_iff.mp hnext
  obtain ⟨state, -, hget⟩ := Option.bind_eq_some_iff.mp hcurrent
  exact hpath entry (h.closedIn hget) next hentry

theorem Sound.follow (h : terminal.Sound) {path : Option StateNumber}
    (hpath : ∀ next, path = some next → terminal.table.Executes next)
    {result : Except ExecutionError (Option StateNumber)} {after : Terminal}
    (hend : terminal.FollowEnd path result after) : result.isOk ∧ after.Sound := by
  cases hend with
  | nowhere => exact ⟨rfl, h⟩
  | entered hentry hexecutable => exact ⟨rfl, h.entered hentry hexecutable⟩
  | failed hnext => exact absurd (hpath _ rfl) hnext

theorem Sound.pressIn (h : terminal.Sound) {state : StateNumber} {key : FunctionKey}
    (hcurrent : terminal.current = some state) (hactive : terminal.active.contains key)
    {result : Except ExecutionError KeyPress} {after : Terminal}
    (hend : terminal.PressInEnd state key result after) : result.isOk ∧ after.Sound := by
  obtain ⟨entry, hentry, hexecutable⟩ := h.current state hcurrent
  -- The key was active, so it is not the one without a literal.
  have hliteral : (terminal.pressed ++ [key]).getLast? ≠ some .i := by
    intro hlast
    obtain rfl : key = .i := by simpa using hlast
    exact absurd hactive (by simp [h.inactive])
  obtain ⟨transition, registers, hexecute, hgo⟩ := StateEntry.exists_execute_eq_ok h.recorded
    (StateTable.mem_entries_of_get? hentry) (h.closedIn hentry) hexecutable hliteral
    (logKey terminal.registers key)
  have hrun : terminal.runKey state key = (.ok transition, registers) := by
    rw [runKey, runState_of_get? hentry, hexecute]
  have hinactive : registers.active.contains .i = false := by
    rw [active_of_runKey hentry hrun]
    exact h.contains_i_getD hentry h.inactive
  cases hend with
  | failed hfailed => exact absurd (hrun.symm.trans hfailed) (by simp)
  | blocked hblocked hnext =>
      obtain ⟨htransition, -⟩ := Prod.mk.inj (hrun.symm.trans hblocked)
      exact absurd (hgo _ (Except.ok.inj htransition)) hnext
  | stayed hstayed =>
      obtain ⟨-, rfl⟩ := Prod.mk.inj (hrun.symm.trans hstayed)
      exact ⟨rfl, h.closed, h.recorded, h.current, hinactive⟩
  | moved hmoved htarget htargets =>
      obtain ⟨-, rfl⟩ := Prod.mk.inj (hrun.symm.trans hmoved)
      exact ⟨rfl, h.arrive htarget htargets hinactive⟩

theorem Sound.press (h : terminal.Sound) {letter : Char} {result : Except ExecutionError KeyPress}
    {after : Terminal} (hend : terminal.PressEnd letter result after) :
    result.isOk ∧ after.Sound := by
  cases hend with
  | ignored => exact ⟨rfl, h⟩
  | noted => exact ⟨rfl, h.closed, h.recorded, h.current, h.inactive⟩
  | pressedIn hkey hactive hcurrent hend => exact h.pressIn hcurrent hactive hend

theorem Sound.receive (h : terminal.Sound) {message : HostMessage} {settings stored : Settings}
    (hload : ∀ table ∈ message.loadedTable?, table.Closed) {response? : Option Response}
    {after : Terminal} (hend : terminal.ReceiveEnd settings message response? after stored) :
    after.Sound := by
  cases hend with
  | unanswered => exact h
  | rejected => exact h
  | outOfService => exact h.setStatus .outOfService
  | inService =>
      rw [goInService_eq]
      cases hinitial : terminal.entryOfInitial? with
      | none => exact h.setStatus .inService
      | some entry =>
          obtain ⟨hentry, hexecutable⟩ := executes_of_entryOfInitial? hinitial
          exact (h.entered hentry hexecutable).setStatus .inService
  | loaded htable =>
      obtain ⟨states, -, hchunks⟩ := HostMessage.exists_of_loadedTable? htable
      exact h.install (hload _ htable) (StateTable.isRecorded_of_ofChunks hchunks)

theorem sound_start {config : TerminalConfig} {settings : Settings}
    (hstored : ∀ table ∈ restored? config settings, table.Closed) :
    (start config settings).Sound where
  closed := by
    rw [start_eq]
    cases hrestored : restored? config settings with
    | none => exact StateTable.closed_empty
    | some table => exact hstored table hrestored
  recorded := isRecorded_start config settings
  current := by simp [start_eq]
  inactive := by simp [start_eq, active]

end Terminal

theorem Outcome.ofResult_ne_error {α : Type} {outcome : α → Outcome}
    {result : Except ExecutionError α} (hresult : result.isOk)
    (houtcome : ∀ value message, outcome value ≠ .error message) (message : String) :
    ofResult outcome result ≠ .error message := by
  cases result with
  | ok value => exact houtcome value message
  | error cause => contradiction

namespace Event

/-- The table that an event installs. -/
def loadedTable? : Event → Option StateTable
  | host message => message.loadedTable?
  | _ => none

theorem sound_of_actEnd {event : Event} {terminal after : Terminal} {settings stored : Settings}
    {outcome : Outcome} (h : terminal.Sound) (hload : ∀ table ∈ event.loadedTable?, table.Closed)
    (hend : ActEnd terminal settings event outcome after stored) :
    (∀ message, outcome ≠ .error message) ∧ after.Sound := by
  cases hend with
  | @host message response? _ _ hend =>
      refine ⟨fun text => ?_, h.receive hload hend⟩
      cases response? <;> simp
  | key hend =>
      obtain ⟨hok, hafter⟩ := h.press hend
      exact ⟨Outcome.ofResult_ne_error hok (by simp), hafter⟩
  | card track => exact ⟨by simp, h⟩
  | timeout hend =>
      obtain ⟨hok, hafter⟩ := h.follow
        (fun _ => h.executes_of_path fun _ hclosed _ => StateEntry.executes_of_timeout? hclosed)
        hend
      exact ⟨Outcome.ofResult_ne_error hok (by simp), hafter⟩
  | cancel hend =>
      obtain ⟨hok, hafter⟩ := h.follow
        (fun _ => h.executes_of_path fun _ hclosed _ => StateEntry.executes_of_cancel? hclosed)
        hend
      exact ⟨Outcome.ofResult_ne_error hok (by simp), hafter⟩

/-- A terminal whose tables are all closed never reports an error, whatever happens to it. -/
theorem no_error_of_closed {config : TerminalConfig} {settings : Settings} {events : List Event}
    (hstored : ∀ table ∈ Terminal.restored? config settings, table.Closed)
    (hloads : ∀ event ∈ events, ∀ table ∈ event.loadedTable?, table.Closed) :
    ∀ report ∈ (run (Terminal.start config settings) settings events).1,
      ∀ message, report.outcome ≠ .error message := by
  have hstep : ∀ event ∈ events, ∀ terminal settings, terminal.Sound →
      (∀ message, (event.apply terminal settings).1.outcome ≠ .error message) ∧
        (event.apply terminal settings).2.1.Sound := by
    intro event hevent terminal settings hsound
    show (∀ message, (event.act terminal settings).1 ≠ .error message) ∧
      (event.act terminal settings).2.1.Sound
    exact sound_of_actEnd hsound (hloads event hevent) (event.act_end terminal settings)
  obtain ⟨hreports, -⟩ := run_safe (fun terminal _ => terminal.Sound)
    (fun report => ∀ message, report.outcome ≠ .error message) hstep
    (Terminal.start config settings) settings (Terminal.sound_start hstored)
  exact hreports

/-- The records of an information entry state, the selection state that it leads to and back, and
the literals of its keys. -/
def roundRecords : List String :=
  ["000X001010010010040033254000", "010E001000000000255010255003",
    "040Z001002003004005006007008"]

/-- A store that was left by a terminal with these records. -/
def roundSettings : Settings :=
  ({} : Settings).set Terminal.tableKey (.strings roundRecords)

/-- A round through both states, with a press of the inactive key `I` and a load on the way. -/
def roundScript : List Event :=
  [.host (HostMessage.terminalCommand HostMessage.goInServiceCode), .key 'b', .key 'I',
    .host (HostMessage.stateTablesLoad (.many roundRecords)), .key 'A', .timeout,
    .host (HostMessage.terminalCommand HostMessage.goInServiceCode), .key 'h', .cancel]

theorem no_error_roundScript :
    (∀ table ∈ Terminal.restored? {} roundSettings, table.Closed) ∧
      (∀ event ∈ roundScript, ∀ table ∈ event.loadedTable?, table.Closed) ∧
        ∀ report ∈ (run (Terminal.start {} roundSettings) roundSettings roundScript).1,
          ∀ message, report.outcome ≠ .error message := by
  have hstored : ∀ table ∈ Terminal.restored? {} roundSettings, table.Closed := by decide
  have hloads : ∀ event ∈ roundScript, ∀ table ∈ event.loadedTable?, table.Closed := by decide
  exact ⟨hstored, hloads, no_error_of_closed hstored hloads⟩

end Event

end TellerTerminal
