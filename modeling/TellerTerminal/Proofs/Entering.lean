import TellerTerminal.Proofs.Commands
import TellerTerminal.Proofs.Retransmission
import TellerTerminal.Proofs.Writes

/-!
# Entering a state

A state is executed with an empty history when it is entered, and without a key there is nothing to
look up and nothing to store.  What its links, its mask and its location say therefore cannot keep
it from being entered: only its absence from the table can, or its type.  That holds for each way
into a state, and so none of them touches a buffer.

Going in service is the one way that conceals a failure.  The answer is `Ready` in any case, and
without an initial state to enter the status is all that changes.
-/

namespace TellerTerminal

theorem HostMessage.command?_eq_goInService {message : HostMessage}
    (hclass : message.messageClass = some "Terminal Command")
    (hcode : message.commandCode = some "Go in-service") :
    message.command? = some .goInService := by
  have hservice : message.service? = some .inService := by simp [service?, hclass, hcode]
  rw [service?_eq] at hservice
  split at hservice
  next hcommand => exact hcommand
  next => contradiction
  next => contradiction

namespace Terminal

variable {terminal after : Terminal} {number : StateNumber} {entry : StateEntry}
  {result : Except ExecutionError Transition}

/-- How entering a state can end. -/
inductive EnterEnd (terminal : Terminal) (number : StateNumber) :
    Except ExecutionError Transition → Terminal → Prop
  | unknown (hentry : terminal.table.get? number = none) :
      EnterEnd terminal number (.error (.unknownState number)) terminal
  | unsupported {entry : StateEntry} (hentry : terminal.table.get? number = some entry)
      (hother : entry.isExecutable = false) :
      EnterEnd terminal number (.error (.unsupported number entry.typeCode)) terminal
  | entered {entry : StateEntry} (hentry : terminal.table.get? number = some entry)
      (hexecutable : entry.isExecutable) :
      EnterEnd terminal number (.ok .stay) (terminal.entered entry)

theorem enter_end (terminal : Terminal) (number : StateNumber) :
    terminal.EnterEnd number (terminal.enter number).1 (terminal.enter number).2 := by
  cases hentry : terminal.table.get? number with
  | none =>
      have hrun : terminal.enter number = (.error (.unknownState number), terminal) := by
        simp [enter, runState, hentry]
      rw [hrun]
      exact .unknown hentry
  | some entry =>
      cases hexecutable : entry.isExecutable with
      | false =>
          have hrun : terminal.enter number =
              (.error (.unsupported number entry.typeCode), terminal) := by
            rw [enter, runState_of_get? hentry, StateEntry.execute_of_not_isExecutable hexecutable,
              StateTable.number_of_get? hentry]
          rw [hrun]
          exact .unsupported hentry hexecutable
      | true =>
          rw [enter_eq_ok hentry hexecutable]
          exact .entered hentry hexecutable

theorem EnterEnd.eq_unknown_iff (hend : terminal.EnterEnd number result after) :
    result = .error (.unknownState number) ↔ terminal.table.get? number = none := by
  cases hend with
  | unknown hentry => simp [hentry]
  | unsupported hentry => simp [hentry]
  | entered hentry => simp [hentry]

theorem EnterEnd.eq_unsupported_iff (hend : terminal.EnterEnd number result after)
    (typeCode : Char) :
    result = .error (.unsupported number typeCode) ↔
      ∃ entry, terminal.table.get? number = some entry ∧ entry.isExecutable = false ∧
        entry.typeCode = typeCode := by
  cases hend with
  | unknown hentry => simp [hentry]
  | unsupported hentry hother => simp [hentry, hother]
  | entered hentry hexecutable => simp [hentry, hexecutable]

theorem EnterEnd.eq_ok_iff (hend : terminal.EnterEnd number result after) :
    (∃ transition, result = .ok transition) ↔ terminal.table.Executes number := by
  cases hend with
  | unknown hentry => simp [StateTable.Executes, hentry]
  | unsupported hentry hother => simp [StateTable.Executes, hentry, hother]
  | entered hentry hexecutable => simp [StateTable.Executes, hentry, hexecutable]

theorem entered_eq (hentry : terminal.table.get? number = some entry) :
    terminal.entered entry = { terminal with
      current := some number
      pressed := []
      registers := { terminal.registers with
        active := entry.keyRule?.getD terminal.active } } := by
  rw [entered, StateTable.number_of_get? hentry]
  rfl

/-- A terminal that goes in service enters its initial state as it would enter any other. -/
theorem enter_initial (htext : number.text = terminal.config.initialState)
    (hexecutes : terminal.table.Executes number) :
    enter { terminal with status := .inService } number = (.ok .stay, terminal.goInService) := by
  obtain ⟨entry, hentry, hexecutable⟩ := hexecutes
  have hinitial : terminal.entryOfInitial? = some entry :=
    entryOfInitial?_eq_some_iff.mpr ⟨number, htext, hentry, hexecutable⟩
  have hserving : ({ terminal with status := .inService } : Terminal).table.get? number =
      some entry := hentry
  rw [goInService_of_some hinitial]
  exact enter_eq_ok hserving hexecutable

theorem goInService_without_initial
    (h : ¬ ∃ number : StateNumber, number.text = terminal.config.initialState ∧
      terminal.table.Executes number) :
    terminal.goInService = { terminal with status := .inService } := by
  refine goInService_of_none (Option.eq_none_iff_forall_ne_some.mpr fun entry hinitial => ?_)
  obtain ⟨number, htext, hentry, hexecutable⟩ := entryOfInitial?_eq_some_iff.mp hinitial
  exact h ⟨number, htext, entry, hentry, hexecutable⟩

end Terminal

/-- A configuration that passes its check has a state number for its initial state. -/
theorem Config.isText_initialState {config : Config} (h : config.validate = .ok ()) :
    StateNumber.IsText config.terminal.initialState := by
  unfold validate at h
  split_ifs at h with hnone
  obtain ⟨number, hnumber⟩ := Option.ne_none_iff_exists'.mp (by simpa using hnone)
  exact StateNumber.exists_text_eq_iff.mp ⟨number, StateNumber.text_of_ofText? hnumber⟩

namespace Terminal

/-- To enter a state fails for a number that the table lacks, and for a type that is not executed.
Otherwise it succeeds whatever the entry says: the state is current, the history is empty, and the
active keys are those that the entry asks for, if it does, while all else is as before.  A timeout
and a cancel hence write no buffer.  Going in service writes none either.  It is always answered
`Ready`, and apart from the status it does what entering the initial state does, or nothing if the
three digits of the initial state, which the check of a configuration asks for, do not name a state
that can be entered. -/
theorem enters_executable_states :
    (∀ (terminal : Terminal) (number : StateNumber),
      let result := (terminal.enter number).1
      let after := (terminal.enter number).2
      (result = .error (.unknownState number) ↔ terminal.table.get? number = none) ∧
        (∀ typeCode, result = .error (.unsupported number typeCode) ↔
          ∃ entry, terminal.table.get? number = some entry ∧ entry.isExecutable = false ∧
            entry.typeCode = typeCode) ∧
        ∀ entry, terminal.table.get? number = some entry → entry.isExecutable →
          result = .ok .stay ∧ after = { terminal with
            current := some number
            pressed := []
            registers := { terminal.registers with
              active := entry.keyRule?.getD terminal.active } }) ∧
      (∀ terminal : Terminal, terminal.timeout.2.buffers = terminal.buffers ∧
        terminal.cancel.2.buffers = terminal.buffers) ∧
      (∀ (terminal : Terminal) (settings : Settings) (message : HostMessage),
        message.messageClass = some "Terminal Command" →
        message.commandCode = some "Go in-service" →
          let answer := (terminal.receive settings message).1
          let after := (terminal.receive settings message).2.1
          let serving : Terminal := { terminal with status := .inService }
          answer = some .ready ∧ after.status = .inService ∧ after.buffers = terminal.buffers ∧
            (terminal.receive settings message).2.2 = settings ∧
            ((∃ number : StateNumber, number.text = terminal.config.initialState ∧
                serving.enter number = (.ok .stay, after)) ↔
              ∃ number : StateNumber, number.text = terminal.config.initialState ∧
                terminal.table.Executes number) ∧
            ((¬ ∃ number : StateNumber, number.text = terminal.config.initialState ∧
                terminal.table.Executes number) → after = serving)) ∧
      ∀ config : Config, config.validate = .ok () →
        StateNumber.IsText config.terminal.initialState := by
  refine ⟨fun terminal number => ?_, fun terminal => ?_,
    fun terminal settings message hclass hcode => ?_, fun config => Config.isText_initialState⟩
  · have hend := terminal.enter_end number
    refine ⟨hend.eq_unknown_iff, hend.eq_unsupported_iff, fun entry hentry hexecutable => ?_⟩
    have henter := enter_eq_ok hentry hexecutable
    exact ⟨congrArg Prod.fst henter, (congrArg Prod.snd henter).trans (entered_eq hentry)⟩
  · exact ⟨(terminal.follow_end _).buffers_eq, (terminal.follow_end _).buffers_eq⟩
  · have hcommand := HostMessage.command?_eq_goInService hclass hcode
    have hend := terminal.receive_end settings message
    rw [receive_of_goInService hcommand] at hend ⊢
    refine ⟨rfl, ?_, hend.buffers_eq, rfl, ⟨?_, ?_⟩, goInService_without_initial⟩
    · rw [goInService_eq]
    · rintro ⟨number, htext, henter⟩
      have hserving := enter_end { terminal with status := .inService } number
      exact ⟨number, htext, hserving.eq_ok_iff.mp ⟨.stay, congrArg Prod.fst henter⟩⟩
    · rintro ⟨number, htext, hexecutes⟩
      exact ⟨number, htext, enter_initial htext hexecutes⟩

/-- An information entry state that leads nowhere, links no extension and has no valid mask, the same
state with a mask, a selection state whose enabled keys lead nowhere, and an extension. -/
def danglingRecords : List String :=
  ["000X000777777777777039999000", "010X000777777777777039254000",
    "020E000777777255777255777999", "040Z001002003004005006007008"]

def danglingTerminal : Terminal :=
  { table := (StateTable.ofChunks danglingRecords).toOption.getD .empty
    registers := { active := .ofList [.b, .i] }
    pressed := [.c] }

/-- The dangling states are entered all the same.  The first keeps the active keys, the second sets
those of its mask, and the selection state those that it does not disable.  The extension and a
state that is not in the table are refused.  Without its initial state a terminal that goes in
service changes its status and nothing else. -/
theorem enters_danglingState :
    let state (number : Nat) (h : number < 1000) : StateNumber := ⟨number, h⟩
    let start := state 0 (by decide)
    let masked := state 10 (by decide)
    let selection := state 20 (by decide)
    let goInService := HostMessage.terminalCommand "Go in-service"
    let bare : Terminal := { danglingTerminal with table := .empty }
    danglingTerminal.table.Executes start ∧
      (danglingTerminal.enter start).1 = .ok .stay ∧
      (danglingTerminal.enter start).2.active = .ofList [.b, .i] ∧
      (danglingTerminal.enter start).2.pressed = [] ∧
      ((danglingTerminal.enter masked).1 = .ok .stay ∧
        (danglingTerminal.enter masked).2.active.display = "[ABCDFGH]") ∧
      ((danglingTerminal.enter selection).1 = .ok .stay ∧
        (danglingTerminal.enter selection).2.current = some selection ∧
        (danglingTerminal.enter selection).2.active.display = "[BD]") ∧
      (danglingTerminal.enter (state 40 (by decide))).1 =
        .error (.unsupported (state 40 (by decide)) 'Z') ∧
      (danglingTerminal.enter (state 777 (by decide))).1 =
        .error (.unknownState (state 777 (by decide))) ∧
      (danglingTerminal.receive {} goInService).1 = some .ready ∧
      (∃ number, number.text = "000" ∧ enter { danglingTerminal with status := .inService } number =
        (.ok .stay, (danglingTerminal.receive {} goInService).2.1)) ∧
      (bare.receive {} goInService).2.1 = { bare with status := .inService } ∧
      StateNumber.IsText ({} : Config).terminal.initialState := by
  intro state start masked selection goInService bare
  obtain ⟨henter, -, hservice, hconfig⟩ := enters_executable_states
  have hruled (number : StateNumber) {entry : StateEntry} {keys : KeySet}
      (hentry : danglingTerminal.table.get? number = some entry) (hexecutable : entry.isExecutable)
      (hrule : entry.keyRule? = some keys) :
      (danglingTerminal.enter number).1 = .ok .stay ∧
        (danglingTerminal.enter number).2.current = some number ∧
        (danglingTerminal.enter number).2.active = keys := by
    obtain ⟨hstay, hafter⟩ := (henter danglingTerminal number).2.2 entry hentry hexecutable
    rw [hafter, hrule]
    exact ⟨hstay, rfl, rfl⟩
  obtain ⟨entry, hentry, hexecutable, hkept⟩ : ∃ entry : StateEntry,
      danglingTerminal.table.get? start = some entry ∧ entry.isExecutable ∧
        entry.keyRule? = none := ⟨_, rfl, rfl, rfl⟩
  have hexecutes : danglingTerminal.table.Executes start := ⟨entry, hentry, hexecutable⟩
  have hbare (number : StateNumber) : ¬ bare.table.Executes number := by
    rintro ⟨entry, hentry, -⟩
    cases hentry
  obtain ⟨hstay, hafter⟩ := (henter danglingTerminal start).2.2 entry hentry hexecutable
  obtain ⟨hmasked, -, hmask⟩ := hruled masked rfl rfl rfl
  obtain ⟨hselected, hcurrent, hfields⟩ := hruled selection rfl rfl rfl
  obtain ⟨hready, -, -, -, hinitial, -⟩ := hservice danglingTerminal {} goInService rfl rfl
  obtain ⟨-, -, -, -, -, hidle⟩ := hservice bare {} goInService rfl rfl
  refine ⟨hexecutes, hstay, ?_, ?_, ⟨hmasked, ?_⟩, ⟨hselected, hcurrent, ?_⟩,
    ((henter _ _).2.1 'Z').mpr ⟨_, rfl, rfl, rfl⟩, (henter _ _).1.mpr rfl, hready,
    hinitial.mpr ⟨start, by decide, hexecutes⟩, hidle ?_, hconfig {} (by decide)⟩
  · rw [hafter, hkept]
    rfl
  · rw [hafter]
  · rw [hmask]
    decide
  · rw [hfields]
    decide
  · rintro ⟨number, -, hnumber⟩
    exact hbare number hnumber

end Terminal

end TellerTerminal
