import TellerTerminal.Proofs.Execution
import TellerTerminal.Proofs.Table
import TellerTerminal.Terminal.Flow

/-!
# What entering, pressing and following can do

Each step of the flow is summed up by the ways in which it can end, with the terminal after it.  A
state can be entered exactly if the table has an entry of an executable type for it, and then
entering it cannot fail.  A key press fails in the current state, or when the next one cannot be
entered; in both cases the terminal stays as it was.
-/

namespace TellerTerminal

/-- The table has an entry of an executable type for the state. -/
def StateTable.Executes (table : StateTable) (number : StateNumber) : Prop :=
  ∃ entry, table.get? number = some entry ∧ entry.isExecutable

instance (table : StateTable) (number : StateNumber) : Decidable (table.Executes number) :=
  decidable_of_iff ((table.get? number).any StateEntry.isExecutable) (by
    simp [StateTable.Executes, Option.any_eq_true])

namespace Terminal

/-- The terminal after it has entered the state of an entry. -/
def entered (terminal : Terminal) (entry : StateEntry) : Terminal :=
  terminal.arrive entry.number
    { terminal.registers with active := entry.keyRule?.getD terminal.active }

variable {terminal : Terminal} {number : StateNumber} {entry : StateEntry}

theorem runState_of_get? (h : terminal.table.get? number = some entry)
    (pressed : List FunctionKey) (registers : Registers) :
    terminal.runState number pressed registers =
      entry.execute (terminal.table.extensionFor? entry) pressed registers := by
  simp [runState, h]

theorem runState_eq_ok {pressed : List FunctionKey} {registers after : Registers}
    {transition : Transition}
    (h : terminal.runState number pressed registers = (.ok transition, after)) :
    ∃ entry, terminal.table.get? number = some entry ∧
      entry.execute (terminal.table.extensionFor? entry) pressed registers =
        (.ok transition, after) := by
  cases hentry : terminal.table.get? number with
  | none => exact absurd (congrArg Prod.fst h) (by simp [runState, hentry])
  | some entry => exact ⟨entry, rfl, (runState_of_get? hentry pressed registers).symm.trans h⟩

theorem runState_nil (hentry : terminal.table.get? number = some entry)
    (hexecutable : entry.isExecutable) (registers : Registers) :
    terminal.runState number [] registers =
      (.ok .stay, { registers with active := entry.keyRule?.getD registers.active }) := by
  rw [runState_of_get? hentry, StateEntry.execute_nil hexecutable]

/-- The error of a state that cannot be entered names the state. -/
theorem runState_nil_eq_error (h : ¬ terminal.table.Executes number) (registers : Registers) :
    ∃ error, error.refused? = some number ∧
      terminal.runState number [] registers = (.error error, registers) := by
  cases hentry : terminal.table.get? number with
  | none => exact ⟨.unknownState number, rfl, by simp [runState, hentry]⟩
  | some entry =>
      have hother : entry.isExecutable = false := by
        by_contra hexecutable
        exact h ⟨entry, hentry, by simpa using hexecutable⟩
      refine ⟨_, ?_, (runState_of_get? hentry [] registers).trans
        (StateEntry.execute_of_not_isExecutable hother)⟩
      exact congrArg some (StateTable.number_of_get? hentry)

theorem enter_eq_ok (hentry : terminal.table.get? number = some entry)
    (hexecutable : entry.isExecutable) :
    terminal.enter number = (.ok .stay, terminal.entered entry) := by
  rw [enter, runState_nil hentry hexecutable, entered, StateTable.number_of_get? hentry]
  rfl

theorem enter_eq_error (h : ¬ terminal.table.Executes number) :
    ∃ error, terminal.enter number = (.error error, terminal) := by
  obtain ⟨error, -, herror⟩ := runState_nil_eq_error h terminal.registers
  exact ⟨error, by rw [enter, herror]⟩

/-- How following a path can end. -/
inductive FollowEnd (terminal : Terminal) :
    Option StateNumber → Except ExecutionError (Option StateNumber) → Terminal → Prop
  | nowhere : FollowEnd terminal none (.ok none) terminal
  | entered {next : StateNumber} {entry : StateEntry}
      (hentry : terminal.table.get? next = some entry) (hexecutable : entry.isExecutable) :
      FollowEnd terminal (some next) (.ok (some next)) (terminal.entered entry)
  | failed {next : StateNumber} {error : ExecutionError}
      (hnext : ¬ terminal.table.Executes next) :
      FollowEnd terminal (some next) (.error error) terminal

theorem follow_end (terminal : Terminal) (path : Option StateNumber) :
    terminal.FollowEnd path (terminal.follow path).1 (terminal.follow path).2 := by
  cases path with
  | none => exact .nowhere
  | some next =>
      by_cases hnext : terminal.table.Executes next
      · obtain ⟨entry, hentry, hexecutable⟩ := hnext
        rw [follow, enter_eq_ok hentry hexecutable]
        exact .entered hentry hexecutable
      · obtain ⟨error, herror⟩ := enter_eq_error hnext
        rw [follow, herror]
        exact .failed hnext

/-- The execution of a state by the press of a key. -/
def runKey (terminal : Terminal) (state : StateNumber) (key : FunctionKey) :
    Except ExecutionError Transition × Registers :=
  terminal.runState state (terminal.pressed ++ [key]) (logKey terminal.registers key)

theorem active_of_runKey {state : StateNumber} {key : FunctionKey} {transition : Transition}
    {after : Registers} (hentry : terminal.table.get? state = some entry)
    (h : terminal.runKey state key = (.ok transition, after)) :
    after.active = entry.keyRule?.getD terminal.active := by
  rw [runKey, runState_of_get? hentry] at h
  have hactive := StateEntry.active_of_execute_eq_ok h
  exact hactive

/-- The terminal after a key was accepted without a change of state. -/
def accepted (terminal : Terminal) (key : FunctionKey) (registers : Registers) : Terminal :=
  { terminal with pressed := terminal.pressed ++ [key], registers }

/-- How the press of an active key in a state can end. -/
inductive PressInEnd (terminal : Terminal) (state : StateNumber) (key : FunctionKey) :
    Except ExecutionError KeyPress → Terminal → Prop
  | failed {error : ExecutionError} {after : Registers}
      (hrun : terminal.runKey state key = (.error error, after)) :
      PressInEnd terminal state key (.error error) terminal
  | blocked {next : StateNumber} {error : ExecutionError} {after : Registers}
      (hrun : terminal.runKey state key = (.ok (.next next), after))
      (hnext : ¬ terminal.table.Executes next) :
      PressInEnd terminal state key (.error error) terminal
  | stayed {after : Registers} (hrun : terminal.runKey state key = (.ok .stay, after)) :
      PressInEnd terminal state key (.ok .stayed) (terminal.accepted key after)
  | moved {next : StateNumber} {target : StateEntry} {after : Registers}
      (hrun : terminal.runKey state key = (.ok (.next next), after))
      (htarget : terminal.table.get? next = some target) (hexecutable : target.isExecutable) :
      PressInEnd terminal state key (.ok (.moved next))
        (terminal.arrive next { after with active := target.keyRule?.getD after.active })

theorem pressIn_end (terminal : Terminal) (state : StateNumber) (key : FunctionKey) :
    terminal.PressInEnd state key (terminal.pressIn state key).1
      (terminal.pressIn state key).2 := by
  rcases hrun : terminal.runKey state key with ⟨error | transition, after⟩
  all_goals
    have hstate := hrun
    rw [runKey] at hstate
  · have hpress : terminal.pressIn state key = (.error error, terminal) := by
      simp only [pressIn, hstate]
    rw [hpress]
    exact .failed hrun
  · cases transition with
    | stay =>
        have hpress : terminal.pressIn state key = (.ok .stayed, terminal.accepted key after) := by
          simp only [pressIn, hstate]
          rfl
        rw [hpress]
        exact .stayed hrun
    | next next =>
        by_cases hnext : terminal.table.Executes next
        · obtain ⟨target, htarget, hexecutable⟩ := hnext
          have hpress : terminal.pressIn state key = (.ok (.moved next),
              terminal.arrive next { after with active := target.keyRule?.getD after.active }) := by
            simp only [pressIn, hstate, runState_nil htarget hexecutable]
          rw [hpress]
          exact .moved hrun htarget hexecutable
        · obtain ⟨error, -, herror⟩ := runState_nil_eq_error hnext after
          have hpress : terminal.pressIn state key = (.error error, terminal) := by
            simp only [pressIn, hstate, herror]
          rw [hpress]
          exact .blocked hrun hnext

/-- How a key press can end. -/
inductive PressEnd (terminal : Terminal) (letter : Char) :
    Except ExecutionError KeyPress → Terminal → Prop
  | ignored (hinactive : terminal.isActive letter = false) :
      PressEnd terminal letter (.ok .ignored) terminal
  | noted {key : FunctionKey} (hkey : FunctionKey.ofLetter? letter = some key)
      (hactive : terminal.active.contains key) (hcurrent : terminal.current = none) :
      PressEnd terminal letter (.ok .stayed)
        (terminal.accepted key (logKey terminal.registers key))
  | pressedIn {key : FunctionKey} {state : StateNumber} {result : Except ExecutionError KeyPress}
      {after : Terminal} (hkey : FunctionKey.ofLetter? letter = some key)
      (hactive : terminal.active.contains key) (hcurrent : terminal.current = some state)
      (hend : terminal.PressInEnd state key result after) : PressEnd terminal letter result after

theorem press_end (terminal : Terminal) (letter : Char) :
    terminal.PressEnd letter (terminal.press letter).1 (terminal.press letter).2 := by
  cases hkey : FunctionKey.ofLetter? letter with
  | none =>
      have hpress : terminal.press letter = (.ok .ignored, terminal) := by simp [press, hkey]
      rw [hpress]
      exact .ignored (by simp [isActive, hkey])
  | some key =>
      by_cases hactive : terminal.active.contains key
      · cases hcurrent : terminal.current with
        | none =>
            have hpress : terminal.press letter =
                (.ok .stayed, terminal.accepted key (logKey terminal.registers key)) := by
              simp [press, hkey, hactive, hcurrent, accepted]
            rw [hpress]
            exact .noted hkey hactive hcurrent
        | some state =>
            have hpress : terminal.press letter = terminal.pressIn state key := by
              simp [press, hkey, hactive, hcurrent]
            rw [hpress]
            exact .pressedIn hkey hactive hcurrent (terminal.pressIn_end state key)
      · have hpress : terminal.press letter = (.ok .ignored, terminal) := by
          simp [press, hkey, hactive]
        rw [hpress]
        exact .ignored (by simp [isActive, hkey, hactive])

end Terminal

end TellerTerminal
