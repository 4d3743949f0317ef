import TellerTerminal.Proofs.Run
import TellerTerminal.Terminal.Operation

/-!
# Steps without effect

An operation that fails, is rejected or comes to nothing leaves the terminal and the settings as
they were, at whatever point it fails: a press whose execution succeeded may still find no state to
go to, and a load may stop at its last record.  Events with such outcomes can therefore be left out
of a run, and what remains has the same reports and the same end.
-/

namespace TellerTerminal

/-- Whether the result is a failure or says that nothing was done. -/
def OperationResult.isIdle : OperationResult → Bool
  | response none => true
  | response (some answer) => answer = .commandReject
  | transition (.error _) => true
  | press (.error _) => true
  | press (.ok .ignored) => true
  | follow (.error _) => true
  | follow (.ok none) => true
  | mask (.error _) => true
  | amount (.error _) => true
  | _ => false

/-- Whether the outcome is a failure or says that nothing was done.  Reading a card does nothing to
the terminal in any case. -/
def Outcome.isIdle : Outcome → Bool
  | response answer => answer = .commandReject
  | noResponse => true
  | key _ press => press = .ignored
  | card _ => true
  | transition next => next.isNone
  | error _ => true

namespace Terminal

variable {terminal after : Terminal}

theorem enter_of_isIdle (terminal : Terminal) {number : StateNumber}
    (hidle : (OperationResult.transition (terminal.enter number).1).isIdle) :
    (terminal.enter number).2 = terminal := by
  by_cases hnext : terminal.table.Executes number
  · obtain ⟨entry, hentry, hexecutable⟩ := hnext
    rw [enter_eq_ok hentry hexecutable] at hidle
    contradiction
  · obtain ⟨error, herror⟩ := enter_eq_error hnext
    rw [herror]

theorem FollowEnd.eq_of_isIdle {path : Option StateNumber}
    {result : Except ExecutionError (Option StateNumber)}
    (hend : terminal.FollowEnd path result after)
    (hidle : (OperationResult.follow result).isIdle) : after = terminal := by
  cases hend with
  | nowhere => rfl
  | entered => contradiction
  | failed => rfl

theorem PressInEnd.eq_of_isIdle {state : StateNumber} {key : FunctionKey}
    {result : Except ExecutionError KeyPress}
    (hend : terminal.PressInEnd state key result after)
    (hidle : (OperationResult.press result).isIdle) : after = terminal := by
  cases hend with
  | failed => rfl
  | blocked => rfl
  | stayed => contradiction
  | moved => contradiction

theorem PressEnd.eq_of_isIdle {letter : Char} {result : Except ExecutionError KeyPress}
    (hend : terminal.PressEnd letter result after)
    (hidle : (OperationResult.press result).isIdle) : after = terminal := by
  cases hend with
  | ignored => rfl
  | noted => contradiction
  | pressedIn _ _ _ hend => exact hend.eq_of_isIdle hidle

theorem ReceiveEnd.eq_of_isIdle {message : HostMessage} {settings stored : Settings}
    {response? : Option Response}
    (hend : terminal.ReceiveEnd settings message response? after stored)
    (hidle : (OperationResult.response response?).isIdle) :
    (after, stored) = (terminal, settings) := by
  have hready : (OperationResult.response (some Response.ready)).isIdle = false := by decide
  cases hend with
  | unanswered => rfl
  | rejected => rfl
  | outOfService => exact absurd hidle (by simp [hready])
  | inService => exact absurd hidle (by simp [hready])
  | loaded => exact absurd hidle (by simp [hready])

theorem execute_of_isIdle (terminal : Terminal) {entry : StateEntry}
    {extension? : Option Extension}
    (hidle : (OperationResult.transition (terminal.execute entry extension?).1).isIdle) :
    (terminal.execute entry extension?).2 = terminal := by
  rw [execute] at hidle ⊢
  rcases hexecute : entry.execute extension? terminal.pressed terminal.registers
    with ⟨error | transition, registers⟩
  · rw [StateEntry.registers_of_execute_eq_error hexecute]
  · simp [hexecute, OperationResult.isIdle] at hidle

theorem setMask_of_isIdle (terminal : Terminal) {mask : String}
    (hidle : (OperationResult.mask (terminal.setMask mask).1).isIdle) :
    (terminal.setMask mask).2 = terminal := by
  unfold setMask at hidle ⊢
  split at hidle
  next => contradiction
  next => rfl

theorem setAmount_of_isIdle (terminal : Terminal) {value : Option String}
    (hidle : (OperationResult.amount (terminal.setAmount value).1).isIdle) :
    (terminal.setAmount value).2 = terminal := by
  cases value with
  | none => rfl
  | some value =>
      simp only [setAmount] at hidle ⊢
      split at hidle
      next => contradiction
      next => rfl

end Terminal

theorem Operation.apply_of_isIdle (operation : Operation) (terminal : Terminal)
    (settings : Settings) (hidle : (operation.apply terminal settings).1.isIdle) :
    (operation.apply terminal settings).2 = (terminal, settings) := by
  cases operation with
  | receive message =>
      show ((terminal.receive settings message).2.1, (terminal.receive settings message).2.2) = _
      exact (terminal.receive_end settings message).eq_of_isIdle hidle
  | enter state =>
      have hsame : (terminal.enter state).2 = terminal := terminal.enter_of_isIdle hidle
      show ((terminal.enter state).2, settings) = _
      rw [hsame]
  | press letter =>
      have hsame : (terminal.press letter).2 = terminal :=
        (terminal.press_end letter).eq_of_isIdle hidle
      show ((terminal.press letter).2, settings) = _
      rw [hsame]
  | timeout =>
      have hsame : terminal.timeout.2 = terminal := (terminal.follow_end _).eq_of_isIdle hidle
      show (terminal.timeout.2, settings) = _
      rw [hsame]
  | cancel =>
      have hsame : terminal.cancel.2 = terminal := (terminal.follow_end _).eq_of_isIdle hidle
      show (terminal.cancel.2, settings) = _
      rw [hsame]
  | recordKey key => contradiction
  | execute entry extension? =>
      have hsame : (terminal.execute entry extension?).2 = terminal :=
        terminal.execute_of_isIdle hidle
      show ((terminal.execute entry extension?).2, settings) = _
      rw [hsame]
  | setMask mask =>
      have hsame : (terminal.setMask mask).2 = terminal := terminal.setMask_of_isIdle hidle
      show ((terminal.setMask mask).2, settings) = _
      rw [hsame]
  | setAmount value =>
      have hsame : (terminal.setAmount value).2 = terminal := terminal.setAmount_of_isIdle hidle
      show ((terminal.setAmount value).2, settings) = _
      rw [hsame]
  | initBuffers => contradiction

namespace Event

theorem eq_of_isIdle {event : Event} {terminal after : Terminal} {settings stored : Settings}
    {outcome : Outcome} (hend : ActEnd terminal settings event outcome after stored)
    (hidle : outcome.isIdle) : (after, stored) = (terminal, settings) := by
  cases hend with
  | @host message response? _ _ hend =>
      have hresponse : (OperationResult.response response?).isIdle := by
        cases response? <;> exact hidle
      exact hend.eq_of_isIdle hresponse
  | @key letter result _ hend =>
      have hpress : (OperationResult.press result).isIdle := by
        rcases result with error | _ | _ | _ <;> first | rfl | contradiction
      rw [hend.eq_of_isIdle hpress]
  | card track => rfl
  | @timeout result _ hend =>
      have hfollow : (OperationResult.follow result).isIdle := by
        rcases result with error | _ | _ <;> first | rfl | contradiction
      rw [hend.eq_of_isIdle hfollow]
  | @cancel result _ hend =>
      have hfollow : (OperationResult.follow result).isIdle := by
        rcases result with error | _ | _ <;> first | rfl | contradiction
      rw [hend.eq_of_isIdle hfollow]

theorem apply_of_isIdle (event : Event) (terminal : Terminal) (settings : Settings)
    (hidle : (event.apply terminal settings).1.outcome.isIdle) :
    (event.apply terminal settings).2 = (terminal, settings) :=
  eq_of_isIdle (event.act_end terminal settings) hidle

/-- The events of a run whose outcomes are not idle. -/
def effective (terminal : Terminal) (settings : Settings) (events : List Event) : List Event :=
  ((events.zip (run terminal settings events).1).filter
    fun step => !step.2.outcome.isIdle).map Prod.fst

theorem effective_cons {event : Event} {terminal after : Terminal} {settings stored : Settings}
    {report : Report} (happly : event.apply terminal settings = (report, after, stored))
    (rest : List Event) :
    effective terminal settings (event :: rest) =
      if report.outcome.isIdle then effective after stored rest
      else event :: effective after stored rest := by
  by_cases hidle : report.outcome.isIdle
  · simp [effective, run, happly, hidle]
  · simp [effective, run, happly, hidle]

theorem run_effective (events : List Event) (terminal : Terminal) (settings : Settings) :
    run terminal settings (effective terminal settings events) =
      ((run terminal settings events).1.filter fun report => !report.outcome.isIdle,
        (run terminal settings events).2) := by
  induction events generalizing terminal settings with
  | nil => rfl
  | cons event rest ih =>
      rcases happly : event.apply terminal settings with ⟨report, after, stored⟩
      rw [effective_cons happly]
      by_cases hidle : report.outcome.isIdle
      -- The rest starts where the idle event did, so nothing is lost with the event.
      · have hsame : (after, stored) = (terminal, settings) := by
          have hend := event.apply_of_isIdle terminal settings
          rw [happly] at hend
          exact hend hidle
        obtain ⟨rfl, rfl⟩ := Prod.mk.inj hsame
        rw [if_pos hidle, ih]
        simp [run, happly, hidle]
      · rw [if_neg hidle]
        simp [run, happly, ih, hidle]

/-- An operation with an idle result leaves everything as it was, in every state of the terminal.
Without its idle events a run ends in the same terminal with the same settings, and its reports are
those of the events that are left. -/
theorem idle_steps_stutter :
    (∀ (operation : Operation) (terminal : Terminal) (settings : Settings),
      (operation.apply terminal settings).1.isIdle →
        (operation.apply terminal settings).2 = (terminal, settings)) ∧
      ∀ (terminal : Terminal) (settings : Settings) (events : List Event),
        run terminal settings (effective terminal settings events) =
          ((run terminal settings events).1.filter fun report => !report.outcome.isIdle,
            (run terminal settings events).2) :=
  ⟨Operation.apply_of_isIdle, fun terminal settings events =>
    run_effective events terminal settings⟩

/-- A terminal in a state that leads to no state of its table. -/
def strandedTerminal : Terminal :=
  { table := (StateTable.ofChunks
      ["000X001010010777040033254000", "040Z001002003004005006007008"]).toOption.getD .empty
    current := some ⟨0, by decide⟩
    registers := { active := .ofList [.a] } }

/-- The execution of the press succeeds, and only then the next state turns out to be missing. -/
theorem idle_press_strandedTerminal :
    ((Operation.press 'A').apply strandedTerminal {}).1.isIdle ∧
      ((Operation.press 'A').apply strandedTerminal {}).2 = (strandedTerminal, {}) := by
  have hidle : ((Operation.press 'A').apply strandedTerminal {}).1.isIdle := by decide
  exact ⟨hidle, idle_steps_stutter.1 (.press 'A') strandedTerminal {} hidle⟩

end Event

end TellerTerminal
