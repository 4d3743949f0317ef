import TellerTerminal.Proofs.Operations

/-!
# The current state stands in the table

The current state and the table are separate fields, and each is written by operations that leave
the other alone.  `Seated` ties them together: a state becomes current only after its entry was
found and executed, and a new table leaves no state current.  What a press can still fail for is
then a value of the current state or the way to the next one.
-/

namespace TellerTerminal

theorem StateEntry.isSome_timeout? {entry : StateEntry} (h : entry.isExecutable) :
    entry.timeout?.isSome := by
  cases entry with
  | information state => rfl
  | selection state => rfl
  | extension state => contradiction
  | other state => contradiction

theorem StateEntry.isSome_cancel? {entry : StateEntry} (h : entry.isExecutable) :
    entry.cancel?.isSome := by
  cases entry with
  | information state => rfl
  | selection state => rfl
  | extension state => contradiction
  | other state => contradiction

namespace Terminal

variable {terminal after : Terminal}

theorem refused?_of_runState_nil {number : StateNumber} {registers later : Registers}
    {error : ExecutionError} (h : terminal.runState number [] registers = (.error error, later)) :
    error.refused? = some number ∧ ¬ terminal.table.Executes number := by
  have hnot : ¬ terminal.table.Executes number := by
    rintro ⟨entry, hentry, hexecutable⟩
    rw [runState_nil hentry hexecutable] at h
    exact absurd (congrArg Prod.fst h) (by simp)
  obtain ⟨cause, hrefused, hrun⟩ := runState_nil_eq_error hnot registers
  obtain rfl : cause = error := Except.error.inj (congrArg Prod.fst (hrun.symm.trans h))
  exact ⟨hrefused, hnot⟩

/-- A press in a state fails with the error of that state, or with the error of the next one. -/
theorem exists_of_pressIn_eq_error {state : StateNumber} {key : FunctionKey}
    {error : ExecutionError} (h : (terminal.pressIn state key).1 = .error error) :
    (∃ registers, terminal.runKey state key = (.error error, registers)) ∨
      ∃ next registers later, terminal.runKey state key = (.ok (.next next), registers) ∧
        terminal.runState next [] registers = (.error error, later) := by
  rcases hrun : terminal.runKey state key with ⟨cause | transition, registers⟩
  all_goals
    have hstate := hrun
    rw [runKey] at hstate
  · simp only [pressIn, hstate] at h
    obtain rfl : cause = error := Except.error.inj h
    exact .inl ⟨registers, rfl⟩
  · cases transition with
    | stay =>
        simp only [pressIn, hstate] at h
        contradiction
    | next next =>
        rcases hnext : terminal.runState next [] registers with ⟨cause | _, later⟩
        · simp only [pressIn, hstate, hnext] at h
          obtain rfl : cause = error := Except.error.inj h
          exact .inr ⟨next, registers, later, rfl, hnext⟩
        · simp only [pressIn, hstate, hnext] at h
          contradiction

/-- Only the press of an active key in a state can fail. -/
theorem exists_of_press_eq_error {letter : Char} {error : ExecutionError}
    (h : (terminal.press letter).1 = .error error) :
    ∃ key state, FunctionKey.ofLetter? letter = some key ∧ terminal.current = some state ∧
      (terminal.pressIn state key).1 = .error error := by
  unfold press at h
  split at h
  next => contradiction
  next key hkey =>
    split_ifs at h
    split at h
    next state hcurrent => exact ⟨key, state, hkey, hcurrent, h⟩
    next => contradiction

/-- The current state, if there is one, has an entry in the table that can be executed. -/
def Seated (terminal : Terminal) : Prop :=
  ∀ state ∈ terminal.current, terminal.table.Executes state

instance (terminal : Terminal) : Decidable terminal.Seated := by
  dsimp only [Seated]
  infer_instance

theorem seated_start (config : TerminalConfig) (settings : Settings) :
    (start config settings).Seated := by
  simp [Seated, start_eq]

theorem seated_arrive {number : StateNumber} {entry : StateEntry}
    (hentry : terminal.table.get? number = some entry) (hexecutable : entry.isExecutable)
    (registers : Registers) : (terminal.arrive number registers).Seated := by
  intro state hstate
  obtain rfl := Option.some.inj hstate
  exact ⟨entry, hentry, hexecutable⟩

theorem seated_entered {number : StateNumber} {entry : StateEntry}
    (hentry : terminal.table.get? number = some entry) (hexecutable : entry.isExecutable) :
    (terminal.entered entry).Seated := by
  obtain rfl := StateTable.number_of_get? hentry
  exact seated_arrive hentry hexecutable _

theorem Seated.follow (h : terminal.Seated) {path : Option StateNumber}
    {result : Except ExecutionError (Option StateNumber)}
    (hend : terminal.FollowEnd path result after) : after.Seated := by
  cases hend with
  | nowhere => exact h
  | entered hentry hexecutable => exact seated_entered hentry hexecutable
  | failed => exact h

theorem Seated.press (h : terminal.Seated) {letter : Char}
    {result : Except ExecutionError KeyPress} (hend : terminal.PressEnd letter result after) :
    after.Seated := by
  cases hend with
  | ignored => exact h
  | noted => exact h
  | pressedIn _ _ _ hend =>
      cases hend with
      | failed => exact h
      | blocked => exact h
      | stayed => exact h
      | moved _ htarget hexecutable => exact seated_arrive htarget hexecutable _

theorem Seated.receive (h : terminal.Seated) {message : HostMessage}
    {settings stored : Settings} {response? : Option Response}
    (hend : terminal.ReceiveEnd settings message response? after stored) : after.Seated := by
  cases hend with
  | unanswered => exact h
  | rejected => exact h
  | outOfService => exact h
  | inService =>
      rw [goInService_eq]
      cases hinitial : terminal.entryOfInitial? with
      | none => exact h
      | some entry =>
          obtain ⟨hentry, hexecutable⟩ := executes_of_entryOfInitial? hinitial
          exact seated_entered hentry hexecutable
  | loaded => simp [Seated, install]

theorem Seated.apply (operation : Operation) (terminal : Terminal) (settings : Settings)
    (h : terminal.Seated) : (operation.apply terminal settings).2.1.Seated := by
  cases operation with
  | receive message => exact h.receive (terminal.receive_end settings message)
  | enter state => exact h.follow (terminal.follow_end (some state))
  | press letter => exact h.press (terminal.press_end letter)
  | timeout => exact h.follow (terminal.follow_end _)
  | cancel => exact h.follow (terminal.follow_end _)
  | recordKey key => exact h
  | execute entry extension? => exact h
  | setMask mask =>
      show (terminal.setMask mask).2.Seated
      rw [setMask_eq]
      exact h
  | setAmount value =>
      show (terminal.setAmount value).2.Seated
      rw [setAmount_eq]
      exact h
  | initBuffers => exact h

theorem follow_eq_nowhere_iff {path : Option StateNumber} :
    (terminal.follow path).1 = .ok none ↔ path = none := by
  cases path with
  | none => simp [follow]
  | some next =>
      show ((terminal.enter next).1.map fun _ => some next) = .ok none ↔ some next = none
      simp [map_eq_ok_iff]

/-- Both paths lead somewhere from every state that can be executed. -/
theorem Seated.path_eq_none_iff (h : terminal.Seated) {path? : StateEntry → Option StateNumber}
    (hpath : ∀ entry : StateEntry, entry.isExecutable → (path? entry).isSome) :
    terminal.entryOfCurrent?.bind path? = none ↔ terminal.current = none := by
  cases hcurrent : terminal.current with
  | none => simp [entryOfCurrent?, hcurrent]
  | some state =>
      obtain ⟨entry, hentry, hexecutable⟩ := h state hcurrent
      have hsome := hpath entry hexecutable
      simp [entryOfCurrent?, hcurrent, hentry, Option.isSome_iff_ne_none.mp hsome]

/-- A press that is refused was refused by the state that it leads to, which is not the current
one. -/
theorem Seated.exists_of_press_refused (h : terminal.Seated) {letter : Char}
    {error : ExecutionError} (hpress : (terminal.press letter).1 = .error error)
    {target : StateNumber} (htarget : error.refused? = some target) :
    ∃ state key registers, terminal.current = some state ∧
      FunctionKey.ofLetter? letter = some key ∧
      terminal.runKey state key = (.ok (.next target), registers) ∧
      target ≠ state ∧ ¬ terminal.table.Executes target := by
  obtain ⟨key, state, hkey, hcurrent, hstate⟩ := exists_of_press_eq_error hpress
  obtain ⟨entry, hentry, hexecutable⟩ := h state hcurrent
  rcases exists_of_pressIn_eq_error hstate with
    ⟨registers, hrun⟩ | ⟨next, registers, later, hrun, hnext⟩
  · -- The entry of the current state can be executed, so it fails for a value.
    rw [runKey, runState_of_get? hentry] at hrun
    exact absurd (htarget.symm.trans (StateEntry.refused?_of_execute hexecutable hrun)) (by simp)
  · obtain ⟨hrefused, hnot⟩ := refused?_of_runState_nil hnext
    obtain rfl : target = next := Option.some.inj (htarget.symm.trans hrefused)
    refine ⟨state, key, registers, hcurrent, hkey, hrun, ?_, hnot⟩
    rintro rfl
    exact hnot ⟨entry, hentry, hexecutable⟩

end Terminal

namespace Operation

theorem seated_run (config : TerminalConfig) (settings : Settings) (operations : List Operation) :
    (run (Terminal.start config settings) settings operations).2.1.Seated :=
  run_keeps Terminal.Seated.apply operations settings (Terminal.seated_start config settings)

/-- After any operations on a new terminal the current state, if there is one, has an entry of an
executable type under its number.  A timeout or a cancel therefore leads nowhere only without a
current state, and a press is refused only by the state that it would lead to, which is another
one. -/
theorem current_is_executable (config : TerminalConfig) (settings : Settings)
    (operations : List Operation) :
    let terminal := (run (Terminal.start config settings) settings operations).2.1
    (∀ state, terminal.current = some state →
      ∃ entry, terminal.table.get? state = some entry ∧ entry.number = state ∧
        entry.isExecutable) ∧
      (terminal.timeout.1 = .ok none ↔ terminal.current = none) ∧
      (terminal.cancel.1 = .ok none ↔ terminal.current = none) ∧
      ∀ letter error target, (terminal.press letter).1 = .error error →
        error.refused? = some target →
          ∃ state key registers, terminal.current = some state ∧
            FunctionKey.ofLetter? letter = some key ∧
            terminal.runKey state key = (.ok (.next target), registers) ∧ target ≠ state := by
  intro terminal
  have hseated : terminal.Seated := seated_run config settings operations
  refine ⟨fun state hcurrent => ?_, ?_, ?_, fun letter error target hpress htarget => ?_⟩
  · obtain ⟨entry, hentry, hexecutable⟩ := hseated state hcurrent
    exact ⟨entry, hentry, StateTable.number_of_get? hentry, hexecutable⟩
  · exact Terminal.follow_eq_nowhere_iff.trans
      (hseated.path_eq_none_iff fun _ => StateEntry.isSome_timeout?)
  · exact Terminal.follow_eq_nowhere_iff.trans
      (hseated.path_eq_none_iff fun _ => StateEntry.isSome_cancel?)
  · obtain ⟨state, key, registers, hcurrent, hkey, hrun, hne, -⟩ :=
      hseated.exists_of_press_refused hpress htarget
    exact ⟨state, key, registers, hcurrent, hkey, hrun, hne⟩

/-- A state is entered whose paths lead to no state of the table and whose keys lead to an
extension.  Then a timeout fails, a load is rejected, and a mask changes the keys. -/
def misledOperations : List Operation :=
  [.receive (HostMessage.stateTablesLoad (.many
      ["001E001777777255040255255000", "040Z001002003004005006007008"])),
    .receive (HostMessage.terminalCommand HostMessage.goInServiceCode), .timeout,
    .receive (HostMessage.stateTablesLoad (.single "001E")), .setMask "255", .setAmount (some "7"),
    .recordKey .c]

theorem press_refused_misled :
    let terminal := (run (Terminal.start { initialState := "001" } {}) {} misledOperations).2.1
    (terminal.press 'b').1 = .error (.unsupported ⟨40, by decide⟩ 'Z') ∧
      ∃ state key registers, terminal.current = some state ∧
        FunctionKey.ofLetter? 'b' = some key ∧
        terminal.runKey state key = (.ok (.next ⟨40, by decide⟩), registers) ∧
        ⟨40, by decide⟩ ≠ state := by
  intro terminal
  have hpress : (terminal.press 'b').1 = .error (.unsupported ⟨40, by decide⟩ 'Z') := by decide
  obtain ⟨-, -, -, hrefused⟩ :=
    current_is_executable { initialState := "001" } {} misledOperations
  exact ⟨hpress, hrefused 'b' _ _ hpress rfl⟩

end Operation

end TellerTerminal
