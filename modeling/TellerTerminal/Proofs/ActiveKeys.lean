import TellerTerminal.Proofs.Run

/-!
# Where the active keys come from

The active keys of a terminal that is driven by events are those of the last state that was entered
and had a rule for them.  A press executes the current state once more before it goes on, but by
the same rule, so that it cannot change the keys unless it enters another state.

`Ruled` is the invariant of the terminal.  Without a current state it says nothing about the keys
that are active, which is what a load leaves behind.
-/

namespace TellerTerminal

/-- The state that a key press or a path has led to. -/
def Outcome.next? : Outcome → Option StateNumber
  | key _ (.moved next) => some next
  | transition next => next
  | _ => none

namespace Terminal

/-- The active keys are those of the current state, if it has a rule, and never include `E`. -/
structure Ruled (terminal : Terminal) : Prop where
  recorded : terminal.table.IsRecorded
  current : ∀ entry ∈ terminal.entryOfCurrent?, ∀ keys ∈ entry.keyRule?, terminal.active = keys
  inactive : terminal.active.contains .e = false

variable {terminal after : Terminal} {number : StateNumber} {entry : StateEntry}

theorem Ruled.setStatus (h : terminal.Ruled) (status : TerminalStatus) :
    Ruled { terminal with status } :=
  ⟨h.recorded, h.current, h.inactive⟩

/-- The keys that an event leaves active if it enters the state of an entry, or none. -/
def activeBy (terminal : Terminal) (entered? : Option StateEntry) : KeySet :=
  (entered?.bind StateEntry.keyRule?).getD terminal.active

theorem Ruled.active_of_runKey (h : terminal.Ruled) {state : StateNumber} {key : FunctionKey}
    {transition : Transition} {registers : Registers} (hcurrent : terminal.current = some state)
    (hrun : terminal.runKey state key = (.ok transition, registers)) :
    registers.active = terminal.active := by
  obtain ⟨entry, hentry, -⟩ := runState_eq_ok hrun
  rw [Terminal.active_of_runKey hentry hrun]
  cases hrule : entry.keyRule? with
  | none => rfl
  | some keys =>
      have hfound : terminal.entryOfCurrent? = some entry := by
        rw [entryOfCurrent?, hcurrent, Option.bind_some, hentry]
      exact (h.current entry hfound keys hrule).symm

theorem Ruled.arrive (h : terminal.Ruled) (hentry : terminal.table.get? number = some entry)
    {registers : Registers} (hsame : registers.active = terminal.active) :
    (terminal.arrive number { registers with
      active := entry.keyRule?.getD registers.active }).Ruled where
  recorded := h.recorded
  current := by
    intro found hfound keys hkeys
    obtain rfl := Option.some.inj (hentry.symm.trans hfound)
    simp [active, Terminal.arrive, Option.mem_def.mp hkeys]
  inactive := by
    have hrecorded : entry.IsRecorded :=
      h.recorded entry (StateTable.mem_entries_of_get? hentry)
    cases hrule : entry.keyRule? with
    | none => exact hsame ▸ h.inactive
    | some keys => exact StateEntry.contains_e_of_keyRule? hrecorded hrule

theorem Ruled.entered (h : terminal.Ruled) (hentry : terminal.table.get? number = some entry) :
    (terminal.entered entry).Ruled := by
  obtain rfl := StateTable.number_of_get? hentry
  exact h.arrive hentry rfl

theorem Ruled.follow (h : terminal.Ruled) {path : Option StateNumber}
    {result : Except ExecutionError (Option StateNumber)}
    (hend : terminal.FollowEnd path result after) :
    after.Ruled ∧
      after.active = terminal.activeBy
        ((Outcome.ofResult .transition result).next?.bind terminal.table.get?) := by
  cases hend with
  | nowhere => exact ⟨h, rfl⟩
  | failed => exact ⟨h, rfl⟩
  | entered hentry =>
      refine ⟨h.entered hentry, ?_⟩
      simp only [Outcome.ofResult, Outcome.next?, Option.bind_some, hentry]
      rfl

theorem Ruled.press (h : terminal.Ruled) {letter : Char} {result : Except ExecutionError KeyPress}
    (hend : terminal.PressEnd letter result after) :
    after.Ruled ∧ after.active = terminal.activeBy
      ((Outcome.ofResult (.key letter) result).next?.bind terminal.table.get?) := by
  cases hend with
  | ignored => exact ⟨h, rfl⟩
  | noted => exact ⟨⟨h.recorded, h.current, h.inactive⟩, rfl⟩
  | pressedIn _ _ hcurrent hend =>
      cases hend with
      | failed => exact ⟨h, rfl⟩
      | blocked => exact ⟨h, rfl⟩
      -- The current state was executed once more, by the rule that already held.
      | @stayed registers hrun =>
          have hsame : registers.active = terminal.active := h.active_of_runKey hcurrent hrun
          refine ⟨⟨h.recorded, fun entry hentry keys hkeys => ?_, ?_⟩, hsame⟩
          · exact hsame.trans (h.current entry hentry keys hkeys)
          · exact (congrArg (KeySet.contains · .e) hsame).trans h.inactive
      | @moved next target registers hrun htarget =>
          have hsame : registers.active = terminal.active := h.active_of_runKey hcurrent hrun
          refine ⟨h.arrive htarget hsame, ?_⟩
          simp only [Outcome.ofResult, Outcome.next?, Option.bind_some, htarget, activeBy, ← hsame]
          rfl

theorem Ruled.goInService (h : terminal.Ruled) :
    terminal.goInService.Ruled ∧
      terminal.goInService.active = terminal.activeBy terminal.entryOfInitial? := by
  rw [goInService_eq]
  cases hinitial : terminal.entryOfInitial? with
  | none => exact ⟨h.setStatus .inService, rfl⟩
  | some entry =>
      obtain ⟨hentry, -⟩ := executes_of_entryOfInitial? hinitial
      exact ⟨(h.entered hentry).setStatus .inService, rfl⟩

theorem Ruled.install (h : terminal.Ruled) {table : StateTable} (hrecorded : table.IsRecorded) :
    (terminal.install table).Ruled where
  recorded := hrecorded
  current := by simp [entryOfCurrent?, Terminal.install]
  inactive := h.inactive

theorem ruled_start (config : TerminalConfig) (settings : Settings) :
    (start config settings).Ruled where
  recorded := isRecorded_start config settings
  current := by simp [entryOfCurrent?, start_eq]
  inactive := by simp [start_eq, active]

end Terminal

namespace Event

/-- The entry of the state that an event enters: the initial one when the terminal goes in service,
and otherwise the one that the outcome names. -/
def entered? (terminal : Terminal) (event : Event) (outcome : Outcome) : Option StateEntry :=
  match event with
  | host message =>
      if message.command? = some .goInService then terminal.entryOfInitial? else none
  | _ => outcome.next?.bind terminal.table.get?

/-- The entries of the states that a run enters, in their order. -/
def entries (terminal : Terminal) (settings : Settings) : List Event → List StateEntry
  | [] => []
  | event :: rest =>
      let (report, after, stored) := event.apply terminal settings
      (event.entered? terminal report.outcome).toList ++ entries after stored rest

theorem ruled_of_actEnd {event : Event} {terminal after : Terminal} {settings stored : Settings}
    {outcome : Outcome} (h : terminal.Ruled)
    (hend : ActEnd terminal settings event outcome after stored) :
    after.Ruled ∧ after.active = terminal.activeBy (event.entered? terminal outcome) := by
  cases hend with
  | host hend =>
      simp only [entered?]
      cases hend with
      | unanswered hcommand =>
          rw [if_neg (by simp [hcommand])]
          exact ⟨h, rfl⟩
      | rejected _ hservice =>
          rw [if_neg hservice.1]
          exact ⟨h, rfl⟩
      | outOfService hcommand =>
          rw [if_neg (by simp [hcommand])]
          exact ⟨h.setStatus .outOfService, rfl⟩
      | inService hcommand =>
          rw [if_pos hcommand]
          exact h.goInService
      | loaded htable =>
          obtain ⟨states, hcommand, hchunks⟩ := HostMessage.exists_of_loadedTable? htable
          rw [if_neg (by simp [hcommand])]
          exact ⟨h.install (StateTable.isRecorded_of_ofChunks hchunks), rfl⟩
  | key hend => exact h.press hend
  | card track => exact ⟨h, rfl⟩
  | timeout hend => exact h.follow hend
  | cancel hend => exact h.follow hend

/-- The last rule of an entered state decides, and before the first the keys stay as they were. -/
theorem ruled_run (events : List Event) {terminal : Terminal} (settings : Settings)
    (h : terminal.Ruled) :
    (run terminal settings events).2.1.Ruled ∧
      (run terminal settings events).2.1.active =
        ((entries terminal settings events).filterMap StateEntry.keyRule?).getLast?.getD
          terminal.active := by
  induction events generalizing terminal settings with
  | nil => exact ⟨h, rfl⟩
  | cons event rest ih =>
      obtain ⟨hafter, hactive⟩ := ruled_of_actEnd h (event.act_end terminal settings)
      obtain ⟨hend, hrules⟩ := ih (event.act terminal settings).2.2 hafter
      refine ⟨hend, hrules.trans ?_⟩
      rw [hactive, entries, List.filterMap_append, filterMap_toList, getLast?_toList_append,
        Option.getD_or]
      rfl

theorem apply_key_e {terminal : Terminal} (h : terminal.active.contains .e = false)
    (settings : Settings) {letter : Char} (hletter : letter ∈ ['e', 'E']) :
    (key letter).apply terminal settings =
      (.ofTerminal terminal (.key letter .ignored), terminal, settings) := by
  have hcases : letter = 'e' ∨ letter = 'E' := by simpa using hletter
  have hkey : FunctionKey.ofLetter? letter = some .e := by
    rcases hcases with rfl | rfl
    · decide
    · decide
  have hpress : terminal.press letter = (.ok .ignored, terminal) := by
    simp [Terminal.press, hkey, h]
  simp only [apply, act, hpress]
  rfl

/-- After any events on a new terminal the active keys are the rule of the last state that was
entered and had one, or none at all.  They are the rule of the current state if it has one, and the
key `E` is never among them, so that its presses come to nothing. -/
theorem active_eq_last_rule (config : TerminalConfig) (settings : Settings)
    (events : List Event) :
    let terminal := Terminal.start config settings
    let after := (run terminal settings events).2.1
    after.active = ((entries terminal settings events).filterMap
        StateEntry.keyRule?).getLast?.getD .empty ∧
      (∀ entry ∈ after.entryOfCurrent?, ∀ keys ∈ entry.keyRule?, after.active = keys) ∧
      after.active.contains .e = false ∧
      ∀ letter ∈ ['e', 'E'], ∀ stored, (key letter).apply after stored =
        (.ofTerminal after (.key letter .ignored), after, stored) := by
  intro terminal after
  obtain ⟨hruled, hactive⟩ := ruled_run events settings (Terminal.ruled_start config settings)
  have hstart : terminal.active = .empty := by
    simp [terminal, Terminal.start_eq, Terminal.active]
  rw [hstart] at hactive
  exact ⟨hactive, hruled.current, hruled.inactive, fun letter hletter stored =>
    apply_key_e hruled.inactive stored hletter⟩

/-- Into a selection state with two of its keys disabled, from there by a key into a state that
activates all but `E` and `I`, where a press fails, by a timeout into a state with an invalid mask,
and by a cancel back into the first. -/
def maskScript : List Event :=
  [.host (HostMessage.stateTablesLoad (.many ["000E001010010255010255000000",
      "010X001020020020040033254000", "020X001000000000040033999000"])),
    .host (HostMessage.terminalCommand HostMessage.goInServiceCode), .key 'A', .key 'b', .key 'C',
    .timeout, .key 'E', .cancel]

/-- The selection state is ruled by its fields, the second state by its mask, and the third keeps the
keys of the second.  Key `A`, which the selection state disables, is not active in it, and presses of
`E` are ignored. -/
theorem active_maskScript :
    let after (count : Nat) : Terminal :=
      (run (Terminal.start {} {}) {} (maskScript.take count)).2.1
    (after 1).active.display = "[]" ∧ (after 2).active.display = "[BD]" ∧
      (∃ entry ∈ (after 2).entryOfCurrent?, ∃ keys ∈ entry.keyRule?,
        (after 2).active = keys ∧ keys.display = "[BD]") ∧
      (after 2).isActive 'A' = false ∧ (after 4).active.display = "[ABCDFGH]" ∧
      (after 5).active.display = "[ABCDFGH]" ∧ (after 6).current = StateNumber.ofText? "020" ∧
      (after 6).active.display = "[ABCDFGH]" ∧ (after 8).active.display = "[BD]" ∧
      (key 'E').apply (after 6) {} =
        (.ofTerminal (after 6) (.key 'E' .ignored), after 6, {}) := by
  intro after
  have hrule (count : Nat) := active_eq_last_rule {} {} (maskScript.take count)
  have hactive (count : Nat) := (hrule count).1
  obtain ⟨entry, hentry, keys, hkeys, hshown⟩ : ∃ entry ∈ (after 2).entryOfCurrent?,
      ∃ keys ∈ entry.keyRule?, keys.display = "[BD]" := ⟨_, rfl, _, rfl, by decide⟩
  have hcurrent : (after 2).active = keys := (hrule 2).2.1 entry hentry keys hkeys
  have hignored := (hrule 6).2.2.2 'E' (by decide) {}
  refine ⟨?_, ?_, ⟨entry, hentry, keys, hkeys, hcurrent, hshown⟩, by decide, ?_, ?_,
    by decide, ?_, ?_, hignored⟩
  all_goals
    rw [hactive]
    decide

end Event

end TellerTerminal
