import Mathlib.Data.List.DropRight
import TellerTerminal.Proofs.ActiveKeys

/-!
# Where the history comes from

A terminal that is driven by events keeps its history empty in every state.  The keys that are
active in a state are those of its rule, and a press of one of them leads on or fails, so that keys
pile up only while no state is current.  A load is the only event that leaves a state without
entering another, and it clears the history as well.

`Recalls` is the invariant.  It carries the rule of the active keys along, because that rule is what
decides whether a press can stay.
-/

namespace TellerTerminal

/-- The execution of an entry by a key that its rule activates does not stay. -/
theorem StateEntry.execute_concat_ne_stay {entry : StateEntry} {key : FunctionKey}
    (hrule : ∀ keys ∈ entry.keyRule?, keys.contains key) {extension? : Option Extension}
    {pressed : List FunctionKey} {registers after : Registers} :
    entry.execute extension? (pressed ++ [key]) registers ≠ (.ok .stay, after) := by
  intro h
  have hlast : (pressed ++ [key]).getLast? = some key := by simp
  cases entry with
  | information state =>
      simp only [execute, InformationEntry.execute, hlast] at h
      split at h
      · exact absurd (congrArg Prod.fst h) (by simp)
      · exact absurd (congrArg Prod.fst h) (by simp)
  | selection state =>
      have hnext : (state.next? key).isSome :=
        (state.contains_keyRule key).symm.trans (hrule _ rfl)
      obtain ⟨next, hnext⟩ := Option.isSome_iff_exists.mp hnext
      simp only [execute, Selection.execute, hlast, Selection.mem_keys_of_next? hnext, if_true,
        hnext] at h
      exact absurd (congrArg Prod.fst h) (by simp)
  | extension state => exact absurd (congrArg Prod.fst h) (by simp [execute])
  | other state => exact absurd (congrArg Prod.fst h) (by simp [execute])

namespace Terminal

variable {terminal after : Terminal}

theorem Ruled.runKey_ne_stay (h : terminal.Ruled) {state : StateNumber} {key : FunctionKey}
    (hcurrent : terminal.current = some state) (hactive : terminal.active.contains key)
    (registers : Registers) : terminal.runKey state key ≠ (.ok .stay, registers) := by
  intro hrun
  obtain ⟨entry, hentry, hexecute⟩ := runState_eq_ok hrun
  have hfound : terminal.entryOfCurrent? = some entry := by
    rw [entryOfCurrent?, hcurrent, Option.bind_some, hentry]
  refine StateEntry.execute_concat_ne_stay (fun keys hkeys => ?_) hexecute
  rw [← h.current entry hfound keys hkeys]
  exact hactive

/-- A press stays exactly if its key is active and there is no state to execute. -/
theorem Ruled.eq_stayed_iff (h : terminal.Ruled) {letter : Char}
    {result : Except ExecutionError KeyPress} (hend : terminal.PressEnd letter result after) :
    result = .ok .stayed ↔ terminal.isActive letter ∧ terminal.current = none := by
  cases hend with
  | ignored hinactive => simp [hinactive]
  | noted hkey hactive hcurrent => simp [isActive, hkey, hactive, hcurrent]
  | pressedIn hkey hactive hcurrent hend =>
      cases hend with
      | failed => simp [hcurrent]
      | blocked => simp [hcurrent]
      | stayed hrun => exact absurd hrun (h.runKey_ne_stay hcurrent hactive _)
      | moved => simp [hcurrent]

/-- The history is empty in a state, and otherwise it holds the keys that were noted. -/
structure Recalls (terminal : Terminal) (noted : List FunctionKey) : Prop where
  ruled : terminal.Ruled
  seated : terminal.current ≠ none → terminal.pressed = []
  idle : terminal.current = none → terminal.pressed = noted

variable {noted : List FunctionKey}

theorem recalls_start (config : TerminalConfig) (settings : Settings) :
    (start config settings).Recalls [] where
  ruled := ruled_start config settings
  seated := by simp [start_eq]
  idle := by simp [start_eq]

/-- In a state nothing that was noted before matters any more. -/
theorem recalls_of_current (hruled : after.Ruled) (hcurrent : after.current ≠ none)
    (hpressed : after.pressed = []) (noted : List FunctionKey) : after.Recalls noted :=
  ⟨hruled, fun _ => hpressed, fun hnone => absurd hnone hcurrent⟩

theorem Recalls.follow (h : terminal.Recalls noted) {path : Option StateNumber}
    {result : Except ExecutionError (Option StateNumber)}
    (hend : terminal.FollowEnd path result after) : after.Recalls noted := by
  cases hend with
  | nowhere => exact h
  | failed => exact h
  | entered hentry =>
      exact recalls_of_current (h.ruled.entered hentry) (by simp [entered, arrive]) rfl noted

end Terminal

namespace Event

/-- The events of a run with their outcomes. -/
def steps (terminal : Terminal) (settings : Settings) (events : List Event) :
    List (Event × Outcome) :=
  events.zip ((run terminal settings events).1.map Report.outcome)

/-- Whether a step is a load of state tables that was answered as carried out. -/
def isLoad : Event × Outcome → Bool
  | (host message, .response answer) =>
      match message.command? with
      | some (.loadStateTables _) => answer = .ready
      | _ => false
  | _ => false

/-- The key of a press that was accepted without a change of state. -/
def stayedKey? : Event × Outcome → Option FunctionKey
  | (key letter, .key _ .stayed) => FunctionKey.ofLetter? letter
  | _ => none

/-- The keys of the presses that stayed since the last load, or since the start without one. -/
def keysSinceLoad (steps : List (Event × Outcome)) : List FunctionKey :=
  (steps.rtakeWhile fun step => !isLoad step).filterMap stayedKey?

/-- The keys since the last load, with one more step. -/
def noteStep (noted : List FunctionKey) (step : Event × Outcome) : List FunctionKey :=
  if isLoad step then [] else noted ++ (stayedKey? step).toList

theorem keysSinceLoad_concat (steps : List (Event × Outcome)) (step : Event × Outcome) :
    keysSinceLoad (steps ++ [step]) = noteStep (keysSinceLoad steps) step :=
  filterMap_rtakeWhile_concat isLoad stayedKey? steps step

theorem noteStep_eq_self {step : Event × Outcome} (hload : isLoad step = false)
    (hkey : stayedKey? step = none) (noted : List FunctionKey) : noteStep noted step = noted := by
  simp [noteStep, hload, hkey]

/-- A message that is not obeyed as a load leaves the history as it was, unless it enters a state,
which clears it. -/
theorem recalls_host {terminal after : Terminal} {settings stored : Settings}
    {message : HostMessage} {response? : Option Response} {noted : List FunctionKey}
    (h : terminal.Recalls noted) (hruled : after.Ruled)
    (hend : terminal.ReceiveEnd settings message response? after stored) :
    after.Recalls (noteStep noted (host message, response?.elim .noResponse .response)) := by
  cases hend with
  | unanswered => rwa [noteStep_eq_self rfl rfl]
  | rejected =>
      have hload : isLoad (host message, .response .commandReject) = false := by
        simp only [isLoad]
        split <;> rfl
      rwa [Option.elim_some, noteStep_eq_self hload rfl]
  | outOfService hcommand =>
      rw [Option.elim_some, noteStep_eq_self (by simp [isLoad, hcommand]) rfl]
      exact ⟨hruled, h.seated, h.idle⟩
  | inService hcommand =>
      rw [Option.elim_some, noteStep_eq_self (by simp [isLoad, hcommand]) rfl]
      rw [Terminal.goInService_eq] at hruled ⊢
      cases hinitial : terminal.entryOfInitial? with
      | none =>
          rw [hinitial] at hruled
          exact ⟨hruled, h.seated, h.idle⟩
      | some entry =>
          rw [hinitial] at hruled
          have hcurrent : (terminal.entered entry).current ≠ none := by
            simp [Terminal.entered, Terminal.arrive]
          exact Terminal.recalls_of_current hruled hcurrent rfl _
  | loaded htable =>
      obtain ⟨states, hcommand, -⟩ := HostMessage.exists_of_loadedTable? htable
      have hload : isLoad (host message, .response .ready) = true := by simp [isLoad, hcommand]
      rw [Option.elim_some, noteStep, if_pos hload]
      exact ⟨hruled, fun _ => rfl, fun _ => rfl⟩

theorem recalls_key {terminal after : Terminal} {letter : Char}
    {result : Except ExecutionError KeyPress} {noted : List FunctionKey}
    (h : terminal.Recalls noted) (hruled : after.Ruled)
    (hend : terminal.PressEnd letter result after) :
    after.Recalls (noteStep noted (key letter, .ofResult (.key letter) result)) := by
  cases hend with
  | ignored => rwa [noteStep_eq_self rfl rfl]
  | @noted pressed hkey hactive hcurrent =>
      have hnoted : noteStep noted (.key letter, .key letter .stayed) = noted ++ [pressed] := by
        simp [noteStep, isLoad, stayedKey?, hkey]
      refine ⟨hruled, fun hsome => absurd hcurrent hsome, fun _ => ?_⟩
      show terminal.pressed ++ [pressed] = _
      rw [Outcome.ofResult, hnoted, h.idle hcurrent]
  | pressedIn _ hactive hcurrent hend =>
      cases hend with
      | failed => rwa [noteStep_eq_self rfl rfl]
      | blocked => rwa [noteStep_eq_self rfl rfl]
      | stayed hrun => exact absurd hrun (h.ruled.runKey_ne_stay hcurrent hactive _)
      | moved => exact Terminal.recalls_of_current hruled (by simp [Terminal.arrive]) rfl _

theorem recalls_of_actEnd {event : Event} {terminal after : Terminal}
    {settings stored : Settings} {outcome : Outcome} {noted : List FunctionKey}
    (h : terminal.Recalls noted) (hend : ActEnd terminal settings event outcome after stored) :
    after.Recalls (noteStep noted (event, outcome)) := by
  have hruled : after.Ruled := (ruled_of_actEnd h.ruled hend).1
  cases hend with
  | host hend => exact recalls_host h hruled hend
  | key hend => exact recalls_key h hruled hend
  | card track => rwa [noteStep_eq_self rfl rfl]
  | timeout hend =>
      rw [noteStep_eq_self rfl rfl]
      exact h.follow hend
  | cancel hend =>
      rw [noteStep_eq_self rfl rfl]
      exact h.follow hend

theorem steps_concat (events : List Event) (event : Event) (terminal : Terminal)
    (settings : Settings) :
    steps terminal settings (events ++ [event]) = steps terminal settings events ++
      [(event, (event.act (run terminal settings events).2.1
        (run terminal settings events).2.2).1)] := by
  rw [steps, run_append, List.map_append, List.zip_append (by simp [length_run])]
  rfl

/-- A run keeps in the history what it has noted since its last load. -/
theorem recalls_run (config : TerminalConfig) (settings : Settings) (events : List Event) :
    (run (Terminal.start config settings) settings events).2.1.Recalls
      (keysSinceLoad (steps (Terminal.start config settings) settings events)) := by
  induction events using List.reverseRecOn with
  | nil => exact Terminal.recalls_start config settings
  | append_singleton events event ih =>
      rw [steps_concat, keysSinceLoad_concat, run_append]
      exact recalls_of_actEnd ih (event.act_end _ _)

theorem outcome_key (letter : Char) (terminal : Terminal) (settings : Settings) :
    ((key letter).apply terminal settings).1.outcome =
      .ofResult (.key letter) (terminal.press letter).1 :=
  rfl

theorem ofResult_eq_key_iff {letter : Char} {result : Except ExecutionError KeyPress}
    {press : KeyPress} :
    Outcome.ofResult (.key letter) result = .key letter press ↔ result = .ok press := by
  cases result with
  | error error => simp [Outcome.ofResult]
  | ok found => simp [Outcome.ofResult]

/-- After any events on a new terminal the history is empty in a state, and without one it holds
the keys that were accepted since the last accepted load, in their order.  A key event then stays
exactly if its key is active and no state is current; in a state it is ignored, leads to another
state or fails. -/
theorem history_eq_keysSinceLoad (config : TerminalConfig) (settings : Settings)
    (events : List Event) :
    let start := Terminal.start config settings
    let after := (run start settings events).2.1
    (after.current ≠ none → after.pressed = []) ∧
      (after.current = none → after.pressed = keysSinceLoad (steps start settings events)) ∧
      ∀ letter stored,
        let outcome := ((key letter).apply after stored).1.outcome
        (outcome = .key letter .stayed ↔ after.isActive letter ∧ after.current = none) ∧
          (after.current ≠ none →
            outcome = .key letter .ignored ∨ (∃ next, outcome = .key letter (.moved next)) ∨
              ∃ message, outcome = .error message) := by
  intro start after
  have hrecalls := recalls_run config settings events
  refine ⟨hrecalls.seated, hrecalls.idle, fun letter stored => ?_⟩
  have hstayed := hrecalls.ruled.eq_stayed_iff (after.press_end letter)
  simp only [outcome_key, ofResult_eq_key_iff]
  refine ⟨hstayed, fun hcurrent => ?_⟩
  rcases hresult : (after.press letter).1 with error | _ | _ | next
  · exact .inr (.inr ⟨error.message, rfl⟩)
  · exact .inl rfl
  · exact absurd (hstayed.mp hresult).2 hcurrent
  · exact .inr (.inl ⟨next, rfl⟩)

/-- Keys in a state, after a load has left it, and after another load was rejected.  The last load
forgets the first two of them. -/
def leftScript : List Event :=
  [.host (HostMessage.stateTablesLoad (.many
      ["000E001000000010010010255000", "010X001000000000040033999000"])),
    .host (HostMessage.terminalCommand HostMessage.goInServiceCode), .key 'a',
    .host (HostMessage.stateTablesLoad (.single "000E001000000255255255255000")),
    .key 'C', .key 'B',
    .host (HostMessage.stateTablesLoad (.single "000E001000000255255255255000")),
    .key 'b', .key 'D', .host (HostMessage.stateTablesLoad (.single "000E")), .key 'A']

theorem history_leftScript :
    (run (Terminal.start {} {}) {} leftScript).2.1.current = none ∧
      (run (Terminal.start {} {}) {} leftScript).2.1.pressed = [.b, .a] := by
  have hcurrent : (run (Terminal.start {} {}) {} leftScript).2.1.current = none := by decide
  obtain ⟨-, hpressed, -⟩ := history_eq_keysSinceLoad {} {} leftScript
  refine ⟨hcurrent, (hpressed hcurrent).trans ?_⟩
  decide

end Event

end TellerTerminal
