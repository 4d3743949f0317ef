import TellerTerminal.Proofs.CurrentState

/-!
# A press as a sequence of steps

A press stages its writes: both executions work on copies of the registers, and the history with
the new key is a copy as well.  The same comes of the simple operations, carried out one after
another on the terminal itself: the key is logged and noted, the entry of the current state is
executed, and the state that it leads to is entered.  The only thing that the copies add is that a
press takes its first steps back when a later one fails.
-/

namespace TellerTerminal.Terminal

variable {terminal after : Terminal}

/-- The terminal with the letter of a key added to the key buffer, and all else as before. -/
def logged (terminal : Terminal) (key : FunctionKey) : Terminal :=
  let keys := terminal.buffers.keys.push key.letter
  { terminal with registers := { terminal.registers with buffers := { terminal.buffers with keys } } }

/-- What a transition asks for, as the result of a press: to stay, or to enter the next state. -/
def proceed (terminal : Terminal) : Transition → Except ExecutionError KeyPress × Terminal
  | .stay => (.ok .stayed, terminal)
  | .next next =>
      match terminal.enter next with
      | (.ok _, after) => (.ok (.moved next), after)
      | (.error error, after) => (.error error, after)

/-- The steps of a press, each on the terminal that the one before it has left. -/
def pressSteps (terminal : Terminal) (entry : StateEntry) (key : FunctionKey) :
    Except ExecutionError KeyPress × Terminal :=
  let noted := (terminal.logged key).recordKey key
  match noted.execute entry (noted.table.extensionFor? entry) with
  | (.ok transition, after) => after.proceed transition
  | (.error error, after) => (.error error, after)

/-- The outcome of steps on a terminal that count together or not at all. -/
def allOrNothing (terminal : Terminal) :
    Except ExecutionError KeyPress × Terminal → Except ExecutionError KeyPress × Terminal
  | (.ok press, after) => (.ok press, after)
  | (.error error, _) => (.error error, terminal)

theorem logged_eq (terminal : Terminal) (key : FunctionKey) :
    terminal.logged key = { terminal with registers := logKey terminal.registers key } := rfl

theorem pressSteps_eq (terminal : Terminal) (entry : StateEntry) (key : FunctionKey) :
    terminal.pressSteps entry key =
      match entry.execute (terminal.table.extensionFor? entry) (terminal.pressed ++ [key])
        (logKey terminal.registers key) with
      | (.ok transition, registers) => (terminal.accepted key registers).proceed transition
      | (.error error, registers) => (.error error, terminal.accepted key registers) := by
  simp only [pressSteps, execute, recordKey, logged_eq]
  rcases entry.execute (terminal.table.extensionFor? entry) (terminal.pressed ++ [key])
    (logKey terminal.registers key) with ⟨error | transition, registers⟩
  · rfl
  · rfl

/-- The history that is accepted with a key has no part in entering the next state. -/
theorem proceed_accepted_next (terminal : Terminal) (key : FunctionKey) (registers : Registers)
    (next : StateNumber) :
    (terminal.accepted key registers).proceed (.next next) =
      match terminal.runState next [] registers with
      | (.ok _, later) => (.ok (.moved next), terminal.arrive next later)
      | (.error error, _) => (.error error, terminal.accepted key registers) := by
  simp only [proceed, enter]
  have hrun : (terminal.accepted key registers).runState next []
      (terminal.accepted key registers).registers = terminal.runState next [] registers := rfl
  rw [hrun]
  rcases terminal.runState next [] registers with ⟨error | transition, later⟩
  · rfl
  · rfl

theorem pressIn_eq_allOrNothing {state : StateNumber} {entry : StateEntry}
    (hentry : terminal.table.get? state = some entry) (key : FunctionKey) :
    terminal.pressIn state key = terminal.allOrNothing (terminal.pressSteps entry key) := by
  rw [pressIn, pressSteps_eq, runState_of_get? hentry]
  rcases entry.execute (terminal.table.extensionFor? entry) (terminal.pressed ++ [key])
    (logKey terminal.registers key) with ⟨error | transition, registers⟩
  · rfl
  · cases transition with
    | stay => rfl
    | next next =>
        simp only [proceed_accepted_next]
        rcases terminal.runState next [] registers with ⟨error | _, later⟩
        · rfl
        · rfl

theorem PressEnd.eq_ignored_iff {letter : Char} {result : Except ExecutionError KeyPress}
    (hend : terminal.PressEnd letter result after) :
    result = .ok .ignored ↔ terminal.isActive letter = false := by
  cases hend with
  | ignored hinactive => simp [hinactive]
  | noted hkey hactive => simp [isActive, hkey, hactive]
  | pressedIn hkey hactive _ hend =>
      have hletter : terminal.isActive letter = true := by simp [isActive, hkey, hactive]
      cases hend with
      | _ => simp [hletter]

/-- The key of an active letter. -/
theorem exists_of_isActive {letter : Char} (h : terminal.isActive letter) :
    ∃ key, FunctionKey.ofLetter? letter = some key ∧ terminal.active.contains key := by
  obtain ⟨key, hkey, hactive⟩ := (Option.any_eq_true ..).mp h
  exact ⟨key, hkey, hactive⟩

/-- A press of an active key does in one go what the simple operations do one by one, and nothing
if one of them fails.  Without a current state there is nothing to execute, and the key is only
logged and noted. -/
theorem press_refines_steps {terminal : Terminal} (hseated : terminal.Seated) (letter : Char) :
    ((terminal.press letter).1 = .ok .ignored ↔ terminal.isActive letter = false) ∧
      (terminal.isActive letter →
        ∃ key, FunctionKey.ofLetter? letter = some key ∧
          (terminal.current = none →
            terminal.press letter = (.ok .stayed, (terminal.logged key).recordKey key)) ∧
          ∀ state, terminal.current = some state →
            ∃ entry, terminal.table.get? state = some entry ∧
              terminal.press letter = terminal.allOrNothing (terminal.pressSteps entry key) ∧
              (∀ next, (terminal.press letter).1 = .ok (.moved next) →
                (terminal.press letter).2.current = some next ∧
                  (terminal.press letter).2.pressed = []) ∧
              ((terminal.press letter).1 = .ok .stayed →
                (terminal.press letter).2.pressed = terminal.pressed ++ [key])) := by
  refine ⟨(terminal.press_end letter).eq_ignored_iff, fun hactive => ?_⟩
  obtain ⟨key, hkey, hcontains⟩ := exists_of_isActive hactive
  refine ⟨key, hkey, fun hcurrent => ?_, fun state hcurrent => ?_⟩
  · have hpress : terminal.press letter =
        (.ok .stayed, terminal.accepted key (logKey terminal.registers key)) := by
      simp [press, hkey, hcontains, hcurrent, accepted]
    rw [hpress]
    rfl
  · obtain ⟨entry, hentry, -⟩ := hseated state hcurrent
    have hpress : terminal.press letter = terminal.pressIn state key := by
      simp only [press, hkey, hcontains, hcurrent, if_true]
    have hend := terminal.pressIn_end state key
    rw [hpress]
    refine ⟨entry, hentry, pressIn_eq_allOrNothing hentry key, ?_⟩
    rcases hpressIn : terminal.pressIn state key with ⟨result, after⟩
    rw [hpressIn] at hend
    cases hend with
    | failed => simp
    | blocked => simp
    | stayed => simp
    | moved => simp

/-- A terminal in an information entry state, with a key logged and every key but `E` active.  The
state that it leads to has an invalid mask and keeps them.  In the selection state of the table `A`
and `C` are disabled. -/
def keepingTerminal : Terminal :=
  { table := (StateTable.ofChunks ["000X001010010010040033255000", "010X001000000000040033999000",
      "020E001000000255010255010000", "040Z001002003004005006007008"]).toOption.getD .empty
    current := StateNumber.ofText? "000"
    registers := {
      buffers := { keys := "E" }
      active := .ofList [.a, .b, .c, .d, .f, .g, .h, .i] }
    pressed := [.e] }

/-- Key `B` leads to the next state, which keeps the active keys.  Key `I`, for which there is no
value, leads nowhere, and its letter is taken back.  A disabled key of the selection state stays, and
so does any key without a state: both are logged and noted. -/
theorem press_keepingTerminal :
    let selecting : Terminal := { keepingTerminal with current := some ⟨20, by decide⟩ }
    let waiting : Terminal := { keepingTerminal with current := none }
    (keepingTerminal.Seated ∧ selecting.Seated ∧ waiting.Seated ∧
      keepingTerminal.isActive 'b' ∧ keepingTerminal.isActive 'I' ∧ selecting.isActive 'c' ∧
      waiting.isActive 'b' ∧ keepingTerminal.press 'e' = (.ok .ignored, keepingTerminal)) ∧
    ((keepingTerminal.press 'b').1 = .ok (.moved ⟨10, by decide⟩) ∧
      (keepingTerminal.press 'b').2.active = keepingTerminal.active ∧
      (keepingTerminal.press 'b').2.pressed = [] ∧
      (keepingTerminal.press 'b').2.buffers.keys = "EB" ∧
      (keepingTerminal.press 'b').2.buffers.amount.text = "000000002000") ∧
    (∃ entry, keepingTerminal.press 'I' =
      keepingTerminal.allOrNothing (keepingTerminal.pressSteps entry .i)) ∧
    keepingTerminal.press 'I' = (.error (.missingEntry ⟨40, by decide⟩ .i), keepingTerminal) ∧
    ((selecting.press 'c').1 = .ok .stayed ∧ (selecting.press 'c').2.pressed = [.e, .c] ∧
      (selecting.press 'c').2.buffers.keys = "EC" ∧
      (selecting.press 'c').2.active.display = "[BD]") ∧
    waiting.press 'b' = (.ok .stayed, (waiting.logged .b).recordKey .b) ∧
    (waiting.press 'b').2.buffers.keys = "EB" ∧ (waiting.press 'b').2.pressed = [.e, .b] := by
  intro selecting waiting
  have hseated : keepingTerminal.Seated ∧ selecting.Seated ∧ waiting.Seated := by decide
  have hactive : keepingTerminal.isActive 'b' ∧ keepingTerminal.isActive 'I' ∧
      selecting.isActive 'c' ∧ waiting.isActive 'b' := by decide
  obtain ⟨hkeeping, hselecting, hwaiting⟩ := hseated
  obtain ⟨hb, hi, hc, hbare⟩ := hactive
  have hmoved : (keepingTerminal.press 'b').1 = .ok (.moved ⟨10, by decide⟩) := by decide
  have hstayed : (selecting.press 'c').1 = .ok .stayed := by decide
  obtain ⟨_, -, -, hpress⟩ := (press_refines_steps hkeeping 'b').2 hb
  obtain ⟨-, -, -, harrived, -⟩ := hpress ⟨0, by decide⟩ rfl
  obtain ⟨key, hkey, -, hlast⟩ := (press_refines_steps hkeeping 'I').2 hi
  obtain ⟨entry, -, hsteps, -⟩ := hlast ⟨0, by decide⟩ rfl
  obtain rfl : .i = key := Option.some.inj hkey
  obtain ⟨disabled, hdisabled, -, hselect⟩ := (press_refines_steps hselecting 'c').2 hc
  obtain ⟨-, -, -, -, hkept⟩ := hselect ⟨20, by decide⟩ rfl
  obtain rfl : .c = disabled := Option.some.inj hdisabled
  obtain ⟨noted, hnoted, hwait, -⟩ := (press_refines_steps hwaiting 'b').2 hbare
  obtain rfl : .b = noted := Option.some.inj hnoted
  refine ⟨⟨hkeeping, hselecting, hwaiting, hb, hi, hc, hbare, rfl⟩,
    ⟨hmoved, by decide, (harrived _ hmoved).2, by decide, by decide⟩, ⟨entry, hsteps⟩, rfl,
    ⟨hstayed, hkept hstayed, by decide, by decide⟩, hwait rfl, ?_, ?_⟩
  · rw [hwait rfl]
    rfl
  · rw [hwait rfl]
    rfl

end TellerTerminal.Terminal
