import TellerTerminal.Proofs.Writes

/-!
# The key buffer is a log

The key buffer of a terminal holds the letters of all presses that were accepted since its buffers
were last reset.  A press that is ignored or fails leaves it alone, and so does everything else
that can be done to a terminal: states are entered, tables replaced and entries executed without a
trace in it.  The history of keys is another list, which a change of state clears.
-/

namespace TellerTerminal.Operation

theorem toUpper_of_ofLetter? {letter : Char} {key : FunctionKey}
    (h : FunctionKey.ofLetter? letter = some key) : letter.toUpper = key.letter := by
  have hfound := List.find?_some h
  exact (of_decide_eq_true hfound).symm

/-- The operations of a run with their results. -/
def steps (terminal : Terminal) (settings : Settings) (operations : List Operation) :
    List (Operation × OperationResult) :=
  operations.zip (run terminal settings operations).1

/-- The letters of the presses that were accepted since the last reset of the buffers, or since the
start without one. -/
def lettersSinceReset (steps : List (Operation × OperationResult)) : List Char :=
  (steps.rtakeWhile fun step => !isReset step).filterMap acceptedLetter?

/-- The letters since the last reset, with one more step. -/
def noteLetter (letters : List Char) (step : Operation × OperationResult) : List Char :=
  if isReset step then [] else letters ++ (acceptedLetter? step).toList

theorem foldl_noteLetter (steps : List (Operation × OperationResult)) :
    steps.foldl noteLetter [] = lettersSinceReset steps := by
  induction steps using List.reverseRecOn with
  | nil => rfl
  | append_singleton earlier step ih =>
      rw [List.foldl_concat, ih]
      exact (filterMap_rtakeWhile_concat isReset acceptedLetter? earlier step).symm

theorem BuffersEnd.keys_eq {buffers after : Buffers} {step : Operation × OperationResult}
    (hend : BuffersEnd buffers step after) :
    after.keys.toList = noteLetter buffers.keys.toList step := by
  cases hend with
  | written hletter hreset hwrite =>
      rw [hwrite.keys_eq]
      simp [noteLetter, hletter, hreset]
  | @pressed letter key result _ haccepted hkey hwrite =>
      have hletter : acceptedLetter? (press letter, .press result) = some letter.toUpper :=
        if_pos haccepted
      have hreset : isReset (press letter, .press result) = false := rfl
      rw [hwrite.keys_eq]
      simp [noteLetter, hletter, hreset, toUpper_of_ofLetter? hkey]
  | reset => rfl

/-- A run extends the log step by step, and each step sees only what the one before it left. -/
theorem keys_run (operations : List Operation) (terminal : Terminal) (settings : Settings) :
    (run terminal settings operations).2.1.buffers.keys.toList =
      (steps terminal settings operations).foldl noteLetter terminal.buffers.keys.toList := by
  induction operations generalizing terminal settings with
  | nil => rfl
  | cons operation rest ih =>
      have hfirst := (operation.buffers_end terminal settings).keys_eq
      have hrest := ih (operation.apply terminal settings).2.1
        (operation.apply terminal settings).2.2
      rw [hfirst] at hrest
      exact hrest

/-- After any operations on a new terminal its key buffer holds the capital letters of the presses
that stayed or moved since the last reset of the buffers, in their order, and nothing else. -/
theorem keys_eq_lettersSinceReset (config : TerminalConfig) (settings : Settings)
    (operations : List Operation) :
    let start := Terminal.start config settings
    (run start settings operations).2.1.buffers.keys =
      String.ofList (lettersSinceReset (steps start settings operations)) := by
  intro start
  have hempty : start.buffers.keys.toList = [] := by
    simp [start, Terminal.start_eq, Terminal.buffers]
  have hkeys := keys_run operations start settings
  rw [hempty, foldl_noteLetter] at hkeys
  rw [← hkeys, String.ofList_toList]

/-- Key `E` is not active, the key `C` is only recorded, and `I` was pressed before the reset. -/
example : lettersSinceReset (steps (Terminal.start {} {}) {} [.setMask "255", .press 'i',
    .initBuffers, .press 'b', .press 'E', .recordKey .c, .press 'A']) = ['B', 'A'] := by
  decide

end TellerTerminal.Operation
