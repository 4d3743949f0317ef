import TellerTerminal.Proofs.Keys
import TellerTerminal.Proofs.Record
import TellerTerminal.State.Execution

/-!
# What an execution does to the registers

An execution that fails writes nothing.  One that succeeds sets the active keys by the rule of its
entry, whatever key was pressed, and an entry that has no rule keeps the keys that were active.
Without a pressed key an entry of either executable type succeeds, and the keys are all it sets.
With one it fails for a value that it lacks or cannot store, whereas an entry of any other type is
refused by its number.
-/

namespace TellerTerminal

namespace Selection

/-- The keys among `A` to `D` whose own field holds a next state. -/
def keyRule (state : Selection) : KeySet :=
  .ofList (([(.a, state.nextA), (.b, state.nextB), (.c, state.nextC), (.d, state.nextD)].filter
    fun field => field.2.isSome).map Prod.fst)

theorem contains_keyRule (state : Selection) (key : FunctionKey) :
    state.keyRule.contains key = (state.next? key).isSome := by
  rw [keyRule, KeySet.contains_ofList]
  cases key <;> simp [next?]

theorem enabledKeys_eq_keyRule (state : Selection) : state.enabledKeys = state.keyRule := by
  rw [KeySet.eq_iff_contains]
  intro key
  rw [contains_keyRule, enabledKeys, KeySet.contains_ofList]
  cases key <;> simp [keys, next?]

theorem mem_keys_of_next? {state : Selection} {key : FunctionKey} {next : StateNumber}
    (h : state.next? key = some next) : key ∈ keys := by
  cases key with
  | a | b | c | d => decide
  | _ => contradiction

theorem active_execute (state : Selection) (pressed : List FunctionKey) (registers : Registers) :
    (state.execute pressed registers).2.active = state.keyRule := by
  rw [← enabledKeys_eq_keyRule]
  unfold execute
  split
  · rfl
  · split_ifs <;> rfl

end Selection

/-- The state that an error refuses to execute at all, whatever its registers. -/
def ExecutionError.refused? : ExecutionError → Option StateNumber
  | unknownState state => some state
  | unsupported state _ => some state
  | missingExtension _ _ => none
  | missingEntry _ _ => none
  | amountOverflow _ _ => none

theorem InformationEntry.toList_value (state : InformationEntry) (literal : String) :
    (state.value literal).toList =
      literal.toList ++ List.replicate state.bufferId.zeros '0' := by
  simp [value]

theorem InformationEntry.refused?_of_storeKey {state : InformationEntry}
    {extension? : Option Extension} {key : FunctionKey} {buffers : Buffers}
    {error : ExecutionError} (h : state.storeKey extension? key buffers = .error error) :
    error.refused? = none := by
  unfold storeKey store at h
  split at h
  next => exact Except.error.inj h ▸ rfl
  next extension =>
    split at h
    next => exact Except.error.inj h ▸ rfl
    next literal _ =>
      split at h
      next => contradiction
      next => contradiction
      next =>
        split at h
        next => contradiction
        next => exact Except.error.inj h ▸ rfl

namespace StateEntry

/-- The types that can be executed. -/
def isExecutable : StateEntry → Bool
  | information _ => true
  | selection _ => true
  | extension _ => false
  | other _ => false

/-- The active keys that an entry asks for.  An information entry state with an invalid mask asks
for none in particular. -/
def keyRule? : StateEntry → Option KeySet
  | information state => (KeySet.ofMask state.mask).toOption
  | selection state => some state.keyRule
  | extension _ => none
  | other _ => none

theorem activeKeys_eq (state : InformationEntry) (active : KeySet) :
    state.activeKeys active = (information state).keyRule?.getD active := by
  rw [InformationEntry.activeKeys]
  cases hmask : KeySet.ofMask state.mask <;> simp [keyRule?, hmask, Except.toOption]

/-- Records have decimal masks only, so no rule of an entry that stands in one names `E`. -/
theorem contains_e_of_keyRule? {entry : StateEntry} (hrecorded : entry.IsRecorded) {keys : KeySet}
    (hrule : entry.keyRule? = some keys) : keys.contains .e = false := by
  cases entry with
  | information state =>
      have hmask : KeySet.ofMask state.mask = .ok keys := toOption_eq_some_iff.mp hrule
      exact KeySet.contains_e_of_ofMask (length_mask_of_isRecorded hrecorded) hmask
  | selection state =>
      obtain rfl := Option.some.inj hrule
      exact state.contains_keyRule .e
  | extension state => exact absurd hrule (by simp [keyRule?])
  | other state => exact absurd hrule (by simp [keyRule?])

variable {extension? : Option Extension} {pressed : List FunctionKey} {registers after : Registers}

/-- Of the history an execution sees the last key alone. -/
theorem execute_eq_of_getLast? (entry : StateEntry) (extension? : Option Extension)
    (pressed : List FunctionKey) (registers : Registers) :
    entry.execute extension? pressed registers =
      entry.execute extension? pressed.getLast?.toList registers := by
  have hlast : pressed.getLast?.toList.getLast? = pressed.getLast? := by
    cases pressed.getLast? <;> rfl
  cases entry with
  | information state => simp only [execute, InformationEntry.execute, hlast]
  | selection state => simp only [execute, Selection.execute, hlast]
  | extension state => rfl
  | other state => rfl

/-- The ends of an execution: it fails, for a value only if the entry can be executed at all, or it
sets the active keys by the rule of the entry. -/
inductive ExecuteEnd (entry : StateEntry) (registers : Registers) :
    Except ExecutionError Transition → Registers → Prop
  | failed {error : ExecutionError} (hrefused : entry.isExecutable → error.refused? = none) :
      ExecuteEnd entry registers (.error error) registers
  | succeeded {transition : Transition} {after : Registers}
      (hactive : after.active = entry.keyRule?.getD registers.active) :
      ExecuteEnd entry registers (.ok transition) after

theorem execute_end (entry : StateEntry) (extension? : Option Extension)
    (pressed : List FunctionKey) (registers : Registers) :
    entry.ExecuteEnd registers (entry.execute extension? pressed registers).1
      (entry.execute extension? pressed registers).2 := by
  cases entry with
  | information state =>
      have hactive := activeKeys_eq state registers.active
      rw [execute, InformationEntry.execute]
      cases pressed.getLast? with
      | none => exact .succeeded hactive
      | some key =>
          cases hstore : state.storeKey extension? key registers.buffers with
          | error error =>
              simp only [hstore]
              exact .failed fun _ => InformationEntry.refused?_of_storeKey hstore
          | ok buffers =>
              simp only [hstore]
              exact .succeeded hactive
  | selection state => exact .succeeded (state.active_execute pressed registers)
  | extension state => exact .failed fun hexecutable => nomatch hexecutable
  | other state => exact .failed fun hexecutable => nomatch hexecutable

theorem ExecuteEnd.of_eq {entry : StateEntry} {result : Except ExecutionError Transition}
    (h : entry.execute extension? pressed registers = (result, after)) :
    entry.ExecuteEnd registers result after := by
  have hend := entry.execute_end extension? pressed registers
  rwa [h] at hend

theorem registers_of_execute_eq_error {entry : StateEntry} {error : ExecutionError}
    (h : entry.execute extension? pressed registers = (.error error, after)) :
    after = registers := by
  cases ExecuteEnd.of_eq h with
  | failed => rfl

theorem active_of_execute_eq_ok {entry : StateEntry} {transition : Transition}
    (h : entry.execute extension? pressed registers = (.ok transition, after)) :
    after.active = entry.keyRule?.getD registers.active := by
  cases ExecuteEnd.of_eq h with
  | succeeded hactive => exact hactive

/-- An entry that can be executed fails for a value only, never by itself. -/
theorem refused?_of_execute {entry : StateEntry} (hexecutable : entry.isExecutable)
    {error : ExecutionError}
    (h : entry.execute extension? pressed registers = (.error error, after)) :
    error.refused? = none := by
  cases ExecuteEnd.of_eq h with
  | failed hrefused => exact hrefused hexecutable

/-- With an empty history only the active keys change. -/
theorem execute_nil {entry : StateEntry} (hexecutable : entry.isExecutable) :
    entry.execute extension? [] registers =
      (.ok .stay, { registers with active := entry.keyRule?.getD registers.active }) := by
  cases entry with
  | information state => simp [execute, InformationEntry.execute, activeKeys_eq]
  | selection state =>
      rw [keyRule?, ← Selection.enabledKeys_eq_keyRule]
      rfl
  | extension state => contradiction
  | other state => contradiction

theorem execute_of_not_isExecutable {entry : StateEntry} (h : entry.isExecutable = false) :
    entry.execute extension? pressed registers =
      (.error (.unsupported entry.number entry.typeCode), registers) := by
  cases entry with
  | information state => contradiction
  | selection state => contradiction
  | extension state => rfl
  | other state => rfl

end StateEntry

end TellerTerminal
