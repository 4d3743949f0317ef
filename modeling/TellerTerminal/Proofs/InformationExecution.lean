import TellerTerminal.Proofs.Amount
import TellerTerminal.Proofs.Execution

/-!
# Executing an information entry state

An information entry state reads the last key of the history and nothing before it.  Without a key
it only sets its active keys.  With one it looks up the literal at the rank of the key, appends its
zeros and stores the value, and whatever it lacks for that is found out before anything is written.
`KeyEnd` lists the ways in which that can end; which of them it is depends on the extension, the
key, the target and the value, and never on what the registers hold.
-/

namespace TellerTerminal

/-- Of all keys only the last one has no literal. -/
theorem Extension.literal?_eq_none_iff {extension : Extension} {key : FunctionKey} :
    extension.literal? key = none ↔ key = .i := by
  rw [literal?, Vector.getElem?_eq_none_iff]
  cases key with
  | _ => decide

namespace InformationEntry

/-- The value of a literal is in the buffers: it has replaced what the target held, and the other
buffers are as they were. -/
inductive Stores (state : InformationEntry) (literal : String) (buffers : Buffers) : Buffers → Prop
  | b (htarget : state.bufferId.target = .b) :
      Stores state literal buffers { buffers with b := state.value literal }
  | c (htarget : state.bufferId.target = .c) :
      Stores state literal buffers { buffers with c := state.value literal }
  | amount {amount : AmountBuffer} (htarget : state.bufferId.target = .amount)
      (hfits : AmountBuffer.Fits (state.value literal))
      (htext : amount.text = String.ofList ((state.value literal).toList.leftpad 12 '0'))
      (hvalue : amount.value =
        Nat.ofDigitChars 10 literal.toList 0 * Nat.pow 10 state.bufferId.zeros) :
      Stores state literal buffers { buffers with amount }

/-- How an execution can end whose history ends with the key. -/
inductive KeyEnd (state : InformationEntry) (key : FunctionKey) (registers : Registers) :
    Option Extension → Except ExecutionError Transition → Registers → Prop
  | missingExtension :
      KeyEnd state key registers none
        (.error (.missingExtension state.number state.extension)) registers
  | missingEntry {extension : Extension} (hkey : key = .i) :
      KeyEnd state key registers (some extension)
        (.error (.missingEntry extension.number key)) registers
  | overflow {extension : Extension} {literal : String}
      (hliteral : extension.literals[key.rank.val]? = some literal)
      (htarget : state.bufferId.target = .amount)
      (hfits : ¬ AmountBuffer.Fits (state.value literal)) :
      KeyEnd state key registers (some extension)
        (.error (.amountOverflow state.number (state.value literal))) registers
  | stored {extension : Extension} {literal : String} {buffers : Buffers}
      (hliteral : extension.literals[key.rank.val]? = some literal)
      (hstores : state.Stores literal registers.buffers buffers) :
      KeyEnd state key registers (some extension) (.ok (.next state.next))
        { buffers, active := (KeySet.ofMask state.mask).toOption.getD registers.active }

variable {state : InformationEntry} {literal : String} {buffers after : Buffers}

/-- The zeros of the state multiply the number of the literal. -/
theorem ofDigitChars_value (state : InformationEntry) (literal : String) :
    Nat.ofDigitChars 10 (state.value literal).toList 0 =
      Nat.ofDigitChars 10 literal.toList 0 * Nat.pow 10 state.bufferId.zeros := by
  rw [toList_value, AmountBuffer.ofDigitChars_append_zeros]

theorem store_eq_ok_iff :
    state.store (state.value literal) buffers = .ok after ↔
      state.Stores literal buffers after := by
  constructor
  · intro h
    cases htarget : state.bufferId.target with
    | b =>
        rw [store, htarget] at h
        obtain rfl := Except.ok.inj h
        exact .b htarget
    | c =>
        rw [store, htarget] at h
        obtain rfl := Except.ok.inj h
        exact .c htarget
    | amount =>
        cases hamount : AmountBuffer.ofText (state.value literal) with
        | error error =>
            simp only [store, htarget, hamount] at h
            contradiction
        | ok amount =>
            simp only [store, htarget, hamount] at h
            obtain rfl := Except.ok.inj h
            obtain ⟨hfits, htext⟩ := AmountBuffer.ofText_eq_ok_iff.mp hamount
            refine .amount htarget hfits htext ?_
            rw [AmountBuffer.value_of_text_eq htext, ofDigitChars_value]
  · intro h
    cases h with
    | b htarget => simp only [store, htarget]
    | c htarget => simp only [store, htarget]
    | amount htarget hfits htext =>
        simp only [store, htarget, AmountBuffer.ofText_eq_ok_iff.mpr ⟨hfits, htext⟩]

/-- Only the amount buffer refuses a value, and its error names the state and the value. -/
theorem store_eq_error_iff {error : ExecutionError} :
    state.store (state.value literal) buffers = .error error ↔
      (state.bufferId.target = .amount ∧ ¬ AmountBuffer.Fits (state.value literal)) ∧
        error = .amountOverflow state.number (state.value literal) := by
  cases htarget : state.bufferId.target with
  | b => simp [store, htarget]
  | c => simp [store, htarget]
  | amount =>
      by_cases hfits : AmountBuffer.Fits (state.value literal)
      · obtain ⟨amount, hamount⟩ := AmountBuffer.exists_ofText_eq_ok_iff.mpr hfits
        simp [store, htarget, hamount, hfits]
      · cases hamount : AmountBuffer.ofText (state.value literal) with
        | ok amount =>
            exact absurd (AmountBuffer.exists_ofText_eq_ok_iff.mp ⟨amount, hamount⟩) hfits
        | error cause => simp [store, htarget, hamount, hfits, eq_comm]

variable {key : FunctionKey} {registers later : Registers} {extension? : Option Extension}
  {result : Except ExecutionError Transition}

theorem KeyEnd.execute_eq (h : state.KeyEnd key registers extension? result later) :
    state.execute extension? [key] registers = (result, later) := by
  cases h with
  | missingExtension => rfl
  | missingEntry hkey =>
      simp [execute, storeKey, Extension.literal?_eq_none_iff.mpr hkey]
  | @overflow extension literal hliteral htarget hfits =>
      have hfound : extension.literal? key = some literal := hliteral
      have hstore : state.store (state.value literal) registers.buffers =
          .error (.amountOverflow state.number (state.value literal)) :=
        store_eq_error_iff.mpr ⟨⟨htarget, hfits⟩, rfl⟩
      simp [execute, storeKey, hfound, hstore]
  | @stored extension literal buffers hliteral hstores =>
      have hfound : extension.literal? key = some literal := hliteral
      have hstore := store_eq_ok_iff.mpr hstores
      simp [execute, storeKey, hfound, hstore, StateEntry.activeKeys_eq, StateEntry.keyRule?]

/-- One of the ends is reached, and by `KeyEnd.execute_eq` no other one. -/
theorem exists_keyEnd (state : InformationEntry) (key : FunctionKey) (registers : Registers)
    (extension? : Option Extension) :
    ∃ result later, state.KeyEnd key registers extension? result later := by
  cases extension? with
  | none => exact ⟨_, _, .missingExtension⟩
  | some extension =>
      cases hliteral : extension.literal? key with
      | none => exact ⟨_, _, .missingEntry (Extension.literal?_eq_none_iff.mp hliteral)⟩
      | some literal =>
          cases hstore : state.store (state.value literal) registers.buffers with
          | error error =>
              obtain ⟨⟨htarget, hfits⟩, -⟩ := store_eq_error_iff.mp hstore
              exact ⟨_, _, .overflow hliteral htarget hfits⟩
          | ok buffers => exact ⟨_, _, .stored hliteral (store_eq_ok_iff.mp hstore)⟩

theorem execute_eq_iff_keyEnd :
    state.execute extension? [key] registers = (result, later) ↔
      state.KeyEnd key registers extension? result later := by
  refine ⟨fun h => ?_, KeyEnd.execute_eq⟩
  obtain ⟨reached, left, hend⟩ := exists_keyEnd state key registers extension?
  obtain ⟨rfl, rfl⟩ := Prod.mk.inj (hend.execute_eq.symm.trans h)
  exact hend

/-- What stands in records is never too long: only a literal that is no number does not fit. -/
theorem fits_value_iff_of_isRecorded {extension : Extension}
    (hstate : (StateEntry.information state).IsRecorded)
    (hextension : (StateEntry.extension extension).IsRecorded)
    (hliteral : literal ∈ extension.literals) :
    AmountBuffer.Fits (state.value literal) ↔ ∀ c ∈ literal.toList, c.isDigit := by
  have hzeros := StateEntry.zeros_le_nine_of_isRecorded hstate
  have hlength := StateEntry.length_literal_of_isRecorded hextension hliteral
  rw [AmountBuffer.Fits, toList_value, List.forall_mem_append, List.length_append,
    List.length_replicate]
  constructor
  · exact fun h => h.1.1
  · intro hdigits
    refine ⟨⟨hdigits, fun c hc => ?_⟩, by omega⟩
    rw [List.eq_of_mem_replicate hc]
    decide

end InformationEntry

namespace StateEntry

/-- An information entry state sees the last key of the history alone.  Without a key it stays and
sets its keys, unless its mask is invalid.  With a key it ends as `KeyEnd` says and in no other way,
where the value of a literal is the literal with the zeros of the state after it.  In a table of
records, where literals are short and zeros few, an amount is refused only for a literal that is no
number. -/
theorem execute_information (state : InformationEntry) (extension? : Option Extension)
    (registers : Registers) :
    let execute := (information state).execute extension?
    (∀ pressed, execute pressed registers = execute pressed.getLast?.toList registers) ∧
      execute [] registers = (.ok .stay, { registers with
        active := (KeySet.ofMask state.mask).toOption.getD registers.active }) ∧
      (∀ key result after, execute [key] registers = (result, after) ↔
        state.KeyEnd key registers extension? result after) ∧
      (∀ literal, (state.value literal).toList =
        literal.toList ++ List.replicate state.bufferId.zeros '0') ∧
      ∀ extension literal, (information state).IsRecorded →
        (StateEntry.extension extension).IsRecorded → literal ∈ extension.literals →
          (AmountBuffer.Fits (state.value literal) ↔ ∀ c ∈ literal.toList, c.isDigit) := by
  refine ⟨fun pressed => ?_, ?_, fun key result after => ?_, state.toList_value,
    fun extension literal => ?_⟩
  · exact execute_eq_of_getLast? (information state) extension? pressed registers
  · exact execute_nil rfl
  · exact InformationEntry.execute_eq_iff_keyEnd
  · exact InformationEntry.fits_value_iff_of_isRecorded

/-- The state of `037X037002131038050039999000`: nine zeros, and a mask that is no mask. -/
def roundSum : InformationEntry where
  number := ⟨37, by decide⟩
  screen := "037"
  timeout := ⟨2, by decide⟩
  cancel := ⟨131, by decide⟩
  next := ⟨38, by decide⟩
  extension := ⟨50, by decide⟩
  bufferId := ⟨.amount, 9⟩
  mask := "999"

/-- The extension of `050Z150250400600 00100050020`, with a blank where a digit is due. -/
def sums : Extension :=
  ⟨⟨50, by decide⟩, #v["150", "250", "400", "600", " 00", "100", "050", "020"]⟩

/-- Three digits and nine zeros fill the amount buffer to the brim.  The blank is refused.  With a
mask in place of the invalid one the keys of the mask are set, with and without a key. -/
theorem execute_roundSum :
    let masked : InformationEntry := { roundSum with mask := "060" }
    (information roundSum).IsRecorded ∧ (extension sums).IsRecorded ∧ "250" ∈ sums.literals ∧
      AmountBuffer.Fits (roundSum.value "250") ∧
      (∃ buffers, (information roundSum).execute (some sums) [.e, .b] { active := .ofList [.i] } =
          (.ok (.next ⟨38, by decide⟩), { buffers, active := .ofList [.i] }) ∧
        buffers.amount.text = "250000000000" ∧ buffers.amount.value = 250 * Nat.pow 10 9) ∧
      (information roundSum).execute (some sums) [.b, .e] {} =
        (.error (.amountOverflow ⟨37, by decide⟩ " 00000000000"), {}) ∧
      (∃ keys, keys.display = "[CDFG]" ∧
        (information masked).execute (some sums) [] { active := .ofList [.i] } =
          (.ok .stay, { active := keys }) ∧
        ∃ buffers, (information masked).execute (some sums) [.e, .b] { active := .ofList [.i] } =
          (.ok (.next ⟨38, by decide⟩), { buffers, active := keys }) ∧
        buffers.amount.text = "250000000000") := by
  intro masked
  have hstate : (information roundSum).IsRecorded := ⟨"037X037002131038050039999000", by decide⟩
  have hextension : (extension sums).IsRecorded := ⟨"050Z150250400600 00100050020", by decide⟩
  have hmem : "250" ∈ sums.literals := Vector.mem_iff_getElem.mpr ⟨1, by decide, rfl⟩
  obtain ⟨hlast, -, hends, -, hfits⟩ :=
    execute_information roundSum (some sums) { active := .ofList [.i] }
  obtain ⟨-, -, hfails, -⟩ := execute_information roundSum (some sums) {}
  obtain ⟨hlater, hnone, hreaches, -⟩ :=
    execute_information masked (some sums) { active := .ofList [.i] }
  obtain ⟨keys, hmask, hshown⟩ : ∃ keys, KeySet.ofMask masked.mask = .ok keys ∧
      keys.display = "[CDFG]" := ⟨.ofList [.c, .d, .f, .g], by decide, by decide⟩
  have hkeys : (KeySet.ofMask masked.mask).toOption.getD (.ofList [.i]) = keys := by
    rw [hmask]
    rfl
  have hfit : AmountBuffer.Fits (roundSum.value "250") :=
    (hfits sums "250" hstate hextension hmem).mpr (List.all_eq_true.mp rfl)
  obtain ⟨amount, hamount⟩ := AmountBuffer.exists_ofText_eq_ok_iff.mpr hfit
  obtain ⟨-, htext⟩ := AmountBuffer.ofText_eq_ok_iff.mp hamount
  have hvalue : amount.value = 250 * Nat.pow 10 9 := AmountBuffer.value_of_text_eq htext
  rw [hkeys] at hnone
  refine ⟨hstate, hextension, hmem, hfit, ?_, ?_, keys, hshown, hnone, ?_⟩
  · have hend := (hends .b _ _).mpr (.stored rfl (.amount rfl hfit htext hvalue))
    exact ⟨_, (hlast [.e, .b]).trans hend, htext, hvalue⟩
  · have hlong : ¬ AmountBuffer.Fits (roundSum.value " 00") := by decide
    exact (hfails .e _ _).mpr (.overflow rfl rfl hlong)
  · have hend := (hreaches .b _ _).mpr (.stored rfl (.amount rfl hfit htext hvalue))
    rw [hkeys] at hend
    exact ⟨_, (hlater [.e, .b]).trans hend, htext⟩

end StateEntry

end TellerTerminal
