import TellerTerminal.Proofs.Amount
import TellerTerminal.Proofs.AsciiText
import TellerTerminal.Proofs.BufferCalls
import TellerTerminal.Proofs.FieldText
import TellerTerminal.Proofs.Operations

/-!
# The amount is a number

Twelve digits are as good as the number that they denote: the number determines them, and after any
writes and clearings it is the number of the last text that was accepted, with nothing left of what
was written before or rejected since.
-/

namespace TellerTerminal.AmountBuffer

/-- The number that a text of digits denotes; an empty text denotes zero. -/
def numberOf (text : String) : Nat :=
  Nat.ofDigitChars 10 text.toList 0

/-- Whether the bytes of a text are digits, one by one. -/
def HasDigitBytes (text : String) : Prop :=
  ∀ byte ∈ text.toByteArray.data, 48 ≤ byte ∧ byte ≤ 57

variable {amount other : AmountBuffer} {value : String}

section Writing

/-- A text fits by its bytes exactly if it does by its characters. -/
theorem fits_iff_bytes : Fits value ↔ HasDigitBytes value ∧ value.utf8ByteSize ≤ 12 := by
  rw [Fits, HasDigitBytes, ← forall_isDigit_iff_bytes]
  refine and_congr_right fun hdigits => ?_
  rw [utf8ByteSize_of_ascii fun c hc => ascii_of_isDigit (hdigits c hc)]

/-- Digits are looked for first, and the length is checked of digits alone. -/
theorem ofText_eq_error_iff {error : BufferError} : ofText value = .error error ↔
    error = .nonDigitAmount value ∧ ¬ HasDigitBytes value ∨
      error = .amountTooLong value ∧ HasDigitBytes value ∧ 12 < value.utf8ByteSize := by
  have hdigits : value.toList.all Char.isDigit ↔ HasDigitBytes value := by
    rw [HasDigitBytes, ← forall_isDigit_iff_bytes, List.all_eq_true]
  unfold ofText
  split_ifs with hcheck hlength
  · have hfits := fits_iff_bytes.mp ⟨List.all_eq_true.mp hcheck, hlength⟩
    refine iff_of_false (by simp) ?_
    rintro (⟨-, hnot⟩ | ⟨-, -, hlong⟩)
    · exact hnot hfits.1
    · exact Nat.not_lt.mpr hfits.2 hlong
  · have hbytes := hdigits.mp hcheck
    have hlong : 12 < value.utf8ByteSize := by
      refine Nat.lt_of_not_le fun hshort => hlength ?_
      exact (fits_iff_bytes.mpr ⟨hbytes, hshort⟩).2
    simp [hbytes, hlong, eq_comm]
  · have hbytes : ¬ HasDigitBytes value := fun hbytes => hcheck (hdigits.mpr hbytes)
    simp [hbytes, eq_comm]

end Writing

theorem ofDigitChars_inj {xs ys : List Char} {m n : Nat} (hlength : xs.length = ys.length)
    (hxs : ∀ c ∈ xs, c.isDigit) (hys : ∀ c ∈ ys, c.isDigit)
    (h : Nat.ofDigitChars 10 xs m = Nat.ofDigitChars 10 ys n) : m = n ∧ xs = ys := by
  -- The numbers in front are free, since those of the induction step have a digit more.
  induction xs generalizing ys m n with
  | nil =>
      obtain rfl := List.eq_nil_of_length_eq_zero hlength.symm
      exact ⟨h, rfl⟩
  | cons c rest ih =>
      obtain ⟨d, others, rfl⟩ := List.exists_cons_of_length_eq_add_one hlength.symm
      obtain ⟨hc, hrest⟩ := List.forall_mem_cons.mp hxs
      obtain ⟨hd, hothers⟩ := List.forall_mem_cons.mp hys
      obtain ⟨i, hi, rfl⟩ := exists_digitChar_of_isDigit hc
      obtain ⟨j, hj, rfl⟩ := exists_digitChar_of_isDigit hd
      rw [Nat.ofDigitChars_cons_digitChar_of_lt_ten hi,
        Nat.ofDigitChars_cons_digitChar_of_lt_ten hj] at h
      obtain ⟨hinit, rfl⟩ := ih (Nat.succ.inj hlength) hrest hothers h
      obtain ⟨rfl, rfl⟩ : m = n ∧ i = j := by omega
      exact ⟨rfl, rfl⟩

/-- Buffers have twelve digits each, so that none differ in leading zeros only. -/
theorem eq_iff_value_eq : amount = other ↔ amount.value = other.value := by
  constructor
  · rintro rfl
    rfl
  · intro h
    have hlength := amount.length_eq.trans other.length_eq.symm
    have hdigits := (ofDigitChars_inj hlength amount.isDigit other.isDigit h).2
    exact eq_of_text_eq (congrArg String.ofList hdigits)

theorem value_of_ofText (h : ofText value = .ok amount) : amount.value = numberOf value :=
  value_of_text_eq (ofText_eq_ok_iff.mp h).2

section Calls

/-- A write takes no account of what the buffer holds. -/
def store (_amount : AmountBuffer) (value : String) : Except BufferError AmountBuffer :=
  ofText value

/-- The buffer after calls, reset at first. -/
def afterCalls (calls : List (BufferCall String)) : AmountBuffer :=
  BufferCall.run store reset calls

/-- The last text that fitted since the last clearing, and otherwise the empty text. -/
def lastFitting (calls : List (BufferCall String)) : String :=
  (BufferCall.last? (fun value => if Fits value then some value else none) calls).getD ""

theorem value_afterCalls (calls : List (BufferCall String)) :
    (afterCalls calls).value = numberOf (lastFitting calls) := by
  refine BufferCall.run_last
    (fun last (amount : AmountBuffer) => amount.value = numberOf (last.getD "")) (by decide)
    (fun _ value written last hstore _ => ?_) (fun _ value hrejected => ?_) calls
  · have hfits : Fits value := exists_ofText_eq_ok_iff.mp ⟨_, hstore⟩
    rw [if_pos hfits]
    exact value_of_ofText hstore
  · exact if_neg (mt exists_ofText_eq_ok_iff.mpr hrejected)

theorem lastFitting_concat (calls : List (BufferCall String)) (h : Fits value) :
    lastFitting (calls ++ [.write value]) = value := by
  rw [lastFitting, BufferCall.last?_concat]
  simp [BufferCall.isClear, BufferCall.storedBy?, h]

theorem afterCalls_eq_iff {calls others : List (BufferCall String)} :
    afterCalls calls = afterCalls others ↔
      numberOf (lastFitting calls) = numberOf (lastFitting others) := by
  rw [eq_iff_value_eq, value_afterCalls, value_afterCalls]

/-- A terminal writes its amount by a call on the buffer. -/
theorem setAmount_some (terminal : Terminal) (value : String) :
    ((terminal.setAmount (some value)).1, (terminal.setAmount (some value)).2.buffers.amount) =
      (BufferCall.write value).apply store reset terminal.buffers.amount := by
  unfold Terminal.setAmount
  cases htext : ofText value with
  | ok written => simp [BufferCall.apply, store, htext, Terminal.buffers]
  | error error => simp [BufferCall.apply, store, htext]

end Calls

/-- A write succeeds exactly if all bytes of its text are digits and there are at most twelve.  A
byte that is no digit is reported even where there are too many.  After any calls the buffer is
twelve digits, and they denote the number of the last text that was accepted since the last
clearing, or zero without one.  Nothing else that was written makes a difference, and two accepted
texts leave the same digits exactly if they denote the same number. -/
theorem amount_denotes_last_fitting :
    (∀ amount value,
      let result := ((BufferCall.write value).apply store reset amount).1
      (result = .ok () ↔ Fits value) ∧
        (Fits value ↔ HasDigitBytes value ∧ value.utf8ByteSize ≤ 12) ∧
        ∀ error, result = .error error ↔
          error = .nonDigitAmount value ∧ ¬ HasDigitBytes value ∨
            error = .amountTooLong value ∧ HasDigitBytes value ∧ 12 < value.utf8ByteSize) ∧
      (∀ (terminal : Terminal) value,
        ((terminal.setAmount (some value)).1, (terminal.setAmount (some value)).2.buffers.amount) =
          (BufferCall.write value).apply store reset terminal.buffers.amount) ∧
      (∀ calls, (afterCalls calls).text.toList.length = 12 ∧
        (∀ c ∈ (afterCalls calls).text.toList, c.isDigit) ∧
        (afterCalls calls).value = numberOf (lastFitting calls)) ∧
      (∀ calls others, afterCalls calls = afterCalls others ↔
        numberOf (lastFitting calls) = numberOf (lastFitting others)) ∧
      ∀ calls others value value', Fits value → Fits value' →
        (afterCalls (calls ++ [.write value]) = afterCalls (others ++ [.write value']) ↔
          numberOf value = numberOf value') := by
  refine ⟨fun amount value => ⟨?_, fits_iff_bytes, fun error => ?_⟩,
    setAmount_some,
    fun calls => ⟨length_text _, fun _ => isDigit_of_mem_text, value_afterCalls calls⟩,
    fun _ _ => afterCalls_eq_iff, fun calls others value value' h h' => ?_⟩
  · exact BufferCall.apply_eq_ok_iff.trans exists_ofText_eq_ok_iff
  · exact BufferCall.apply_eq_error_iff.trans ofText_eq_error_iff
  · rw [afterCalls_eq_iff, lastFitting_concat calls h, lastFitting_concat others h']

/-- What was written before the clearing is gone, a text with a point or with thirteen digits is as
good as none, and leading zeros make no difference. -/
theorem amount_denotes_last_fitting_seven :
    let calls : List (BufferCall String) :=
      [.write "15067", .clear, .write "007", .write "12.50", .write "1234567890123"]
    (afterCalls calls).value = 7 ∧
      ((BufferCall.write "1234567890.123").apply store reset (afterCalls calls)).1 =
        .error (.nonDigitAmount "1234567890.123") ∧
      (Fits "7" ∧ Fits "000000000007") ∧
      afterCalls (calls ++ [.write "7"]) = afterCalls [.write "000000000007"] := by
  intro calls
  obtain ⟨hwrite, -, hvalue, -, hsame⟩ := amount_denotes_last_fitting
  have hseven : Fits "7" ∧ Fits "000000000007" :=
    ⟨⟨List.all_eq_true.mp rfl, by decide⟩, List.all_eq_true.mp rfl, by decide⟩
  have hpoint : ¬ HasDigitBytes "1234567890.123" := fun h =>
    absurd (List.all_eq_true.mpr (forall_isDigit_iff_bytes.mpr h)) (by decide)
  exact ⟨(hvalue calls).2.2.trans (by decide),
    ((hwrite _ _).2.2 _).mpr (.inl ⟨rfl, hpoint⟩), hseven,
    (hsame calls [] "7" "000000000007" hseven.1 hseven.2).mpr rfl⟩

end TellerTerminal.AmountBuffer
