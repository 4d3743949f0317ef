import Mathlib.Tactic.Common
import TellerTerminal.Buffers.Amount

/-!
# Writing the amount buffer

A text fits the amount buffer if it consists of digits, of which there are no more than the buffer
holds.  The zeros that fill the buffer stand in front of the text and do not count, so that the
buffer denotes the number of the text.  Zeros behind a literal count ten times each.
-/

namespace TellerTerminal.AmountBuffer

/-- Digits only, and no more of them than the buffer holds. -/
def Fits (value : String) : Prop :=
  (∀ c ∈ value.toList, c.isDigit) ∧ value.toList.length ≤ 12

instance : DecidablePred Fits := fun value =>
  decidable_of_iff (value.toList.all Char.isDigit ∧ value.toList.length ≤ 12) (by simp [Fits])

variable {amount other : AmountBuffer} {value : String}

theorem length_text (amount : AmountBuffer) : amount.text.toList.length = 12 := by
  rw [text, String.toList_ofList]
  exact amount.length_eq

theorem isDigit_of_mem_text {c : Char} (hc : c ∈ amount.text.toList) : c.isDigit := by
  rw [text, String.toList_ofList] at hc
  exact amount.isDigit c hc

theorem eq_of_text_eq (h : amount.text = other.text) : amount = other := by
  have hdigits : amount.digits = other.digits := String.ofList_inj.mp h
  cases amount
  cases other
  cases hdigits
  rfl

/-- A text is accepted exactly if it fits, and then the buffer holds it behind zeros. -/
theorem ofText_eq_ok_iff :
    ofText value = .ok amount ↔
      Fits value ∧ amount.text = String.ofList (value.toList.leftpad 12 '0') := by
  unfold ofText Fits
  split_ifs with hdigit hlength
  · have hfits : (∀ c ∈ value.toList, c.isDigit) ∧ value.toList.length ≤ 12 :=
      ⟨List.all_eq_true.mp hdigit, hlength⟩
    rw [Except.ok.injEq, and_iff_right hfits]
    constructor
    · rintro rfl
      rfl
    · exact fun htext => eq_of_text_eq htext.symm
  · simp [hlength]
  · simp only [List.all_eq_true] at hdigit
    simp [hdigit]

theorem exists_ofText_eq_ok_iff : (∃ amount, ofText value = .ok amount) ↔ Fits value := by
  constructor
  · rintro ⟨amount, hamount⟩
    exact (ofText_eq_ok_iff.mp hamount).1
  · intro hfits
    exact ⟨pad value.toList hfits.1 hfits.2, ofText_eq_ok_iff.mpr ⟨hfits, rfl⟩⟩

theorem ofDigitChars_leftpad (chars : List Char) (count : Nat) :
    Nat.ofDigitChars 10 (chars.leftpad count '0') 0 = Nat.ofDigitChars 10 chars 0 := by
  rw [List.leftpad, Nat.ofDigitChars_append, Nat.ofDigitChars_replicate_zero, Nat.mul_zero]

theorem ofDigitChars_append_zeros (chars : List Char) (count : Nat) :
    Nat.ofDigitChars 10 (chars ++ List.replicate count '0') 0 =
      Nat.ofDigitChars 10 chars 0 * Nat.pow 10 count := by
  rw [Nat.ofDigitChars_append, Nat.ofDigitChars_replicate_zero, Nat.mul_comm]
  rfl

/-- The buffer denotes the number of the text that it holds behind zeros. -/
theorem value_of_text_eq {chars : List Char}
    (h : amount.text = String.ofList (chars.leftpad 12 '0')) :
    amount.value = Nat.ofDigitChars 10 chars 0 := by
  have hdigits : amount.digits = chars.leftpad 12 '0' := String.ofList_inj.mp h
  rw [AmountBuffer.value, hdigits, ofDigitChars_leftpad]

end TellerTerminal.AmountBuffer
