import Mathlib.Data.List.Basic
import TellerTerminal.State.Record

/-!
# Texts of fields

A state number and its three digits name each other, so that reading undoes writing and the reverse.
A buffer id is written in ten ways, one for each marker digit, and every one of them is read as the
same id.
-/

namespace TellerTerminal

theorem exists_digitChar_of_isDigit {c : Char} (h : c.isDigit) : ∃ d < 10, c = d.digitChar := by
  simp only [Char.isDigit, Bool.and_eq_true, decide_eq_true_eq] at h
  have hlow : '0'.toNat ≤ c.toNat := UInt32.le_iff_toNat_le.mp h.1
  have hhigh : c.toNat ≤ '9'.toNat := UInt32.le_iff_toNat_le.mp h.2
  have hzero : '0'.toNat = 48 := rfl
  have hnine : '9'.toNat = 57 := rfl
  have hlt : c.toNat - 48 < 10 := by omega
  refine ⟨c.toNat - 48, hlt, Char.toNat_inj.mp ?_⟩
  rw [Nat.toNat_digitChar_of_lt_ten hlt]
  omega

theorem ofDigitChars_three_digits {a b c : Nat} (ha : a < 10) (hb : b < 10) (hc : c < 10) :
    Nat.ofDigitChars 10 ([a, b, c].map Nat.digitChar) 0 = 100 * a + 10 * b + c := by
  simp only [List.map_cons, List.map_nil, Nat.ofDigitChars_cons_digitChar_of_lt_ten, ha, hb, hc,
    Nat.ofDigitChars_nil]
  omega

namespace StateNumber

/-- Three digits, which is what a state number is written with. -/
def IsText (text : String) : Prop :=
  text.toList.length = 3 ∧ text.toList.all Char.isDigit

instance : DecidablePred IsText := fun _ => inferInstanceAs (Decidable (_ ∧ _))

theorem isText_text (number : StateNumber) : IsText number.text := by
  have := number.value_lt
  have hhundreds : number.value / 100 < 10 := by omega
  simp [IsText, text, digits, Nat.isDigit_digitChar, hhundreds, Nat.mod_lt]

theorem exists_digits_of_isText {text : String} (h : IsText text) :
    ∃ a < 10, ∃ b < 10, ∃ c < 10, text.toList = [a, b, c].map Nat.digitChar := by
  obtain ⟨hlength, hdigits⟩ := h
  obtain ⟨x, y, z, htext⟩ := List.length_eq_three.mp hlength
  rw [htext, List.all_eq_true] at hdigits
  rw [htext]
  obtain ⟨a, ha, rfl⟩ := exists_digitChar_of_isDigit (hdigits x (by simp))
  obtain ⟨b, hb, rfl⟩ := exists_digitChar_of_isDigit (hdigits y (by simp))
  obtain ⟨c, hc, rfl⟩ := exists_digitChar_of_isDigit (hdigits z (by simp))
  exact ⟨a, ha, b, hb, c, hc, rfl⟩

/-- Three digits name the number of which they are the hundreds, the tens and the units. -/
theorem ofText?_of_digits {text : String} {a b c : Nat} (ha : a < 10) (hb : b < 10) (hc : c < 10)
    (htext : text.toList = [a, b, c].map Nat.digitChar) :
    ofText? text = some ⟨100 * a + 10 * b + c, by omega⟩ := by
  have hdigits : text.toList.all Char.isDigit := by
    simp [htext, Nat.isDigit_digitChar, ha, hb, hc]
  have hvalue : Nat.ofDigitChars 10 text.toList 0 = 100 * a + 10 * b + c :=
    htext ▸ ofDigitChars_three_digits ha hb hc
  have hlt : 100 * a + 10 * b + c < 1000 := by omega
  rw [ofText?, if_pos ⟨by simp [htext], hdigits⟩]
  simp only [hvalue, ofNat?, dif_pos hlt]

theorem ofText?_text (number : StateNumber) : ofText? number.text = some number := by
  have := number.value_lt
  have hvalue : 100 * (number.value / 100) + 10 * (number.value / 10 % 10) + number.value % 10 =
      number.value := by omega
  rw [ofText?_of_digits (a := number.value / 100) (b := number.value / 10 % 10)
    (c := number.value % 10) (by omega) (by omega) (by omega) (by simp [text, digits])]
  simp only [hvalue]

theorem text_of_ofText? {text : String} {number : StateNumber} (h : ofText? text = some number) :
    number.text = text := by
  have hdigits : IsText text := by
    unfold ofText? at h
    split_ifs at h with hdigits
    exact hdigits
  obtain ⟨a, ha, b, hb, c, hc, htext⟩ := exists_digits_of_isText hdigits
  rw [ofText?_of_digits ha hb hc htext] at h
  obtain rfl := Option.some.inj h
  rw [StateNumber.text, digits, ← String.toList_inj, String.toList_ofList, htext]
  have h100 : (100 * a + 10 * b + c) / 100 = a := by omega
  have h10 : (100 * a + 10 * b + c) / 10 % 10 = b := by omega
  have h1 : (100 * a + 10 * b + c) % 10 = c := by omega
  simp [h100, h10, h1]

theorem ofText?_eq_some_iff {text : String} {number : StateNumber} :
    ofText? text = some number ↔ number.text = text :=
  ⟨text_of_ofText?, fun h => h ▸ number.ofText?_text⟩

theorem exists_text_eq_iff {text : String} :
    (∃ number : StateNumber, number.text = text) ↔ IsText text := by
  constructor
  · rintro ⟨number, rfl⟩
    exact number.isText_text
  · intro h
    obtain ⟨a, ha, b, hb, c, hc, htext⟩ := exists_digits_of_isText h
    exact ⟨_, text_of_ofText? (ofText?_of_digits ha hb hc htext)⟩

end StateNumber

namespace BufferId

/-- A marker digit, the mark of a buffer and a digit for the count of zeros. -/
def IsText (text : String) : Prop :=
  ∃ marker mark zeros, text.toList = [marker, mark, zeros] ∧ marker.isDigit ∧
    mark ∈ ['1', '2', '3'] ∧ zeros.isDigit

/-- The text is one of the ten of a buffer id, which differ in the marker digit alone. -/
def IsWritten (bufferId : BufferId) (text : String) : Prop :=
  bufferId.zeros < 10 ∧ ∃ marker : Char, marker.isDigit ∧
    text.toList = [marker, bufferId.target.mark, bufferId.zeros.digitChar]

theorem ofMark?_eq_some_iff {mark : Char} {target : TargetBuffer} :
    ofMark? mark = some target ↔ target.mark = mark := by
  constructor
  · intro h
    unfold ofMark? at h
    split at h <;> cases h <;> rfl
  · rintro rfl
    cases target <;> rfl

theorem ofText?_eq_some_iff {text : String} {bufferId : BufferId} :
    ofText? text = some bufferId ↔ bufferId.IsWritten text := by
  obtain ⟨target, count⟩ := bufferId
  constructor
  · intro h
    unfold ofText? at h
    split at h
    next marker mark zeros htext =>
      split_ifs at h with hdigits
      obtain ⟨hmarker, hzeros⟩ := Bool.and_eq_true_iff.mp hdigits
      obtain ⟨d, hd, rfl⟩ := exists_digitChar_of_isDigit hzeros
      obtain ⟨target, hmark, heq⟩ := Option.map_eq_some_iff.mp h
      obtain ⟨rfl, hcount⟩ := BufferId.mk.inj heq
      obtain rfl := ofMark?_eq_some_iff.mp hmark
      rw [Nat.ofDigitChars_cons_digitChar_of_lt_ten hd] at hcount
      obtain rfl : d = count := by simpa using hcount
      exact ⟨hd, marker, hmarker, htext⟩
    next => contradiction
  · rintro ⟨hcount, marker, hmarker, htext⟩
    have hmark : ofMark? target.mark = some target := ofMark?_eq_some_iff.mpr rfl
    simp only [ofText?, htext, hmarker, Nat.isDigit_digitChar, hcount, decide_true, Bool.and_self,
      if_true, hmark, Option.map_some, Nat.ofDigitChars_cons_digitChar_of_lt_ten,
      Nat.ofDigitChars_nil]
    simp

theorem exists_isWritten_iff {text : String} :
    (∃ bufferId : BufferId, bufferId.IsWritten text) ↔ IsText text := by
  constructor
  · rintro ⟨bufferId, hcount, marker, hmarker, htext⟩
    refine ⟨marker, _, _, htext, hmarker, ?_, by simp [Nat.isDigit_digitChar, hcount]⟩
    cases bufferId.target <;> decide
  · rintro ⟨marker, mark, zeros, htext, hmarker, hmark, hzeros⟩
    obtain ⟨d, hd, rfl⟩ := exists_digitChar_of_isDigit hzeros
    have htarget : ∃ target : TargetBuffer, target.mark = mark := by
      rcases (by simpa using hmark : mark = '1' ∨ mark = '2' ∨ mark = '3') with rfl | rfl | rfl
      · exact ⟨.b, rfl⟩
      · exact ⟨.c, rfl⟩
      · exact ⟨.amount, rfl⟩
    obtain ⟨target, rfl⟩ := htarget
    exact ⟨⟨target, d⟩, hd, marker, hmarker, htext⟩

end BufferId

end TellerTerminal
