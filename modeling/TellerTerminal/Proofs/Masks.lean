import Mathlib.Tactic.IntervalCases
import TellerTerminal.Proofs.FieldText
import TellerTerminal.Proofs.Keys

/-!
# The two forms of a mask

A mask of three characters is accepted if it is the decimal numeral of eight bits, and a mask of ten
if it is a character and nine flags.  Both forms name a set of keys, and within each form no set is
named twice, if the character before the flags is left aside.  The forms meet where the flags are
the bits of the numeral with a `0` put in for the key `E`.
-/

namespace TellerTerminal.KeySet

/-- The mask is the three digits of a value that has eight bits. -/
def IsDecimal (mask : String) (value : Nat) : Prop :=
  value ≤ 255 ∧ mask.toList = [value / 100, value / 10 % 10, value % 10].map Nat.digitChar

/-- One flag for each key. -/
def IsFlags (flags : List Char) : Prop :=
  flags.length = 9 ∧ ∀ flag ∈ flags, flag = '0' ∨ flag = '1'

/-- The mask is one character, whichever it is, and the flags behind it. -/
def IsBinary (mask : String) (flags : List Char) : Prop :=
  (∃ reserved, mask.toList = reserved :: flags) ∧ IsFlags flags

/-- The keys with a bit in a decimal mask, that of the most significant bit first. -/
def decimalKeys : List FunctionKey := [.a, .b, .c, .d, .f, .g, .h, .i]

/-- The members are the keys whose bit is set.  The key `E`, which has none, is not among them. -/
structure HasBits (keys : KeySet) (value : Nat) : Prop where
  contains_iff : ∀ i key, decimalKeys[i]? = some key → (keys.contains key ↔ value.testBit (7 - i))
  not_contains_e : ¬ keys.contains .e

/-- The members are the keys with a `1` at their place among the flags. -/
def HasFlags (keys : KeySet) (flags : List Char) : Prop :=
  ∀ key : FunctionKey, keys.contains key ↔ flags[(key.rank : Nat)]? = some '1'

def bitFlag (value bit : Nat) : Char :=
  if value.testBit bit then '1' else '0'

/-- The bits of a value as flags, with a `0` for the key `E`. -/
def bitFlags (value : Nat) : List Char :=
  [7, 6, 5, 4].map (bitFlag value) ++ '0' :: [3, 2, 1, 0].map (bitFlag value)

section Flags

variable {keys : KeySet} {key : FunctionKey} {flags others : List Char}

theorem contains_ofFlags_iff :
    (ofFlags flags).contains key ↔ flags[(key.rank : Nat)]? = some '1' := by
  have hzip : (key, '1') ∈ FunctionKey.all.zip flags ↔ flags[(key.rank : Nat)]? = some '1' := by
    simp only [List.mem_iff_getElem?, List.getElem?_zip_eq_some,
      FunctionKey.getElem?_all_eq_some_iff, exists_eq_left]
  rw [ofFlags, contains_ofList, decide_eq_true_iff, ← hzip]
  simp

theorem hasFlags_iff : keys.HasFlags flags ↔ keys = ofFlags flags := by
  rw [eq_iff_contains]
  refine forall_congr' fun key => ?_
  rw [← contains_ofFlags_iff]
  exact Bool.eq_iff_iff.symm

/-- A flag is `1` or else `0`, so that the set determines it. -/
theorem ofFlags_inj (h : IsFlags flags) (h' : IsFlags others) :
    ofFlags flags = ofFlags others ↔ flags = others := by
  refine ⟨fun hkeys => ?_, congrArg ofFlags⟩
  obtain ⟨hlength, hflags⟩ := h
  obtain ⟨hlength', hflags'⟩ := h'
  refine List.ext_getElem (hlength.trans hlength'.symm) fun i hi hi' => ?_
  obtain ⟨key, rfl⟩ := FunctionKey.exists_rank_eq (hlength ▸ hi)
  have hone : flags[(key.rank : Nat)] = '1' ↔ others[(key.rank : Nat)] = '1' := by
    have hkey := Bool.eq_iff_iff.mp (eq_iff_contains.mp hkeys key)
    simpa only [contains_ofFlags_iff, List.getElem?_eq_getElem hi, List.getElem?_eq_getElem hi',
      Option.some.injEq] using hkey
  rcases hflags _ (List.getElem_mem hi) with hzero | hset
  · have hnot : others[(key.rank : Nat)] ≠ '1' := fun hset => by simp [hone.mpr hset] at hzero
    rw [hzero, (hflags' _ (List.getElem_mem hi')).resolve_right hnot]
  · rw [hset, hone.mp hset]

end Flags

section Bits

variable {keys : KeySet} {key : FunctionKey} {value other : Nat}

theorem contains_ofDecimal_iff :
    (ofDecimal value).contains key ↔ ∃ bit, (key, bit) ∈ decimalBits ∧ value.testBit bit := by
  simp [ofDecimal]

theorem mem_decimalBits_iff {i bit : Nat} (h : decimalKeys[i]? = some key) :
    (key, bit) ∈ decimalBits ↔ bit = 7 - i := by
  have hi : i < 8 := (List.getElem?_eq_some_iff.mp h).1
  interval_cases i <;> cases h <;> simp [decimalBits]

theorem hasBits_ofDecimal (value : Nat) : (ofDecimal value).HasBits value where
  contains_iff i key h := by simp [contains_ofDecimal_iff, mem_decimalBits_iff h]
  not_contains_e := by simp [contains_e_ofDecimal]

theorem HasBits.eq_ofDecimal (h : keys.HasBits value) : keys = ofDecimal value := by
  rw [eq_iff_contains]
  intro key
  -- Every key has a bit, except `E`.
  have hplace : key = .e ∨ ∃ i : Nat, decimalKeys[i]? = some key := by
    rw [← List.mem_iff_getElem?]
    cases key <;> decide
  rcases hplace with rfl | ⟨i, hi⟩
  · simp [h.not_contains_e, contains_e_ofDecimal]
  · rw [Bool.eq_iff_iff, h.contains_iff i key hi, (hasBits_ofDecimal value).contains_iff i key hi]

theorem hasBits_iff : keys.HasBits value ↔ keys = ofDecimal value := by
  refine ⟨HasBits.eq_ofDecimal, ?_⟩
  rintro rfl
  exact hasBits_ofDecimal value

theorem testBit_of_le (hvalue : value ≤ 255) {bit : Nat} (hbit : 8 ≤ bit) :
    value.testBit bit = false := by
  refine Nat.testBit_lt_two_pow (Nat.lt_of_le_of_lt hvalue ?_)
  exact Nat.lt_of_lt_of_le (by decide : 255 < Nat.pow 2 8) (Nat.pow_le_pow_right (by decide) hbit)

/-- Of eight bits none is left out, so that the set determines the value. -/
theorem ofDecimal_inj (hvalue : value ≤ 255) (hother : other ≤ 255) :
    ofDecimal value = ofDecimal other ↔ value = other := by
  refine ⟨fun h => Nat.eq_of_testBit_eq fun bit => ?_, congrArg ofDecimal⟩
  by_cases hbit : bit < 8
  · have hplace : 7 - bit < decimalKeys.length := Nat.lt_succ_of_le (Nat.sub_le 7 bit)
    have hkey := List.getElem?_eq_getElem hplace
    have hback : 7 - (7 - bit) = bit := by omega
    have hsame := (hasBits_ofDecimal value).contains_iff _ _ hkey
    rw [h, (hasBits_ofDecimal other).contains_iff _ _ hkey, hback] at hsame
    exact Bool.eq_iff_iff.mpr hsame.symm
  · -- The bits behind the eighth are zero in both.
    rw [testBit_of_le hvalue (Nat.le_of_not_lt hbit), testBit_of_le hother (Nat.le_of_not_lt hbit)]

theorem bitFlags_eq (value : Nat) : bitFlags value = FunctionKey.all.map fun key =>
    if (ofDecimal value).contains key then '1' else '0' := by
  simp [bitFlags, bitFlag, FunctionKey.all, contains_ofDecimal_iff, decimalBits]

theorem isFlags_bitFlags (value : Nat) : IsFlags (bitFlags value) := by
  refine ⟨rfl, fun flag hflag => ?_⟩
  rw [bitFlags_eq] at hflag
  obtain ⟨key, -, rfl⟩ := List.mem_map.mp hflag
  cases (ofDecimal value).contains key with
  | true => exact .inr rfl
  | false => exact .inl rfl

theorem ofFlags_bitFlags (value : Nat) : ofFlags (bitFlags value) = ofDecimal value := by
  refine (hasFlags_iff.mp fun key => ?_).symm
  have hkey : FunctionKey.all[(key.rank : Nat)]? = some key :=
    FunctionKey.getElem?_all_eq_some_iff.mpr rfl
  simp [bitFlags_eq, hkey]

end Bits

section Masks

variable {mask second : String} {flags others : List Char} {value other : Nat} {keys : KeySet}

theorem isDecimal_iff : IsDecimal mask value ↔
    StateNumber.IsText mask ∧ Nat.ofDigitChars 10 mask.toList 0 = value ∧ value ≤ 255 := by
  constructor
  · rintro ⟨hvalue, hmask⟩
    have hhundreds : value / 100 < 10 := by omega
    have htens : value / 10 % 10 < 10 := by omega
    have hunits : value % 10 < 10 := by omega
    refine ⟨?_, ?_, hvalue⟩
    · simp [StateNumber.IsText, hmask, Nat.isDigit_digitChar, hhundreds, htens, hunits]
    · rw [hmask, ofDigitChars_three_digits hhundreds htens hunits]
      omega
  · rintro ⟨htext, hnumber, hvalue⟩
    obtain ⟨a, ha, b, hb, c, hc, hmask⟩ := StateNumber.exists_digits_of_isText htext
    rw [hmask, ofDigitChars_three_digits ha hb hc] at hnumber
    obtain ⟨rfl, rfl, rfl⟩ : a = value / 100 ∧ b = value / 10 % 10 ∧ c = value % 10 := by omega
    exact ⟨hvalue, hmask⟩

theorem isBinary_iff : IsBinary mask flags ↔
    mask.toList.length = 10 ∧ flags = mask.toList.tail ∧
      (mask.toList.tail.all fun flag => flag = '0' || flag = '1') := by
  constructor
  · rintro ⟨⟨reserved, hmask⟩, hlength, hflags⟩
    rw [hmask]
    exact ⟨congrArg Nat.succ hlength, rfl, by simpa using hflags⟩
  · rintro ⟨hlength, rfl, hflags⟩
    obtain ⟨reserved, flags, hmask⟩ := List.exists_cons_of_length_eq_add_one hlength
    rw [hmask] at hlength hflags
    rw [hmask, List.tail_cons]
    exact ⟨⟨reserved, hmask⟩, Nat.succ.inj hlength, by simpa using hflags⟩

theorem ofMask_of_isDecimal (h : IsDecimal mask value) : ofMask mask = .ok (ofDecimal value) := by
  obtain ⟨⟨hlength, hdigits⟩, rfl, hvalue⟩ := isDecimal_iff.mp h
  simp [ofMask, hlength, hdigits, hvalue]

theorem IsDecimal.keys_eq (h : IsDecimal mask value) (hread : ofMask mask = .ok keys) :
    keys = ofDecimal value :=
  Except.ok.inj (hread.symm.trans (ofMask_of_isDecimal h))

theorem ofMask_of_not_isDecimal (hlength : mask.toList.length = 3)
    (h : ¬ ∃ value, IsDecimal mask value) : ofMask mask = .error (.invalidDecimal mask) := by
  have hcheck : ¬ (mask.toList.all Char.isDigit && Nat.ofDigitChars 10 mask.toList 0 ≤ 255) := by
    intro hcheck
    obtain ⟨hdigits, hvalue⟩ := Bool.and_eq_true_iff.mp hcheck
    exact h ⟨_, isDecimal_iff.mpr ⟨⟨hlength, hdigits⟩, rfl, of_decide_eq_true hvalue⟩⟩
  simp only [ofMask, if_pos hlength, if_neg hcheck]

theorem ofMask_of_isBinary (h : IsBinary mask flags) : ofMask mask = .ok (ofFlags flags) := by
  obtain ⟨hlength, rfl, hflags⟩ := isBinary_iff.mp h
  have hthree : ¬ mask.toList.length = 3 := by omega
  simp only [ofMask, if_neg hthree, if_pos hlength, if_pos hflags]

theorem IsBinary.keys_eq (h : IsBinary mask flags) (hread : ofMask mask = .ok keys) :
    keys = ofFlags flags :=
  Except.ok.inj (hread.symm.trans (ofMask_of_isBinary h))

theorem ofMask_of_not_isBinary (hlength : mask.toList.length = 10)
    (h : ¬ ∃ flags, IsBinary mask flags) : ofMask mask = .error (.invalidBinary mask) := by
  have hthree : ¬ mask.toList.length = 3 := by omega
  have hflags : ¬ (mask.toList.tail.all fun flag => flag = '0' || flag = '1') :=
    fun hflags => h ⟨_, isBinary_iff.mpr ⟨hlength, rfl, hflags⟩⟩
  simp only [ofMask, if_neg hthree, if_pos hlength, if_neg hflags]

theorem ofMask_of_length (hthree : mask.toList.length ≠ 3) (hten : mask.toList.length ≠ 10) :
    ofMask mask = .error (.invalidLength mask.toList.length) := by
  simp only [ofMask, if_neg hthree, if_neg hten]

/-- Where a form is accepted whenever it is met and everything else is rejected, each result has one
cause. -/
theorem read_iff {α : Type} {form : α → Prop} {set : α → KeySet} {fault : MaskError}
    {result : Except MaskError KeySet} (hform : ∀ a, form a → result = .ok (set a))
    (hfault : (¬ ∃ a, form a) → result = .error fault) :
    ((∃ keys, result = .ok keys) ↔ ∃ a, form a) ∧
      (∀ keys, result = .ok keys ↔ ∃ a, form a ∧ keys = set a) ∧
      ∀ error, result = .error error ↔ error = fault ∧ ¬ ∃ a, form a := by
  by_cases h : ∃ a, form a
  · obtain ⟨a, ha⟩ := h
    refine ⟨iff_of_true ⟨_, hform a ha⟩ ⟨a, ha⟩, fun keys => ⟨fun hread => ?_, ?_⟩, fun error => ?_⟩
    · exact ⟨a, ha, Except.ok.inj (hread.symm.trans (hform a ha))⟩
    · rintro ⟨b, hb, rfl⟩
      exact hform b hb
    · rw [hform a ha]
      exact iff_of_false (by simp) fun herror => herror.2 ⟨a, ha⟩
  · rw [hfault h]
    refine ⟨iff_of_false (by simp) h, fun keys => iff_of_false (by simp) ?_, fun error => ?_⟩
    · exact fun ⟨a, ha, _⟩ => h ⟨a, ha⟩
    · rw [Except.error.injEq, and_iff_left h, eq_comm]

theorem ofMask_of_three (hlength : mask.toList.length = 3) :
    ((∃ keys, ofMask mask = .ok keys) ↔ ∃ value, IsDecimal mask value) ∧
      (∀ keys, ofMask mask = .ok keys ↔ ∃ value, IsDecimal mask value ∧ keys.HasBits value) ∧
      ∀ error, ofMask mask = .error error ↔
        error = .invalidDecimal mask ∧ ¬ ∃ value, IsDecimal mask value := by
  simp only [hasBits_iff]
  exact read_iff (fun _ => ofMask_of_isDecimal) (ofMask_of_not_isDecimal hlength)

theorem ofMask_of_ten (hlength : mask.toList.length = 10) :
    ((∃ keys, ofMask mask = .ok keys) ↔ ∃ flags, IsBinary mask flags) ∧
      (∀ keys, ofMask mask = .ok keys ↔ ∃ flags, IsBinary mask flags ∧ keys.HasFlags flags) ∧
      ∀ error, ofMask mask = .error error ↔
        error = .invalidBinary mask ∧ ¬ ∃ flags, IsBinary mask flags := by
  simp only [hasFlags_iff]
  exact read_iff (fun _ => ofMask_of_isBinary) (ofMask_of_not_isBinary hlength)

theorem ofMask_eq_invalidLength_iff {length : Nat} :
    ofMask mask = .error (.invalidLength length) ↔
      length = mask.toList.length ∧ length ≠ 3 ∧ length ≠ 10 := by
  by_cases hthree : mask.toList.length = 3
  · rw [(ofMask_of_three hthree).2.2]
    simp only [reduceCtorEq, false_and, false_iff]
    rintro ⟨rfl, hnot, -⟩
    exact hnot hthree
  by_cases hten : mask.toList.length = 10
  · rw [(ofMask_of_ten hten).2.2]
    simp only [reduceCtorEq, false_and, false_iff]
    rintro ⟨rfl, -, hnot⟩
    exact hnot hten
  rw [ofMask_of_length hthree hten, Except.error.injEq, MaskError.invalidLength.injEq]
  constructor
  · rintro rfl
    exact ⟨rfl, hthree, hten⟩
  · exact fun h => h.1.symm

end Masks

/-- A mask is read by its length.  Three characters are accepted exactly if they are the digits of
eight bits, and then the bits stand for the keys `A B C D F G H I` in this order.  Ten are accepted
exactly if the last nine are flags, which stand for the keys in letter order, whatever the first may
be.  All other masks are rejected, each for the reason that its length leaves.

Different decimal masks never name the same set, and binary masks name it only if they differ in
nothing but their first characters.  A decimal mask and a binary one name the same set exactly if
the flags are the bits, with a `0` for the key `E`. -/
theorem ofMask_decodes_two_forms :
    (∀ mask length, ofMask mask = .error (.invalidLength length) ↔
      length = mask.toList.length ∧ length ≠ 3 ∧ length ≠ 10) ∧
    (∀ mask : String, mask.toList.length = 3 →
      ((∃ keys, ofMask mask = .ok keys) ↔ ∃ value, IsDecimal mask value) ∧
      (∀ keys, ofMask mask = .ok keys ↔ ∃ value, IsDecimal mask value ∧ keys.HasBits value) ∧
      ∀ error, ofMask mask = .error error ↔
        error = .invalidDecimal mask ∧ ¬ ∃ value, IsDecimal mask value) ∧
    (∀ mask : String, mask.toList.length = 10 →
      ((∃ keys, ofMask mask = .ok keys) ↔ ∃ flags, IsBinary mask flags) ∧
      (∀ keys, ofMask mask = .ok keys ↔ ∃ flags, IsBinary mask flags ∧ keys.HasFlags flags) ∧
      ∀ error, ofMask mask = .error error ↔
        error = .invalidBinary mask ∧ ¬ ∃ flags, IsBinary mask flags) ∧
    ∀ first second keys others, ofMask first = .ok keys → ofMask second = .ok others →
      (∀ value other, IsDecimal first value → IsDecimal second other → first ≠ second →
        keys ≠ others) ∧
      (∀ flags flags', IsBinary first flags → IsBinary second flags' →
        (keys = others ↔ flags = flags')) ∧
      ∀ value flags, IsDecimal first value → IsBinary second flags →
        (keys = others ↔ flags = bitFlags value) := by
  refine ⟨fun _ _ => ofMask_eq_invalidLength_iff, fun _ => ofMask_of_three,
    fun _ => ofMask_of_ten, fun first second keys others hfirst hsecond => ⟨?_, ?_, ?_⟩⟩
  · intro value other hvalue hother hne hkeys
    rw [hvalue.keys_eq hfirst, hother.keys_eq hsecond, ofDecimal_inj hvalue.1 hother.1] at hkeys
    exact hne (String.toList_inj.mp (hvalue.2.trans (hkeys ▸ hother.2.symm)))
  · intro flags flags' hflags hflags'
    rw [hflags.keys_eq hfirst, hflags'.keys_eq hsecond, ofFlags_inj hflags.2 hflags'.2]
  · intro value flags hvalue hflags
    rw [hvalue.keys_eq hfirst, hflags.keys_eq hsecond, ← ofFlags_bitFlags,
      ofFlags_inj (isFlags_bitFlags value) hflags.2, eq_comm]

/-- The keys `C`, `D`, `F` and `G` in both forms, and with them the key `I`, once behind a character
of two bytes.  Three full-width digits are nine bytes and no decimal mask. -/
theorem ofMask_decodes_two_forms_of_four_keys :
    let keys := ofList [.c, .d, .f, .g]
    (ofMask "060" = .ok keys ∧ ofMask "061" = .ok (keys.insert .i) ∧
      ofMask "0001101100" = .ok keys ∧ ofMask "é001101101" = .ok (keys.insert .i)) ∧
      keys ≠ keys.insert .i ∧ "001101100".toList = bitFlags 60 ∧
      (keys = keys.insert .i ↔ "001101100".toList = "001101101".toList) ∧
      ofMask "０６０" = .error (.invalidDecimal "０６０") ∧
      ofMask "0001101102" = .error (.invalidBinary "0001101102") ∧
      ofMask "+256" = .error (.invalidLength 4) := by
  intro keys
  obtain ⟨hlength, hthree, hten, hsame⟩ := ofMask_decodes_two_forms
  have hreads : ofMask "060" = .ok keys ∧ ofMask "061" = .ok (keys.insert .i) ∧
      ofMask "0001101100" = .ok keys ∧ ofMask "é001101101" = .ok (keys.insert .i) := by decide
  obtain ⟨h060, h061, hzero, haccent⟩ := hreads
  have hdecimal : IsDecimal "060" 60 := ⟨by decide, rfl⟩
  have hdecimal' : IsDecimal "061" 61 := ⟨by decide, rfl⟩
  have hbinary : IsBinary "0001101100" "001101100".toList := isBinary_iff.mpr ⟨rfl, rfl, rfl⟩
  have hbinary' : IsBinary "é001101101" "001101101".toList :=
    isBinary_iff.mpr ⟨rfl, rfl, rfl⟩
  have hwide : ¬ ∃ value, IsDecimal "０６０" value := fun ⟨_, h⟩ =>
    absurd (isDecimal_iff.mp h).1.2 (by decide)
  have htwo : ¬ ∃ flags, IsBinary "0001101102" flags := fun ⟨_, h⟩ =>
    absurd (isBinary_iff.mp h).2.2 (by decide)
  exact ⟨⟨h060, h061, hzero, haccent⟩,
    (hsame _ _ _ _ h060 h061).1 60 61 hdecimal hdecimal' (by decide),
    ((hsame _ _ _ _ h060 hzero).2.2 60 _ hdecimal hbinary).mp rfl,
    (hsame _ _ _ _ hzero haccent).2.1 _ _ hbinary hbinary',
    ((hthree _ rfl).2.2 _).mpr ⟨rfl, hwide⟩, ((hten _ rfl).2.2 _).mpr ⟨rfl, htwo⟩,
    (hlength _ _).mpr (by decide)⟩

end TellerTerminal.KeySet
