import TellerTerminal.Json.Printing
import TellerTerminal.Json.Token

/-!
# Integers read back

An integer is written in digits, with a minus sign if it is negative and without a needless zero.
It is read to its end if what follows cannot belong to a number, and it denotes itself if it fits a
word of 64 bits.
-/

namespace TellerTerminal.Json

/-- The text cannot go on with a number that ends in front of it. -/
def EndsNumber (rest : List Char) : Prop :=
  ∀ c ∈ rest.head?, c.isDigit = false ∧ c ∉ ['.', 'e', 'E']

@[simp]
theorem endsNumber_nil : EndsNumber [] := by
  simp [EndsNumber]

@[simp]
theorem endsNumber_cons {c : Char} {rest : List Char} :
    EndsNumber (c :: rest) ↔ c.isDigit = false ∧ c ∉ ['.', 'e', 'E'] := by
  simp [EndsNumber]

/-- The digits of a number start with a digit, and only those of zero start with a zero. -/
theorem exists_toDigits_eq_cons (n : Nat) :
    ∃ c digits, Nat.toDigits 10 n = c :: digits ∧ c.isDigit ∧ (c = '0' → n = 0) := by
  induction n using Nat.strongRecOn with
  | _ n ih =>
      by_cases hsmall : n < 10
      · refine ⟨n.digitChar, [], Nat.toDigits_of_lt_base hsmall, ?_, Nat.digitChar_eq_zero.mp⟩
        simp [Nat.isDigit_digitChar, hsmall]
      · obtain ⟨c, digits, heq, hdigit, hzero⟩ := ih (n / 10) (by omega)
        refine ⟨c, digits ++ [(n % 10).digitChar], ?_, hdigit, fun hc => ?_⟩
        · rw [Nat.toDigits_of_base_le (by decide) (by omega), heq, List.cons_append]
        · have := hzero hc
          omega

namespace Numeral

variable {rest : List Char}

/-- The numeral of a natural number with or without a minus sign. -/
def ofNat (negative : Bool) (value : Nat) : Numeral :=
  { negative, whole := Nat.toDigits 10 value, fraction := [], exponent := none }

def ofInt : Int → Numeral
  | .ofNat value => ofNat false value
  | .negSucc value => ofNat true (value + 1)

theorem digits?_append {digits : List Char} (hne : digits ≠ [])
    (hdigits : ∀ c ∈ digits, c.isDigit = true) (hrest : EndsNumber rest) :
    digits? (digits ++ rest) = some (digits, rest) := by
  have htake : rest.takeWhile Char.isDigit = [] ∧ rest.dropWhile Char.isDigit = rest := by
    cases rest with
    | nil => simp
    | cons c rest => simp [(endsNumber_cons.mp hrest).1]
  unfold digits?
  rw [List.takeWhile_append_of_pos hdigits, List.dropWhile_append_of_pos hdigits, htake.1,
    htake.2, List.append_nil]
  split
  next => exact absurd rfl hne
  next => rfl

theorem whole?_toDigits (n : Nat) (hrest : EndsNumber rest) :
    whole? (Nat.toDigits 10 n ++ rest) = some (Nat.toDigits 10 n, rest) := by
  have hdigits : ∀ c ∈ Nat.toDigits 10 n, c.isDigit = true := fun c hc =>
    Nat.isDigit_of_mem_toDigits (by decide) (by decide) hc
  have hread := digits?_append Nat.toDigits_ne_nil hdigits hrest
  obtain ⟨c, digits, heq, -, hzero⟩ := exists_toDigits_eq_cons n
  by_cases hc : c = '0'
  · obtain rfl := hzero hc
    rfl
  · rw [← hread, heq, List.cons_append]
    unfold whole?
    split
    next h => exact absurd (List.cons.inj h).1 hc
    next => rfl

/-- Neither a fraction nor an exponent follows. -/
theorem unsigned?_toDigits (negative : Bool) (n : Nat) (hrest : EndsNumber rest) :
    unsigned? negative (Nat.toDigits 10 n ++ rest) = some (ofNat negative n, rest) := by
  have hfraction : fraction? rest = some ([], rest) := by
    unfold fraction?
    split
    next => simp at hrest
    next => rfl
  have hexponent : exponent? rest = some (none, rest) := by
    unfold exponent?
    split
    next => simp at hrest
    next => simp at hrest
    next => rfl
  simp [unsigned?, whole?_toDigits n hrest, hfraction, hexponent, ofNat]

theorem read?_integerText (value : Int) (hrest : EndsNumber rest) :
    read? (integerText value ++ rest) = some (ofInt value, rest) := by
  cases value with
  | ofNat n =>
      have hread := unsigned?_toDigits false n hrest
      obtain ⟨c, digits, heq, hdigit, -⟩ := exists_toDigits_eq_cons n
      rw [integerText, ofInt, ← hread, heq, List.cons_append]
      unfold read?
      split
      next h =>
        obtain ⟨rfl, -⟩ := List.cons.inj h
        exact absurd hdigit (by decide)
      next => rfl
  | negSucc n => exact unsigned?_toDigits true (n + 1) hrest

/-- An integer of 64 bits denotes itself. -/
theorem toJson?_ofInt {value : Int} (hlow : -(UInt64.size : Int) ≤ 2 * value)
    (hhigh : value < UInt64.size) :
    (ofInt value).toJson? = some (.integer value) := by
  have hinteger : (ofInt value).integer? = some value := by
    cases value with
    | ofNat n =>
        have hn : n < UInt64.size := by
          rw [Int.ofNat_eq_natCast] at hhigh
          omega
        simp [ofInt, ofNat, integer?, hn]
    | negSucc n =>
        have hn : 2 * (n + 1) ≤ UInt64.size := by omega
        simp [ofInt, ofNat, integer?, hn, Int.negSucc_eq]
  simp [toJson?, hinteger]

end Numeral

/-- What starts with a digit or a minus sign is a number. -/
theorem Token.next?_number {c : Char} (h : c.isDigit ∨ c = '-') (rest : List Char) :
    next? (c :: rest) =
      (Numeral.read? (c :: rest)).map fun (numeral, rest) => (.number numeral, rest) := by
  unfold next?
  split <;> simp_all

theorem Token.next?_integerText (value : Int) {rest : List Char} (hrest : EndsNumber rest) :
    next? (integerText value ++ rest) = some (.number (.ofInt value), rest) := by
  have hread := Numeral.read?_integerText value hrest
  have hhead : ∃ c tail, integerText value ++ rest = c :: tail ∧ (c.isDigit ∨ c = '-') := by
    cases value with
    | ofNat n =>
        obtain ⟨c, digits, heq, hdigit, -⟩ := exists_toDigits_eq_cons n
        exact ⟨c, digits ++ rest, by rw [integerText, heq, List.cons_append], .inl hdigit⟩
    | negSucc n => exact ⟨'-', Nat.toDigits 10 (n + 1) ++ rest, rfl, .inr rfl⟩
  obtain ⟨c, tail, heq, hc⟩ := hhead
  rw [heq] at hread ⊢
  rw [next?_number hc, hread]
  rfl

end TellerTerminal.Json
