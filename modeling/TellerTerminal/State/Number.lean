/-!
# State numbers

A state number lies between 0 and 999 and is written with three digits.
-/

namespace TellerTerminal

structure StateNumber where
  value : Nat
  value_lt : value < 1000 := by omega
  deriving DecidableEq, Repr

namespace StateNumber

instance : LT StateNumber := ⟨fun m n => m.value < n.value⟩

instance : DecidableLT StateNumber := fun m n => inferInstanceAs (Decidable (m.value < n.value))

instance : Std.Trichotomous fun m n : StateNumber => m < n where
  trichotomous m n hlt hgt := by
    have hvalue : m.value = n.value := Nat.le_antisymm (Nat.not_lt.mp hgt) (Nat.not_lt.mp hlt)
    cases m
    cases n
    cases hvalue
    rfl

instance : Trans (fun m n : StateNumber => m < n) (fun m n : StateNumber => m < n)
    (fun m n : StateNumber => m < n) where
  trans h h' := Nat.lt_trans h h'

def ofNat? (value : Nat) : Option StateNumber :=
  if h : value < 1000 then some ⟨value, h⟩ else none

/-- The number written by three digits; any other text names no state. -/
def ofText? (text : String) : Option StateNumber :=
  if text.toList.length = 3 ∧ text.toList.all Char.isDigit then
    ofNat? (Nat.ofDigitChars 10 text.toList 0)
  else
    none

/-- The three digits of a state number, hundreds first. -/
def digits (number : StateNumber) : List Char :=
  [(number.value / 100).digitChar, (number.value / 10 % 10).digitChar,
    (number.value % 10).digitChar]

def text (number : StateNumber) : String :=
  String.ofList number.digits

instance : ToString StateNumber := ⟨text⟩

end StateNumber

end TellerTerminal
