import TellerTerminal.FunctionKey

/-!
# Sets of function keys

A set of active keys is a nine-bit word with one bit for each key. Its keys are always listed in
letter order, whatever the order in which they were inserted.
-/

namespace TellerTerminal

/-- The bit at the rank of a key tells whether the key is a member. -/
structure KeySet where
  bits : BitVec 9
  deriving DecidableEq, Repr

namespace KeySet

def empty : KeySet := ⟨0#9⟩

def insert (keys : KeySet) (key : FunctionKey) : KeySet :=
  ⟨keys.bits ||| BitVec.twoPow 9 key.rank⟩

def contains (keys : KeySet) (key : FunctionKey) : Bool :=
  keys.bits.getLsbD key.rank

def isEmpty (keys : KeySet) : Bool :=
  keys.bits = 0#9

/-- The number of members. -/
def size (keys : KeySet) : Nat :=
  keys.bits.cpop.toNat

def ofList (keys : List FunctionKey) : KeySet :=
  keys.foldl insert empty

/-- The members in letter order. -/
def toList (keys : KeySet) : List FunctionKey :=
  FunctionKey.all.filter keys.contains

def letters (keys : KeySet) : List Char :=
  keys.toList.map FunctionKey.letter

/-- The letters in square brackets, such as `[ACD]`. -/
def display (keys : KeySet) : String :=
  String.ofList ('[' :: keys.letters ++ [']'])

@[simp]
theorem contains_empty (key : FunctionKey) : empty.contains key = false := by
  simp [contains, empty]

@[simp]
theorem contains_insert (keys : KeySet) (key other : FunctionKey) :
    (keys.insert key).contains other = (keys.contains other || decide (key = other)) := by
  have hother := other.rank.isLt
  by_cases h : key = other
  · subst h
    simp [contains, insert]
  · have hrank : (other.rank : Nat) ≠ key.rank := fun heq =>
      h (FunctionKey.rank_injective (Fin.ext heq.symm))
    simp [contains, insert, h, hrank]

@[simp]
theorem mem_toList (keys : KeySet) (key : FunctionKey) :
    key ∈ keys.toList ↔ keys.contains key := by
  simp [toList, FunctionKey.mem_all]

end KeySet

end TellerTerminal
