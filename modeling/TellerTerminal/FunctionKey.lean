/-!
# Function display keys

The nine keys beside the screen, `A` to `I`. Their order is the order of their letters, and the
rank of a key selects its entry in an extension state.
-/

namespace TellerTerminal

inductive FunctionKey
  | a | b | c | d | e | f | g | h | i
  deriving DecidableEq, Repr

namespace FunctionKey

/-- Every key, in letter order. -/
def all : List FunctionKey := [a, b, c, d, e, f, g, h, i]

def rank : FunctionKey → Fin 9
  | a => 0
  | b => 1
  | c => 2
  | d => 3
  | e => 4
  | f => 5
  | g => 6
  | h => 7
  | i => 8

def letter : FunctionKey → Char
  | a => 'A'
  | b => 'B'
  | c => 'C'
  | d => 'D'
  | e => 'E'
  | f => 'F'
  | g => 'G'
  | h => 'H'
  | i => 'I'

/-- The key of a letter in either case; other characters name no key. -/
def ofLetter? (letter : Char) : Option FunctionKey :=
  all.find? fun key => key.letter = letter.toUpper

theorem mem_all (key : FunctionKey) : key ∈ all := by
  cases key <;> decide

theorem rank_injective {k l : FunctionKey} (h : k.rank = l.rank) : k = l := by
  cases k <;> cases l <;> first | rfl | exact absurd h (by decide)

end FunctionKey

end TellerTerminal
