/-!
# TOML values

The values of a configuration text. A table remembers how it came about, which decides what may
still be added to it. Numbers and dates are only as exact as a configuration needs: an integer has
its value, a float tells whether its value is within the range of doubles, and a date is known to be
well formed. A number may turn out to have no value, which matters only where it is looked at.
-/

namespace TellerTerminal.Toml

/-- How a table came about: in braces, by its own header, as a part of a longer header, or by a
dotted key. -/
inductive TableKind
  | inline
  | header
  | implicit
  | dotted
  deriving DecidableEq, Repr

/-- A value; `unreadable` is a word that has the outline of an integer and is none. -/
inductive Value
  | string (text : String)
  | integer (value : Int)
  | unreadable
  | float (finite : Bool)
  | boolean (value : Bool)
  | dateTime
  | array (items : List Value)
  | table (kind : TableKind) (entries : List (String × Value))
  | tables (items : List (List (String × Value)))
  deriving Inhabited

abbrev Entries := List (String × Value)

/-- How many numbers a word of 128 bits can hold. -/
def wordSize : Nat := UInt64.size * UInt64.size

/-- Whether a signed or an unsigned word of 128 bits can hold an integer. -/
def fitsWord (value : Int) : Bool :=
  -(wordSize : Int) ≤ 2 * value && value < wordSize

/-- Whether every number in a value can be read and represented. -/
def Value.isReadable : Value → Bool
  | integer value => fitsWord value
  | unreadable => false
  | float finite => finite
  | array items => areReadable items
  | table _ entries => entriesReadable entries
  | tables items => tablesReadable items
  | _ => true
where
  areReadable : List Value → Bool
    | [] => true
    | item :: rest => isReadable item && areReadable rest
  entriesReadable : List (String × Value) → Bool
    | [] => true
    | (_, value) :: rest => isReadable value && entriesReadable rest
  tablesReadable : List (List (String × Value)) → Bool
    | [] => true
    | entries :: rest => entriesReadable entries && tablesReadable rest

end TellerTerminal.Toml
