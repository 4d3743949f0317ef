/-!
# State table payloads

A payload holds any number of records between field separators. Line ends after a record belong
to the layout of the payload, and empty pieces count for nothing.
-/

namespace TellerTerminal.Payload

/-- The character between two records. -/
def separator : Char := '\x1c'

def isLineEnd (c : Char) : Bool :=
  c = '\r' || c = '\n'

/-- The characters up to the last one that ends no line. -/
def trimLineEnds (piece : List Char) : List Char :=
  (piece.reverse.dropWhile isLineEnd).reverse

/-- The pieces of a payload in order, as characters. -/
def pieces (payload : List Char) : List (List Char) :=
  ((payload.splitOn separator).map trimLineEnds).filter fun piece => !piece.isEmpty

def records (payload : String) : List String :=
  (pieces payload.toList).map String.ofList

end TellerTerminal.Payload
