/-!
# Paths

The parts of a path between its slashes. A part that is empty or a dot stays where it is, and two
dots lead to the directory above.
-/

namespace TellerTerminal

/-- Whether a part of a path leads nowhere else. -/
def isIdlePart (part : List Char) : Bool :=
  part = [] || part = ['.']

inductive PathStep
  | name (text : String)
  | up
  | here
  deriving DecidableEq, Repr

structure Path where
  absolute : Bool
  steps : List PathStep
  deriving DecidableEq, Repr

namespace PathStep

def ofPart (part : List Char) : PathStep :=
  if isIdlePart part then here
  else if part = ['.', '.'] then up
  else name (String.ofList part)

end PathStep

namespace Path

def ofText (text : String) : Path :=
  match text.toList with
  | '/' :: rest => ⟨true, (rest.splitOn '/').map PathStep.ofPart⟩
  | chars => ⟨false, (chars.splitOn '/').map PathStep.ofPart⟩

end Path

/-- The parts up to the last proper one. -/
def trimParts (parts : List (List Char)) : List (List Char) :=
  (parts.reverse.dropWhile isIdlePart).reverse

/-- The path of the directory that holds the file at `path`, if it is named at all. It is the text
in front of the last proper part. -/
def parentPath? (path : String) : Option String :=
  match trimParts (trimParts (path.toList.splitOn '/')).dropLast with
  | [] => none
  | parts => some (String.ofList (['/'].intercalate parts))

end TellerTerminal
