import TellerTerminal.Toml.Quoted
import TellerTerminal.Toml.Scalar
import TellerTerminal.Toml.Table

/-!
# Reading TOML

A text is read line by line into statements, and the statements build up its table. Arrays and
tables in braces may go over several lines, with comments, and may end with a comma; at most 80 of
them lie within each other. Every second step of a reader takes a character, so the length of the
text gives a limit for the steps.
-/

namespace TellerTerminal.Toml

/-- The text behind a comment, up to the end of the line. -/
def skipComment? : List Char → Option (List Char)
  | '#' :: rest =>
      match rest.dropWhile isPlain with
      | [] => some []
      | rest => if startsLine rest then some rest else none
  | rest => some rest

/-- The text behind all space, comments and line ends, in at most `limit` lines. -/
def skipLines? : (limit : Nat) → List Char → Option (List Char)
  | 0, _ => none
  | limit + 1, chars => do
      let rest ← skipComment? (chars.dropWhile isSpace)
      if startsLine rest then skipLines? limit (dropLineEnd rest) else some rest

/-- The text behind the rest of a line, which holds nothing but space and a comment. -/
def endLine? (chars : List Char) : Option (List Char) := do
  let rest ← skipComment? (chars.dropWhile isSpace)
  if rest.isEmpty ∨ startsLine rest then some (dropLineEnd rest) else none

def endsWord (c : Char) : Bool :=
  c = ',' || c = '=' || c = '[' || c = ']' || c = '\x7b' || c = '\x7d' || c = '#' || c = '\n' ||
    c = '\r'

def startsString (chars : List Char) : Bool :=
  chars.head? = some '"' || chars.head? = some '\''

/-- The word at the front and what follows it. A date and a time of day are one word, so space
belongs to the word if more of it follows. -/
def splitWord : List Char → List Char × List Char
  | [] => ([], [])
  | c :: rest =>
      if endsWord c then ([], c :: rest)
      else
        let (word, behind) := splitWord rest
        if isSpace c ∧ (word.isEmpty ∨ startsString rest) then ([], c :: rest)
        else (c :: word, behind)

/-- The scalar at the front. -/
def scalar? (chars : List Char) : Option (Value × List Char) :=
  let (word, rest) := splitWord chars
  (Scalar.value? word).map (·, rest)

/-- The greatest number of arrays and tables in braces within each other. -/
def depthLimit : Nat := 80

mutual

/-- The value at the front, at most `depth` levels deep. -/
def value? (limit depth : Nat) (chars : List Char) : Option (Value × List Char) :=
  match limit, chars with
  | 0, _ => none
  | limit + 1, '[' :: rest =>
      match depth with
      | 0 => none
      | depth + 1 =>
          (items? limit depth rest).map fun (items, rest) => (.array items, rest)
  | limit + 1, '\x7b' :: rest =>
      match depth with
      | 0 => none
      | depth + 1 =>
          (pairs? limit depth [] rest).map fun (entries, rest) => (.table .inline entries, rest)
  | _ + 1, chars =>
      if startsString chars then
        (Quoted.read? chars).map fun (text, rest) => (.string (String.ofList text), rest)
      else
        scalar? chars
termination_by structural limit

/-- The items up to the closing bracket. -/
def items? (limit depth : Nat) (chars : List Char) : Option (List Value × List Char) :=
  match limit with
  | 0 => none
  | limit + 1 => do
      match ← skipLines? limit chars with
      | ']' :: rest => return ([], rest)
      | rest =>
          let (item, rest) ← value? limit depth rest
          match ← skipLines? limit rest with
          | ']' :: rest => return ([item], rest)
          | ',' :: rest =>
              let (items, rest) ← items? limit depth rest
              return (item :: items, rest)
          | _ => none
termination_by structural limit

/-- The entries with the pairs up to the closing brace. -/
def pairs? (limit depth : Nat) (entries : Entries) (chars : List Char) :
    Option (Entries × List Char) :=
  match limit with
  | 0 => none
  | limit + 1 => do
      match ← skipLines? limit chars with
      | '\x7d' :: rest => return (entries, rest)
      | rest =>
          let (path, rest) ← dottedKey? rest
          -- Within braces a line may also end on either side of the equals sign.
          let rest ← Scalar.expect? '=' (← skipLines? limit rest)
          let (value, rest) ← value? limit depth (← skipLines? limit rest)
          let entries ← entries.define? value path
          match ← skipLines? limit rest with
          | '\x7d' :: rest => return (entries, rest)
          | ',' :: rest => pairs? limit depth entries rest
          | _ => none
termination_by structural limit

end

/-- The statement at the front of a line, and the text behind it. -/
def statement? (limit : Nat) : List Char → Option (Statement × List Char)
  | '[' :: '[' :: rest => do
      let (path, rest) ← dottedKey? rest
      let rest ← Scalar.expect? ']' rest
      let rest ← Scalar.expect? ']' rest
      return (.itemHeader path, rest)
  | '[' :: rest => do
      let (path, rest) ← dottedKey? rest
      let rest ← Scalar.expect? ']' rest
      return (.header path, rest)
  | chars => do
      let (path, rest) ← dottedKey? chars
      let rest ← Scalar.expect? '=' rest
      let rest := rest.dropWhile isSpace
      let (value, rest) ← value? (2 * limit + 2) depthLimit rest
      return (.pair path value, rest)

/-- All statements of a text that is shorter than `limit`. -/
def statements? : (limit : Nat) → List Char → Option (List Statement)
  | 0, _ => none
  | limit + 1, chars => do
      let rest ← skipLines? (limit + 1) chars
      if rest.isEmpty then
        return []
      let (statement, rest) ← statement? (limit + 1) rest
      let rest ← endLine? rest
      let statements ← statements? limit rest
      return statement :: statements

/-- A byte order mark may stand at the front of a text. -/
def dropMark : List Char → List Char
  | '\ufeff' :: rest => rest
  | chars => chars

/-- The table of a text. -/
def ofText? (text : String) : Option Entries := do
  let chars := dropMark text.toList
  let statements ← statements? (chars.length + 1) chars
  let document ← Document.ofStatements? statements
  return document.entries

end TellerTerminal.Toml
