import TellerTerminal.Text.Hex

/-!
# TOML strings and keys

A string stands in double quotes, with escapes, or in single quotes, without; three quotes open a
string of several lines. Each reader starts behind the opening quotes and gives the text and what
follows the closing quotes.
-/

namespace TellerTerminal.Toml

/-- A character that may stand in a string or comment: the tab, or one that is no ASCII control. -/
def isPlain (c : Char) : Bool :=
  c = '\t' || (' ' ≤ c && c ≠ '\x7f')

def isSpace (c : Char) : Bool :=
  c = ' ' || c = '\t'

def startsLine : List Char → Bool
  | '\n' :: _ => true
  | '\r' :: '\n' :: _ => true
  | _ => false

/-- The text without a line end at its front. -/
def dropLineEnd : List Char → List Char
  | '\n' :: rest => rest
  | '\r' :: '\n' :: rest => rest
  | rest => rest

/-- The character that a backslash and a letter stand for. -/
def escaped? : Char → Option Char
  | 'b' => some '\x08'
  | 't' => some '\t'
  | 'n' => some '\n'
  | 'f' => some '\x0c'
  | 'r' => some '\r'
  | 'e' => some '\x1b'
  | '"' => some '"'
  | '\\' => some '\\'
  | _ => none

/-- The character of a code point in hexadecimal digits. -/
def ofCodePoint? (digits : List Char) : Option Char :=
  let code := Text.ofHex digits
  if digits.all Text.isHexDigit ∧ code.isValidChar then some (Char.ofNat code) else none

abbrev TextAndRest := Option (List Char × List Char)

def push (c? : Option Char) (rest : TextAndRest) : TextAndRest := do
  let c ← c?
  let (text, rest) ← rest
  return (c :: text, rest)

namespace Quoted

/-- A string of one line in double quotes. -/
def basic : List Char → TextAndRest
  | [] => none
  | '"' :: rest => some ([], rest)
  | '\\' :: 'x' :: a :: b :: rest => push (ofCodePoint? [a, b]) (basic rest)
  | '\\' :: 'u' :: a :: b :: c :: d :: rest => push (ofCodePoint? [a, b, c, d]) (basic rest)
  | '\\' :: 'U' :: a :: b :: c :: d :: e :: f :: g :: h :: rest =>
      push (ofCodePoint? [a, b, c, d, e, f, g, h]) (basic rest)
  | '\\' :: mark :: rest => push (escaped? mark) (basic rest)
  | c :: rest => if c ≠ '\\' ∧ isPlain c then push c (basic rest) else none

/-- A string of several lines in double quotes, whose line ends belong to the text as they are.
After a backslash at the end of a line all blanks are skipped. Up to two quotes may stand before the
three that close the string. -/
def multiline (skipping : Bool) : List Char → TextAndRest
  | [] => none
  | '"' :: '"' :: '"' :: '"' :: '"' :: rest => some (['"', '"'], rest)
  | '"' :: '"' :: '"' :: '"' :: rest => some (['"'], rest)
  | '"' :: '"' :: '"' :: rest => some ([], rest)
  | '\\' :: 'x' :: a :: b :: rest => push (ofCodePoint? [a, b]) (multiline false rest)
  | '\\' :: 'u' :: a :: b :: c :: d :: rest =>
      push (ofCodePoint? [a, b, c, d]) (multiline false rest)
  | '\\' :: 'U' :: a :: b :: c :: d :: e :: f :: g :: h :: rest =>
      push (ofCodePoint? [a, b, c, d, e, f, g, h]) (multiline false rest)
  | '\r' :: '\n' :: rest =>
      if skipping then multiline true rest
      else push '\r' (push '\n' (multiline false rest))
  | '\n' :: rest => if skipping then multiline true rest else push '\n' (multiline false rest)
  | '\\' :: mark :: rest =>
      -- Blanks may stand between the backslash and the end of its line.
      if startsLine ((mark :: rest).dropWhile isSpace) then multiline true (mark :: rest)
      else push (escaped? mark) (multiline false rest)
  | c :: rest =>
      if skipping ∧ isSpace c then multiline true rest
      else if c ≠ '\\' ∧ isPlain c then push c (multiline false rest)
      else none

/-- A string of one line in single quotes. -/
def literal : List Char → TextAndRest
  | [] => none
  | '\'' :: rest => some ([], rest)
  | c :: rest => if isPlain c then push c (literal rest) else none

/-- A string of several lines in single quotes, with its line ends as they are. -/
def multilineLiteral : List Char → TextAndRest
  | [] => none
  | '\'' :: '\'' :: '\'' :: '\'' :: '\'' :: rest => some (['\'', '\''], rest)
  | '\'' :: '\'' :: '\'' :: '\'' :: rest => some (['\''], rest)
  | '\'' :: '\'' :: '\'' :: rest => some ([], rest)
  | '\r' :: '\n' :: rest => push '\r' (push '\n' (multilineLiteral rest))
  | '\n' :: rest => push '\n' (multilineLiteral rest)
  | c :: rest => if isPlain c then push c (multilineLiteral rest) else none

/-- The string at the front of a text that starts with a quote. -/
def read? : List Char → TextAndRest
  | '"' :: '"' :: '"' :: rest => multiline false (dropLineEnd rest)
  | '"' :: rest => basic rest
  | '\'' :: '\'' :: '\'' :: rest => multilineLiteral (dropLineEnd rest)
  | '\'' :: rest => literal rest
  | _ => none

end Quoted

def isKeyChar (c : Char) : Bool :=
  c.isAlphanum || c = '_' || c = '-'

/-- The key at the front. -/
def simpleKey? : List Char → Option (String × List Char)
  | '"' :: rest => (Quoted.basic rest).map fun (text, rest) => (String.ofList text, rest)
  | '\'' :: rest => (Quoted.literal rest).map fun (text, rest) => (String.ofList text, rest)
  | chars =>
      match chars.takeWhile isKeyChar with
      | [] => none
      | key => some (String.ofList key, chars.dropWhile isKeyChar)

/-- The keys between dots at the front, of which there are at most `limit`, and the text behind
the space that follows them. -/
def dottedKeyWithin? : (limit : Nat) → List Char → Option (List String × List Char)
  | 0, _ => none
  | limit + 1, chars => do
      let (key, rest) ← simpleKey? (chars.dropWhile isSpace)
      match rest.dropWhile isSpace with
      | '.' :: rest =>
          let (keys, rest) ← dottedKeyWithin? limit rest
          return (key :: keys, rest)
      | rest => return ([key], rest)

/-- The greatest number of keys between dots. -/
def keyLimit : Nat := 80

def dottedKey? (chars : List Char) : Option (List String × List Char) :=
  dottedKeyWithin? keyLimit chars

end TellerTerminal.Toml
