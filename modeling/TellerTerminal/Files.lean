/-!
# Files

What a program asks of the files around it: the content at a path, new directories, new content,
and a file to append to. A request that changes something tells whether it was granted.
-/

namespace TellerTerminal

inductive Content
  | missing
  | unreadable
  | bytes (data : ByteArray)

namespace Content

/-- The text of a content that is valid UTF-8. -/
def text? : Content → Option String
  | bytes data => String.fromUTF8? data
  | _ => none

end Content

structure Files (m : Type → Type) where
  read : String → m Content
  makeDirectories : String → m Bool
  write : String → ByteArray → m Bool
  append : String → m Bool

end TellerTerminal
