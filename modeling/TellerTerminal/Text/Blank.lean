/-!
# Blank characters

The characters with the Unicode property White_Space. The separators U+001C to U+001F, the
zero-width space and the byte order mark are not among them.
-/

namespace TellerTerminal.Text

/-- Ascending ranges of code points, both ends included. -/
def blankRanges : List (Nat × Nat) :=
  [(0x9, 0xd), (0x20, 0x20), (0x85, 0x85), (0xa0, 0xa0), (0x1680, 0x1680), (0x2000, 0x200a),
    (0x2028, 0x2029), (0x202f, 0x202f), (0x205f, 0x205f), (0x3000, 0x3000)]

def isBlank (c : Char) : Bool :=
  blankRanges.any fun range => range.1 ≤ c.toNat && c.toNat ≤ range.2

/-- The text without the blanks at its two ends. -/
def trim (chars : List Char) : List Char :=
  ((chars.dropWhile isBlank).reverse.dropWhile isBlank).reverse

/-- A text of blanks only, the empty text among them. -/
def isBlankText (chars : List Char) : Bool :=
  chars.all isBlank

end TellerTerminal.Text
