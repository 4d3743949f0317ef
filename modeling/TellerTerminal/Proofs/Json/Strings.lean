import TellerTerminal.Json.Node
import TellerTerminal.Json.Printing

/-!
# Strings read back

A character is written as itself, as a backslash and a letter, or by its number.  Reading gives one
piece for each written character, whatever follows, and the pieces of a written text decode to the
text.  No written character is a surrogate, so every piece is decoded by itself.
-/

namespace TellerTerminal

namespace Text

theorem hexValue_digitChar : ∀ n < 16, hexValue n.digitChar = n := by
  decide

theorem isHexDigit_digitChar : ∀ n < 16, isHexDigit n.digitChar := by
  decide

theorem ofHex_fourHexDigits {n : Nat} (h : n < 65536) : ofHex (fourHexDigits n) = n := by
  have hvalue (k : Nat) : hexValue (k % 16).digitChar = k % 16 :=
    hexValue_digitChar _ (Nat.mod_lt _ (by decide))
  simp only [ofHex, fourHexDigits, List.foldl, hvalue]
  omega

theorem all_isHexDigit_fourHexDigits (n : Nat) : (fourHexDigits n).all isHexDigit := by
  have hdigit (k : Nat) : isHexDigit (k % 16).digitChar :=
    isHexDigit_digitChar _ (Nat.mod_lt _ (by decide))
  simp [fourHexDigits, hdigit]

end Text

namespace Json

namespace StringPart

/-- The piece that a written character is read as: its number if it was written by its number, and
the character itself otherwise. -/
def ofChar (c : Char) : StringPart :=
  if c < ' ' ∧ c ∉ ['\x08', '\x0c', '\n', '\r', '\t'] then .unit c.toNat else .char c

/-- The pieces of a written text. -/
def written (text : String) : List StringPart :=
  text.toList.map ofChar

theorem toNat_lt_of_lt_space {c : Char} (h : c < ' ') : c.toNat < 32 := by
  simpa [Char.lt_def, UInt32.lt_iff_toNat_lt] using h

/-- A character by its number. -/
theorem read?_unit {n : Nat} (h : n < 65536) (rest : List Char) :
    read? ('\\' :: 'u' :: Text.fourHexDigits n ++ rest) =
      (read? rest).map fun (parts, rest) => (.unit n :: parts, rest) := by
  have hall := Text.all_isHexDigit_fourHexDigits n
  have hvalue := Text.ofHex_fourHexDigits h
  simp only [Text.fourHexDigits] at hall hvalue
  simp only [Text.fourHexDigits, List.cons_append, List.nil_append, read?, hall, hvalue, if_true]

/-- A character that stands for itself. -/
theorem read?_char {c : Char} (hquote : c ≠ '"') (hslash : c ≠ '\\') (hspace : ¬ c < ' ')
    (rest : List Char) :
    read? (c :: rest) = (read? rest).map fun (parts, rest) => (.char c :: parts, rest) := by
  rw [read?.eq_def]
  split
  next => simp_all
  next => simp_all
  next => simp_all
  next => simp_all
  next heq =>
    obtain ⟨rfl, rfl⟩ := List.cons.inj heq
    simp [hslash, hspace]

theorem read?_escapedChar (c : Char) (rest : List Char) :
    read? (escapedChar c ++ rest) =
      (read? rest).map fun (parts, rest) => (ofChar c :: parts, rest) := by
  unfold escapedChar
  split
  next h => subst h; rfl
  next hquote =>
    split
    next h => subst h; rfl
    next hslash =>
      -- Five characters have a letter; of the rest, those below the space are numbered.
      iterate 5
        split
        next h => subst h; rfl
      split
      next hlt =>
        have hofChar : ofChar c = .unit c.toNat := by simp_all [ofChar]
        have hsize : c.toNat < 65536 := by
          have := toNat_lt_of_lt_space hlt
          omega
        rw [hofChar]
        exact read?_unit hsize rest
      next hge =>
        have hofChar : ofChar c = .char c := by simp [ofChar, hge]
        rw [hofChar]
        exact read?_char hquote hslash hge rest

/-- A written text is read up to its closing quote. -/
theorem read?_written (text : String) (rest : List Char) :
    read? (text.toList.flatMap escapedChar ++ '"' :: rest) = some (written text, rest) := by
  unfold written
  induction text.toList with
  | nil => simp [read?]
  | cons c chars ih => simp [read?_escapedChar, ih]

/-- A code unit in front of the surrogates stands for itself. -/
theorem text?_unit {value : Nat} (h : value < 0xd800) (parts : List StringPart) :
    text? (.unit value :: parts) = (text? parts).map (Char.ofNat value :: ·) := by
  have hhigh : isHighSurrogate value = false := by
    simp only [isHighSurrogate, Bool.and_eq_false_iff, decide_eq_false_iff_not]
    omega
  have hlow : isLowSurrogate value = false := by
    simp only [isLowSurrogate, Bool.and_eq_false_iff, decide_eq_false_iff_not]
    omega
  cases parts with
  | nil => simp [text?, hhigh, hlow]
  | cons part rest =>
      cases part with
      | char c => simp [text?, hhigh, hlow]
      | unit low => simp [text?, hhigh, hlow]

theorem text?_ofChar (c : Char) (parts : List StringPart) :
    text? (ofChar c :: parts) = (text? parts).map (c :: ·) := by
  unfold ofChar
  split
  next h =>
    have hsmall : c.toNat < 0xd800 := by
      have := toNat_lt_of_lt_space h.1
      omega
    rw [text?_unit hsmall, Char.ofNat_toNat]
  next => rfl

theorem text?_written (text : String) : text? (written text) = some text.toList := by
  unfold written
  induction text.toList with
  | nil => rfl
  | cons c chars ih => simp [text?_ofChar, ih]

end StringPart

@[simp]
theorem Node.textOf?_written (text : String) :
    textOf? (StringPart.written text) = some text := by
  simp [textOf?, StringPart.text?_written]

theorem Token.next?_quote (text : String) (rest : List Char) :
    next? (quote text ++ rest) = some (.string (StringPart.written text), rest) := by
  simp [quote, next?, StringPart.read?_written]

end Json

end TellerTerminal
