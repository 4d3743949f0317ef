import TellerTerminal.Text.Printable

/-!
# Quoted text

Text that is shown in a diagnostic stands in double quotes. Quotes and backslashes get a backslash,
and a character that does not print is shown by its code point. Text that may be absent shows
whether it is there.
-/

namespace TellerTerminal.Text

def quotedChar (c : Char) : List Char :=
  if c = '\x00' then ['\\', '0']
  else if c = '\t' then ['\\', 't']
  else if c = '\r' then ['\\', 'r']
  else if c = '\n' then ['\\', 'n']
  else if c = '"' then ['\\', '"']
  else if c = '\\' then ['\\', '\\']
  else if isPrintable c then [c]
  else ['\\', 'u', '\x7b'] ++ Nat.toDigits 16 c.toNat ++ ['\x7d']

def quoted (text : String) : String :=
  String.ofList ('"' :: text.toList.flatMap quotedChar ++ ['"'])

def quotedOption : Option String → String
  | none => "None"
  | some text => "Some(" ++ quoted text ++ ")"

end TellerTerminal.Text
