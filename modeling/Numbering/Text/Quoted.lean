import Numbering.Text.Digits
import Numbering.Text.Unprintable

/-!
# Quoted text

A text in messages stands between double quotes, with a backslash in front of quotes and
backslashes, short escapes for the common controls, and `\u` with a hexadecimal code point in
braces for every other unprintable character.
-/

namespace Numbering.Text

/-- One character of a quoted text. -/
def quotedChar (char : Char) : List Char :=
  if char = '"' then ['\\', '"']
  else if char = '\\' then ['\\', '\\']
  else if char = '\n' then ['\\', 'n']
  else if char = '\r' then ['\\', 'r']
  else if char = '\t' then ['\\', 't']
  else if char.toNat = 0 then ['\\', '0']
  else if isUnprintable char then
    ['\\', 'u', '\x7b'] ++ Digits.chars (Digits.ofNat 16 char.toNat) ++ ['\x7d']
  else [char]

/-- A text between double quotes. -/
def quoted (text : String) : String :=
  String.ofList ('"' :: text.toList.flatMap quotedChar ++ ['"'])

end Numbering.Text
