import OrderTrials.Text.Numeral
import OrderTrials.Text.Printable
/-
# Quoted texts

A text between quotes for a reader of reports. Quotes, backslashes and line ends have short
escapes, and characters that would not be seen on their own are given by number.

Key definitions: `Text.quoted`, `Text.quotedList`.
-/

namespace OrderTrials
namespace Text

/-- A character by its number. -/
def numbered (c : Char) : List Char := ['\\', 'u', '\x7b'] ++ hexNumeral c.toNat ++ ['\x7d']

/-- A character inside quotes. -/
def quotedChar (c : Char) : List Char :=
  if c = '\x00' then ['\\', '0']
  else if c = '\t' then ['\\', 't']
  else if c = '\n' then ['\\', 'n']
  else if c = '\r' then ['\\', 'r']
  else if c = '"' then ['\\', '"']
  else if c = '\\' then ['\\', '\\']
  else if isCombining c || !isPrintable c then numbered c
  else [c]

/-- A text between quotes. -/
def quoted (s : String) : String :=
  String.ofList ('"' :: s.toList.flatMap quotedChar ++ ['"'])

/-- A list of texts between brackets, each between quotes. -/
def quotedList (l : List String) : String :=
  "[" ++ ", ".intercalate (l.map quoted) ++ "]"

end Text
end OrderTrials
