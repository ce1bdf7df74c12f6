import Sensornet.Text.EscapeTable

namespace Sensornet
namespace Text

/-!
# Quoted texts in notices

A notice shows a text of the input between quotation marks.  Quotation mark
and backslash are escaped, the common controls have a letter, and any other
character that a reader could not see or place is shown by its number.
-/

/-- A number in lower-case hexadecimal digits. -/
def hexadecimal (n : Nat) : List Char :=
  Nat.toDigits 16 n

/-- The shown form of one character. -/
def shownChar (c : Char) : List Char :=
  if c = '"' then ['\\', '"']
  else if c = '\\' then ['\\', '\\']
  else if c = '\n' then ['\\', 'n']
  else if c = '\r' then ['\\', 'r']
  else if c = '\t' then ['\\', 't']
  else if c.toNat = 0 then ['\\', '0']
  else if isEscaped c then ['\\', 'u', '{'] ++ hexadecimal c.toNat ++ ['}']
  else [c]

/-- A text between quotation marks. -/
def quote (text : String) : String :=
  String.ofList ('"' :: (text.toList.flatMap shownChar ++ ['"']))

end Text
end Sensornet
