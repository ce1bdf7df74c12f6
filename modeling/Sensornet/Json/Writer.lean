import Sensornet.Json.Value

namespace Sensornet
namespace Json

/-!
# Writing JSON

Two texts of a value: the compact one without any blank, and the pretty one
with two spaces per level, one member or item per line, and `[]` or `{}` for
an empty container.  Only the quotation mark, the backslash and the controls
below the space are escaped.
-/

/-- A hexadecimal digit in lower case. -/
def hexDigit (n : Nat) : Char :=
  if n < 10 then Char.ofNat ('0'.toNat + n) else Char.ofNat ('a'.toNat + (n - 10))

/-- The written form of one character of a text. -/
def escape (c : Char) : List Char :=
  if c = '"' then ['\\', '"']
  else if c = '\\' then ['\\', '\\']
  else if c = '\n' then ['\\', 'n']
  else if c = '\r' then ['\\', 'r']
  else if c = '\t' then ['\\', 't']
  else if c = Char.ofNat 8 then ['\\', 'b']
  else if c = Char.ofNat 12 then ['\\', 'f']
  else if c.toNat < 32 then ['\\', 'u', '0', '0', hexDigit (c.toNat / 16), hexDigit (c.toNat % 16)]
  else [c]

/-- A text in quotation marks. -/
def quoted (s : String) : List Char :=
  '"' :: (s.toList.flatMap escape ++ ['"'])

namespace Value

mutual

/-- The text without blanks, as characters. -/
def compactChars : Value -> List Char
  | .null => ['n', 'u', 'l', 'l']
  | .bool true => ['t', 'r', 'u', 'e']
  | .bool false => ['f', 'a', 'l', 's', 'e']
  | .number n => n.chars
  | .text s => quoted s
  | .array items => '[' :: (compactItems items ++ [']'])
  | .object fields => '{' :: (compactFields fields ++ ['}'])
termination_by structural v => v

/-- Items with commas between them. -/
def compactItems : List Value -> List Char
  | [] => []
  | item :: rest =>
    item.compactChars ++ (match rest with | [] => [] | _ :: _ => [',']) ++ compactItems rest
termination_by structural v => v

/-- Members with commas between them. -/
def compactFields : Fields -> List Char
  | [] => []
  | (key, item) :: rest =>
    quoted key ++ ':' :: item.compactChars ++
      (match rest with | [] => [] | _ :: _ => [',']) ++ compactFields rest
termination_by structural v => v

end

/-- The text without blanks. -/
def compact (v : Value) : String :=
  String.ofList v.compactChars

/-- A new line at a level of nesting. -/
def newLine (level : Nat) : List Char :=
  '\n' :: List.replicate (2 * level) ' '

mutual

/-- The indented text of a value whose first line is at `level`. -/
def prettyChars (level : Nat) : Value -> List Char
  | .array [] => ['[', ']']
  | .array items => '[' :: (prettyItems (level + 1) items ++ newLine level ++ [']'])
  | .object [] => ['{', '}']
  | .object fields => '{' :: (prettyFields (level + 1) fields ++ newLine level ++ ['}'])
  | .null => ['n', 'u', 'l', 'l']
  | .bool true => ['t', 'r', 'u', 'e']
  | .bool false => ['f', 'a', 'l', 's', 'e']
  | .number n => n.chars
  | .text s => quoted s
termination_by structural v => v

/-- Items on lines of their own. -/
def prettyItems (level : Nat) : List Value -> List Char
  | [] => []
  | item :: rest =>
    newLine level ++ item.prettyChars level ++
      (match rest with | [] => [] | _ :: _ => [',']) ++ prettyItems level rest
termination_by structural v => v

/-- Members on lines of their own. -/
def prettyFields (level : Nat) : Fields -> List Char
  | [] => []
  | (key, item) :: rest =>
    newLine level ++ quoted key ++ ':' :: ' ' :: item.prettyChars level ++
      (match rest with | [] => [] | _ :: _ => [',']) ++ prettyFields level rest
termination_by structural v => v

end

/-- The indented text, without a final line end. -/
def pretty (v : Value) : String :=
  String.ofList (v.prettyChars 0)

end Value
end Json
end Sensornet
