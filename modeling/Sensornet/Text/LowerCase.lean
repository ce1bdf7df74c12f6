import Sensornet.Text.CaseTable

namespace Sensornet
namespace Text

/-!
# Lower case

The full lower-case mapping of Unicode, without the rules of any language.
Every character maps by itself except the capital sigma, whose lower case
depends on the word around it: it is final when a letter stands before it and
none behind it, characters that case ignores being skipped in both
directions.
-/

def isCased (c : Char) : Bool :=
  insideOf casedPoints c.toNat

def isCaseIgnorable (c : Char) : Bool :=
  insideOf caseIgnorablePoints c.toNat

/-- Whether the first character that case does not ignore is cased. -/
def meetsCased (text : List Char) : Bool :=
  match text.dropWhile isCaseIgnorable with
  | c :: _ => isCased c
  | [] => false

/-- The lower case of a character that stands alone.  The dotted capital I is
the only one that becomes two characters. -/
def lowerChar (c : Char) : List Char :=
  if c.toNat < 0x80 then [c.toLower]
  else if c.toNat = 0x130 then ['i', Char.ofNat 0x307]
  else
    match lowerRuns.find? fun run =>
        decide (run.first ≤ c.toNat) && decide (c.toNat ≤ run.last) &&
          (c.toNat - run.first) % run.step == 0 with
    | some run => [Char.ofNat (c.toNat + run.offset).toNat]
    | none => [c]

/-- Lower case of a text; `before` holds what precedes it, last first. -/
def lowerAfter (before : List Char) : List Char -> List Char
  | [] => []
  | c :: rest =>
    let lowered :=
      if c = 'Σ' then
        if meetsCased before && !meetsCased rest then ['ς'] else ['σ']
      else lowerChar c
    lowered ++ lowerAfter (c :: before) rest

/-- The lower-case form of a text. -/
def lower (text : String) : String :=
  String.ofList (lowerAfter [] text.toList)

/-- ASCII letters in lower case, every other character as it is. -/
def lowerAscii (text : String) : String :=
  String.ofList (text.toList.map Char.toLower)

end Text
end Sensornet
