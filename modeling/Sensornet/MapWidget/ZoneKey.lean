import Sensornet.Text.Blank

namespace Sensornet
namespace MapWidget

/-!
# Keys and texts that speak of zones

A key holds zone ids when its words name both a subject, such as `polygon`
or `feature`, and `id` or `ids`.  Words are found in every naming style: they
end at punctuation, and where a capital follows a lower-case letter or a
digit.
-/

/-- The words of a key in lower case.  `word` holds the word under way, last
character first; `afterLower` says that it ends in a lower-case letter or a
digit. -/
def wordsFrom (word : List Char) (afterLower : Bool) : List Char -> List (List Char)
  | [] => if word.isEmpty then [] else [word.reverse]
  | c :: rest =>
    if !c.isAlphanum then
      if word.isEmpty then wordsFrom [] false rest else word.reverse :: wordsFrom [] false rest
    else
      let continues := c.isLower || c.isDigit
      if c.isUpper && afterLower then word.reverse :: wordsFrom [c.toLower] continues rest
      else wordsFrom (c.toLower :: word) continues rest

/-- The words of a key in lower case. -/
def keyWords (key : String) : List String :=
  (wordsFrom [] false key.toList).map String.ofList

def subjectWords : List String :=
  ["polygon", "polygons", "zone", "zones", "geom", "geometry", "feature", "features"]

def idWords : List String := ["id", "ids"]

/-- Whether the values of a key are zone ids. -/
def holdsZoneIds (key : String) : Bool :=
  let words := keyWords key
  words.any subjectWords.contains && words.any idWords.contains

/-- What stands between an opening and a closing text, if both are there. -/
def between? (opening closing text : List Char) : Option (List Char) :=
  if opening.isPrefixOf text then
    let inner := text.drop opening.length
    if closing.isSuffixOf inner then some (inner.take (inner.length - closing.length)) else none
  else none

/-- Whether a text is a placeholder for a zone: `polygon_id` or `zone_id` in
double brackets, in either case, with blanks anywhere around the word and the
brackets. -/
def standsForZone (text : String) : Bool :=
  match between? ['[', '['] [']', ']'] (Text.trim text.toList) with
  | some inner =>
    let word := String.ofList ((Text.trim inner).map Char.toLower)
    word == "polygon_id" || word == "zone_id"
  | none => false

end MapWidget
end Sensornet
