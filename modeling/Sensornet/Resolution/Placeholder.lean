import Sensornet.Context

namespace Sensornet

/-!
# Placeholders in texts

A text may name the id or label of the target it is resolved for.  The id is
filled in first, and what it brings in may hold the other placeholder.
-/

namespace Text

/-- Replace every occurrence of a non-empty pattern, from the left and
without overlap.  `skip` counts the characters of an occurrence that is being
passed over. -/
def replaceFrom (pattern replacement : List Char) (skip : Nat) : List Char -> List Char
  | [] => []
  | c :: rest =>
    match skip with
    | skip + 1 => replaceFrom pattern replacement skip rest
    | 0 =>
      if pattern.isPrefixOf (c :: rest) then
        replacement ++ replaceFrom pattern replacement (pattern.length - 1) rest
      else c :: replaceFrom pattern replacement 0 rest

/-- Replace every occurrence of a pattern. -/
def replace (pattern replacement text : String) : String :=
  String.ofList (replaceFrom pattern.toList replacement.toList 0 text.toList)

end Text

namespace Context

/-- Fill in the placeholders of the context's target. -/
def fillPlaceholders (context : Context) (text : String) : String :=
  match context with
  | .zone target =>
    Text.replace "[[zone_label]]" target.label (Text.replace "[[zone_id]]" target.id text)
  | .point target =>
    Text.replace "[[point_label]]" target.label (Text.replace "[[point_id]]" target.id text)
  | .global => text

end Context
end Sensornet
