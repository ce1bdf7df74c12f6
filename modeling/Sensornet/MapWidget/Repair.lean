import Sensornet.Json.Reader
import Sensornet.Json.Writer
import Sensornet.MapWidget.ZoneKey
import Sensornet.Network.Basic
import Sensornet.Notice

namespace Sensornet
namespace MapWidget

/-!
# Binding a map to the zones that exist

A map is written against zones that do not exist yet.  Once it is resolved,
every value under a key of zone ids has to name a zone of the network: a
placeholder or an unknown id becomes the first zone, an empty list all zones,
and JSON that is stored as a text is repaired inside and written again.  A
map that names no zone at all is bound to all of them, and a map without a
centre gets that of the network.

A text inside a stored JSON text is shorter than that text.  So the depth of
texts within texts is bounded by the longest text of the value, and this
bound is what the recursion through stored texts counts down.
-/

open Json (Value Fields)

/-- A text that holds a JSON object or array. -/
def blob? (text : String) : Option Value :=
  match Text.trimStart text.toList with
  | '{' :: _ | '[' :: _ =>
    (Value.ofText? text).filter fun value => value.isObject || value.isArray
  | _ => none

/-- The zones that a map may be bound to: the one that stands in for unknown
ids, and all of them. -/
structure Zones where
  fallback : String
  all : List String

namespace Zones

/-- The zones of a network, unless there are none. -/
def of? (zones : List Zone) : Option Zones :=
  match zones with
  | [] => none
  | first :: _ => some ⟨first.id, zones.map Zone.id⟩

def knows (z : Zones) (id : String) : Bool :=
  z.all.contains id

/-- All zones as a list of ids. -/
def allIds (z : Zones) : List Value :=
  z.all.map .text

/-- A text or number that is a known id stays, any other becomes the
fallback. -/
def idOrFallback (z : Zones) (value : Value) : Value :=
  match value with
  | .text s => if z.knows s then value else .text z.fallback
  | .number n => if z.knows n.text then value else .text z.fallback
  | _ => .text z.fallback

end Zones

/-- Keep the items that are neither null nor an empty text, each once. -/
def cleaned (items : List Value) : List Value :=
  items.foldl (fun kept item =>
    let blank := match item with
      | .null => true
      | .text s => s.isEmpty
      | _ => false
    if blank || kept.any (fun seen => seen.same item) then kept else kept ++ [item]) []

mutual

/-- The length of the longest text of a value. -/
def longestText : Value -> Nat
  | .text s => s.length
  | .array items => longestOfItems items
  | .object fields => longestOfFields fields
  | _ => 0
termination_by structural v => v

def longestOfItems : List Value -> Nat
  | [] => 0
  | item :: rest => max (longestText item) (longestOfItems rest)
termination_by structural v => v

def longestOfFields : Fields -> Nat
  | [] => 0
  | (_, value) :: rest => max (longestText value) (longestOfFields rest)
termination_by structural v => v

end

mutual

/-- Repair a value; `zoneKey` says whether the nearest key above it holds
zone ids, and `inside` repairs the value of a stored text. -/
def repairWith (z : Zones) (inside : Bool -> Value -> Value) (zoneKey : Bool) : Value -> Value
  | .text s =>
    match blob? s with
    | some stored => .text (inside zoneKey stored).compact
    | none =>
      if zoneKey then z.idOrFallback (.text s)
      else if standsForZone s then .text z.fallback
      else .text s
  | .number n => if zoneKey then z.idOrFallback (.number n) else .number n
  | .array items =>
    let repaired := repairItems z inside zoneKey items
    if zoneKey then
      let kept := cleaned repaired
      .array (if kept.isEmpty then z.allIds else kept)
    else .array repaired
  | .object fields => .object (repairFields z inside fields)
  | .null => .null
  | .bool flag => .bool flag
termination_by structural v => v

def repairItems (z : Zones) (inside : Bool -> Value -> Value) (zoneKey : Bool) :
    List Value -> List Value
  | [] => []
  | item :: rest => repairWith z inside zoneKey item :: repairItems z inside zoneKey rest
termination_by structural v => v

def repairFields (z : Zones) (inside : Bool -> Value -> Value) : Fields -> Fields
  | [] => []
  | (key, value) :: rest =>
    (key, repairWith z inside (holdsZoneIds key) value) :: repairFields z inside rest
termination_by structural v => v

end

/-- Repair through a number of levels of stored texts. -/
def repairWithin (z : Zones) : Nat -> Bool -> Value -> Value
  | 0 => repairWith z fun _ stored => stored
  | levels + 1 => repairWith z (repairWithin z levels)

/-- Repair a value under a key. -/
def repairValue (z : Zones) (zoneKey : Bool) (value : Value) : Value :=
  repairWithin z (longestText value) zoneKey value

mutual

/-- Whether a value names a known zone under a key of zone ids. -/
def bindsWith (z : Zones) (inside : Bool -> Value -> Bool) (zoneKey : Bool) : Value -> Bool
  | .text s =>
    match blob? s with
    | some stored => inside zoneKey stored
    | none => zoneKey && z.knows s
  | .number n => zoneKey && z.knows n.text
  | .array items => itemsBind z inside zoneKey items
  | .object fields => fieldsBind z inside fields
  | .null => false
  | .bool _ => false
termination_by structural v => v

def itemsBind (z : Zones) (inside : Bool -> Value -> Bool) (zoneKey : Bool) : List Value -> Bool
  | [] => false
  | item :: rest => bindsWith z inside zoneKey item || itemsBind z inside zoneKey rest
termination_by structural v => v

def fieldsBind (z : Zones) (inside : Bool -> Value -> Bool) : Fields -> Bool
  | [] => false
  | (key, value) :: rest =>
    bindsWith z inside (holdsZoneIds key) value || fieldsBind z inside rest
termination_by structural v => v

end

/-- `bindsWith` through a number of levels of stored texts. -/
def bindsWithin (z : Zones) : Nat -> Bool -> Value -> Bool
  | 0 => bindsWith z fun _ _ => false
  | levels + 1 => bindsWith z (bindsWithin z levels)

/-- Whether a value under a key names a known zone. -/
def binds (z : Zones) (zoneKey : Bool) (value : Value) : Bool :=
  bindsWithin z (longestText value) zoneKey value

/-- The fields with every value repaired. -/
def repairedFields (z : Zones) (fields : Fields) : Fields :=
  fields.map fun (key, value) => (key, repairValue z (holdsZoneIds key) value)

/-- Whether some field names a known zone. -/
def isBound (z : Zones) (fields : Fields) : Bool :=
  fields.any fun (key, value) => binds z (holdsZoneIds key) value

/-- Bind a map to all zones through its `args`, which are made if they are
missing or null.  Other `args` that are no object are left alone. -/
def bindToAll (z : Zones) (fields : Fields) : Fields :=
  match Entries.get? "args" fields with
  | some (.object args) =>
    Entries.insert "args" (.object (Entries.insert "polygon_ids" (.array z.allIds) args)) fields
  | none | some .null =>
    Entries.insert "args" (.object [("polygon_ids", .array z.allIds)]) fields
  | some _ => fields

/-- Whether a map still lacks a centre. -/
def lacksCenter (fields : Fields) : Bool :=
  match Entries.get? "center" fields with
  | none | some .null => true
  | some (.text s) => s.isEmpty
  | some (.array items) => items.isEmpty
  | some _ => false

/-- Set the centre of a map to the mean of the centroids of the zones. -/
def fillCenter (zones : List Zone) (fields : Fields) : Fields :=
  if lacksCenter fields then
    match Geometry.Polygon.center? (zones.map Zone.polygon) with
    | some center => Entries.insert "center" center.toJson fields
    | none => fields
  else fields

/-- Repair the fields of a map against the zones of the network. -/
def repair (zones : List Zone) (fields : Fields) : Fields :=
  match Zones.of? zones with
  | none => fields
  | some z =>
    let repaired := repairedFields z fields
    fillCenter zones (if isBound z repaired then repaired else bindToAll z repaired)

/-- What is remarked while repairing. -/
def repairNotices (zones : List Zone) (fields : Fields) : List Notice :=
  match Zones.of? zones with
  | none => [.noZonesForMaps]
  | some z =>
    let repaired := repairedFields z fields
    if isBound z repaired then []
    else
      match Entries.get? "args" repaired with
      | none | some .null | some (.object _) => []
      | some other => [.mapArgsNotObject other.compact]

end MapWidget
end Sensornet
