import Sensornet.Fixture.Row
import Sensornet.Geometry.Polygon
import Sensornet.Json.Reader
import Sensornet.Notice
import Sensornet.Text.LowerCase

namespace Sensornet
namespace Domain

/-!
# Domain items

A domain is a list of zones and sensors as a user writes them.  Category and
label are required and not empty; every other member may be missing or null,
and must otherwise be of its type.  Unknown members are ignored.  The first
bad item is reported, and of its faults a missing category comes before a
missing label, and both before a member of a wrong type.
-/

open Json (Value Fields)

/-- A zone or sensor. -/
structure Item where
  category : String
  label : String
  /-- rings for a zone, `[x, y]` for a point, or either as a JSON text -/
  coords : Value
  /-- label of a zone that the sensor feeds -/
  inletFor : Option String
  /-- label of a zone that the sensor drains -/
  outletFor : Option String
  metricUnit : Option String
  metricInterval : Option String
  metricCategory : Option String
  metricStorageTable : Option Int
  notes : Option String
  attributes : Option Value
  tags : Option (List Value)

namespace Item

/-- An optional member: absent or null is nothing, and any other value has to
be read. -/
def optional? {A : Type} (read : Value -> Option A) (members : Fields) (key : String) :
    Option (Option A) :=
  match Entries.get? key members with
  | none | some .null => some none
  | some value => (read value).map some

/-- An optional member with two spellings, of which one item may use only
one. -/
def spelled? {A : Type} (read : Value -> Option A) (members : Fields) (key other : String) :
    Option (Option A) :=
  if Entries.contains key members && Entries.contains other members then none
  else if Entries.contains key members then optional? read members key
  else optional? read members other

/-- An integer of 64 bits with its sign. -/
def signed? : Value -> Option Int
  | .number (.integer n) => if Word.fitsSigned n then some n else none
  | _ => none

/-- Read an item whose category and label are known. -/
def ofMembers? (category label : String) (members : Fields) : Option Item := do
  let inletFor ← spelled? Value.text? members "inletFor" "inlet_for"
  let outletFor ← spelled? Value.text? members "outletFor" "outlet_for"
  let metricUnit ← optional? Value.text? members "metric_unit"
  let metricInterval ← optional? Value.text? members "metric_interval"
  let metricCategory ← optional? Value.text? members "metric_category"
  let metricStorageTable ← optional? signed? members "metric_storage_table"
  let notes ← optional? Value.text? members "notes"
  let attributes ← optional? some members "attribute"
  let tags ← optional? Value.array? members "tags_list"
  return { category, label, inletFor, outletFor, metricUnit, metricInterval, metricCategory
           metricStorageTable, notes, attributes, tags
           coords := (Entries.get? "coords" members).getD .null }

/-- A member that is a text and not empty. -/
def filled? (members : Fields) (key : String) : Option String :=
  ((Entries.get? key members).bind Value.text?).filter fun s => !s.isEmpty

/-- Read the item at a position. -/
def ofJson (index : Nat) : Value -> Except Failure Item
  | .object members =>
    let label? := filled? members "label"
    match filled? members "category", label? with
    | none, _ => .error (.missingField index "category" label?)
    | some _, none => .error (.missingField index "label" none)
    | some category, some label =>
      match ofMembers? category label members with
      | some item => .ok item
      | none => .error (.json ("domain item " ++ Failure.position index ++ " (" ++ label ++ ")"))
  | _ => .error (.notAnObject "domain item" index)

/-- The category in lower case; it decides what an item is. -/
def kind (item : Item) : String :=
  Text.lower item.category

end Item

/-- Read the items from position `index` on. -/
def ofItems (index : Nat) : List Value -> Except Failure (List Item)
  | [] => .ok []
  | value :: rest =>
    match Item.ofJson index value with
    | .error failure => .error failure
    | .ok item => (ofItems (index + 1) rest).map (item :: ·)

/-- Read a domain. -/
def ofJson : Value -> Except Failure (List Item)
  | .array items => ofItems 0 items
  | _ => .error (.notAnArray "domain")

/-- The kinds that a compile knows. -/
def zoneKind : String := "zone"
def flowMeterKind : String := "flow_meter"
def pressureSensorKind : String := "pressure_sensor"

namespace Item

/-- The coordinates of an item, a text being read as JSON. -/
def coordinates (item : Item) : Value :=
  match item.coords with
  | .text s => (Value.ofText? s).getD .null
  | other => other

/-- The polygon of a zone; none when its coordinates are unusable. -/
def polygon? (item : Item) : Option Geometry.Polygon :=
  Geometry.Polygon.ofJson? item.coordinates

/-- The position of a sensor; none when its coordinates are unusable. -/
def position? (item : Item) : Option Geometry.Position :=
  Geometry.Position.ofJson? item.coordinates

/-- The icon of a target that has no attribute of its own. -/
def icon (kind : String) : String :=
  if kind = zoneKind then "Zone"
  else if kind = flowMeterKind then "Flow_Meter"
  else if kind = pressureSensorKind then "Pressure_Sensor"
  else "Device"

/-- The fields of the row of a target.  Zones and points share one layout. -/
def fields (item : Item) (id kind : String) (coord : Value) (coordsText : String) : Fields :=
  [ ("id", .text id)
  , ("tags", .text "[]")
  , ("coord", coord)
  , ("label", .text item.label)
  , ("notes", .text (item.notes.getD item.label))
  , ("coords", .text coordsText)
  , ("category", .text kind)
  , ("attribute", item.attributes.getD (.object
      [ ("metadata", .array [])
      , ("icon_code", .text (icon kind))
      , ("icon_size", Value.integer 1) ]))
  , ("is_active", .bool true)
  , ("tags_list", .array (item.tags.getD [])) ]

end Item
end Domain
end Sensornet
