import Sensornet.Failure
import Sensornet.Json.Value

namespace Sensornet
namespace Fixture

/-!
# Fixture rows

A row of a bulk load names its model, carries a key and holds an object of
fields.  Targets, metrics and triggers have texts as keys; links and what is
shown to users have integers.
-/

namespace Model

def polygon : String := "fl_monitoring.polygon"
def point : String := "fl_monitoring.point"
def link : String := "fl_monitoring.link"
def metric : String := "fl_monitoring.metricdefinition"
def trigger : String := "fl_dispatcher.metrictrigger"
def page : String := "fl_page_settings.pagesettings"
def chart : String := "fl_page_settings.chart"
def card : String := "fl_page_settings.card"
def map : String := "fl_page_settings.map"

end Model

/-- The primary key of a row. -/
inductive Key where
  | integer (n : Int)
  | text (s : String)
  deriving DecidableEq, Repr

namespace Key

/-- The key as it appears inside texts. -/
def shown : Key -> String
  | .integer n => String.ofList (Decimal.integer n)
  | .text s => s

def toJson : Key -> Json.Value
  | .integer n => Json.Value.integer n
  | .text s => .text s

def ofJson? : Json.Value -> Option Key
  | .text s => some (.text s)
  | .number (.integer n) => if Word.fitsSigned n then some (.integer n) else none
  | _ => none

def text? : Key -> Option String
  | .text s => some s
  | .integer _ => none

def integer? : Key -> Option Int
  | .integer n => some n
  | .text _ => none

/-- Integers by value, and before all texts. -/
def le : Key -> Key -> Bool
  | .integer m, .integer n => decide (m ≤ n)
  | .integer _, .text _ => true
  | .text _, .integer _ => false
  | .text s, .text t => decide (s ≤ t)

end Key

/-- A row: model, key and fields. -/
structure Row where
  model : String
  key : Key
  fields : Json.Fields

namespace Row

def field? (row : Row) (name : String) : Option Json.Value :=
  Entries.get? name row.fields

/-- A field that holds a text. -/
def text? (row : Row) (name : String) : Option String :=
  (row.field? name).bind Json.Value.text?

/-- A text field, or the empty text. -/
def textOf (row : Row) (name : String) : String :=
  (row.text? name).getD ""

/-- Read the three parts of a row. -/
def ofParts? (model key fields : Json.Value) : Option Row :=
  match model, Key.ofJson? key, fields with
  | .text model, some key, .object fields => some ⟨model, key, fields⟩
  | _, _, _ => none

/-- A row is an object with three known members, others being ignored, or
the list of these three. -/
def ofJson? : Json.Value -> Option Row
  | .array [model, key, fields] => ofParts? model key fields
  | .object members =>
    match Entries.get? "model" members, Entries.get? "pk" members,
        Entries.get? "fields" members with
    | some model, some key, some fields => ofParts? model key fields
    | _, _, _ => none
  | _ => none

def toJson (row : Row) : Json.Value :=
  .object [("model", .text row.model), ("pk", row.key.toJson), ("fields", .object row.fields)]

end Row

namespace Rows

/-- Read the rows from position `index` on. -/
def ofItems (index : Nat) : List Json.Value -> Except Failure (List Row)
  | [] => .ok []
  | item :: rest =>
    match Row.ofJson? item with
    | none => .error (.invalidRow index)
    | some row => (ofItems (index + 1) rest).map (row :: ·)

/-- Read a list of rows; the first item that is none is reported. -/
def ofJson : Json.Value -> Except Failure (List Row)
  | .array items => ofItems 0 items
  | _ => .error (.notAnArray "existing fixture")

def toJson (rows : List Row) : Json.Value :=
  .array (rows.map Row.toJson)

end Rows
end Fixture
end Sensornet
