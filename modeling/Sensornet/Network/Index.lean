import Sensornet.Fixture.Row
import Sensornet.Json.Reader
import Sensornet.Network.Basic
import Sensornet.Notice

namespace Sensornet

/-!
# Reading a network off rows

Rows that exist already are indexed in their order.  A polygon row gives a
zone, a point row a point, a metric row the id of its identity unless an
earlier row has it, and a trigger row the place of its output, where the last
row counts.  Other rows mean nothing to the network.
-/

namespace Network

open Fixture

/-- The polygon of a row: its `coord` if it can be read, else the JSON text in
`coords`, else no ring at all. -/
def polygonOf (row : Row) : Geometry.Polygon :=
  match (row.field? "coord").bind Geometry.Polygon.ofJson? with
  | some polygon => polygon
  | none =>
    (((row.text? "coords").bind Json.Value.ofText?).bind Geometry.Polygon.ofJson?).getD []

def zoneOf (row : Row) : Zone :=
  ⟨row.key.shown, row.textOf "label", polygonOf row⟩

/-- The position of a point row, if it has one. -/
def positionOf? (row : Row) : Option Geometry.Position :=
  (row.field? "coord").bind Geometry.Position.ofJson?

/-- The identity of a metric row.  A field that is no text counts as the
empty text. -/
def identityOf (row : Row) : Metric.Identity :=
  ⟨row.textOf "category", row.textOf "interval", row.textOf "target_id"⟩

/-- Index the row at a position. -/
def indexRow (n : Network) (row : Row) (position : Nat) : Network :=
  if row.model = Model.polygon then n.addZone (zoneOf row)
  else if row.model = Model.point then
    match positionOf? row with
    | some place => n.addPoint ⟨row.key.shown, row.textOf "label", row.textOf "category", place⟩
    | none => n.noteTarget (row.textOf "category") (row.textOf "label") row.key.shown
  else if row.model = Model.metric then
    match n.metric? (identityOf row) with
    | some _ => n
    | none => n.insertMetric (identityOf row) row.key.shown
  else if row.model = Model.trigger then
    match row.textOf "output_metric" with
    | "" => n
    | output => n.insertTrigger output position
  else n

/-- Index rows from a position on. -/
def indexFrom (n : Network) (position : Nat) : List Row -> Network
  | [] => n
  | row :: rest => (n.indexRow row position).indexFrom (position + 1) rest

/-- Index all rows. -/
def index (n : Network) (rows : List Row) : Network :=
  n.indexFrom 0 rows

/-- The points among some rows that cannot be placed. -/
def indexNotices (rows : List Row) : List Notice :=
  rows.filterMap fun row =>
    if row.model = Model.point ∧ (positionOf? row).isNone then
      some (.existingPointUnplaced row.key.shown)
    else none

end Network
end Sensornet
