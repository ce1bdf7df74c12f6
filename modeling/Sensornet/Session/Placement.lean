import Sensornet.Domain.Item
import Sensornet.Json.Writer
import Sensornet.Session.Basic

namespace Sensornet

/-!
# Placing domain items

Every domain item gets a target of its own.  The n-th item of a call with a
category and label takes the n-th target that is known under them, so placing
the same items again places nothing.
-/

/-- An item with the target it was given. -/
structure Placement where
  item : Domain.Item
  kind : String
  id : String

namespace Session

open Fixture (Row)

/-- Write the row of a zone and add it to the network. -/
def placeAsZone (s : Session) (item : Domain.Item) : String × Session :=
  let label := item.label
  let (s, polygon, coords) : Session × Geometry.Polygon × Json.Value :=
    match item.polygon? with
    | some polygon => (s, polygon, item.coordinates)
    | none => (s.note (.zoneWithoutCoords label), [], .array [])
  let (id, s) := s.makeId .polygon ("zone|" ++ label)
  let row : Row := ⟨Fixture.Model.polygon, .text id,
    item.fields id Domain.zoneKind coords coords.pretty⟩
  (id, { s.push row with network := s.network.addZone ⟨id, label, polygon⟩ })

/-- Write the row of a sensor and add it to the network, at its position if
it has one. -/
def placeAsPoint (s : Session) (item : Domain.Item) (kind : String) : String × Session :=
  let label := item.label
  let position := item.position?
  let (s, coord) : Session × Json.Value :=
    match position with
    | some _ => (s, item.coordinates)
    | none => (s.note (.pointWithoutCoords label), .null)
  let s :=
    if kind = Domain.flowMeterKind ∨ kind = Domain.pressureSensorKind then s
    else s.note (.unknownCategory item.category label)
  let (id, s) := s.makeId .point ("point|" ++ kind ++ "|" ++ label)
  let text := (position.map Geometry.Position.text).getD ""
  let row : Row := ⟨Fixture.Model.point, .text id, item.fields id kind coord text⟩
  let network :=
    match position with
    | some place => s.network.addPoint ⟨id, label, kind, place⟩
    | none => s.network.noteTarget kind label id
  (id, { s.push row with network })

/-- Give an item its target; `placed` are the items of the call before it. -/
def placeItem (s : Session) (placed : List Placement) (item : Domain.Item) : Placement × Session :=
  let kind := item.kind
  let nth := placed.countP fun p => p.kind == kind && p.item.label == item.label
  match (s.network.targetsNamed kind item.label)[nth]? with
  | some id => (⟨item, kind, id⟩, s.note (.targetExists kind item.label id))
  | none =>
    let s := if 0 < nth then s.note (.labelShared kind item.label) else s
    let (id, s) := if kind = Domain.zoneKind then s.placeAsZone item else s.placeAsPoint item kind
    (⟨item, kind, id⟩, s)

/-- Give all items their targets, in order. -/
def placeItems (s : Session) (placed : List Placement) : List Domain.Item -> List Placement × Session
  | [] => (placed, s)
  | item :: rest =>
    let (next, s) := s.placeItem placed item
    s.placeItems (placed ++ [next]) rest

end Session
end Sensornet
