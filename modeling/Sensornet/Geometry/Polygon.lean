import Sensornet.Geometry.Ring
import Sensornet.Json.Value

namespace Sensornet
namespace Geometry

/-!
# Polygons

A polygon is a list of rings of which the first is its outline.  Holes are
stored and written back, but they take no part in containment or in the
centre.
-/

/-- A position as the program holds it. -/
abbrev Position := Coord Float

/-- The outline and the holes. -/
abbrev Polygon := List (Ring Float)

namespace Position

/-- Read the first two items of a list of numbers. -/
def ofJson? : Json.Value -> Option Position
  | .array (.number x :: .number y :: _) => some ⟨x.toFloat, y.toFloat⟩
  | _ => none

def toJson (p : Position) : Json.Value :=
  .array [Json.Value.float p.x, Json.Value.float p.y]

/-- How the coordinates of a point row are written: without an exponent, a
whole number without a fraction, ties upwards. -/
def layout : Decimal.Layout where
  positional := fun _ => true
  keepsFraction := false
  tie := .up

/-- Both coordinates as text. -/
def text (p : Position) : String :=
  String.ofList (layout.render p.x ++ [',', ' '] ++ layout.render p.y)

/-- The arithmetic mean of some positions, added up from the left. -/
def mean? (positions : List Position) : Option Position :=
  if positions.isEmpty then none
  else
    let sum := positions.foldl (fun (total : Position) p => ⟨total.x + p.x, total.y + p.y⟩)
      ⟨0.0, 0.0⟩
    let count := Float.ofNat positions.length
    some ⟨sum.x / count, sum.y / count⟩

end Position

namespace Polygon

/-- Read a list of rings. -/
def ofJson? : Json.Value -> Option Polygon
  | .array rings => rings.mapM fun ring =>
    match ring with
    | .array vertices => vertices.mapM Position.ofJson?
    | _ => none
  | _ => none

def toJson (polygon : Polygon) : Json.Value :=
  .array (polygon.map fun ring => .array (ring.map Position.toJson))

/-- Whether the outline contains a position. -/
def contains (polygon : Polygon) (position : Position) : Bool :=
  match polygon with
  | outline :: _ => Ring.contains outline position
  | [] => false

/-- The mean of the vertices of the outline, a repeated closing vertex
included. -/
def centroid? (polygon : Polygon) : Option Position :=
  polygon.head?.bind Position.mean?

/-- The mean of the centroids of all polygons that have one. -/
def center? (polygons : List Polygon) : Option Position :=
  Position.mean? (polygons.filterMap centroid?)

end Polygon
end Geometry
end Sensornet
