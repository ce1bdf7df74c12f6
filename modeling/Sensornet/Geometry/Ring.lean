namespace Sensornet
namespace Geometry

/-!
# Rings of planar coordinates

Containment is decided by counting crossings of a ray.  The definitions use
the four operations and the order of the coordinates and none of their laws,
so they are stated for any coordinate arithmetic.
-/

/-- A position in the plane. -/
structure Coord (A : Type) where
  x : A
  y : A
  deriving DecidableEq, Repr

/-- A closed line through its vertices; the last is joined to the first. -/
abbrev Ring (A : Type) := List (Coord A)

namespace Ring

/-- The edges of a ring, each as its end and the vertex before it. -/
def edges {A : Type} (ring : Ring A) : List (Coord A × Coord A) :=
  match ring.getLast? with
  | some last => List.zip (last :: ring) ring
  | none => []

variable {A : Type} [Add A] [Sub A] [Mul A] [Div A] [LT A] [DecidableLT A]

/-- Whether the ray from a position towards greater `x` meets an edge.  An
edge holds its lower end and not its upper one, so a vertex on the ray counts
once and a level edge never. -/
def crosses (position : Coord A) (edge : Coord A × Coord A) : Bool :=
  let before := edge.1
  let here := edge.2
  (decide (position.y < here.y) != decide (position.y < before.y)) &&
    decide (position.x <
      (before.x - here.x) * (position.y - here.y) / (before.y - here.y) + here.x)

/-- Whether a position lies inside: the ray crosses an odd number of edges.
Fewer than three vertices enclose nothing. -/
def contains (ring : Ring A) (position : Coord A) : Bool :=
  decide (3 ≤ ring.length) &&
    ring.edges.foldl (fun inside edge => inside != crosses position edge) false

end Ring
end Geometry
end Sensornet
