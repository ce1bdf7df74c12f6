import Sensornet.Distinct
import Sensornet.Geometry.Polygon
import Sensornet.Metric.Descriptor

namespace Sensornet

/-!
# Targets and their metrics

The network knows every zone and point in the order of creation, which
targets carry a category and label, which metric belongs to a category,
interval and target, and which row holds the trigger for an output.  Rows are
what is written; the network only says where things are.

A point without coordinates is known by its label and is not placed.  Two
points may share an id, and then the later one is found; of two zones with
one id or label the earlier one is found.
-/

structure Zone where
  id : String
  label : String
  polygon : Geometry.Polygon

structure Point where
  id : String
  label : String
  category : String
  position : Geometry.Position

namespace Metric

/-- What makes a metric the same metric. -/
structure Identity where
  category : String
  interval : String
  target : String
  deriving DecidableEq, Repr

end Metric

/-- The targets, metrics and triggers that a compile knows. -/
structure Network where
  zones : List Zone
  points : List Point
  /-- targets by category and label, the earliest first -/
  targets : List ((String × String) × List String)
  /-- metric ids, in the order in which their identities came up -/
  metrics : List (Metric.Identity × String)
  /-- position of the row of the trigger that writes an output metric -/
  triggers : List (String × Nat)

namespace Network

def empty : Network := ⟨[], [], [], [], []⟩

/-- Every target with this category and label, the earliest first. -/
def targetsNamed (n : Network) (category label : String) : List String :=
  (Entries.get? (category, label) n.targets).getD []

/-- The first target with this category and label. -/
def targetNamed? (n : Network) (category label : String) : Option String :=
  (n.targetsNamed category label).head?

/-- Note a target under its category and label, once. -/
def noteTarget (n : Network) (category label id : String) : Network :=
  { n with
    targets := Entries.insert (category, label) (addNew (n.targetsNamed category label) id) n.targets }

def addZone (n : Network) (zone : Zone) : Network :=
  { n.noteTarget "zone" zone.label zone.id with zones := n.zones ++ [zone] }

def addPoint (n : Network) (point : Point) : Network :=
  { n.noteTarget point.category point.label point.id with points := n.points ++ [point] }

def insertMetric (n : Network) (identity : Metric.Identity) (id : String) : Network :=
  { n with metrics := Entries.insert identity id n.metrics }

def insertTrigger (n : Network) (output : String) (row : Nat) : Network :=
  { n with triggers := Entries.insert output row n.triggers }

/-- The last point with this id. -/
def point? (n : Network) (id : String) : Option Point :=
  n.points.reverse.find? fun point => point.id == id

/-- The first zone with this id. -/
def zone? (n : Network) (id : String) : Option Zone :=
  n.zones.find? fun zone => zone.id == id

/-- The first zone with this label. -/
def zoneLabelled? (n : Network) (label : String) : Option Zone :=
  n.zones.find? fun zone => zone.label == label

/-- The zones that contain a position, in order. -/
def zonesAround (n : Network) (position : Geometry.Position) : List Zone :=
  n.zones.filter fun zone => zone.polygon.contains position

def metric? (n : Network) (identity : Metric.Identity) : Option String :=
  Entries.get? identity n.metrics

def triggerPosition? (n : Network) (output : String) : Option Nat :=
  Entries.get? output n.triggers

/-- Whether a metric of this category may be read from a point of that
category. -/
def sensorFits (metricCategory pointCategory : String) : Bool :=
  match Metric.sensorFor? metricCategory with
  | some required => pointCategory == required
  | none => true

/-- The metrics of a category, and of an interval if one is given, that
belong to a fitting sensor inside a zone. -/
def sensorMetrics (n : Network) (category : String) (interval : Option String)
    (zone : Zone) : List String :=
  n.metrics.filterMap fun (identity, id) =>
    if identity.category = category ∧ interval.all (· = identity.interval) then
      match n.point? identity.target with
      | some point =>
        if sensorFits category point.category && zone.polygon.contains point.position then some id
        else none
      | none => none
    else none

variable (n : Network)

@[simp] theorem zones_noteTarget (category label id : String) :
    (n.noteTarget category label id).zones = n.zones := rfl

@[simp] theorem points_noteTarget (category label id : String) :
    (n.noteTarget category label id).points = n.points := rfl

@[simp] theorem zones_addZone (zone : Zone) : (n.addZone zone).zones = n.zones ++ [zone] := rfl

@[simp] theorem points_addPoint (point : Point) :
    (n.addPoint point).points = n.points ++ [point] := rfl

/-- A noted target stands under its category and label, once. -/
theorem targetsNamed_noteTarget_self (category label id : String) :
    (n.noteTarget category label id).targetsNamed category label =
      addNew (n.targetsNamed category label) id := by
  have found := Entries.get?_insert_self (category, label)
    (addNew (n.targetsNamed category label) id) n.targets
  exact congrArg (Option.getD · []) found

theorem targetsNamed_noteTarget_of_ne {category label other under : String}
    (different : (other, under) ≠ (category, label)) (id : String) :
    (n.noteTarget category label id).targetsNamed other under = n.targetsNamed other under := by
  unfold targetsNamed noteTarget
  rw [Entries.get?_insert_of_ne different]

theorem metric?_insertMetric_self (identity : Metric.Identity) (id : String) :
    (n.insertMetric identity id).metric? identity = some id :=
  Entries.get?_insert_self identity id n.metrics

theorem metric?_insertMetric_of_ne {identity other : Metric.Identity} (different : other ≠ identity)
    (id : String) : (n.insertMetric identity id).metric? other = n.metric? other :=
  Entries.get?_insert_of_ne different id n.metrics

/-- Of two points with one id the later one is found. -/
theorem point?_addPoint_self (point : Point) : (n.addPoint point).point? point.id = some point := by
  simp [point?]

end Network
end Sensornet
