import Sensornet.Context
import Sensornet.Distinct

namespace Sensornet
namespace Network

/-!
# The metrics a descriptor stands for

In a zone, a descriptor of zones stands for the zone's own metric and a
descriptor of points for the metrics of fitting sensors inside it.  At a
point, a descriptor of points stands for the point's own metric.  In the
network as a whole it stands for all of these together.  A descriptor that
means neither zones nor points stands for nothing.
-/

open Sensornet.Metric (Descriptor)

/-- The metric of a descriptor's category and interval that a target owns. -/
def ownMetric (n : Network) (d : Descriptor) (target : String) : List String :=
  (n.metric? ⟨d.category, d.interval, target⟩).toList

def metricIdsInZone (n : Network) (d : Descriptor) (zone : Zone) : List String :=
  if d.meansZones then n.ownMetric d zone.id
  else if d.meansPoints then n.sensorMetrics d.category (some d.interval) zone
  else []

def metricIdsAtPoint (n : Network) (d : Descriptor) (point : Point) : List String :=
  if d.meansZones then []
  else if d.meansPoints then n.ownMetric d point.id
  else []

/-- What some descriptors stand for in all zones and then at all points, in
order of first occurrence. -/
def allMetricIds (n : Network) (ds : List Descriptor) : List String :=
  distinct (ds.flatMap fun d =>
    n.zones.flatMap (n.metricIdsInZone d) ++ n.points.flatMap (n.metricIdsAtPoint d))

/-- What a descriptor stands for in a context. -/
def metricIds (n : Network) (d : Descriptor) : Context -> List String
  | .zone target => n.metricIdsInZone d target
  | .point target => n.metricIdsAtPoint d target
  | .global => n.allMetricIds [d]

end Network
end Sensornet
