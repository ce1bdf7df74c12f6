import Sensornet.Network.Basic
import Sensornet.Template.Item

namespace Sensornet

/-!
# Contexts

A blueprint is made for something: for each zone, for each point, or, when it
is shown to users, once for the network as a whole.
-/

/-- What a blueprint is made for. -/
inductive Context where
  | zone (target : Zone)
  | point (target : Point)
  | global

namespace Context

/-- Which context it is, without what the network knows about it. -/
inductive Name where
  | zone (id : String)
  | point (id : String)
  | global
  deriving DecidableEq, Repr

def Name.text : Name -> String
  | .zone id => "zone:" ++ id
  | .point id => "point:" ++ id
  | .global => "global"

def name : Context -> Name
  | .zone target => .zone target.id
  | .point target => .point target.id
  | .global => .global

/-- The id of the zone or point; empty for the network as a whole. -/
def targetId : Context -> String
  | .zone target => target.id
  | .point target => target.id
  | .global => ""

end Context

/-- Whether a metric or trigger is made per zone or per point. -/
inductive Scope where
  | zone
  | point
  deriving DecidableEq, Repr

namespace Scope

def name : Scope -> String
  | .zone => "zone"
  | .point => "point"

/-- The scope of an item.  The descriptor of its output decides, if that
means zones or points; else any descriptor in it that means points makes it
an item per point. -/
def ofItem (aliases : Metric.Aliases) (item : Template.Item) : Scope :=
  let mentioned :=
    if item.value.texts.any fun text =>
        (Metric.Descriptor.ofText? aliases text).any Metric.Descriptor.meansPoints then
      Scope.point
    else .zone
  match item.output? aliases with
  | some output =>
    if output.meansZones then .zone else if output.meansPoints then .point else mentioned
  | none => mentioned

/-- One context per zone or per point, in the order of the network. -/
def contexts (network : Network) : Scope -> List Context
  | .zone => network.zones.map .zone
  | .point => network.points.map .point

end Scope

/-- The contexts that an item is made for. -/
def contextsOf (network : Network) (aliases : Metric.Aliases) (item : Template.Item) :
    List Context :=
  if item.kind.isShown then [.global] else (Scope.ofItem aliases item).contexts network

theorem contextsOf_of_hidden {item : Template.Item} (hidden : item.kind.isShown = false)
    (network : Network) (aliases : Metric.Aliases) :
    contextsOf network aliases item = (Scope.ofItem aliases item).contexts network := by
  unfold contextsOf
  rw [hidden, if_neg Bool.false_ne_true]

end Sensornet
