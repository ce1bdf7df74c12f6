import Sensornet.Bindings
import Sensornet.Fixture.Registry
import Sensornet.Notice
import Sensornet.Resolution.MetricIds
import Sensornet.Resolution.Placeholder

namespace Sensornet
namespace Resolution

/-!
# Resolving a tree in a context

One walk over a JSON value replaces what refers to other things: placeholders
and `[FILL]`, descriptors, ids of other blueprints, and references to
widgets.  What a text becomes depends on the key above it, through lists but
not through other objects, and `Rule.ofKey` is the one place that says how.

The walk draws correlation tokens from the registry and records notices;
nothing else is changed by it.
-/

open Json (Value Fields)
open Sensornet.Metric (Descriptor)

/-- How values under a key are resolved. -/
inductive Rule where
  | plain
  /-- a descriptor becomes all its metrics, and lists are flattened -/
  | metricList
  /-- a descriptor becomes its first metric or the empty text -/
  | outputMetric
  /-- `[FILL]` becomes a position -/
  | center
  /-- `[FILL]` becomes a correlation token -/
  | token
  /-- descriptors are kept as written -/
  | keepDescriptors
  /-- ids of blueprints become keys of widgets -/
  | widgets
  deriving DecidableEq, Repr

namespace Rule

/-- The rule for the value of a key.  Widgets are referred to from the
network as a whole only. -/
def ofKey (key : String) (context : Context) : Rule :=
  match key with
  | "metrics" | "metric_ids" => .metricList
  | "output_metric" => .outputMetric
  | "center" => .center
  | "metric_id" => .token
  | "metric_descriptors" => .keepDescriptors
  | "charts" | "cards" | "maps" | "cards_ids" =>
    match context with
    | .global => .widgets
    | _ => .plain
  | _ => .plain

end Rule

/-- What a resolution looks things up in. -/
structure Scene where
  network : Network
  bindings : Bindings
  aliases : Metric.Aliases
  context : Context

/-- What a resolution draws from and adds to. -/
structure Progress where
  registry : Fixture.Registry
  notices : List Notice

/-- A step of a resolution. -/
abbrev Step := StateM Progress

def note (notice : Notice) : Step Unit :=
  modify fun p => { p with notices := p.notices ++ [notice] }

/-- Draw a correlation token. -/
def drawToken (seed : String) : Step String :=
  modifyGet fun p =>
    let (token, registry) := p.registry.token seed
    (token, { p with registry })

/-- The text that asks for a value of the context. -/
def fillMark : String := "[FILL]"

namespace Scene

/-- The centre of the network: the mean of the centroids of its zones. -/
def centerOfNetwork? (s : Scene) : Option Geometry.Position :=
  Geometry.Polygon.center? (s.network.zones.map Zone.polygon)

/-- The centre of the context's target. -/
def center (s : Scene) : Value :=
  let position :=
    match s.context with
    | .zone target => Geometry.Polygon.centroid? target.polygon
    | .point target => some target.position
    | .global => s.centerOfNetwork?
  (position.map Geometry.Position.toJson).getD .null

/-- A centre that its own target could not give is that of the network. -/
def withNetworkCenter (s : Scene) (fields : Fields) : Fields :=
  let missing :=
    match Entries.get? "center" fields with
    | some .null => true
    | some (.text text) => text == fillMark
    | _ => false
  if missing then
    match s.centerOfNetwork? with
    | some position => Entries.insert "center" position.toJson fields
    | none => fields
  else fields

/-- What `[FILL]` becomes. -/
def fill (s : Scene) : Rule -> Step Value
  | .center => pure s.center
  | .token => do return .text (← drawToken s.context.name.text)
  | _ => pure (.text s.context.targetId)

/-- The id that a reference to a widget gives: a text or the text of a
number. -/
def reference? : Value -> Option String
  | .text s => some s
  | .number n => some n.text
  | _ => none

/-- The key that a widget of this id was given. -/
def widget? (s : Scene) (id : String) : Option Fixture.Key :=
  s.bindings.get? id .global

/-- Replace references by the keys of widgets, without repeats.  A reference
to no widget is left out. -/
def widgetKeys (s : Scene) (references : List Value) : Step Value := do
  let ids := references.filterMap reference?
  for id in ids do
    if (s.widget? id).isNone then note (.widgetUnknown id)
  return .array ((distinct (ids.filterMap s.widget?)).map Fixture.Key.toJson)

/-- The texts that a resolved item adds to a list of metrics. -/
def metricTexts : Value -> List String
  | .array items => items.filterMap fun item => item.text?.filter fun s => !s.isEmpty
  | .text s => if s.isEmpty then [] else [s]
  | _ => []

/-- Flatten a list of metrics by one level, without empty texts and repeats. -/
def flatten (items : List Value) : Value :=
  .array ((distinct (items.flatMap metricTexts)).map .text)

/-- The metrics that a text with the marker of descriptors stands for. -/
def metricsOf (s : Scene) (text : String) : List String :=
  ((Descriptor.ofText? s.aliases text).map fun d => s.network.metricIds d s.context).getD []

/-- Resolve a descriptor. -/
def resolveDescriptor (s : Scene) (rule : Rule) (text : String) : Step Value := do
  if rule = .keepDescriptors then return .text text
  let ids := s.metricsOf text
  if ids.isEmpty then note (.descriptorUnmatched text s.context.name.text)
  return match rule with
    | .metricList => .array (ids.map .text)
    | .outputMetric => .text (ids.head?.getD "")
    | _ => .text (ids.head?.getD text)

/-- Resolve a text. -/
def resolveText (s : Scene) (rule : Rule) (raw : String) : Step Value :=
  if rule = .widgets then s.widgetKeys [.text raw]
  else
    let text := s.context.fillPlaceholders raw
    if text = fillMark then s.fill rule
    else if Metric.isMarked text then s.resolveDescriptor rule text
    else
      match s.bindings.get? text s.context.name with
      | some key =>
        pure (if rule = .metricList then .array [.text key.shown] else .text key.shown)
      | none => pure (.text text)

mutual

/-- Resolve a value under a rule. -/
def resolveUnder (s : Scene) (rule : Rule) : Value -> Step Value
  | .text raw => s.resolveText rule raw
  | .array items =>
    if rule = .widgets then s.widgetKeys items
    else do
      let resolved ← s.resolveItems rule items
      return if rule = .metricList then flatten resolved else .array resolved
  | .number n => if rule = .widgets then s.widgetKeys [.number n] else pure (.number n)
  | .object fields => do return .object (s.withNetworkCenter (← s.resolveFields fields))
  | .null => pure .null
  | .bool flag => pure (.bool flag)
termination_by structural v => v

/-- Resolve the items of a list in order. -/
def resolveItems (s : Scene) (rule : Rule) : List Value -> Step (List Value)
  | [] => pure []
  | item :: rest => do
    let resolved ← s.resolveUnder rule item
    return resolved :: (← s.resolveItems rule rest)
termination_by structural v => v

/-- Resolve the members of an object in order, each under the rule of its
key. -/
def resolveFields (s : Scene) : Fields -> Step Fields
  | [] => pure []
  | (key, value) :: rest => do
    let resolved ← s.resolveUnder (Rule.ofKey key s.context) value
    return (key, resolved) :: (← s.resolveFields rest)
termination_by structural v => v

end

/-- Resolve a value. -/
def resolve (s : Scene) (value : Value) : Step Value :=
  s.resolveUnder .plain value

end Scene
end Resolution
end Sensornet
