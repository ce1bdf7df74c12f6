import Sensornet.Decimal.Layout
import Sensornet.Text.Quoted

namespace Sensornet

/-!
# Notices

What a compile remarks without failing: what it left out, what it found
already there, and how much it produced.  A notice is recorded as its cause;
level and wording are functions of it.
-/

/-- How much a notice matters. -/
inductive Level where
  | debug
  | info
  | warn
  deriving DecidableEq, Repr

namespace Level

def name : Level -> String
  | .debug => "DEBUG"
  | .info => "INFO"
  | .warn => "WARN"

end Level

/-- How many items of each kind a slice holds. -/
structure SliceCounts where
  sections : Nat
  pages : Nat
  charts : Nat
  cards : Nat
  maps : Nat
  metrics : Nat
  triggers : Nat
  deriving DecidableEq, Repr

/-- A remark, by its cause. -/
inductive Notice where
  /-- rows of an earlier run -/
  | continuing (rows : Nat)
  | existingPointUnplaced (id : String)
  /-- domain items -/
  | zoneWithoutCoords (label : String)
  | pointWithoutCoords (label : String)
  | targetExists (category label id : String)
  | labelShared (category label : String)
  | unknownCategory (category label : String)
  | meterOutsideZones (label : String)
  | unknownZone (sensor zone role : String)
  | domainCompiled (items rows : Nat)
  /-- metrics and triggers -/
  | metricExists (category interval target id : String)
  | triggerSkipped (description output : String) (inputs : Nat)
  | triggerUpdated (key output : String)
  /-- templates -/
  | sliceSeeds (pages widgets descriptors : Nat)
  | triggerMalformed (name : String)
  | sliced (counts : SliceCounts)
  | nothingSelected
  | templateCompiled (rows : Nat)
  | metricWithoutTargets (name : String)
  | triggerEmpty (name context : String)
  /-- resolution -/
  | descriptorUnmatched (descriptor context : String)
  | widgetUnknown (reference : String)
  /-- widgets -/
  | argsNotObject
  | widgetWithoutMetrics
  | itemUnnamed (kind : String)
  | noZonesForMaps
  | mapArgsNotObject (args : String)
  deriving DecidableEq, Repr

namespace Notice

/-- How much a notice matters: a loss or a doubt is a warning, a summary is
information, and all else is detail. -/
def level : Notice -> Level
  | .continuing _ | .domainCompiled .. | .sliced _ | .nothingSelected | .templateCompiled _ => .info
  | .existingPointUnplaced _ | .zoneWithoutCoords _ | .pointWithoutCoords _ | .labelShared ..
  | .unknownCategory .. | .unknownZone .. | .triggerMalformed _ | .argsNotObject
  | .itemUnnamed _ | .mapArgsNotObject _ => .warn
  | _ => .debug

/-- A count in a message. -/
def count (n : Nat) : String :=
  String.ofList (Decimal.natural n)

/-- The wording of a notice. -/
def message : Notice -> String
  | .continuing rows => "continuing from " ++ count rows ++ " existing row(s)"
  | .existingPointUnplaced id => "existing point " ++ id ++ " has no usable coord; not placed"
  | .zoneWithoutCoords label =>
    "zone " ++ Text.quote label ++ " has no usable coords; it contains nothing"
  | .pointWithoutCoords label =>
    Text.quote label ++ " has no usable [x, y] coords; it is not placed"
  | .targetExists category label id =>
    category ++ " " ++ Text.quote label ++ " already exists as " ++ id
  | .labelShared category label =>
    category ++ " label " ++ Text.quote label ++ " is shared by several items"
  | .unknownCategory category label =>
    "unknown category " ++ Text.quote category ++ " for " ++ Text.quote label ++
      "; placed as a generic point"
  | .meterOutsideZones label => "flow meter " ++ Text.quote label ++ " lies in no zone"
  | .unknownZone sensor zone role =>
    Text.quote sensor ++ " names unknown zone " ++ Text.quote zone ++ " as " ++ role ++ "; ignored"
  | .domainCompiled items rows =>
    count items ++ " domain item(s) produced " ++ count rows ++ " row(s)"
  | .metricExists category interval target id =>
    "metric " ++ category ++ "/" ++ interval ++ " for " ++ target ++ " already exists as " ++ id
  | .triggerSkipped description output inputs =>
    "trigger \"" ++ description ++ "\" skipped: output " ++ Text.quote output ++ ", " ++
      count inputs ++ " input(s)"
  | .triggerUpdated key output => "trigger " ++ key ++ " for " ++ output ++ " updated in place"
  | .sliceSeeds pages widgets descriptors =>
    count pages ++ " page(s), " ++ count widgets ++ " widget(s), " ++ count descriptors ++
      " seed descriptor(s)"
  | .triggerMalformed name =>
    "trigger " ++ name ++ " has inputs that are not well-formed descriptors; dropped"
  | .sliced counts =>
    "sliced " ++ count counts.sections ++ " section(s): " ++ count counts.pages ++ " page(s), " ++
      count counts.charts ++ " chart(s), " ++ count counts.cards ++ " card(s), " ++
      count counts.maps ++ " map(s), " ++ count counts.metrics ++ " metric(s), " ++
      count counts.triggers ++ " trigger(s)"
  | .nothingSelected => "no template items selected"
  | .templateCompiled rows => "template produced " ++ count rows ++ " row(s)"
  | .metricWithoutTargets name => "metric template " ++ name ++ " has no targets to expand over"
  | .triggerEmpty name context =>
    "trigger template " ++ name ++ " produced nothing in " ++ context
  | .descriptorUnmatched descriptor context => descriptor ++ " matches no metric in " ++ context
  | .widgetUnknown reference =>
    "widget reference " ++ reference ++ " was not materialized; dropped"
  | .argsNotObject => "widget args is not an object; metric descriptors left alone"
  | .widgetWithoutMetrics => "widget descriptors match no metric"
  | .itemUnnamed kind => kind ++ " without abstraction_id cannot be referenced"
  | .noZonesForMaps => "no zones to bind map widgets to"
  | .mapArgsNotObject args => "map args is not an object (" ++ args ++ "); zone binding not added"

end Notice
end Sensornet
