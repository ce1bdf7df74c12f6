import Sensornet.MapWidget.Repair
import Sensornet.Session.Basic
import Sensornet.Template.Item

namespace Sensornet

/-!
# Widgets and pages

What is shown to users is made once, in the context of the whole network, and
keyed by integers.  Cards, charts and maps come before pages, so that a page
can refer to their keys.
-/

open Json (Value Fields)
open Template (Item)

namespace Widget

/-- The descriptors listed in the arguments of a widget. -/
def descriptors (aliases : Metric.Aliases) (args : Fields) : List Metric.Descriptor :=
  ((Value.itemsOf (Entries.get? "metric_descriptors" args)).filterMap Value.text?).filterMap
    (Metric.Descriptor.ofText? aliases)

/-- Put the metrics of the whole network in place of the descriptors, if
there are any. -/
def withMetricIds (network : Network) (aliases : Metric.Aliases) (args : Fields) : Fields :=
  match descriptors aliases args with
  | [] => args
  | ds => Entries.insert "metric_ids" (.array ((network.allMetricIds ds).map .text))
    (Entries.erase "metric_descriptors" args)

/-- A widget whose arguments, if they are an object, name metrics by id. -/
def bound (network : Network) (aliases : Metric.Aliases) (fields : Fields) : Fields :=
  match Entries.get? "args" fields with
  | some (.object args) =>
    Entries.insert "args" (.object (withMetricIds network aliases args)) fields
  | _ => fields

/-- What is remarked while binding a widget. -/
def boundNotices (network : Network) (aliases : Metric.Aliases) (fields : Fields) : List Notice :=
  match Entries.get? "args" fields with
  | some (.object args) =>
    match descriptors aliases args with
    | [] => []
    | ds => if (network.allMetricIds ds).isEmpty then [.widgetWithoutMetrics] else []
  | none | some .null => []
  | some _ => [.argsNotObject]

/-- The list of metric ids in the arguments of a widget. -/
def metricIds? (fields : Fields) : Option Value :=
  match Entries.get? "args" fields with
  | some (.object args) => (Entries.get? "metric_ids" args).filter Value.isArray
  | _ => none

/-- A chart shows the metrics of its arguments under a key of its own. -/
def chart (fields : Fields) : Fields :=
  Entries.insert "metrics" ((metricIds? fields).getD (.array [])) fields

/-- A page has a list under each of its keys for widgets. -/
def page (fields : Fields) : Fields :=
  ["charts", "cards", "maps"].foldl (fun fields key =>
    Entries.insert key (.array (Value.itemsOf (Entries.get? key fields))) fields) fields

/-- The finished fields of a kind of item. -/
def finished (network : Network) (aliases : Metric.Aliases) (kind : Template.Kind)
    (fields : Fields) : Fields :=
  match kind with
  | .card => bound network aliases fields
  | .chart => chart (bound network aliases fields)
  | .map => MapWidget.repair network.zones fields
  | .page => page fields
  | _ => fields

/-- What is remarked while finishing. -/
def finishedNotices (network : Network) (aliases : Metric.Aliases) (kind : Template.Kind)
    (fields : Fields) : List Notice :=
  match kind with
  | .card | .chart => boundNotices network aliases fields
  | .map => MapWidget.repairNotices network.zones fields
  | _ => []

/-- The fields of a row: its key first, whatever id was written. -/
def rowFields (key : Int) (fields : Fields) : Fields :=
  ("id", Value.integer key) :: Entries.erase "id" fields

end Widget

namespace Session

/-- Make an item that is shown to users. -/
def makeShown (s : Session) (item : Item) : Session :=
  match item.kind.model? with
  | none => s
  | some model =>
    let (key, s) := s.nextInteger
    let (resolved, s) := s.resolve .global (.object item.fields)
    let fields := resolved.fields
    let s := s.noteAll (Widget.finishedNotices s.network s.aliases item.kind fields)
    let s := s.push ⟨model, .integer key,
      Widget.rowFields key (Widget.finished s.network s.aliases item.kind fields)⟩
    match item.abstractionId? with
    | some id => s.bind (some id) .global (.integer key)
    | none => s.note (.itemUnnamed item.kind.name)

end Session
end Sensornet
