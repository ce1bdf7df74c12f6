import Sensornet.Fixture.Row
import Sensornet.Metric.Descriptor

namespace Sensornet
namespace Template

/-!
# Template items

A template is a list of blueprints for pages, widgets, metrics and triggers.
Each blueprint is kept as the object it was written as, since its `fields`
are free in form; the few members that a compile asks about are read from it
by the functions here.
-/

/-- What an item is a blueprint of. -/
inductive Kind where
  | page
  | chart
  | card
  | map
  | metric
  | trigger
  | other
  deriving DecidableEq, Repr

namespace Kind

/-- The kind that a model name stands for.  Triggers have a short name too. -/
def ofModel (name : String) : Kind :=
  if name = Fixture.Model.page then .page
  else if name = Fixture.Model.chart then .chart
  else if name = Fixture.Model.card then .card
  else if name = Fixture.Model.map then .map
  else if name = Fixture.Model.metric then .metric
  else if name = Fixture.Model.trigger ∨ name = "metrictrigger" then .trigger
  else .other

/-- Charts, cards and maps. -/
def isWidget : Kind -> Bool
  | .chart | .card | .map => true
  | _ => false

/-- What is shown to users, and so made once instead of once per target. -/
def isShown : Kind -> Bool
  | .page => true
  | kind => kind.isWidget

/-- The model of the rows that items of this kind become. -/
def model? : Kind -> Option String
  | .page => some Fixture.Model.page
  | .chart => some Fixture.Model.chart
  | .card => some Fixture.Model.card
  | .map => some Fixture.Model.map
  | .metric => some Fixture.Model.metric
  | .trigger => some Fixture.Model.trigger
  | .other => none

def name : Kind -> String
  | .page => "Page"
  | .chart => "Chart"
  | .card => "Card"
  | .map => "Map"
  | .metric => "Metric"
  | .trigger => "Trigger"
  | .other => "Other"

end Kind

/-- A blueprint, as the object it was written as. -/
structure Item where
  members : Json.Fields

namespace Item

open Json (Value)

def value (item : Item) : Value :=
  .object item.members

def get? (item : Item) (key : String) : Option Value :=
  Entries.get? key item.members

def kind (item : Item) : Kind :=
  match (item.get? "model").bind Value.text? with
  | some name => Kind.ofModel name
  | none => .other

/-- The id by which other items refer to this one: a non-empty text, or the
text of a number. -/
def abstractionId? (item : Item) : Option String :=
  match item.get? "abstraction_id" with
  | some (.text s) => if s.isEmpty then none else some s
  | some (.number n) => some n.text
  | _ => none

/-- The `fields` of an item, if they are an object. -/
def fields? (item : Item) : Option Json.Fields :=
  (item.get? "fields").bind Value.object?

/-- The `fields` of an item, empty when it has none. -/
def fields (item : Item) : Json.Fields :=
  item.fields?.getD []

/-- A field that holds a text. -/
def fieldText? (item : Item) (key : String) : Option String :=
  (Entries.get? key item.fields).bind Value.text?

def outputMetric? (item : Item) : Option String :=
  (item.get? "output_metric").bind Value.text?

/-- The descriptor of the metric that a trigger writes. -/
def output? (item : Item) (aliases : Metric.Aliases) : Option Metric.Descriptor :=
  item.outputMetric?.bind (Metric.Descriptor.ofText? aliases)

def calculators (item : Item) : List Value :=
  Value.itemsOf (item.get? "calculators")

/-- The texts listed as inputs of the calculators. -/
def inputMetrics (item : Item) : List String :=
  item.calculators.flatMap fun calculator =>
    (Value.itemsOf (((calculator.get? "calc_args").bind (Value.get? "inputs")).bind
      (Value.get? "metrics"))).filterMap Value.text?

/-- How an item is named in a notice. -/
def shownName (item : Item) : String :=
  item.abstractionId?.getD ("<" ++ item.kind.name ++ " without abstraction_id>")

end Item

/-- Read the items from position `index` on. -/
def ofItems (index : Nat) : List Json.Value -> Except Failure (List Item)
  | [] => .ok []
  | .object members :: rest => (ofItems (index + 1) rest).map (⟨members⟩ :: ·)
  | _ :: _ => .error (.notAnObject "template item" index)

/-- Read a template: a list of objects. -/
def ofJson : Json.Value -> Except Failure (List Item)
  | .array items => ofItems 0 items
  | _ => .error (.notAnArray "template")

end Template
end Sensornet
