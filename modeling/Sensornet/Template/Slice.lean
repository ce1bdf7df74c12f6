import Sensornet.Notice
import Sensornet.Template.Page

namespace Sensornet
namespace Template

/-!
# The part of a template that some sections need

Pages are chosen by their section code and bring in the widgets they mention.
Every descriptor in a widget is needed.  A trigger whose output is needed
makes its inputs needed, and so on until nothing new is reached.  Metrics are
kept when a needed descriptor has their category and interval.

The closure runs over the triggers in passes.  A trigger adds all its inputs
in the pass that reaches it, so every pass but the last reaches a trigger
that no pass before it reached, and one pass more than there are triggers is
enough.
-/

open Sensornet.Metric (Aliases Descriptor)

/-- A trigger as the closure sees it: its position in the template, its
output, and its marked inputs, of which one that is malformed has no
descriptor. -/
structure Edge where
  index : Nat
  output : Descriptor
  inputs : List (Option Descriptor)
  deriving DecidableEq, Repr

namespace Edge

/-- The edge of an item, when its output is a descriptor. -/
def ofItem? (aliases : Aliases) (index : Nat) (item : Item) : Option Edge :=
  (item.output? aliases).map fun output =>
    { index, output
      inputs := (item.inputMetrics.filter Metric.isMarked).map
        (Descriptor.ofText? aliases) }

/-- The inputs that are descriptors. -/
def needs (edge : Edge) : List Descriptor :=
  edge.inputs.filterMap id

end Edge

/-- The closure under way. -/
structure Closure where
  needed : List Descriptor
  reached : List Nat
  advanced : Bool
  deriving DecidableEq, Repr

namespace Closure

/-- Look at one trigger. -/
def visit (c : Closure) (edge : Edge) : Closure :=
  if edge.output ∈ c.needed then
    let needed := addAllNew c.needed edge.needs
    let reached := addNew c.reached edge.index
    { needed, reached
      advanced := c.advanced || decide (c.reached.length < reached.length) ||
        decide (c.needed.length < needed.length) }
  else c

/-- Look at every trigger once, in order. -/
def pass (edges : List Edge) (c : Closure) : Closure :=
  edges.foldl visit { c with advanced := false }

/-- Repeat passes while they advance, `passes` at most. -/
def settle (edges : List Edge) : Nat -> Closure -> Closure
  | 0, c => c
  | passes + 1, c =>
    let next := c.pass edges
    if next.advanced then settle edges passes next else next

end Closure

/-- Close a set of descriptors under the triggers. -/
def closeOver (edges : List Edge) (seeds : List Descriptor) : Closure :=
  Closure.settle edges (edges.length + 1) ⟨seeds, [], false⟩

/-- The positions of the items of a kind that pass a test. -/
def positions (template : List Item) (kind : Kind) (test : Item -> Bool) : List Nat :=
  template.zipIdx.filterMap fun (item, index) =>
    if item.kind = kind ∧ test item then some index else none

/-- Every stage of a slice, as positions in the template. -/
structure Selection where
  pages : List Nat
  charts : List Nat
  cards : List Nat
  maps : List Nat
  metrics : List Nat
  /-- triggers whose marked inputs are all descriptors -/
  triggers : List Nat
  /-- triggers left out for a malformed input -/
  malformed : List Nat
  /-- the descriptors that the widgets mention -/
  seeds : List Descriptor
  /-- all descriptors that are needed -/
  needed : List Descriptor

/-- The items at some positions. -/
def itemsAt (template : List Item) (indices : List Nat) : List Item :=
  indices.filterMap fun index => template[index]?

/-- Whether a metric blueprint has the category and interval of a needed
descriptor. -/
def metricNeeded (aliases : Aliases) (needed : List Descriptor) (item : Item) : Bool :=
  match item.fieldText? "category", item.fieldText? "interval" with
  | some category, some interval =>
    !category.isEmpty && !interval.isEmpty &&
      needed.any fun d =>
        d.category == aliases.category category && d.interval == aliases.interval interval
  | _, _ => false

/-- Select what the pages of some sections need. -/
def select (template : List Item) (sections : List String) (aliases : Aliases) : Selection :=
  let pages := positions template .page fun item => item.sectionCode?.any sections.contains
  let referenced := distinct ((itemsAt template pages).flatMap Item.mentionedWidgets)
  let isReferenced : Item -> Bool := fun item => item.abstractionId?.any referenced.contains
  let charts := positions template .chart isReferenced
  let cards := positions template .card isReferenced
  let maps := positions template .map isReferenced
  let seeds := distinct ((itemsAt template (charts ++ cards ++ maps)).flatMap fun item =>
    item.value.texts.filterMap (Descriptor.ofText? aliases))
  let edges := template.zipIdx.filterMap fun (item, index) =>
    if item.kind = .trigger then Edge.ofItem? aliases index item else none
  let closure := closeOver edges seeds
  let reached := edges.filter fun edge => closure.reached.contains edge.index
  let isComplete : Edge -> Bool := fun edge => edge.inputs.all fun input =>
    input.any closure.needed.contains
  { pages, charts, cards, maps, seeds
    needed := closure.needed
    triggers := (reached.filter isComplete).map Edge.index
    malformed := (reached.filter fun edge => !isComplete edge).map Edge.index
    metrics := positions template .metric (metricNeeded aliases closure.needed) }

/-- What a compile keeps of a template. -/
structure Slice where
  /-- positions in the template: pages, charts, cards, maps, metrics, triggers -/
  kept : List Nat
  /-- the needed descriptors, sorted -/
  descriptors : List Descriptor
  deriving DecidableEq, Repr

namespace Slice

def empty : Slice := ⟨[], []⟩

def isEmpty (slice : Slice) : Bool :=
  slice.kept.isEmpty

/-- The kept items, in the order in which they are kept. -/
def items (slice : Slice) (template : List Item) : List Item :=
  itemsAt template slice.kept

/-- The slice of a selection. -/
def ofSelection (s : Selection) : Slice where
  kept := s.pages ++ s.charts ++ s.cards ++ s.maps ++ s.metrics ++ s.triggers
  descriptors := Descriptor.sorted s.needed

end Slice

/-- The slice of a template that some sections need.  No section needs
nothing. -/
def slice (template : List Item) (sections : List String) (aliases : Aliases) : Slice :=
  if sections.isEmpty then Slice.empty
  else Slice.ofSelection (select template sections aliases)

/-- What is remarked while slicing. -/
def sliceNotices (template : List Item) (sections : List String) (aliases : Aliases) :
    List Notice :=
  if sections.isEmpty then []
  else
    let s := select template sections aliases
    let seeds := Notice.sliceSeeds s.pages.length
      (s.charts.length + s.cards.length + s.maps.length) s.seeds.length
    let dropped := (itemsAt template s.malformed).map fun item =>
      Notice.triggerMalformed item.shownName
    let counts : SliceCounts :=
      { sections := (distinct sections).length, pages := s.pages.length
        charts := s.charts.length, cards := s.cards.length, maps := s.maps.length
        metrics := s.metrics.length, triggers := s.triggers.length }
    seeds :: dropped ++ [.sliced counts]

end Template
end Sensornet
