import Sensornet.Proofs.Resolution.Inputs
import Sensornet.Proofs.Session.Again
import Sensornet.Proofs.Template.Kept

namespace Sensornet
namespace Template

/-!
# The inputs that a slice follows

A calculator may list its metrics in lists within lists.  A compile flattens
them, so every text counts as an input, however deep it stands.  A slice looks
into the list itself only: of what stands in an inner list it neither needs the
descriptors nor minds the malformed ones.

So a slice follows every input of a trigger that it keeps, except those that
stand in inner lists and nowhere else.
-/

open Json (Value)
open Resolution (Scene)
open Resolution.Scene (leaves leavesAll)
open Sensornet.Metric (Aliases Descriptor)

variable {aliases : Aliases} {template : List Item} {sections : List String} {item : Item}
  {text : String}

/-! ## Lists in lists -/

/-- The texts in a value, if it is a list. -/
def innerLeaves : Value -> List String
  | .array items => leavesAll items
  | _ => []

/-- What the calculators of an item list in inner lists. -/
def Item.innerMetrics (item : Item) : List String :=
  item.calculators.flatMap fun calculator =>
    (Value.itemsOf (Calculator.metrics? calculator)).flatMap innerLeaves

/-- A value is a text, or its texts are in a list. -/
theorem mem_leaves {value : Value} :
    text ∈ leaves value ↔ value = .text text ∨ text ∈ innerLeaves value := by
  cases value with
  | text raw => simp [leaves, innerLeaves, eq_comm]
  | array items => simp [leaves, innerLeaves]
  | null | bool _ | number _ | object _ => simp [leaves, innerLeaves]

theorem mem_leavesAll {items : List Value} :
    text ∈ leavesAll items ↔ .text text ∈ items ∨ text ∈ items.flatMap innerLeaves := by
  induction items with
  | nil => simp [leavesAll]
  | cons value rest ih =>
    rw [leavesAll, List.mem_append, mem_leaves, ih, List.mem_cons, List.flatMap_cons,
      List.mem_append, eq_comm]
    exact or_or_or_comm

theorem mem_filterMap_text {items : List Value} :
    text ∈ items.filterMap Value.text? ↔ .text text ∈ items := by
  rw [List.mem_filterMap]
  constructor
  · rintro ⟨value, member, read⟩
    cases value <;> cases read
    exact member
  · exact fun member => ⟨.text text, member, rfl⟩

/-- What stands under the metrics of a calculator, with or without a list around
it. -/
theorem mem_leaves_itemsOf {metrics : Option Value} : text ∈ (metrics.map leaves).getD [] ↔
    text ∈ (Value.itemsOf metrics).filterMap Value.text? ∨
      text ∈ (Value.itemsOf metrics).flatMap innerLeaves := by
  rw [mem_filterMap_text, ← mem_leavesAll]
  cases metrics with
  | none => rfl
  | some value => cases value <;> simp [Value.itemsOf, Value.items, leaves, leavesAll]

/-- An input of a trigger stands in a list of its calculators or in an inner
one. -/
theorem mem_entriesOf : text ∈ Scene.entriesOf item ↔
    text ∈ item.inputMetrics ∨ text ∈ item.innerMetrics := by
  unfold Scene.entriesOf Item.inputMetrics Item.innerMetrics
  simp only [List.mem_flatMap, mem_leaves_itemsOf, and_or_left, exists_or]
  rfl

/-! ## What is followed -/

/-- A kept trigger writes what is needed, so that whatever it lists is needed. -/
theorem mem_descriptors_of_inputMetrics
    (kept : item ∈ (slice template sections aliases).items template)
    (trigger : item.kind = .trigger) (listed : text ∈ item.inputMetrics) {d : Descriptor}
    (read : Descriptor.ofText? aliases text = some d) :
    d ∈ (slice template sections aliases).descriptors := by
  rcases mem_items_slice.mp kept with ⟨member, justified⟩
  unfold Justified at justified
  rw [trigger] at justified
  rcases justified.1 with ⟨output, need, writes⟩
  exact closes_descriptors.inputs item member trigger output writes need text listed d read

/-- A slice follows every descriptor that a trigger it keeps has among its
inputs, unless the descriptor stands in inner lists only. -/
theorem descriptors_of_entries (kept : item ∈ (slice template sections aliases).items template)
    (trigger : item.kind = .trigger) :
    ∀ text ∈ Scene.entriesOf item, (text ∈ item.innerMetrics -> text ∈ item.inputMetrics) ->
      ∀ d, Descriptor.ofText? aliases text = some d ->
        d ∈ (slice template sections aliases).descriptors := by
  intro text entry outside d read
  have listed : text ∈ item.inputMetrics := by
    rcases mem_entriesOf.mp entry with listed | inner
    · exact listed
    · exact outside inner
  exact mem_descriptors_of_inputMetrics kept trigger listed read

/-- A card for the loss of zones, whose trigger reads `metrics`, and a metric for
the demand of zones. -/
def demandBlueprints (metrics : Value) : List Item :=
  Session.lossBlueprints "zone_loss" metrics ++ [Session.metricBlueprint "zone_demand" "demand"]

/-- The trigger of the loss. -/
def lossTrigger (metrics : Value) : Item :=
  Session.triggerBlueprint "loss_trigger" "MetricCategory.Zone.loss.qh" metrics

theorem kept_lossTrigger {metrics : Value}
    (need : ⟨"Zone", "loss", "QUARTER_HOUR"⟩ ∈
      (select (demandBlueprints metrics) ["OPS"] .builtin).needed)
    (formed : ∀ text ∈ (lossTrigger metrics).inputMetrics,
      ∃ d, Descriptor.ofText? .builtin text = some d) :
    lossTrigger metrics ∈
      (slice (demandBlueprints metrics) ["OPS"] .builtin).items (demandBlueprints metrics) := by
  have member : lossTrigger metrics ∈ demandBlueprints metrics := by
    simp [lossTrigger, demandBlueprints, Session.lossBlueprints]
  have read : Descriptor.ofText? .builtin "MetricCategory.Zone.loss.qh" =
      some ⟨"Zone", "loss", "QUARTER_HOUR"⟩ := by
    decide +kernel
  have justified : Justified .builtin (demandBlueprints metrics) ["OPS"] (lossTrigger metrics) :=
    ⟨⟨_, mem_descriptors.mpr need, read⟩, fun text listed _ => formed text listed⟩
  exact mem_items_slice.mpr ⟨member, justified⟩

/-- The trigger lists the demand, so the demand is needed. -/
theorem descriptors_of_entries_listed :
    let metrics := Value.array [.text "MetricCategory.Zone.demand.qh"]
    let slice := slice (demandBlueprints metrics) ["OPS"] .builtin
    lossTrigger metrics ∈ slice.items (demandBlueprints metrics) ∧
      (lossTrigger metrics).kind = .trigger ∧
      "MetricCategory.Zone.demand.qh" ∈ Scene.entriesOf (lossTrigger metrics) ∧
      "MetricCategory.Zone.demand.qh" ∉ (lossTrigger metrics).innerMetrics ∧
      ⟨"Zone", "demand", "QUARTER_HOUR"⟩ ∈ slice.descriptors := by
  intro metrics slice
  have read : Descriptor.ofText? .builtin "MetricCategory.Zone.demand.qh" =
      some ⟨"Zone", "demand", "QUARTER_HOUR"⟩ := by
    decide +kernel
  have inputs : (lossTrigger metrics).inputMetrics = ["MetricCategory.Zone.demand.qh"] := rfl
  have kept : lossTrigger metrics ∈ slice.items (demandBlueprints metrics) := by
    refine kept_lossTrigger (by decide +kernel) fun text listed => ?_
    rw [inputs, List.mem_singleton] at listed
    exact ⟨_, listed ▸ read⟩
  have entry : "MetricCategory.Zone.demand.qh" ∈ Scene.entriesOf (lossTrigger metrics) :=
    mem_entriesOf.mpr (Or.inl (inputs ▸ List.mem_cons_self))
  have outer : "MetricCategory.Zone.demand.qh" ∉ (lossTrigger metrics).innerMetrics :=
    List.not_mem_nil
  exact ⟨kept, rfl, entry, outer,
    descriptors_of_entries kept rfl _ entry (fun inner => absurd inner outer) _ read⟩

/-- In an inner list the demand is an input of the trigger all the same, but the
slice does not need it and drops its metric. -/
theorem descriptors_lost_inner :
    let metrics := Value.array [.array [.text "MetricCategory.Zone.demand.qh"]]
    let slice := slice (demandBlueprints metrics) ["OPS"] .builtin
    lossTrigger metrics ∈ slice.items (demandBlueprints metrics) ∧
      (lossTrigger metrics).kind = .trigger ∧
      "MetricCategory.Zone.demand.qh" ∈ Scene.entriesOf (lossTrigger metrics) ∧
      Descriptor.ofText? .builtin "MetricCategory.Zone.demand.qh" =
        some ⟨"Zone", "demand", "QUARTER_HOUR"⟩ ∧
      ⟨"Zone", "demand", "QUARTER_HOUR"⟩ ∉ slice.descriptors ∧
      Session.metricBlueprint "zone_demand" "demand" ∉ slice.items (demandBlueprints metrics) := by
  intro metrics slice
  have others : ∀ d ∈ (select (demandBlueprints metrics) ["OPS"] .builtin).needed,
      d.category ≠ "demand" := by
    decide +kernel
  have lost : ∀ d ∈ slice.descriptors, d.category ≠ "demand" :=
    fun d need => others d (mem_descriptors.mp need)
  have inputs : (lossTrigger metrics).inputMetrics = [] := rfl
  have kept : lossTrigger metrics ∈ slice.items (demandBlueprints metrics) := by
    refine kept_lossTrigger (by decide +kernel) fun text listed => ?_
    rw [inputs] at listed
    cases listed
  refine ⟨kept, rfl, mem_entriesOf.mpr (Or.inr List.mem_cons_self), by decide +kernel,
    fun need => lost _ need rfl, fun keeps => ?_⟩
  rcases (mem_items_slice.mp keeps).2 with ⟨category, _, ⟨own, _⟩, _, d, need, same, _⟩
  cases own
  exact lost d need same

end Template
end Sensornet
