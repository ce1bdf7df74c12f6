import Sensornet.Proofs.Session.Inventory

namespace Sensornet

/-!
# Tasks

What the triggers of a domain compute can be told from its items before any
metric has an id.  A `Task` says it in terms of the identities of metrics:
every flow meter calls for its volume, and every zone for its demand and its
average pressure.  Zones are asked about under fixed names, while metrics are
stored under canonical words, so with synonyms some of these names may be
unknown; `Task.among` says what is left of a task then.
-/

open Fixture (Key Row Registry)
open Json (Value Fields)
open List (Forall₂)
open scoped List

/-- The names of the calculators of a trigger row. -/
def Fixture.Row.calculatorNames (row : Row) : List String :=
  (Value.itemsOf (row.field? "calculators")).filterMap fun calculator =>
    (calculator.get? "calc_name").bind Value.text?

/-- What a trigger is to compute. -/
structure Task where
  calculator : String
  output : Metric.Identity
  inputs : List Metric.Identity

namespace Task

/-- A trigger row computes just this, where the network knows the metrics. -/
structure DoneBy (n : Network) (task : Task) (row : Row) : Prop where
  calculators : row.calculatorNames = [task.calculator]
  output : ∃ id, n.metric? task.output = some id ∧ row.text? "output_metric" = some id
  inputs : Forall₂ (fun identity id => n.metric? identity = some id) task.inputs row.inputs

/-- The volume of a flow meter, from its raw reading. -/
def delta (aliases : Metric.Aliases) (p : Placement) : Task where
  calculator := "CALCULATE_DELTA"
  output := p.standard aliases "flow_volume"
  inputs := [p.raw aliases "flow_reading"]

/-- The demand of a zone, from the volumes of the meters that feed it. -/
def demand (placed : List Placement) (z : Placement) : Task where
  calculator := "CALCULATE_ZONE_DEMAND"
  output := ⟨"zone_demand", Starter.quarterHour, z.id⟩
  inputs := (placed.filter (Placement.feeds placed z.id)).map fun p =>
    ⟨"flow_volume", Starter.quarterHour, p.id⟩

/-- The average pressure of a zone, from the readings inside it. -/
def average (aliases : Metric.Aliases) (placed : List Placement) (z : Placement) : Task where
  calculator := "CALCULATE_AVG"
  output := ⟨"average_zone_pressure", Starter.quarterHour, z.id⟩
  inputs := (placed.filter (Placement.measures aliases z.polygon)).map
    (Placement.raw aliases "pressure")

/-- What a flow meter calls for. -/
def ofMeter (aliases : Metric.Aliases) (p : Placement) : List Task :=
  if p.isMeter then [delta aliases p] else []

/-- What a zone calls for. -/
def ofZone (aliases : Metric.Aliases) (placed : List Placement) (p : Placement) : List Task :=
  if p.isZone then [demand placed p, average aliases placed p] else []

/-- What is left of a task if only some metrics are known: the known inputs, or
nothing if none is left or the output is unknown. -/
def among (known : List Metric.Identity) (task : Task) : List Task :=
  let inputs := task.inputs.filter fun identity => decide (identity ∈ known)
  if task.output ∈ known ∧ inputs ≠ [] then [{ task with inputs }] else []

/-- All that some items call for: first the meters, then the zones. -/
def called (aliases : Metric.Aliases) (placed : List Placement) : List Task :=
  placed.flatMap (ofMeter aliases) ++ placed.flatMap fun p =>
    (ofZone aliases placed p).flatMap (among (placed.flatMap (Placement.metrics aliases)))

/-! ## Different outputs -/

variable {aliases : Metric.Aliases} {known : List Metric.Identity} {placed : List Placement}
  {p : Placement} {task : Task}

theorem mem_ofMeter (member : task ∈ ofMeter aliases p) :
    p.isMeter = true ∧ task = delta aliases p := by
  unfold ofMeter at member
  split at member
  · next meter => exact ⟨meter, List.mem_singleton.mp member⟩
  · cases member

/-- A meter calls for the trigger that computes its volume. -/
theorem delta_mem_called (member : p ∈ placed) (meter : p.isMeter = true) :
    delta aliases p ∈ called aliases placed := by
  refine List.mem_append_left _ (List.mem_flatMap.mpr ⟨p, member, ?_⟩)
  unfold ofMeter
  rw [if_pos meter]
  exact List.mem_cons_self

/-- What is left of a task has its output. -/
theorem outputs_among (known : List Metric.Identity) (task : Task) :
    (among known task).map output <+ [task.output] := by
  unfold among
  dsimp only
  split
  · exact .refl _
  · exact List.nil_sublist _

/-- The outputs that a zone calls for at most. -/
theorem outputs_ofZone (known : List Metric.Identity) (p : Placement) :
    ((ofZone aliases placed p).flatMap (among known)).map output <+
      if p.isZone then [(demand placed p).output, (average aliases placed p).output] else [] := by
  unfold ofZone
  split
  · have first := outputs_among known (demand placed p)
    have second := outputs_among known (average aliases placed p)
    rw [List.flatMap_cons, List.flatMap_cons, List.flatMap_nil, List.append_nil, List.map_append]
    exact first.append second
  · exact .refl _

theorem nodup_outputs_ofZone (known : List Metric.Identity) (p : Placement) :
    (((ofZone aliases placed p).flatMap (among known)).map output).Nodup := by
  refine List.Nodup.sublist (outputs_ofZone known p) ?_
  split
  · have apart : (demand placed p).output ≠ (average aliases placed p).output := by
      intro same
      have words : "zone_demand" = "average_zone_pressure" :=
        congrArg Metric.Identity.category same
      exact absurd words (by decide)
    simpa using apart
  · exact List.nodup_nil

theorem target_of_ofZone (member : task ∈ (ofZone aliases placed p).flatMap (among known)) :
    p.isZone = true ∧ task.output.target = p.id := by
  have listed := (outputs_ofZone known p).subset (List.mem_map_of_mem member)
  split at listed
  · next zone =>
    refine ⟨zone, ?_⟩
    simp only [List.mem_cons, List.not_mem_nil, or_false] at listed
    rcases listed with same | same
    · rw [same]
      rfl
    · rw [same]
      rfl
  · cases listed

/-- Tasks of different items have different outputs. -/
theorem nodup_outputs {own : Placement -> List Task} (unique : (placed.map Placement.id).Nodup)
    (targets : ∀ p ∈ placed, ∀ task ∈ own p, task.output.target = p.id)
    (each : ∀ p ∈ placed, ((own p).map output).Nodup) :
    ((placed.flatMap own).map output).Nodup := by
  rw [List.map_flatMap, List.nodup_flatMap]
  refine ⟨each, ?_⟩
  have apart := List.pairwise_map.mp (List.nodup_iff_pairwise_ne.mp unique)
  refine apart.imp_of_mem fun {p q} member memberToo different => ?_
  intro identity first second
  rcases List.mem_map.mp first with ⟨task, ofFirst, rfl⟩
  rcases List.mem_map.mp second with ⟨other, ofSecond, same⟩
  have target := targets p member task ofFirst
  have targetToo := targets q memberToo other ofSecond
  rw [same] at targetToo
  exact different (target.symm.trans targetToo)

/-- All tasks have different outputs. -/
theorem nodup_outputs_called (aliases : Metric.Aliases)
    (unique : (placed.map Placement.id).Nodup) : ((called aliases placed).map output).Nodup := by
  unfold called
  rw [List.map_append, List.nodup_append]
  refine ⟨?_, ?_, ?_⟩
  · refine nodup_outputs unique (fun p _ task member => ?_) fun p _ => ?_
    · rw [(mem_ofMeter member).2]
      rfl
    · unfold ofMeter
      split
      · exact List.nodup_singleton _
      · exact List.nodup_nil
  · exact nodup_outputs unique (fun p _ task member => (target_of_ofZone member).2)
      fun p _ => nodup_outputs_ofZone _ p
  · intro identity first other second same
    subst same
    rcases List.mem_map.mp first with ⟨task, called, rfl⟩
    rcases List.mem_map.mp second with ⟨more, calledToo, same⟩
    rcases List.mem_flatMap.mp called with ⟨p, member, ofMeter⟩
    rcases List.mem_flatMap.mp calledToo with ⟨q, memberToo, ofZone⟩
    rcases mem_ofMeter ofMeter with ⟨meter, rfl⟩
    rcases target_of_ofZone ofZone with ⟨zone, target⟩
    rw [same] at target
    -- one target is not both a meter and a zone
    have equal : p = q := List.inj_on_of_nodup_map unique member memberToo target
    subst equal
    unfold Placement.isMeter at meter
    unfold Placement.isZone at zone
    rw [beq_iff_eq.mp zone] at meter
    exact absurd meter (by decide)

/-! ## Known names -/

/-- Nothing is left out of a task that is known, unless it has nothing to
read. -/
theorem among_eq_filter (output : task.output ∈ known)
    (inputs : ∀ identity ∈ task.inputs, identity ∈ known) :
    among known task = [task].filter fun task => !task.inputs.isEmpty := by
  have whole : task.inputs.filter (fun identity => decide (identity ∈ known)) = task.inputs :=
    List.filter_eq_self.mpr fun identity member => decide_eq_true (inputs identity member)
  unfold among
  dsimp only
  rw [whole]
  by_cases empty : task.inputs = []
  · rw [if_neg fun both => both.2 empty, List.filter_cons_of_neg (by simp [empty])]
    rfl
  · rw [if_pos ⟨output, empty⟩, List.filter_cons_of_pos (by simp [empty])]
    rfl

/-- A zone calls for a task that is known and has something to read. -/
theorem mem_called_of_known {z : Placement} (member : z ∈ placed)
    (own : task ∈ ofZone aliases placed z)
    (output : task.output ∈ placed.flatMap (Placement.metrics aliases))
    (inputs : ∀ identity ∈ task.inputs, identity ∈ placed.flatMap (Placement.metrics aliases))
    (some' : task.inputs ≠ []) : task ∈ called aliases placed := by
  refine List.mem_append_right _ (List.mem_flatMap.mpr ⟨z, member, ?_⟩)
  refine List.mem_flatMap.mpr ⟨task, own, ?_⟩
  rw [among_eq_filter output inputs]
  exact List.mem_filter.mpr ⟨List.mem_cons_self, by simp [some']⟩

theorem mem_ofZone {z : Placement} (zone : z.isZone = true) :
    task ∈ ofZone aliases placed z ↔ task = demand placed z ∨ task = average aliases placed z := by
  unfold ofZone
  rw [if_pos zone, List.mem_cons, List.mem_singleton]

section

variable {z : Placement} (member : z ∈ placed) (zone : z.isZone = true)
  (interval : aliases.interval Starter.quarterHour = Starter.quarterHour)
include member zone interval

theorem output_demand_known (name : aliases.category "zone_demand" = "zone_demand") :
    (demand placed z).output ∈ placed.flatMap (Placement.metrics aliases) := by
  have own : (demand placed z).output = z.standard aliases "zone_demand" := by
    unfold demand Placement.standard
    rw [name, interval]
  refine List.mem_flatMap.mpr ⟨z, member, ?_⟩
  unfold Placement.metrics
  rw [own, if_pos zone]
  exact List.mem_cons_self

theorem output_average_known
    (name : aliases.category "average_zone_pressure" = "average_zone_pressure") :
    (average aliases placed z).output ∈ placed.flatMap (Placement.metrics aliases) := by
  have own : (average aliases placed z).output = z.standard aliases "average_zone_pressure" := by
    unfold average Placement.standard
    rw [name, interval]
  refine List.mem_flatMap.mpr ⟨z, member, ?_⟩
  unfold Placement.metrics
  rw [own, if_pos zone]
  exact List.mem_cons_of_mem _ List.mem_cons_self

end

theorem inputs_demand_known (interval : aliases.interval Starter.quarterHour = Starter.quarterHour)
    (name : aliases.category "flow_volume" = "flow_volume") (z : Placement) :
    ∀ identity ∈ (demand placed z).inputs, identity ∈ placed.flatMap (Placement.metrics aliases) := by
  intro identity listed
  rcases List.mem_map.mp listed with ⟨p, among, rfl⟩
  rcases List.mem_filter.mp among with ⟨member, feeds⟩
  have meter : p.isMeter = true := (Bool.and_eq_true_iff.mp feeds).1
  have own : (⟨"flow_volume", Starter.quarterHour, p.id⟩ : Metric.Identity) =
      p.standard aliases "flow_volume" := by
    unfold Placement.standard
    rw [name, interval]
  refine List.mem_flatMap.mpr ⟨p, member, ?_⟩
  unfold Placement.metrics
  rw [own, if_neg (p.not_isZone_of_isMeter meter), if_pos meter]
  exact List.mem_cons_of_mem _ List.mem_cons_self

/-- The pressures inside a zone are known whatever the synonyms are. -/
theorem inputs_average_known (aliases : Metric.Aliases) (placed : List Placement) (z : Placement) :
    ∀ identity ∈ (average aliases placed z).inputs,
      identity ∈ placed.flatMap (Placement.metrics aliases) := by
  intro identity listed
  rcases List.mem_map.mp listed with ⟨p, among, rfl⟩
  rcases List.mem_filter.mp among with ⟨member, measures⟩
  have sensor : p.isPressureSensor = true :=
    (Bool.and_eq_true_iff.mp (Bool.and_eq_true_iff.mp measures).1).1
  refine List.mem_flatMap.mpr ⟨p, member, ?_⟩
  unfold Placement.metrics
  rw [if_neg (p.not_isZone_of_isPressureSensor sensor),
    if_neg (p.not_isMeter_of_isPressureSensor sensor), if_pos sensor]
  exact List.mem_cons_self

/-- Where the names are canonical words, a zone calls for whatever has anything
to read. -/
theorem called_eq_filter (interval : aliases.interval Starter.quarterHour = Starter.quarterHour)
    (demand : aliases.category "zone_demand" = "zone_demand")
    (volume : aliases.category "flow_volume" = "flow_volume")
    (average : aliases.category "average_zone_pressure" = "average_zone_pressure") :
    called aliases placed = placed.flatMap (ofMeter aliases) ++
      (placed.flatMap (ofZone aliases placed)).filter fun task => !task.inputs.isEmpty := by
  unfold called
  rw [List.filter_flatMap]
  refine congrArg (placed.flatMap (ofMeter aliases) ++ ·) (List.flatMap_congr fun z member => ?_)
  unfold ofZone
  split
  · next zone =>
    rw [List.flatMap_cons, List.flatMap_cons, List.flatMap_nil, List.append_nil,
      among_eq_filter (output_demand_known member zone interval demand)
        (inputs_demand_known interval volume z),
      among_eq_filter (output_average_known member zone interval average)
        (inputs_average_known aliases placed z), ← List.filter_append]
    rfl
  · rfl

end Task
end Sensornet
