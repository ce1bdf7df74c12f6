import Sensornet.Proofs.Session.Called

namespace Sensornet

/-!
# Synonyms for starter names

Starter metrics are stored under canonical words, but the triggers of zones
look them up under the fixed names.  A configuration that gives one of these
names a synonym of its own takes the metric out of sight, and the trigger is
left out without a notice.  Where the names stay what they are, whatever the
other synonyms say, every zone with a meter or a pressure sensor has its
trigger.
-/

open Fixture (Key Row Registry)
open Json (Value Fields)
open List (Forall₂)

namespace Session

variable {t : Session} {aliases : Metric.Aliases} {items : List Domain.Item}
  {placed : List Placement}

/-- What is called for is done by some trigger row. -/
theorem Begun.done (begun : t.Begun aliases items placed) {task : Task}
    (called : task ∈ Task.called aliases placed) :
    ∃ row ∈ t.rowsOf Fixture.Model.trigger, task.DoneBy t.network row :=
  exists_of_mem_forall₂_left begun.triggers called

/-- Some trigger computes the volume of a flow meter and writes it to this
metric. -/
def Metered (t : Session) (aliases : Metric.Aliases) (p : Placement) (volume : String) : Prop :=
  ∃ row ∈ t.rowsOf Fixture.Model.trigger, (Task.delta aliases p).DoneBy t.network row ∧
    row.text? "output_metric" = some volume

theorem Begun.metered (begun : t.Begun aliases items placed) {p : Placement} (member : p ∈ placed)
    (meter : p.isMeter = true) {volume : String}
    (known : t.network.metric? (p.standard aliases "flow_volume") = some volume) :
    t.Metered aliases p volume := by
  rcases begun.done (Task.delta_mem_called member meter) with ⟨row, among, done⟩
  rcases done.output with ⟨id, knownToo, written⟩
  cases Option.some.inj (known.symm.trans knownToo)
  exact ⟨row, among, done, written⟩

/-- The demand of a zone is computed from the volumes of all meters that feed
it. -/
theorem Begun.demand (begun : t.Begun aliases items placed)
    (interval : aliases.interval Starter.quarterHour = Starter.quarterHour)
    (demand : aliases.category "zone_demand" = "zone_demand")
    (volume : aliases.category "flow_volume" = "flow_volume") {z : Placement} (member : z ∈ placed)
    (zone : z.isZone = true) (fed : ∃ p ∈ placed, p.feeds placed z.id = true) :
    ∃ row ∈ t.rowsOf Fixture.Model.trigger, (Task.demand placed z).DoneBy t.network row ∧
      Forall₂ (t.Metered aliases) (placed.filter (Placement.feeds placed z.id)) row.inputs := by
  have some' : (Task.demand placed z).inputs ≠ [] := by
    rcases fed with ⟨p, among, feeds⟩
    exact List.ne_nil_of_mem (List.mem_map_of_mem (List.mem_filter.mpr ⟨among, feeds⟩))
  have called : Task.demand placed z ∈ Task.called aliases placed :=
    Task.mem_called_of_known member ((Task.mem_ofZone zone).mpr (Or.inl rfl))
      (Task.output_demand_known member zone interval demand)
      (Task.inputs_demand_known interval volume z) some'
  rcases begun.done called with ⟨row, among, done⟩
  refine ⟨row, among, done, ?_⟩
  have pairs := done.inputs
  unfold Task.demand at pairs
  rw [List.forall₂_map_left_iff] at pairs
  have chosen : ∀ p ∈ placed.filter (Placement.feeds placed z.id),
      p ∈ placed ∧ p.isMeter = true := by
    intro p listed
    rcases List.mem_filter.mp listed with ⟨there, feeds⟩
    exact ⟨there, (Bool.and_eq_true_iff.mp feeds).1⟩
  refine (List.forall₂_and_left _ _ |>.mpr ⟨chosen, pairs⟩).imp ?_
  rintro p id ⟨⟨there, meter⟩, known⟩
  have own : p.standard aliases "flow_volume" = ⟨"flow_volume", Starter.quarterHour, p.id⟩ := by
    unfold Placement.standard
    rw [volume, interval]
  exact begun.metered there meter (own ▸ known)

/-- The average pressure of a zone is computed from that of a sensor inside. -/
theorem Begun.average (begun : t.Begun aliases items placed)
    (interval : aliases.interval Starter.quarterHour = Starter.quarterHour)
    (average : aliases.category "average_zone_pressure" = "average_zone_pressure")
    (pressure : aliases.category "pressure" = "pressure") {z : Placement} (member : z ∈ placed)
    (zone : z.isZone = true) {p : Placement} (there : p ∈ placed)
    (sensor : p.isPressureSensor = true) (unhinted : p.item.metricCategory = none)
    (inside : p.item.position?.any z.polygon.contains = true) :
    ∃ row ∈ t.rowsOf Fixture.Model.trigger, (Task.average aliases placed z).DoneBy t.network row ∧
      ∃ id ∈ row.inputs, t.network.metric? (p.raw aliases "pressure") = some id := by
  have measures : p.measures aliases z.polygon = true := by
    unfold Placement.measures Placement.raw
    rw [sensor, inside, unhinted, Option.getD_none, pressure]
    rfl
  have listed : p.raw aliases "pressure" ∈ (Task.average aliases placed z).inputs :=
    List.mem_map_of_mem (List.mem_filter.mpr ⟨there, measures⟩)
  have called : Task.average aliases placed z ∈ Task.called aliases placed :=
    Task.mem_called_of_known member ((Task.mem_ofZone zone).mpr (Or.inr rfl))
      (Task.output_average_known member zone interval average)
      (Task.inputs_average_known aliases placed z) (List.ne_nil_of_mem listed)
  rcases begun.done called with ⟨row, among, done⟩
  exact ⟨row, among, done, exists_of_mem_forall₂_left done.inputs listed⟩

/-- A domain is compiled on nothing, with any synonyms that leave the names of
the metrics of zones and the standard interval as they are.  Then every zone
that a flow meter feeds has a demand trigger that reads the volumes of all its
meters, each the output of the trigger of the meter, and every zone with a
pressure sensor inside that has no hint has a trigger for its average pressure
that reads the sensor. -/
theorem triggers_addDomain_synonyms {options : Options} (starting : options.starterMetrics = true)
    (interval : options.allAliases.interval Starter.quarterHour = Starter.quarterHour)
    (supply : Nat) (items : List Domain.Item)
    (fresh : ((start options supply).addDomain items).Fresh) :
    let s := start options supply
    let t := s.addDomain items
    let placed := (s.placeItems [] items).1
    let aliases := options.allAliases
    (aliases.category "zone_demand" = "zone_demand" ->
      aliases.category "flow_volume" = "flow_volume" ->
      ∀ z ∈ placed, z.isZone = true -> (∃ p ∈ placed, p.feeds placed z.id = true) ->
        ∃ row ∈ t.rowsOf Fixture.Model.trigger, (Task.demand placed z).DoneBy t.network row ∧
          Forall₂ (t.Metered aliases) (placed.filter (Placement.feeds placed z.id)) row.inputs) ∧
      (aliases.category "average_zone_pressure" = "average_zone_pressure" ->
        aliases.category "pressure" = "pressure" ->
        ∀ z ∈ placed, z.isZone = true ->
          ∀ p ∈ placed, p.isPressureSensor = true -> p.item.metricCategory = none ->
            p.item.position?.any z.polygon.contains = true ->
              ∃ row ∈ t.rowsOf Fixture.Model.trigger,
                (Task.average aliases placed z).DoneBy t.network row ∧
                  ∃ id ∈ row.inputs, t.network.metric? (p.raw aliases "pressure") = some id) := by
  intro s t placed aliases
  have begun : t.Begun aliases items placed := begun_addDomain starting supply items fresh
  constructor
  · intro demand volume z member zone fed
    exact begun.demand interval demand volume member zone fed
  · intro average pressure z member zone p there sensor unhinted inside
    exact begun.average interval average pressure member zone there sensor unhinted inside

/-- Synonyms that lead to the names of metrics and not away from them. -/
def shortNames : Options :=
  { Options.default with aliases := ⟨[("vol", "flow_volume")], [("quarter", "QUARTER_HOUR")]⟩ }

/-- The zone has its demand trigger, as no name has a synonym. -/
theorem triggers_addDomain_shortNames :
    let s := start shortNames 0
    let t := s.addDomain [northZone, northMeter]
    let placed := (s.placeItems [] [northZone, northMeter]).1
    t.Fresh ∧ (placed.map Placement.isZone = [true, false]) ∧
      ∀ z ∈ placed, z.isZone = true ->
        ∃ row ∈ t.rowsOf Fixture.Model.trigger, (Task.demand placed z).DoneBy t.network row ∧
          Forall₂ (t.Metered shortNames.allAliases) (placed.filter (Placement.feeds placed z.id))
            row.inputs := by
  intro s t placed
  -- evaluated together, as the keys of the session are the costly part of each
  have evaluated : t.Fresh ∧ placed.map Placement.isZone = [true, false] ∧
      ∀ z ∈ placed, z.isZone = true -> ∃ p ∈ placed, p.feeds placed z.id = true := by
    unfold Fresh
    decide +kernel
  rcases evaluated with ⟨fresh, zones, fed⟩
  refine ⟨fresh, zones, fun z member zone => ?_⟩
  exact (triggers_addDomain_synonyms rfl (by decide) 0 [northZone, northMeter] fresh).1 (by decide)
    (by decide) z member zone (fed z member zone)

/-- A configuration that calls the volumes of flow meters by another name. -/
def otherVolume : Options :=
  { Options.default with aliases := ⟨[("flow_volume", "fv")], []⟩ }

/-- The meter feeds the zone and has its volume, but the zone has no demand
trigger. -/
theorem demand_lost_otherVolume :
    let s := start otherVolume 0
    let t := s.addDomain [northZone, northMeter]
    let placed := (s.placeItems [] [northZone, northMeter]).1
    (∃ z ∈ placed, z.isZone = true ∧ ∃ p ∈ placed, p.feeds placed z.id = true) ∧
      (t.rowsOf Fixture.Model.trigger).map Row.calculatorNames = [["CALCULATE_DELTA"]] := by
  decide +kernel

end Session
end Sensornet
