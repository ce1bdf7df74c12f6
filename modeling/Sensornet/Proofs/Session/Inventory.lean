import Sensornet.Proofs.Session.Follow
import Sensornet.Proofs.Session.Identities
import Sensornet.Proofs.Session.Layout

namespace Sensornet

/-!
# Which metrics there are

What a target starts with depends on its item and on the synonyms, and it is
asked for in the order of the items.  In a session without a past the known
metrics are just these, each once.  The pressure inside a zone is then read off
the items as well: a pressure sensor inside has one metric, and it counts if
its category is that of pressures.
-/

open Json (Value Fields)
open List (Forall₂)

/-! ## Tables -/

namespace Entries

variable {K V : Type} [DecidableEq K]

/-- The values of some sort, beside their keys. -/
theorem forall₂_filter {entries : List (K × V)} (apart : Distinct entries) (chosen : K -> Bool) :
    Forall₂ (fun key value => get? key entries = some value) ((keys entries).filter chosen)
      ((entries.filter fun entry => chosen entry.1).map Prod.snd) := by
  have pairs : (keys entries).filter chosen =
      (entries.filter fun entry => chosen entry.1).map Prod.fst := List.filter_map
  rw [pairs, List.forall₂_map_left_iff, List.forall₂_map_right_iff, List.forall₂_same]
  intro entry member
  exact get?_of_mem apart (List.mem_filter.mp member).1

end Entries

/-! ## What targets start with -/

namespace Placement

/-- The metrics that a target starts with, in order. -/
def metrics (aliases : Metric.Aliases) (p : Placement) : List Metric.Identity :=
  if p.isZone then [p.standard aliases "zone_demand", p.standard aliases "average_zone_pressure"]
  else if p.isMeter then [p.raw aliases "flow_reading", p.standard aliases "flow_volume"]
  else if p.isPressureSensor then [p.raw aliases "pressure"]
  else []

theorem target_of_metrics {aliases : Metric.Aliases} {p : Placement} {identity : Metric.Identity}
    (member : identity ∈ p.metrics aliases) : identity.target = p.id := by
  unfold metrics at member
  split at member
  · simp at member
    rcases member with rfl | rfl <;> rfl
  · split at member
    · simp at member
      rcases member with rfl | rfl <;> rfl
    · split at member
      · simp at member
        rw [member]
        rfl
      · cases member

/-- Whether an item is a pressure sensor inside an outline, with a reading of
pressures. -/
def measures (aliases : Metric.Aliases) (polygon : Geometry.Polygon) (p : Placement) : Bool :=
  p.isPressureSensor && p.item.position?.any polygon.contains &&
    (p.raw aliases "pressure").category == "pressure"

end Placement

namespace Session

variable (s : Session)

/-- The identities of the metrics that are known, in order. -/
def identities : List Metric.Identity :=
  Entries.keys s.network.metrics

theorem mem_identities_iff (identity : Metric.Identity) :
    identity ∈ s.identities ↔ (s.network.metric? identity).isSome = true := by
  have unknown : s.network.metric? identity = none ↔ identity ∉ s.identities :=
    Entries.get?_eq_none_iff
  rw [Option.isSome_iff_ne_none, ne_eq, unknown, not_not]

theorem identities_obtainMetric (fields : Fields) :
    (s.obtainMetric fields).2.identities = addNew s.identities (s.identityFor fields) := by
  cases known : s.network.metric? (s.identityFor fields) with
  | some id =>
    have listed : s.identityFor fields ∈ s.identities := by
      rw [mem_identities_iff, known]
      rfl
    rcases s.obtainMetric_known known with ⟨notice, found⟩
    rw [found]
    exact (if_pos listed).symm
  | none =>
    have absent := Entries.get?_eq_none_iff.mp known
    unfold identities
    rw [s.obtainMetric_new known]
    dsimp only [network_enter]
    rw [Network.indexRow_metricRow s.network known, addNew_of_not_mem absent]
    exact Entries.keys_insert_of_not_mem absent _

theorem identities_starterTrigger (name seed description : String) (more : Fields)
    (inputs : List String) (output : String) :
    (s.starterTrigger name seed description more inputs output).identities = s.identities := by
  have run : Deeds [] Any s (s.starterTrigger name seed description more inputs output) :=
    deeds_starterTrigger_any s name seed description more inputs output
  exact congrArg Entries.keys (run.metrics List.not_mem_nil)

/-- A target adds what it starts with. -/
theorem identities_metricsOfTarget (p : Placement) :
    (s.metricsOfTarget p).identities = addAllNew s.identities (p.metrics s.aliases) := by
  have settings : ∀ fields, (s.obtainMetric fields).2.aliases = s.aliases :=
    fun fields => (moves_obtainMetric s fields).settings.2.1
  have demand : ∀ u : Session, u.identityFor (Starter.zoneDemand p.id p.item.label) =
      p.standard u.aliases "zone_demand" := fun u => u.identityFor_computed _ _ _ _ _
  have average : ∀ u : Session, u.identityFor (Starter.averagePressure p.id p.item.label) =
      p.standard u.aliases "average_zone_pressure" := fun u => u.identityFor_computed _ _ _ _ _
  have volume : ∀ u : Session, u.identityFor (Starter.flowVolume p.id p.item.label) =
      p.standard u.aliases "flow_volume" := fun u => u.identityFor_computed _ _ _ _ _
  unfold metricsOfTarget Placement.metrics Placement.isZone Placement.isMeter
    Placement.isPressureSensor
  simp only [beq_iff_eq]
  by_cases zone : p.kind = Domain.zoneKind
  · rw [if_pos zone, if_pos zone, identities_obtainMetric, identities_obtainMetric, demand,
      average, settings]
    rfl
  · rw [if_neg zone, if_neg zone]
    by_cases meter : p.kind = Domain.flowMeterKind
    · rw [if_pos meter, if_pos meter, identities_starterTrigger, identities_obtainMetric,
        identities_obtainMetric, identityFor_flowReading, volume, settings]
      rfl
    · rw [if_neg meter, if_neg meter]
      by_cases sensor : p.kind = Domain.pressureSensorKind
      · rw [if_pos sensor, if_pos sensor, identities_obtainMetric, identityFor_pressure]
        rfl
      · rw [if_neg sensor, if_neg sensor]
        rfl

theorem identities_foldl_metricsOfTarget (placed : List Placement) :
    (placed.foldl metricsOfTarget s).identities =
      addAllNew s.identities (placed.flatMap (Placement.metrics s.aliases)) := by
  induction placed generalizing s with
  | nil => rfl
  | cons p rest ih =>
    have aliases := (moves_metricsOfTarget s p).settings.2.1
    rw [List.foldl_cons, ih, identities_metricsOfTarget, aliases, List.flatMap_cons,
      addAllNew_append]

/-- Triggers of zones add no metric. -/
theorem identities_starters (placed : List Placement) : (s.starters placed).identities =
    addAllNew s.identities (placed.flatMap (Placement.metrics s.aliases)) := by
  have zonal : Deeds [] (Asks fun _ => False) (placed.foldl metricsOfTarget s)
      (s.starters placed) :=
    Deeds.foldl placed fun t p _ _ => deeds_triggersOfZone t placed p
  rw [← identities_foldl_metricsOfTarget]
  exact congrArg Entries.keys (zonal.metrics List.not_mem_nil)

end Session

/-! ## The pressure inside a zone -/

namespace Network

/-- Whether a metric belongs to a category and to a fitting sensor inside a
zone. -/
def belongs (n : Network) (category : String) (zone : Zone) (identity : Metric.Identity) : Bool :=
  identity.category == category && (n.point? identity.target).any fun point =>
    sensorFits category point.category && zone.polygon.contains point.position

theorem sensorMetrics_eq (n : Network) (category : String) (zone : Zone) :
    n.sensorMetrics category none zone =
      (n.metrics.filter fun entry => n.belongs category zone entry.1).map Prod.snd := by
  have tested : n.sensorMetrics category none zone = n.metrics.filterMap fun entry =>
      if n.belongs category zone entry.1 then some entry.2 else none := by
    unfold sensorMetrics
    apply List.filterMap_congr
    rintro ⟨identity, id⟩ _
    dsimp only
    unfold belongs
    by_cases same : identity.category = category
    · cases n.point? identity.target with
      | none => simp [same]
      | some point => simp [same]
    · simp [same]
  rw [tested]
  generalize n.metrics = entries
  induction entries with
  | nil => rfl
  | cons entry rest ih =>
    cases chosen : n.belongs category zone entry.1 with
    | false =>
      rw [List.filterMap_cons_none (by rw [chosen]; rfl),
        List.filter_cons_of_neg (by rw [chosen]; simp)]
      exact ih
    | true =>
      rw [List.filterMap_cons_some (by rw [chosen]; rfl),
        List.filter_cons_of_pos (by rw [chosen]), List.map_cons, ih]

variable {n : Network} {placed : List Placement} {aliases : Metric.Aliases}

/-- A metric of a target belongs to the pressures inside a zone if the target is
a pressure sensor inside and the category is that of pressures. -/
theorem Shows.belongs_pressure (shows : n.Shows placed) {p : Placement} (member : p ∈ placed)
    (zone : Zone) {identity : Metric.Identity} (own : identity.target = p.id) :
    n.belongs "pressure" zone identity = (p.isPressureSensor &&
      p.item.position?.any zone.polygon.contains && identity.category == "pressure") := by
  have fits : sensorFits "pressure" p.kind = p.isPressureSensor := rfl
  unfold belongs
  rw [own, shows.point?_eq member]
  by_cases isZone : p.isZone = true
  · have none : p.point? = none := if_pos isZone
    have sensor : p.isPressureSensor = false :=
      Bool.eq_false_iff.mpr fun sensor => p.not_isZone_of_isPressureSensor sensor isZone
    rw [none, sensor]
    exact Bool.and_false _
  · rw [Placement.point?_of_sensor isZone, Bool.and_comm]
    cases p.item.position? with
    | none => rw [Option.any_none, Bool.and_false]; rfl
    | some place => rw [Option.map_some, Option.any_some, Option.any_some, fits]

/-- Of what a target starts with only the reading of a pressure sensor may
belong to the pressures inside a zone. -/
theorem Shows.filter_metrics (shows : n.Shows placed) {p : Placement} (member : p ∈ placed)
    (zone : Zone) : (p.metrics aliases).filter (n.belongs "pressure" zone) =
      if p.measures aliases zone.polygon then [p.raw aliases "pressure"] else [] := by
  have raw : n.belongs "pressure" zone (p.raw aliases "pressure") =
      p.measures aliases zone.polygon := shows.belongs_pressure member zone rfl
  by_cases sensor : p.isPressureSensor = true
  · have only : p.metrics aliases = [p.raw aliases "pressure"] := by
      unfold Placement.metrics
      rw [if_neg (p.not_isZone_of_isPressureSensor sensor),
        if_neg (p.not_isMeter_of_isPressureSensor sensor), if_pos sensor]
    rw [only, ← raw]
    cases inside : n.belongs "pressure" zone (p.raw aliases "pressure") with
    | false => exact List.filter_cons_of_neg (by rw [inside]; simp)
    | true => exact List.filter_cons_of_pos inside
  · have other : p.isPressureSensor = false := Bool.eq_false_iff.mpr sensor
    have none : p.measures aliases zone.polygon = false := by
      unfold Placement.measures
      rw [other]
      rfl
    rw [none]
    apply List.filter_eq_nil_iff.mpr
    intro identity among
    rw [shows.belongs_pressure member zone (Placement.target_of_metrics among), other]
    exact Bool.false_ne_true

/-- The pressures inside a zone are the readings of the sensors inside, in the
order of the items. -/
theorem Shows.pressures (shows : n.Shows placed)
    (known : Entries.keys n.metrics = distinct (placed.flatMap (Placement.metrics aliases)))
    (zone : Zone) :
    Forall₂ (fun identity id => n.metric? identity = some id)
      ((placed.filter (Placement.measures aliases zone.polygon)).map
        (Placement.raw aliases "pressure"))
      (n.sensorMetrics "pressure" none zone) := by
  have apart : Entries.Distinct n.metrics := by
    unfold Entries.Distinct
    rw [known]
    exact nodup_distinct _
  have listed : (Entries.keys n.metrics).filter (n.belongs "pressure" zone) =
      (placed.filter (Placement.measures aliases zone.polygon)).map
        (Placement.raw aliases "pressure") := by
    rw [known, distinct_filter, List.filter_flatMap]
    apply distinct_flatMap
    · intro p member identity among
      rw [shows.filter_metrics member] at among
      split at among
      · exact List.mem_singleton.mp among
      · cases among
    · intro p member
      rw [shows.filter_metrics member]
      cases p.measures aliases zone.polygon <;> simp
    · have targets : (placed.map (Placement.raw aliases "pressure")).map Metric.Identity.target =
          placed.map Placement.id := by
        rw [List.map_map]
        rfl
      exact List.Nodup.of_map Metric.Identity.target (targets ▸ shows.unique)
  rw [sensorMetrics_eq, ← listed]
  exact Entries.forall₂_filter apart (n.belongs "pressure" zone)

end Network
end Sensornet
