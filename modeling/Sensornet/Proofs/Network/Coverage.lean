import Sensornet.Resolution.MetricIds

namespace Sensornet
namespace Network

/-!
# What a descriptor stands for

In any context, a descriptor stands for metrics that are known.  In the network
as a whole it stands for them in two ways: through the zones, and through the
points.  Through a zone it may bring in metrics of the sensors inside, but these
are metrics of points, and each of them comes up at its own point again.  So what
it stands for is the metrics of all zones, if it means zones, and otherwise those
of all points, whether or not a zone contains them.

That a metric comes up at its own point is a matter of looking it up by its
identity.  For this no identity may have two places among the metrics.
-/

open Sensornet.Metric (Descriptor Identity)

/-! ## Known metrics -/

/-- What is read from the sensors in a zone is known, each metric once. -/
theorem sensorMetrics_sublist (n : Network) (category : String) (interval : Option String)
    (zone : Zone) : (n.sensorMetrics category interval zone).Sublist (n.metrics.map Prod.snd) := by
  unfold sensorMetrics
  generalize n.metrics = metrics
  induction metrics with
  | nil => exact .refl _
  | cons entry rest ih =>
    rw [List.filterMap_cons, List.map_cons]
    split
    · exact ih.cons _
    · next id read =>
      have own : id = entry.2 := by
        dsimp only at read
        split at read
        · split at read
          · split at read
            · exact (Option.some.inj read).symm
            · cases read
          · cases read
        · cases read
      rw [own]
      exact ih.cons_cons _

variable {n : Network} {d : Descriptor} {id : String}

theorem known_of_mem_ownMetric {target : String} (member : id ∈ n.ownMetric d target) :
    id ∈ n.metrics.map Prod.snd :=
  List.mem_map.mpr ⟨_, Entries.mem_of_get? (Option.mem_toList.mp member), rfl⟩

theorem known_of_mem_metricIdsInZone {zone : Zone} (member : id ∈ n.metricIdsInZone d zone) :
    id ∈ n.metrics.map Prod.snd := by
  unfold metricIdsInZone at member
  split at member
  · exact known_of_mem_ownMetric member
  · split at member
    · exact (n.sensorMetrics_sublist _ _ _).subset member
    · cases member

theorem known_of_mem_metricIdsAtPoint {point : Point} (member : id ∈ n.metricIdsAtPoint d point) :
    id ∈ n.metrics.map Prod.snd := by
  unfold metricIdsAtPoint at member
  split at member
  · cases member
  · split at member
    · exact known_of_mem_ownMetric member
    · cases member

/-- What a descriptor stands for is known. -/
theorem known_of_mem_metricIds {context : Context} (member : id ∈ n.metricIds d context) :
    id ∈ n.metrics.map Prod.snd := by
  cases context with
  | zone target => exact known_of_mem_metricIdsInZone member
  | point target => exact known_of_mem_metricIdsAtPoint member
  | global =>
    have everywhere : id ∈ n.allMetricIds [d] := member
    unfold allMetricIds at everywhere
    rw [mem_distinct, List.flatMap_singleton, List.mem_append, List.mem_flatMap,
      List.mem_flatMap] at everywhere
    rcases everywhere with ⟨zone, _, found⟩ | ⟨point, _, found⟩
    · exact known_of_mem_metricIdsInZone found
    · exact known_of_mem_metricIdsAtPoint found

/-! ## The network as a whole -/

/-- The targets whose metrics a descriptor means in the network as a whole. -/
def Covers (n : Network) (d : Descriptor) (target : String) : Prop :=
  if d.meansZones then ∃ zone ∈ n.zones, zone.id = target
  else d.meansPoints = true ∧ ∃ point ∈ n.points, point.id = target

/-- A metric is found by its identity. -/
theorem metric?_eq_some_iff (apart : Entries.Distinct n.metrics) {identity : Identity} :
    n.metric? identity = some id ↔ (identity, id) ∈ n.metrics :=
  ⟨Entries.mem_of_get?, Entries.get?_of_mem apart⟩

theorem mem_ownMetric (apart : Entries.Distinct n.metrics) {target : String} :
    id ∈ n.ownMetric d target ↔ (Identity.mk d.category d.interval target, id) ∈ n.metrics := by
  unfold ownMetric
  rw [Option.mem_toList, metric?_eq_some_iff apart]

/-- What a sensor in a zone contributes is a metric of its own point. -/
theorem point_of_mem_sensorMetrics {category interval : String} {zone : Zone}
    (member : id ∈ n.sensorMetrics category (some interval) zone) :
    ∃ point ∈ n.points, (Identity.mk category interval point.id, id) ∈ n.metrics := by
  rcases List.mem_filterMap.mp member with ⟨⟨identity, own⟩, known, read⟩
  dsimp only at read
  split at read
  · next words =>
    split at read
    · next point found =>
      split at read
      · cases read
        unfold point? at found
        have held := List.find?_some found
        have target : point.id = identity.target := beq_iff_eq.mp held
        have same : Identity.mk category interval point.id = identity := by
          rw [target, ← words.1, of_decide_eq_true words.2]
        exact ⟨point, List.mem_reverse.mp (List.mem_of_find?_eq_some found), same ▸ known⟩
      · cases read
    · cases read
  · cases read

/-- The metrics that some descriptors stand for in the network as a whole. -/
theorem mem_allMetricIds (apart : Entries.Distinct n.metrics) {ds : List Descriptor} :
    id ∈ n.allMetricIds ds ↔ ∃ d ∈ ds, ∃ target, n.Covers d target ∧
      (Identity.mk d.category d.interval target, id) ∈ n.metrics := by
  unfold allMetricIds
  rw [mem_distinct, List.mem_flatMap]
  refine exists_congr fun d => and_congr_right fun _ => ?_
  rw [List.mem_append, List.mem_flatMap, List.mem_flatMap]
  unfold Covers metricIdsInZone metricIdsAtPoint
  cases zones : d.meansZones with
  | true =>
    constructor
    · rintro (⟨zone, member, own⟩ | ⟨_, _, none'⟩)
      · exact ⟨zone.id, ⟨zone, member, rfl⟩, (mem_ownMetric apart).mp own⟩
      · cases none'
    · rintro ⟨_, ⟨zone, member, rfl⟩, known⟩
      exact Or.inl ⟨zone, member, (mem_ownMetric apart).mpr known⟩
  | false =>
    cases points : d.meansPoints with
    | true =>
      constructor
      · rintro (⟨zone, _, inside⟩ | ⟨point, member, own⟩)
        · rcases point_of_mem_sensorMetrics inside with ⟨point, member, known⟩
          exact ⟨point.id, ⟨rfl, point, member, rfl⟩, known⟩
        · exact ⟨point.id, ⟨rfl, point, member, rfl⟩, (mem_ownMetric apart).mp own⟩
      · rintro ⟨_, ⟨_, point, member, rfl⟩, known⟩
        exact Or.inr ⟨point, member, (mem_ownMetric apart).mpr known⟩
    | false =>
      constructor
      · rintro (⟨_, _, none'⟩ | ⟨_, _, none'⟩) <;> cases none'
      · rintro ⟨_, ⟨impossible, _⟩, _⟩
        cases impossible

end Network
end Sensornet
