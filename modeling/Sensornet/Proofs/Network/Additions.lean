import Sensornet.Network.Index
import Sensornet.Proofs.Network.Coverage

namespace Sensornet
namespace Network

/-!
# Networks that were built up

A network starts out empty and grows by additions, one at a time and in any
order.  Ids and labels may come up again, and metrics may belong to targets that
are added later or never.  What no addition does is to give one identity two
places among the metrics.  So each metric is found by its identity, and what some
descriptors stand for in such a network is the metrics of the zones and points
that they mean, each once.
-/

open Fixture (Row)
open Sensornet.Metric (Descriptor Identity)

/-- What may be added to a network. -/
inductive Addition where
  | zone (zone : Zone)
  | point (point : Point)
  /-- a target that is known by its label and not placed -/
  | target (category label id : String)
  | metric (identity : Identity) (id : String)
  | trigger (output : String) (row : Nat)
  | rows (rows : List Row)

/-- Add to a network. -/
def add (n : Network) : Addition -> Network
  | .zone zone => n.addZone zone
  | .point point => n.addPoint point
  | .target category label id => n.noteTarget category label id
  | .metric identity id => n.insertMetric identity id
  | .trigger output row => n.insertTrigger output row
  | .rows rows => n.index rows

/-- The network of some additions, the first of them first. -/
def ofAdditions (additions : List Addition) : Network :=
  additions.foldl add empty

variable {n : Network}

/-! ## Identities have one place -/

theorem distinct_insertMetric (apart : Entries.Distinct n.metrics) (identity : Identity)
    (id : String) : Entries.Distinct (n.insertMetric identity id).metrics :=
  Entries.distinct_insert apart identity id

theorem distinct_indexRow (apart : Entries.Distinct n.metrics) (row : Row) (position : Nat) :
    Entries.Distinct (n.indexRow row position).metrics := by
  unfold indexRow
  split
  · exact apart
  · split
    · split <;> exact apart
    · split
      · split
        · exact apart
        · exact distinct_insertMetric apart _ _
      · split
        · split <;> exact apart
        · exact apart

theorem distinct_indexFrom (apart : Entries.Distinct n.metrics) (rows : List Row)
    (position : Nat) : Entries.Distinct (n.indexFrom position rows).metrics := by
  induction rows generalizing n position with
  | nil => exact apart
  | cons row rest ih => exact ih (distinct_indexRow apart row position) (position + 1)

/-- No addition gives an identity a second place. -/
theorem distinct_add (apart : Entries.Distinct n.metrics) (addition : Addition) :
    Entries.Distinct (n.add addition).metrics := by
  cases addition with
  | zone | point | target | trigger => exact apart
  | metric identity id => exact distinct_insertMetric apart identity id
  | rows rows => exact distinct_indexFrom apart rows 0

theorem distinct_ofAdditions (additions : List Addition) :
    Entries.Distinct (ofAdditions additions).metrics := by
  have all : ∀ n : Network, Entries.Distinct n.metrics ->
      Entries.Distinct (additions.foldl add n).metrics := by
    induction additions with
    | nil => exact fun _ apart => apart
    | cons addition rest ih => exact fun n apart => ih (n.add addition) (distinct_add apart addition)
  exact all empty List.nodup_nil

/-! ## The metrics of the targets that are meant -/

variable {d : Descriptor} {id : String}

/-- What a descriptor of points stands for in a zone it stands for at points. -/
theorem exists_point_of_mem_zone (apart : Entries.Distinct n.metrics)
    (points : d.meansZones = false) {zone : Zone} (member : id ∈ n.metricIds d (.zone zone)) :
    ∃ point ∈ n.points, id ∈ n.metricIds d (.point point) := by
  unfold metricIds metricIdsInZone metricIdsAtPoint at *
  dsimp only at member ⊢
  rw [points, if_neg Bool.false_ne_true] at *
  split at member
  · next meant =>
    rcases point_of_mem_sensorMetrics member with ⟨point, placed, known⟩
    refine ⟨point, placed, ?_⟩
    rw [points, if_neg Bool.false_ne_true, if_pos meant]
    exact (mem_ownMetric apart).mpr known
  · cases member

/-- In a network that was built up in any way, what some descriptors stand for
everywhere is, each once, the metrics of the targets that one of them means, by its
category and interval: of all zones if it means zones, and otherwise of all placed
points if it means points.  In particular no zone adds anything to what a descriptor
of points stands for at the points. -/
theorem everywhere_ofAdditions (additions : List Addition) (ds : List Descriptor) :
    let n := ofAdditions additions
    (n.allMetricIds ds).Nodup ∧
      (∀ id, id ∈ n.allMetricIds ds ↔ ∃ d ∈ ds, ∃ target, n.Covers d target ∧
        n.metric? ⟨d.category, d.interval, target⟩ = some id) ∧
      ∀ d zone id, d.meansZones = false -> id ∈ n.metricIds d (.zone zone) ->
        ∃ point ∈ n.points, id ∈ n.metricIds d (.point point) := by
  intro n
  have apart : Entries.Distinct n.metrics := distinct_ofAdditions additions
  refine ⟨nodup_distinct _, fun id => ?_, fun d zone id points member => ?_⟩
  · rw [mem_allMetricIds apart]
    simp only [metric?_eq_some_iff apart]
  · exact exists_point_of_mem_zone apart points member

end Network
end Sensornet
