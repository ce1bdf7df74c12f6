import Sensornet.Proofs.Session.Catalogue
import Sensornet.Proofs.Session.Inventory

namespace Sensornet

/-!
# The metrics of the network as a whole, read off the rows

In a session without a past the targets of the network and its metrics are rows.
So what a descriptor stands for in the network as a whole can be said of the rows
alone: the metric rows of its category and interval whose target is the row of a
zone, if it means zones, and otherwise the row of a point that can be placed.
-/

open Fixture (Key Row)
open Sensornet.Metric (Descriptor Identity)

namespace Network

/-! ## Targets are rows -/

section

variable (rows : List Row)

theorem zones_index : (empty.index rows).zones =
    (rows.filter fun row => row.model == Fixture.Model.polygon).map zoneOf := by
  induction rows using List.reverseRecOn with
  | nil => rfl
  | append_singleton rows row ih =>
    rw [index_concat, List.filter_append, List.map_append, ← ih]
    by_cases polygon : row.model = Fixture.Model.polygon
    · have one : [row].filter (fun row => row.model == Fixture.Model.polygon) = [row] :=
        List.filter_cons_of_pos (beq_iff_eq.mpr polygon)
      rw [indexRow_polygon _ polygon, one]
      rfl
    · have added : (indexRow (empty.index rows) row rows.length).zones =
          (empty.index rows).zones := by
        by_cases point : row.model = Fixture.Model.point
        · rw [indexRow_point _ point]
          split <;> rfl
        · exact (Session.targets_indexRow _ polygon point _).1
      have none' : [row].filter (fun row => row.model == Fixture.Model.polygon) = [] :=
        List.filter_cons_of_neg (by simpa using polygon)
      rw [added, none']
      exact (List.append_nil _).symm

/-- The point of a row, if it is the row of a point that can be placed. -/
def pointOf? (row : Row) : Option Point :=
  if row.model = Fixture.Model.point then
    (positionOf? row).map fun place =>
      ⟨row.key.shown, row.textOf "label", row.textOf "category", place⟩
  else none

theorem points_index : (empty.index rows).points = rows.filterMap pointOf? := by
  induction rows using List.reverseRecOn with
  | nil => rfl
  | append_singleton rows row ih =>
    rw [index_concat, List.filterMap_append, ← ih]
    by_cases point : row.model = Fixture.Model.point
    · rw [indexRow_point _ point]
      cases place : positionOf? row with
      | none =>
        have unplaced : pointOf? row = none := (if_pos point).trans (by rw [place]; rfl)
        rw [List.filterMap_cons_none unplaced]
        exact (List.append_nil _).symm
      | some position =>
        have placed : pointOf? row =
            some ⟨row.key.shown, row.textOf "label", row.textOf "category", position⟩ :=
          (if_pos point).trans (by rw [place]; rfl)
        rw [List.filterMap_cons_some placed]
        rfl
    · have unplaced : pointOf? row = none := if_neg point
      have added : (indexRow (empty.index rows) row rows.length).points =
          (empty.index rows).points := by
        by_cases polygon : row.model = Fixture.Model.polygon
        · rw [indexRow_polygon _ polygon]
          rfl
        · exact (Session.targets_indexRow _ polygon point _).2.1
      rw [added, List.filterMap_cons_none unplaced]
      exact (List.append_nil _).symm

end

theorem model_of_identity? {row : Row} {identity : Identity}
    (reads : identity? row = some identity) : row.model = Fixture.Model.metric := by
  by_contra other
  rw [Session.identity?_eq_none other] at reads
  cases reads

end Network

/-! ## The rows of a session without a past -/

/-- Whether a metric row is one of those that a descriptor means: it has its
category and interval, and its target is the row of a zone if the descriptor
means zones, and else the row of a point that can be placed, if it means
points. -/
structure Fixture.Row.IsMeant (metric : Row) (d : Descriptor) (rows : List Row) : Prop where
  model : metric.model = Fixture.Model.metric
  category : metric.textOf "category" = d.category
  interval : metric.textOf "interval" = d.interval
  target : ∃ target ∈ rows, target.key = .text (metric.textOf "target_id") ∧
    if d.meansZones then target.model = Fixture.Model.polygon
    else d.meansPoints = true ∧ target.model = Fixture.Model.point ∧
      (Network.positionOf? target).isSome = true

namespace Session

variable {s t : Session} {d : Descriptor} {id : String}

/-- Rows of targets have texts as keys. -/
def Named (s : Session) : Prop :=
  ∀ row ∈ s.rows, row.model = Fixture.Model.polygon ∨ row.model = Fixture.Model.point ->
    ∃ id, row.key = .text id

theorem Named.moves (named : s.Named) (run : Moves s t) : t.Named := by
  induction run with
  | refl => exact named
  | @tail u v _ move ih =>
    cases move with
    | quiet same =>
      unfold Named
      rw [same.rows]
      exact ih
    | @enter registry row issued new =>
      intro other member target
      rw [rows_enter, List.mem_append, List.mem_singleton] at member
      rcases member with old | rfl
      · exact ih other old target
      · cases new with
        | zone item id => exact ⟨id, rfl⟩
        | point item id sensor => exact ⟨id, rfl⟩
        | metric id unknown => exact ⟨id, rfl⟩
        | trigger id complete unknown => exact ⟨id, rfl⟩
        | link id unwritten =>
          have others : ¬ (Fixture.Model.link = Fixture.Model.polygon ∨
            Fixture.Model.link = Fixture.Model.point) := by decide
          exact absurd target others
        | shown key fields shown named =>
          have read : Network.Reads _ := target.imp_right Or.inl
          exact absurd read (Network.not_reads_shown shown named)
    | rewrite complete known stands =>
      intro other member target
      have head : other.head ∈ u.rows.map Row.head := by
        rw [← map_head_replaceFields]
        exact List.mem_map_of_mem member
      rcases List.mem_map.mp head with ⟨old, among, same⟩
      have model : old.model = other.model := congrArg Prod.fst same
      have key : old.key = other.key := congrArg Prod.snd same
      exact key ▸ ih old among (model ▸ target)

/-- A session whose network is the index of its rows, whose metric rows are
told apart by their identities, and whose targets and metrics have texts as
keys. -/
structure Legible (s : Session) : Prop where
  indexed : s.Indexed
  unrepeated : Unrepeated s.rows
  catalogued : s.Catalogued
  named : s.Named

theorem legible_of_moves {options : Options} {supply : Nat}
    (run : Moves (start options supply) s) : s.Legible := by
  have began : (start options supply).Indexed := rfl
  have unrepeated : Unrepeated (start options supply).rows :=
    ⟨List.nodup_nil, List.nodup_nil, List.nodup_nil⟩
  have named : (start options supply).Named := fun _ member => absurd member List.not_mem_nil
  exact ⟨began.moves run, unrepeated.moves began run,
    (catalogued_start options supply).moves began run, named.moves run⟩

namespace Legible

variable (legible : s.Legible)
include legible

theorem distinct_metrics : Entries.Distinct s.network.metrics := by
  unfold Entries.Distinct Entries.keys
  have keys : s.network.metrics.map Prod.fst = s.rows.filterMap Network.identity? := by
    rw [legible.catalogued.metrics, List.map_filterMap]
    refine List.filterMap_congr fun row _ => ?_
    unfold Row.metric?
    cases Network.identity? row <;> rfl
  rw [keys]
  exact legible.unrepeated.metrics

theorem mem_metrics {identity : Identity} : (identity, id) ∈ s.network.metrics ↔
    ∃ row ∈ s.rows, row.key = .text id ∧ Network.identity? row = some identity := by
  rw [legible.catalogued.metrics, List.mem_filterMap]
  refine exists_congr fun row => and_congr_right fun member => ?_
  unfold Row.metric?
  constructor
  · intro own
    rcases Option.map_eq_some_iff.mp own with ⟨found, reads, same⟩
    cases same
    have metric := Network.model_of_identity? reads
    rcases legible.catalogued.named row member metric with ⟨text, key, _⟩
    rw [key]
    exact ⟨rfl, reads⟩
  · rintro ⟨key, reads⟩
    rw [reads, key]
    rfl

/-- The targets that a descriptor covers are rows. -/
theorem covers_iff {target : String} : s.network.Covers d target ↔
    ∃ row ∈ s.rows, row.key = .text target ∧
      if d.meansZones then row.model = Fixture.Model.polygon
      else d.meansPoints = true ∧ row.model = Fixture.Model.point ∧
        (Network.positionOf? row).isSome = true := by
  have own : ∀ row ∈ s.rows, row.model = Fixture.Model.polygon ∨ row.model = Fixture.Model.point ->
      (row.key.shown = target ↔ row.key = .text target) := by
    intro row member model
    rcases legible.named row member model with ⟨text, key⟩
    rw [key]
    exact ⟨fun same => congrArg Key.text same, Key.text.inj⟩
  have zones := congrArg Network.zones legible.indexed
  have points := congrArg Network.points legible.indexed
  unfold Network.Covers
  rw [zones, points, Network.zones_index, Network.points_index]
  cases d.meansZones with
  | true =>
    simp only [if_true, List.mem_map, List.mem_filter, beq_iff_eq]
    constructor
    · rintro ⟨_, ⟨row, ⟨member, polygon⟩, rfl⟩, same⟩
      exact ⟨row, member, (own row member (Or.inl polygon)).mp same, polygon⟩
    · rintro ⟨row, member, key, polygon⟩
      exact ⟨_, ⟨row, ⟨member, polygon⟩, rfl⟩, (own row member (Or.inl polygon)).mpr key⟩
  | false =>
    simp only [Bool.false_eq_true, if_false, List.mem_filterMap]
    constructor
    · rintro ⟨means, _, ⟨row, member, placed⟩, same⟩
      unfold Network.pointOf? at placed
      split at placed
      · next point =>
        rcases Option.map_eq_some_iff.mp placed with ⟨place, stands, rfl⟩
        exact ⟨row, member, (own row member (Or.inr point)).mp same, means, point, by rw [stands]; rfl⟩
      · cases placed
    · rintro ⟨row, member, key, means, point, placed⟩
      rcases Option.isSome_iff_exists.mp placed with ⟨place, stands⟩
      refine ⟨means, _, ⟨row, member, (if_pos point).trans (by rw [stands]; rfl)⟩, ?_⟩
      exact (own row member (Or.inr point)).mpr key

/-- The metrics that some descriptors stand for in the network as a whole are
those metric rows that one of them means. -/
theorem mem_allMetricIds {ds : List Descriptor} : id ∈ s.network.allMetricIds ds ↔
    ∃ metric ∈ s.rows, metric.key = .text id ∧ ∃ d ∈ ds, metric.IsMeant d s.rows := by
  rw [Network.mem_allMetricIds legible.distinct_metrics]
  constructor
  · rintro ⟨d, member, target, covered, known⟩
    rcases legible.mem_metrics.mp known with ⟨metric, among, key, reads⟩
    have model := Network.model_of_identity? reads
    have words := Option.some.inj ((if_pos model).symm.trans reads)
    have category := congrArg Identity.category words
    have interval := congrArg Identity.interval words
    have own : metric.textOf "target_id" = target := congrArg Identity.target words
    exact ⟨metric, among, key, d, member, model, category, interval,
      own ▸ legible.covers_iff.mp covered⟩
  · rintro ⟨metric, among, key, d, member, meant⟩
    refine ⟨d, member, metric.textOf "target_id", legible.covers_iff.mpr meant.target, ?_⟩
    refine legible.mem_metrics.mpr ⟨metric, among, key, (if_pos meant.model).trans ?_⟩
    unfold Network.identityOf
    rw [meant.category, meant.interval]

end Legible
end Session
end Sensornet
