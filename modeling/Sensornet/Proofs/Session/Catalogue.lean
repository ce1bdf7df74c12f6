import Mathlib.Data.List.Infix
import Sensornet.Proofs.Session.Deeds
import Sensornet.Proofs.Session.Unrepeated

namespace Sensornet

/-!
# The catalogue of metrics

Rows keep their model and their key for good, and rows are only added at the
end.  In a session without a past the texts that are taken are the keys of the
rows, in the order in which they were issued, and the metrics of the network
are the metric rows, each with its identity.

A key is fresh when the search for it found something free before it ran out
of attempts.  That all keys were fresh is one statement about the registry:
nothing is taken twice.  Then a metric is known by its id alone.
-/

open Fixture (Key Row Registry)

namespace Fixture

/-- What of a row never changes. -/
def Row.head (row : Row) : String × Key :=
  (row.model, row.key)

/-- The texts that are keys of rows. -/
def Rows.textKeys (rows : List Row) : List String :=
  rows.filterMap fun row => row.key.text?

/-- The identity and id of a row, if it is the row of a metric. -/
def Row.metric? (row : Row) : Option (Metric.Identity × String) :=
  (Network.identity? row).map fun identity => (identity, row.key.shown)

/-- What is issued is taken once, if it was found before the attempts ran out. -/
theorem Registry.nodup_make {r : Registry} (fresh : r.taken.Nodup) (kind : Record) (seed : String)
    (found : r.firstFree kind seed maxAttempts 0 < maxAttempts) :
    (r.make kind seed).2.taken.Nodup := by
  have free : r.isTaken (r.make kind seed).1 = false :=
    (r.firstFree_free kind seed maxAttempts 0).resolve_right (by omega)
  refine List.nodup_cons.mpr ⟨fun member => ?_, fresh⟩
  have taken : r.isTaken (r.make kind seed).1 = true := List.contains_iff_mem.mpr member
  rw [free] at taken
  cases taken

theorem Registry.make_ne_empty (r : Registry) (kind : Record) (seed : String) :
    (r.make kind seed).1 ≠ "" := by
  intro empty
  have length := congrArg String.length empty
  unfold Registry.make Registry.candidate at length
  rw [String.length_append, String.length_ofList, List.length_cons] at length
  have none : "".length = 0 := rfl
  omega

end Fixture

/-! ## Lists that grow -/

/-- A partial function that is defined on less keeps less. -/
theorem filterMap_sublist {A B : Type} {less more : A -> Option B} {items : List A}
    (agree : ∀ item ∈ items, ∀ b, less item = some b -> more item = some b) :
    (items.filterMap less).Sublist (items.filterMap more) := by
  induction items with
  | nil => exact .refl _
  | cons item rest ih =>
    have later := ih fun other member => agree other (List.mem_cons_of_mem item member)
    have first := agree item List.mem_cons_self
    cases own : less item with
    | none =>
      rw [List.filterMap_cons_none own, List.filterMap_cons]
      split
      · exact later
      · exact later.cons _
    | some b =>
      rw [List.filterMap_cons_some own, List.filterMap_cons_some (first b own)]
      exact later.cons_cons b

/-- What is found in a table is found in any that goes on from it. -/
theorem Entries.get?_of_prefix {K V : Type} [DecidableEq K] {key : K} {value : V}
    {entries longer : List (K × V)} (goesOn : entries <+: longer)
    (found : Entries.get? key entries = some value) : Entries.get? key longer = some value := by
  rcases goesOn with ⟨more, rfl⟩
  induction entries with
  | nil => cases found
  | cons entry rest ih =>
    obtain ⟨k, v⟩ := entry
    rw [Entries.get?] at found
    rw [List.cons_append, Entries.get?]
    split at found
    · next same =>
      rw [if_pos same]
      exact found
    · next other =>
      rw [if_neg other]
      exact ih found

namespace Session

variable {s t : Session}

/-! ## What rows keep -/

theorem map_head_replaceFields (s : Session) (position : Nat) (fields : Json.Fields) :
    (s.replaceFields position fields).rows.map Row.head = s.rows.map Row.head := by
  rw [rows_replaceFields, ← List.filterMap_eq_map]
  exact filterMap_modify fun row _ => rfl

/-- Rows stay where they are, with their model and their key. -/
theorem Moves.heads (run : Moves s t) : s.rows.map Row.head <+: t.rows.map Row.head := by
  induction run with
  | refl => exact List.prefix_refl _
  | tail _ move ih =>
    cases move with
    | quiet same =>
      rw [same.rows]
      exact ih
    | @enter registry row issued new =>
      refine ih.trans ?_
      rw [rows_enter, List.map_append]
      exact List.prefix_append _ _
    | rewrite complete known stands =>
      rw [map_head_replaceFields]
      exact ih

/-- A row is still there later, though its fields may have been replaced. -/
theorem Moves.row (run : Moves s t) {row : Row} (member : row ∈ s.rows) :
    ∃ later ∈ t.rows, later.model = row.model ∧ later.key = row.key := by
  have head : row.head ∈ t.rows.map Row.head :=
    run.heads.subset (List.mem_map_of_mem member)
  rcases List.mem_map.mp head with ⟨later, among, same⟩
  exact ⟨later, among, congrArg Prod.fst same, congrArg Prod.snd same⟩

/-! ## What is taken -/

/-- What is taken stays taken, in its order. -/
theorem Moves.taken (run : Moves s t) : s.registry.taken <:+ t.registry.taken := by
  induction run with
  | refl => exact List.suffix_refl _
  | tail _ move ih =>
    cases move with
    | quiet same =>
      rw [same.keys.taken]
      exact ih
    | @enter registry row issued new =>
      generalize row.key = key at issued
      cases issued with
      | text kind seed => exact ih.trans (List.suffix_cons _ _)
      | integer => exact ih
    | rewrite complete known stands => exact ih

/-- Every key was fresh when it was issued. -/
def Fresh (s : Session) : Prop :=
  s.registry.taken.Nodup

theorem Moves.fresh (run : Moves s t) (fresh : t.Fresh) : s.Fresh :=
  fresh.sublist run.taken.sublist

/-! ## The metric rows -/

/-- What the registry and the network know is what the rows say. -/
structure Catalogued (s : Session) : Prop where
  taken : s.registry.taken = (Fixture.Rows.textKeys s.rows).reverse
  metrics : s.network.metrics = s.rows.filterMap Row.metric?
  named : ∀ row ∈ s.rows, row.model = Fixture.Model.metric -> ∃ id, row.key = .text id ∧ id ≠ ""

theorem catalogued_start (options : Options) (supply : Nat) :
    (start options supply).Catalogued :=
  ⟨rfl, rfl, fun _ member => absurd member List.not_mem_nil⟩

theorem metric?_eq_none {row : Row} (other : row.model ≠ Fixture.Model.metric) :
    row.metric? = none := by
  unfold Row.metric?
  rw [identity?_eq_none other]
  rfl

/-- The only metric rows that are entered are those of unknown metrics. -/
theorem Enters.of_metric {row : Row} (new : s.Enters row)
    (metric : row.model = Fixture.Model.metric) :
    ∃ complete id, row = Metric.row complete id ∧
      s.network.metric? (Metric.Identity.ofFields complete) = none := by
  cases new with
  | metric id unknown => exact ⟨_, id, rfl, unknown⟩
  | zone item id =>
    have other : Fixture.Model.polygon ≠ Fixture.Model.metric := by decide
    exact absurd metric other
  | point item id sensor =>
    have other : Fixture.Model.point ≠ Fixture.Model.metric := by decide
    exact absurd metric other
  | trigger id complete unknown =>
    have other : Fixture.Model.trigger ≠ Fixture.Model.metric := by decide
    exact absurd metric other
  | link id unwritten =>
    have other : Fixture.Model.link ≠ Fixture.Model.metric := by decide
    exact absurd metric other
  | shown key fields shown named =>
    exact absurd (Or.inr (Or.inr (Or.inl metric))) (Network.not_reads_shown shown named)

/-- What an index makes of a row that is entered, as far as metrics go. -/
theorem Enters.metrics {row : Row} (new : s.Enters row) (position : Nat) :
    (s.network.indexRow row position).metrics = s.network.metrics ++ row.metric?.toList := by
  by_cases metric : row.model = Fixture.Model.metric
  · rcases new.of_metric metric with ⟨complete, id, rfl, unknown⟩
    rw [Network.indexRow_metricRow s.network unknown]
    unfold Row.metric? Network.insertMetric
    rw [Network.identity?_metricRow]
    exact Entries.insert_of_unknown unknown id
  · rw [metric?_eq_none metric, metrics_indexRow _ metric]
    exact (List.append_nil _).symm

theorem Catalogued.enter (catalogued : s.Catalogued) {registry : Registry} {row : Row}
    (issued : s.registry.Issues row.key registry) (new : s.Enters row) :
    (s.enter registry row).Catalogued := by
  have rows : (s.enter registry row).rows = s.rows ++ [row] := rfl
  have single : [row].filterMap Row.metric? = row.metric?.toList := by
    cases own : row.metric? <;> simp [own]
  constructor
  · have keys : Fixture.Rows.textKeys (s.rows ++ [row]) =
        Fixture.Rows.textKeys s.rows ++ row.key.text?.toList := by
      unfold Fixture.Rows.textKeys
      rw [List.filterMap_append]
      cases own : row.key.text? <;> simp [own]
    have now : (s.enter registry row).registry = registry := rfl
    rw [rows, keys, List.reverse_append, now]
    generalize row.key = key at issued
    cases issued with
    | text kind seed => exact congrArg (List.cons _) catalogued.taken
    | integer => exact catalogued.taken
  · rw [rows, List.filterMap_append, single, ← catalogued.metrics]
    exact new.metrics s.rows.length
  · intro other member metric
    rw [rows, List.mem_append, List.mem_singleton] at member
    rcases member with old | rfl
    · exact catalogued.named other old metric
    · rcases new.of_metric metric with ⟨complete, id, rfl, _⟩
      have key : (Metric.row complete id).key = .text id := rfl
      rw [key] at issued
      cases issued with
      | text kind seed => exact ⟨_, rfl, Registry.make_ne_empty _ _ _⟩

theorem Catalogued.replaceFields (catalogued : s.Catalogued) (indexed : s.Indexed)
    {wanted : Trigger} {position : Nat}
    (known : s.network.triggerPosition? wanted.outputMetric = some position)
    (id : Json.Value) : (s.replaceFields position (wanted.fields id)).Catalogued := by
  rcases indexed.output?_of_known known with ⟨held, place, writes⟩
  have trigger := Network.model_of_output? writes
  constructor
  · have keys : Fixture.Rows.textKeys (s.replaceFields position (wanted.fields id)).rows =
        Fixture.Rows.textKeys s.rows := filterMap_modify fun row _ => rfl
    rw [keys]
    exact catalogued.taken
  · have metrics : (s.replaceFields position (wanted.fields id)).rows.filterMap Row.metric? =
        s.rows.filterMap Row.metric? := by
      refine filterMap_modify fun row stands => ?_
      have passive : row.model ≠ Fixture.Model.metric := by
        rw [Option.some.inj (stands.symm.trans place), trigger]
        decide
      rw [metric?_eq_none passive]
      exact metric?_eq_none passive
    rw [metrics]
    exact catalogued.metrics
  · intro row member metric
    have head : row.head ∈ (s.replaceFields position (wanted.fields id)).rows.map Row.head :=
      List.mem_map_of_mem member
    rw [map_head_replaceFields] at head
    rcases List.mem_map.mp head with ⟨old, among, same⟩
    have model : old.model = row.model := congrArg Prod.fst same
    have key : old.key = row.key := congrArg Prod.snd same
    exact key ▸ catalogued.named old among (model.trans metric)

theorem Catalogued.moves (catalogued : s.Catalogued) (indexed : s.Indexed) (run : Moves s t) :
    t.Catalogued := by
  induction run with
  | refl => exact catalogued
  | tail before move ih =>
    cases move with
    | quiet same =>
      refine ⟨?_, ?_, ?_⟩
      · rw [same.rows, same.keys.taken]
        exact ih.taken
      · rw [same.rows, same.network]
        exact ih.metrics
      · rw [same.rows]
        exact ih.named
    | enter issued new => exact ih.enter issued new
    | rewrite complete known stands => exact ih.replaceFields (indexed.moves before) known _

/-! ## Known by its id -/

/-- The known metrics are the metric rows. -/
theorem Catalogued.mem_metricIds_iff (catalogued : s.Catalogued) {id : String} :
    id ∈ s.metricIds ↔
      ∃ row ∈ s.rows, row.model = Fixture.Model.metric ∧ row.key = .text id := by
  unfold metricIds
  rw [catalogued.metrics, List.map_filterMap, List.mem_filterMap]
  refine exists_congr fun row => and_congr_right fun member => ?_
  by_cases metric : row.model = Fixture.Model.metric
  · rcases catalogued.named row member metric with ⟨own, key, _⟩
    have entry : row.metric? = some (Network.identityOf row, row.key.shown) := by
      unfold Row.metric? Network.identity?
      rw [if_pos metric]
      rfl
    rw [entry, key]
    simp [metric, Key.shown]
  · rw [metric?_eq_none metric]
    simp [metric]

theorem Catalogued.ne_empty (catalogued : s.Catalogued) {id : String} (known : id ∈ s.metricIds) :
    id ≠ "" := by
  rcases catalogued.mem_metricIds_iff.mp known with ⟨row, member, metric, key⟩
  rcases catalogued.named row member metric with ⟨own, same, filled⟩
  cases Key.text.inj (key.symm.trans same)
  exact filled

/-- Fresh keys make no two rows have one text as their key. -/
theorem Catalogued.nodup_textKeys (catalogued : s.Catalogued) (fresh : s.Fresh) :
    (Fixture.Rows.textKeys s.rows).Nodup := by
  have taken : s.registry.taken.Nodup := fresh
  rw [catalogued.taken] at taken
  exact List.nodup_reverse.mp taken

/-- Fresh keys make different metrics have different ids. -/
theorem Catalogued.nodup_metricIds (catalogued : s.Catalogued) (fresh : s.Fresh) :
    s.metricIds.Nodup := by
  unfold metricIds
  rw [catalogued.metrics, List.map_filterMap]
  refine (catalogued.nodup_textKeys fresh).sublist
    (filterMap_sublist fun row member id own => ?_)
  by_cases metric : row.model = Fixture.Model.metric
  · rcases catalogued.named row member metric with ⟨text, key, _⟩
    unfold Row.metric? Network.identity? at own
    rw [if_pos metric, key] at own
    rw [key]
    exact own
  · rw [metric?_eq_none metric] at own
    cases own

/-- Known metrics stay known, in their order. -/
theorem Moves.metrics (run : Moves s t) : s.network.metrics <+: t.network.metrics := by
  induction run with
  | refl => exact List.prefix_refl _
  | @tail u v _ move ih =>
    cases move with
    | quiet same =>
      rw [same.network]
      exact ih
    | @enter registry row issued new =>
      have grown : (u.enter registry row).network.metrics =
          u.network.metrics ++ row.metric?.toList := new.metrics u.rows.length
      rw [grown]
      exact ih.trans (List.prefix_append _ _)
    | rewrite complete known stands => exact ih

theorem Moves.metricIds (run : Moves s t) : s.metricIds <+: t.metricIds :=
  run.metrics.map Prod.snd

/-- A known metric stays known. -/
theorem Moves.metric? (run : Moves s t) {identity : Metric.Identity} {id : String}
    (known : s.network.metric? identity = some id) : t.network.metric? identity = some id :=
  Entries.get?_of_prefix run.metrics known

/-- Metrics with different identities have different ids, if no id is there
twice. -/
theorem ne_of_metric? (unique : s.metricIds.Nodup) {first second : Metric.Identity}
    {id other : String} (known : s.network.metric? first = some id)
    (knownToo : s.network.metric? second = some other) (different : first ≠ second) :
    id ≠ other := by
  rintro rfl
  have same := List.inj_on_of_nodup_map unique (Entries.mem_of_get? known)
    (Entries.mem_of_get? knownToo) rfl
  exact different (congrArg Prod.fst same)

/-! ## Targets stay -/

theorem zones_indexRow (n : Network) (row : Row) (position : Nat) :
    n.zones <+: (n.indexRow row position).zones := by
  by_cases polygon : row.model = Fixture.Model.polygon
  · rw [n.indexRow_polygon polygon]
    exact List.prefix_append _ _
  · by_cases point : row.model = Fixture.Model.point
    · rw [n.indexRow_point point]
      split <;> exact List.prefix_refl _
    · rw [(targets_indexRow n polygon point position).1]

theorem points_indexRow (n : Network) (row : Row) (position : Nat) :
    n.points <+: (n.indexRow row position).points := by
  by_cases polygon : row.model = Fixture.Model.polygon
  · rw [n.indexRow_polygon polygon]
    rfl
  · by_cases point : row.model = Fixture.Model.point
    · rw [n.indexRow_point point]
      split
      · exact List.prefix_append _ _
      · exact List.prefix_refl _
    · rw [(targets_indexRow n polygon point position).2.1]

/-- Zones and points stay, in their order. -/
theorem Moves.targets (run : Moves s t) :
    s.network.zones <+: t.network.zones ∧ s.network.points <+: t.network.points := by
  induction run with
  | refl => exact ⟨List.prefix_refl _, List.prefix_refl _⟩
  | @tail u v _ move ih =>
    cases move with
    | quiet same =>
      rw [same.network]
      exact ih
    | @enter registry row issued new =>
      exact ⟨ih.1.trans (zones_indexRow u.network row u.rows.length),
        ih.2.trans (points_indexRow u.network row u.rows.length)⟩
    | rewrite complete known stands => exact ih

/-- A context stays one. -/
theorem Moves.contexts (run : Moves s t) {item : Template.Item} {context : Context}
    (made : context ∈ contextsOf s.network s.aliases item) :
    context ∈ contextsOf t.network t.aliases item := by
  rcases run.targets with ⟨zones, points⟩
  rw [run.settings.2.1]
  cases shown : item.kind.isShown with
  | true =>
    unfold contextsOf at made ⊢
    rw [if_pos shown] at made ⊢
    exact made
  | false =>
    rw [contextsOf_of_hidden shown] at made ⊢
    unfold Scope.contexts at made ⊢
    split at made
    · exact List.map_subset _ zones.subset made
    · exact List.map_subset _ points.subset made

end Session
end Sensornet
