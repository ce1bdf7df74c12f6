import Sensornet.Proofs.Session.Indexed

namespace Sensornet
namespace Session

/-!
# Nothing is written twice

Metrics, triggers and links each have their own way of not being written
twice: the network remembers identities and outputs, and the links that exist
are read off the rows at every call.  Each way answers for the rows as they
are, so rows without repeats get none, whoever asks for what.

Nothing is said of targets, which may repeat a label, and nothing of shown
rows.  Rows that repeat something from the start keep doing so.
-/

open Fixture (Row)

/-- No two metric rows have one identity, no two trigger rows one output, and
no two link rows carry the same link. -/
structure Unrepeated (rows : List Row) : Prop where
  metrics : (rows.filterMap Network.identity?).Nodup
  triggers : (rows.filterMap Network.output?).Nodup
  links : (rows.filterMap Link.ofRow?).Nodup

/-! ## Rows that are read in one way -/

section

variable {A : Type} {read : Row -> Option A} {rows : List Row} {row : Row}

theorem nodup_concat (unique : (rows.filterMap read).Nodup)
    (fresh : ∀ a, read row = some a -> a ∉ rows.filterMap read) :
    ((rows ++ [row]).filterMap read).Nodup := by
  rw [List.filterMap_append]
  cases own : read row with
  | none =>
    have nothing : [row].filterMap read = [] := by simp [own]
    rw [nothing, List.append_nil]
    exact unique
  | some a =>
    have one : [row].filterMap read = [a] := by simp [own]
    rw [one]
    rw [List.nodup_append]
    refine ⟨unique, by simp, ?_⟩
    intro b member c same equal
    rw [List.mem_singleton] at same
    exact fresh a own (same ▸ equal ▸ member)

/-- A row that is not read at all repeats nothing. -/
theorem nodup_concat_unread (unique : (rows.filterMap read).Nodup) (unread : read row = none) :
    ((rows ++ [row]).filterMap read).Nodup :=
  nodup_concat unique fun a own => by rw [unread] at own; cases own

end

theorem identity?_eq_none {row : Row} (other : row.model ≠ Fixture.Model.metric) :
    Network.identity? row = none :=
  if_neg other

theorem output?_eq_none {row : Row} (other : row.model ≠ Fixture.Model.trigger) :
    Network.output? row = none :=
  if_neg fun both => other both.1

theorem ofRow?_eq_none {row : Row} (other : row.model ≠ Fixture.Model.link) :
    Link.ofRow? row = none :=
  if_neg other

theorem shown_ne_link {kind : Template.Kind} {model : String} (shown : kind.isShown = true)
    (named : kind.model? = some model) : model ≠ Fixture.Model.link := by
  cases kind <;> cases shown <;> cases named <;> decide

/-! ## One move -/

variable {s t : Session}

section

variable {rows : List Row} {row : Row}

/-- A row that is none of the three sorts repeats nothing. -/
theorem Unrepeated.concat_other (unique : Unrepeated rows) (model : String)
    (own : row.model = model) (metric : model ≠ Fixture.Model.metric)
    (trigger : model ≠ Fixture.Model.trigger) (link : model ≠ Fixture.Model.link) :
    Unrepeated (rows ++ [row]) where
  metrics := nodup_concat_unread unique.metrics (identity?_eq_none (own ▸ metric))
  triggers := nodup_concat_unread unique.triggers (output?_eq_none (own ▸ trigger))
  links := nodup_concat_unread unique.links (ofRow?_eq_none (own ▸ link))

theorem Unrepeated.concat_metric (unique : Unrepeated rows)
    (metric : row.model = Fixture.Model.metric)
    (fresh : ∀ identity, Network.identity? row = some identity ->
      identity ∉ rows.filterMap Network.identity?) : Unrepeated (rows ++ [row]) where
  metrics := nodup_concat unique.metrics fresh
  triggers := nodup_concat_unread unique.triggers (output?_eq_none (by rw [metric]; decide))
  links := nodup_concat_unread unique.links (ofRow?_eq_none (by rw [metric]; decide))

theorem Unrepeated.concat_trigger (unique : Unrepeated rows)
    (trigger : row.model = Fixture.Model.trigger)
    (fresh : ∀ output, Network.output? row = some output ->
      output ∉ rows.filterMap Network.output?) : Unrepeated (rows ++ [row]) where
  metrics := nodup_concat_unread unique.metrics (identity?_eq_none (by rw [trigger]; decide))
  triggers := nodup_concat unique.triggers fresh
  links := nodup_concat_unread unique.links (ofRow?_eq_none (by rw [trigger]; decide))

theorem Unrepeated.concat_link (unique : Unrepeated rows) (link : row.model = Fixture.Model.link)
    (fresh : ∀ carried, Link.ofRow? row = some carried -> carried ∉ rows.filterMap Link.ofRow?) :
    Unrepeated (rows ++ [row]) where
  metrics := nodup_concat_unread unique.metrics (identity?_eq_none (by rw [link]; decide))
  triggers := nodup_concat_unread unique.triggers (output?_eq_none (by rw [link]; decide))
  links := nodup_concat unique.links fresh

end

/-- A trigger that stands in no row has an output that no row has, as a
remembered position would have a row. -/
theorem Indexed.output_not_mem (indexed : s.Indexed) {output : String}
    (unknown : ∀ position, s.network.triggerPosition? output = some position ->
      s.rows[position]? = none) : output ∉ s.rows.filterMap Network.output? := by
  have nowhere : s.network.triggerPosition? output = none := by
    cases known : s.network.triggerPosition? output with
    | none => rfl
    | some position =>
      rcases indexed.output?_of_known known with ⟨row, stands, _⟩
      rw [unknown position known] at stands
      cases stands
  rw [indexed] at nowhere
  exact (Network.triggerPosition?_index_eq_none_iff s.rows output).mp nowhere

theorem Unrepeated.enter {row : Row} (unique : Unrepeated s.rows) (indexed : s.Indexed)
    (new : s.Enters row) : Unrepeated (s.rows ++ [row]) := by
  cases new with
  | zone item id =>
    exact unique.concat_other Fixture.Model.polygon rfl (by decide) (by decide) (by decide)
  | point item id sensor =>
    exact unique.concat_other Fixture.Model.point rfl (by decide) (by decide) (by decide)
  | metric id unknown =>
    refine unique.concat_metric rfl fun identity own => ?_
    rw [Network.identity?_metricRow] at own
    rw [indexed] at unknown
    cases own
    exact (Network.metric?_index_eq_none_iff s.rows _).mp unknown
  | trigger id complete unknown =>
    refine unique.concat_trigger rfl fun output own => ?_
    rw [Network.output?_triggerRow complete] at own
    cases own
    exact indexed.output_not_mem unknown
  | link id unwritten =>
    refine unique.concat_link rfl fun carried own => ?_
    rw [ofRow?_linkRow] at own
    cases own
    exact unwritten
  | shown key fields shown named =>
    have unread := Network.not_reads_shown shown named
    simp only [Network.Reads, not_or] at unread
    exact unique.concat_other _ rfl unread.2.2.1 unread.2.2.2 (shown_ne_link shown named)

/-- Replacing the fields of a trigger row keeps its output, by which it was
found. -/
theorem Indexed.outputs_replaceFields (indexed : s.Indexed) {wanted : Trigger} {position : Nat}
    (known : s.network.triggerPosition? wanted.outputMetric = some position) (id : Json.Value) :
    (s.replaceFields position (wanted.fields id)).rows.filterMap Network.output? =
      s.rows.filterMap Network.output? := by
  rcases indexed.output?_of_known known with ⟨held, place, writes⟩
  have trigger := Network.model_of_output? writes
  have filled := Network.ne_empty_of_output? writes
  refine filterMap_modify fun row stands => ?_
  cases Option.some.inj (stands.symm.trans place)
  rw [writes]
  exact if_pos ⟨trigger, filled⟩

theorem Unrepeated.replaceFields (unique : Unrepeated s.rows) (indexed : s.Indexed)
    {wanted : Trigger} {position : Nat}
    (known : s.network.triggerPosition? wanted.outputMetric = some position) (id : Json.Value) :
    Unrepeated (s.replaceFields position (wanted.fields id)).rows := by
  rcases indexed.output?_of_known known with ⟨held, place, writes⟩
  have trigger := Network.model_of_output? writes
  have only : ∀ row, s.rows[position]? = some row -> row = held := fun row stands =>
    Option.some.inj (stands.symm.trans place)
  constructor
  · unfold Session.replaceFields
    rw [filterMap_modify fun row stands => ?_]
    · exact unique.metrics
    · have model : row.model ≠ Fixture.Model.metric := by
        rw [only row stands, trigger]
        decide
      rw [identity?_eq_none model]
      exact if_neg model
  · rw [indexed.outputs_replaceFields known]
    exact unique.triggers
  · unfold Session.replaceFields
    rw [filterMap_modify fun row stands => ?_]
    · exact unique.links
    · have model : row.model ≠ Fixture.Model.link := by
        rw [only row stands, trigger]
        decide
      rw [ofRow?_eq_none model]
      exact if_neg model

theorem Unrepeated.move (unique : Unrepeated s.rows) (indexed : s.Indexed) (move : Move s t) :
    Unrepeated t.rows := by
  cases move with
  | quiet same =>
    rw [same.rows]
    exact unique
  | enter issued new => exact unique.enter indexed new
  | rewrite complete known stands => exact unique.replaceFields indexed known _

/-! ## Whole histories -/

theorem Unrepeated.moves (unique : Unrepeated s.rows) (indexed : s.Indexed) (run : Moves s t) :
    Unrepeated t.rows := by
  induction run with
  | refl => exact unique
  | tail before move ih => exact ih.move (indexed.moves before) move

/-- Rows without repeats have none after any calls. -/
theorem unrepeated_run (options : Options) (supply : Nat) {existing : List Row}
    (unique : Unrepeated existing) (calls : List Call) :
    Unrepeated ((resume options supply existing).run calls).rows := by
  have begun : Unrepeated (resume options supply existing).rows := by
    rw [rows_resume]
    exact unique
  exact begun.moves (indexed_resume options supply existing) (moves_run _ calls)

/-- A zone with two metrics, the trigger of the one, and a link. -/
def zoneRows : List Row :=
  [ Metric.row (Starter.zoneDemand "pl-1" "North") "m-1"
  , Metric.row (Starter.averagePressure "pl-1" "North") "m-2"
  , Trigger.row ⟨[], "Zone Demand", "", ["m-3"], "m-1"⟩ "t-1"
  , Link.row ⟨"p-1", "pl-1", "inlet"⟩ 1 ]

/-- These rows repeat nothing, nor does what is written after them. -/
theorem unrepeated_run_zoneRows :
    Unrepeated zoneRows ∧
      Unrepeated ((resume .default 0 zoneRows).run
        [ .domain [⟨"zone", "North", .null, none, none, none, none, none, none, none, none, none⟩]
        , .template [] ["OVERVIEW"] ]).rows := by
  have unique : Unrepeated zoneRows := ⟨by decide, by decide, by decide⟩
  exact ⟨unique, unrepeated_run .default 0 unique _⟩

end Session
end Sensornet
