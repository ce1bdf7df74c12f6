import Sensornet.Proofs.Resolution.Placeholders
import Sensornet.Proofs.Session.Catalogue
import Sensornet.Proofs.Session.Resumption
import Sensornet.Proofs.Template.Dependencies

namespace Sensornet
namespace Session

/-!
# Where trigger rows come from

Every trigger row of a session without a past has the fields of a trigger that
was asked for at some moment, under the key of the row.  So what holds of all
triggers that are asked for, and goes on holding when more becomes known, holds
of all trigger rows.

A trigger of a domain writes a known metric and reads known metrics, each
once.  A trigger of a template writes what its output stands for.  It was kept
because that output is a descriptor, and stays one when placeholders are filled
in, so it too is a known metric or nothing at all; and a trigger that writes or
reads nothing is not written.
-/

open Fixture (Key Row Registry)
open Json (Value Fields)
open Template (Item Kind)
open Relation (ReflTransGen)
open scoped List

variable {models : List String} {kept : Item -> Prop} {s t : Session} {row : Row}

/-! ## Origins -/

/-- A trigger was asked for, was complete, and gave a row its fields. -/
structure Origin (models : List String) (kept : Item -> Prop) (s t : Session) (row : Row)
    (moment : Session) (wanted : Trigger) : Prop where
  before : Deeds models (Asks kept) s moment
  after : Deeds models (Asks kept) moment t
  asked : moment.Asks kept wanted
  complete : wanted.isComplete = true
  fields : row.fields = wanted.fields row.key.toJson

/-- The row at a place after a trigger was put: the one from before, or one with
its fields. -/
theorem rowAt_putTrigger {wanted : Trigger} {position : Nat}
    (stands : (s.putTrigger wanted).2.rows[position]? = some row) :
    s.rows[position]? = some row ∨
      (wanted.isComplete = true ∧ row.fields = wanted.fields row.key.toJson) := by
  cases complete : wanted.isComplete with
  | false =>
    rw [s.putTrigger_incomplete complete] at stands
    exact Or.inl stands
  | true =>
    rcases s.stands_or_unknown wanted.outputMetric with ⟨place, found, known, holds⟩ | unknown
    · rw [s.putTrigger_known complete known holds, rows_replaceFields] at stands
      by_cases here : place = position
      · subst here
        rw [List.getElem?_modify_eq] at stands
        rcases Option.map_eq_some_iff.mp stands with ⟨old, there, same⟩
        cases Option.some.inj (there.symm.trans holds)
        rw [← same]
        exact Or.inr ⟨rfl, rfl⟩
      · rw [List.getElem?_modify_ne _ _ here] at stands
        exact Or.inl stands
    · rw [s.putTrigger_new complete unknown] at stands
      by_cases below : position < s.rows.length
      · rw [rows_enter, List.getElem?_append_left below] at stands
        exact Or.inl stands
      · rw [rows_enter, List.getElem?_append_right (Nat.le_of_not_lt below)] at stands
        rw [List.mem_singleton.mp (List.mem_of_getElem? stands)]
        exact Or.inr ⟨rfl, rfl⟩

/-- Every trigger row that is not as it was has the fields of a trigger that was
asked for at some moment. -/
theorem Deeds.asked {asks : Session -> Trigger -> Prop} (run : Deeds models asks s t)
    {position : Nat} (stands : t.rows[position]? = some row)
    (trigger : row.model = Fixture.Model.trigger) :
    s.rows[position]? = some row ∨ ∃ moment wanted, Deeds models asks s moment ∧
      Deeds models asks moment t ∧ asks moment wanted ∧ wanted.isComplete = true ∧
        row.fields = wanted.fields row.key.toJson := by
  induction run with
  | refl => exact Or.inl stands
  | @tail u v before deed ih =>
    have onward : u.rows[position]? = some row -> s.rows[position]? = some row ∨
        ∃ moment wanted, Deeds models asks s moment ∧ Deeds models asks moment v ∧
          asks moment wanted ∧ wanted.isComplete = true ∧
            row.fields = wanted.fields row.key.toJson := by
      intro old
      rcases ih old with first | ⟨moment, wanted, from', on, rest⟩
      · exact Or.inl first
      · exact Or.inr ⟨moment, wanted, from', on.tail deed, rest⟩
    cases deed with
    | still same => exact onward (same.rows ▸ stands)
    | @bind id context key named =>
      exact onward ((Quiet.bind u id context key).rows ▸ stands)
    | enter model issued new named own among passive =>
      by_cases below : position < u.rows.length
      · rw [rows_enter, List.getElem?_append_left below] at stands
        exact onward stands
      · rw [rows_enter, List.getElem?_append_right (Nat.le_of_not_lt below)] at stands
        rw [List.mem_singleton.mp (List.mem_of_getElem? stands), own] at trigger
        exact absurd trigger passive
    | @ask wanted asked =>
      rcases rowAt_putTrigger stands with old | ⟨complete, fields⟩
      · exact onward old
      · exact Or.inr ⟨u, wanted, before, .single (.ask asked), asked, complete, fields⟩

/-- Every trigger row that was not there from the start has an origin. -/
theorem Deeds.origin (run : Deeds models (Asks kept) s t) (member : row ∈ t.rows)
    (trigger : row.model = Fixture.Model.trigger) :
    row ∈ s.rows ∨ ∃ moment wanted, Origin models kept s t row moment wanted := by
  rcases List.getElem?_of_mem member with ⟨position, stands⟩
  rcases run.asked stands trigger with old | ⟨moment, wanted, before, after, asked, complete, fields⟩
  · exact Or.inl (List.mem_of_getElem? old)
  · exact Or.inr ⟨moment, wanted, before, after, asked, complete, fields⟩

/-! ## What a trigger writes -/

/-- A blueprint whose output is a descriptor. -/
def WritesDescriptor (item : Item) : Prop :=
  ∃ raw, item.get? "output_metric" = some (.text raw) ∧ Metric.isMarked raw = true

/-- What a descriptor as output stands for is a matter of metrics. -/
theorem outputOf_of_marked {item : Item} {raw : String}
    (written : item.get? "output_metric" = some (.text raw)) (marked : Metric.isMarked raw = true)
    (s : Session) (context : Context) : (s.scene context).outputOf item =
      ((s.scene context).metricsOf (context.fillPlaceholders raw)).head?.getD "" := by
  have still := context.isMarked_fillPlaceholders marked
  unfold Resolution.Scene.outputOf
  rw [written]
  unfold Resolution.Scene.soleText
  dsimp only
  have here : (s.scene context).context = context := rfl
  rw [here, if_neg (Resolution.ne_fillMark_of_isMarked still), if_pos still, if_pos rfl]

/-- Such a blueprint writes a known metric or nothing. -/
theorem outputOf_known {item : Item} (writes : WritesDescriptor item) {context : Context}
    (filled : (s.scene context).outputOf item ≠ "") :
    (s.scene context).outputOf item ∈ s.metricIds := by
  rcases writes with ⟨raw, written, marked⟩
  have output := outputOf_of_marked written marked s context
  rw [output] at filled ⊢
  cases found : ((s.scene context).metricsOf (context.fillPlaceholders raw)).head? with
  | none =>
    rw [found] at filled
    exact absurd rfl filled
  | some id => exact Resolution.Scene.known_of_mem_metricsOf (List.mem_of_mem_head? found)

/-- The triggers that a slice keeps were reached by the closure. -/
theorem mem_triggers_of_kept {template : List Item} {sections : List String}
    {aliases : Metric.Aliases} {item : Item}
    (member : item ∈ (Template.slice template sections aliases).items template)
    (trigger : item.kind = .trigger) :
    item ∈ Template.itemsAt template (Template.select template sections aliases).triggers := by
  have other : ∀ {kind : Kind} {test : Item -> Bool}, kind ≠ .trigger ->
      item ∉ Template.itemsAt template (Template.positions template kind test) := by
    intro kind test different chosen
    exact different ((Template.mem_itemsAt_positions.mp chosen).2.1.symm.trans trigger)
  cases sections with
  | nil => cases member
  | cons code rest =>
    have pages : (Template.select template (code :: rest) aliases).pages =
        Template.positions template .page fun item =>
          item.sectionCode?.any (code :: rest).contains := rfl
    have metrics : (Template.select template (code :: rest) aliases).metrics =
        Template.positions template .metric (Template.metricNeeded aliases
          (Template.select template (code :: rest) aliases).needed) := rfl
    rw [Template.items_slice (List.cons_ne_nil code rest), pages, metrics] at member
    simp only [List.mem_append] at member
    rcases member with ((page | widget) | metric) | reached
    · exact absurd page (other (by decide))
    · have shown := (Template.mem_itemsAt_widgetPositions.mp widget).2.1
      rw [trigger] at shown
      cases shown
    · exact absurd metric (other (by decide))
    · exact reached

/-- A trigger is kept because its output is a descriptor. -/
theorem Keeps.writesDescriptor {template : List Item} {sections : List String}
    {aliases : Metric.Aliases} {item : Item} (own : Keeps template sections aliases item) :
    item ∈ template ∧ WritesDescriptor item := by
  rcases List.mem_filterMap.mp (mem_triggers_of_kept own.1 own.2) with ⟨index, chosen, stands⟩
  refine ⟨List.mem_of_getElem? stands, ?_⟩
  rcases List.mem_map.mp chosen with ⟨edge, reached, place⟩
  have among : edge ∈ Template.edges aliases template :=
    List.mem_of_mem_filter (List.mem_of_mem_filter reached)
  rcases Template.mem_edges.mp among with ⟨held, holds, _, made⟩
  rw [place] at holds
  cases Option.some.inj (holds.symm.trans stands)
  rcases Option.bind_eq_some_iff.mp (Template.ofItem?_eq_some made).1 with ⟨raw, text, parsed⟩
  rcases Option.bind_eq_some_iff.mp text with ⟨value, written, own⟩
  have marked : Metric.isMarked raw = true := by
    unfold Metric.Descriptor.ofText? at parsed
    split at parsed
    · next marked => exact marked
    · cases parsed
  cases value with
  | text other =>
    cases own
    exact ⟨raw, written, marked⟩
  | null => cases own
  | bool flag => cases own
  | number n => cases own
  | array items => cases own
  | object fields => cases own

/-! ## What all trigger rows have in common -/

/-- What a trigger row of a session says about the metrics it writes and
reads. -/
structure WellFed (s : Session) (row : Row) : Prop where
  /-- it writes a metric that has a row -/
  output : ∃ metric ∈ s.rows, metric.model = Fixture.Model.metric ∧
    row.field? "output_metric" = some metric.key.toJson
  /-- it reads something, each thing once, and nothing without a name -/
  inputs : ∃ ids : List String, row.field? "input_metrics" = some (.array (ids.map .text)) ∧
    ids ≠ [] ∧ ids.Nodup ∧ ∀ id ∈ ids, id ≠ ""

/-- What is asked for writes a known metric, and reads each thing once. -/
theorem Asks.sound {wanted : Trigger} (catalogued : s.Catalogued) (fresh : s.Fresh)
    (writes : ∀ item, kept item -> WritesDescriptor item) (complete : wanted.isComplete = true)
    (asked : s.Asks kept wanted) :
    wanted.outputMetric ∈ s.metricIds ∧ wanted.inputMetrics.Nodup ∧
      ∀ id ∈ wanted.inputMetrics, id ≠ "" := by
  cases asked with
  | starter output inputs =>
    rcases inputs with ⟨chosen, rearranged, among⟩
    have unique := (catalogued.nodup_metricIds fresh).sublist among
    refine ⟨output, rearranged.nodup_iff.mp unique, fun id member => ?_⟩
    exact catalogued.ne_empty (among.subset (rearranged.mem_iff.mpr member))
  | blueprint chosen made output inputs =>
    refine ⟨?_, ?_, fun id member => ?_⟩
    · rw [output]
      exact outputOf_known (writes _ chosen) (output ▸ (Trigger.isComplete_iff.mp complete).1)
    · rw [inputs]
      exact nodup_distinct _
    · rw [inputs] at member
      exact (Resolution.Scene.mem_inputsOf member).1

/-- The row of a trigger that was asked for is in order, and stays so. -/
theorem Origin.wellFed {moment : Session} {wanted : Trigger}
    (origin : Origin models kept s t row moment wanted) (indexed : s.Indexed)
    (catalogued : s.Catalogued) (fresh : t.Fresh)
    (writes : ∀ item, kept item -> WritesDescriptor item) : t.WellFed row := by
  have then' := catalogued.moves indexed origin.before.moves
  have now := then'.moves (indexed.moves origin.before.moves) origin.after.moves
  rcases origin.asked.sound then' (origin.after.moves.fresh fresh) writes origin.complete with
    ⟨output, unique, filled⟩
  constructor
  · rcases now.mem_metricIds_iff.mp (origin.after.moves.metricIds.subset output) with
      ⟨metric, member, model, key⟩
    refine ⟨metric, member, model, ?_⟩
    unfold Row.field?
    rw [origin.fields, key]
    rfl
  · refine ⟨wanted.inputMetrics, ?_, (Trigger.isComplete_iff.mp origin.complete).2, unique, filled⟩
    unfold Row.field?
    rw [origin.fields]
    rfl

/-- After any calls on a session without a past, every trigger row writes a
metric that has a row, and reads at least one thing, each once and none without
a name.  The keys are taken to be fresh: each search for a free one ended by
finding one, as `Registry.nodup_make` has it. -/
theorem wellFed_run (options : Options) (supply : Nat) (calls : List Call)
    (fresh : ((start options supply).run calls).Fresh) :
    ∀ row ∈ ((start options supply).run calls).rows, row.model = Fixture.Model.trigger ->
      ((start options supply).run calls).WellFed row := by
  intro row member trigger
  have run := (start options supply).deeds_run calls
  have writes : ∀ item, KeptBy (start options supply).aliases calls item ->
      WritesDescriptor item := by
    rintro item ⟨template, sections, _, own⟩
    exact own.writesDescriptor.2
  rcases run.origin member trigger with first | ⟨moment, wanted, origin⟩
  · cases first
  · exact origin.wellFed rfl (catalogued_start options supply) fresh writes

/-- A zone and its meter start with two triggers, whose keys are fresh. -/
theorem wellFed_run_north :
    let s := (start .default 0).run [.domain [northZone, northMeter]]
    s.Fresh ∧ (s.rowsOf Fixture.Model.trigger).length = 2 ∧
      ∀ row ∈ s.rows, row.model = Fixture.Model.trigger -> s.WellFed row := by
  -- evaluated together, as the keys of the session are the costly part of either
  have evaluated : ((start .default 0).run [.domain [northZone, northMeter]]).Fresh ∧
      (((start .default 0).run [.domain [northZone, northMeter]]).rowsOf
        Fixture.Model.trigger).length = 2 := by
    unfold Fresh
    decide +kernel
  rcases evaluated with ⟨fresh, two⟩
  exact ⟨fresh, two, wellFed_run .default 0 _ fresh⟩

end Session
end Sensornet
