import Sensornet.Proofs.Session.Sequence
import Sensornet.Proofs.Session.Synonyms

namespace Sensornet

/-!
# Triggers that read what they write

The volume of a flow meter is computed from its raw reading.  Hints may give the
reading any category and any interval, and synonyms are replaced in both, so the
two may come out as one metric; then the trigger reads what it writes.  Nothing
else that a domain starts with can do so: a demand reads volumes, and an average
pressure reads pressures.
-/

open Fixture (Key Row)
open Json (Value Fields)

/-- A flow meter whose raw reading is the metric of its volume. -/
def Domain.Item.FeedsItself (aliases : Metric.Aliases) (item : Domain.Item) : Prop :=
  item.kind = flowMeterKind ∧
    aliases.category (item.metricCategory.getD "flow_reading") = aliases.category "flow_volume" ∧
    aliases.interval (item.metricInterval.getD Starter.quarterHour) =
      aliases.interval Starter.quarterHour

instance (aliases : Metric.Aliases) (item : Domain.Item) : Decidable (item.FeedsItself aliases) :=
  inferInstanceAs (Decidable (_ ∧ _ ∧ _))

/-- A row reads what it writes. -/
def Fixture.Row.FeedsItself (row : Row) : Prop :=
  ∃ output ∈ row.inputs, row.text? "output_metric" = some output

instance (row : Row) : Decidable row.FeedsItself :=
  inferInstanceAs (Decidable (∃ output ∈ row.inputs, row.text? "output_metric" = some output))

theorem Placement.raw_eq_standard_iff {aliases : Metric.Aliases} {p : Placement} :
    p.raw aliases "flow_reading" = p.standard aliases "flow_volume" ↔
      aliases.category (p.item.metricCategory.getD "flow_reading") =
        aliases.category "flow_volume" ∧
      aliases.interval (p.item.metricInterval.getD Starter.quarterHour) =
        aliases.interval Starter.quarterHour := by
  unfold Placement.raw Placement.standard
  rw [Metric.Identity.mk.injEq]
  exact and_congr_right fun _ => and_iff_left rfl

namespace Session

variable {models : List String} {s t : Session}

/-! ## Triggers that read other metrics -/

/-- A trigger that is asked for writes a known metric and reads others. -/
def ReadsOthers (s : Session) (wanted : Trigger) : Prop :=
  ∃ output, (output, wanted.outputMetric) ∈ s.network.metrics ∧
    ∀ id ∈ wanted.inputMetrics, ∃ input, input ≠ output ∧ (input, id) ∈ s.network.metrics

/-- Where every metric has an id of its own, such a trigger does not read the one
that it writes. -/
theorem ReadsOthers.not_mem {wanted : Trigger} (others : s.ReadsOthers wanted)
    (ahead : Moves s t) (unique : t.metricIds.Nodup) :
    wanted.outputMetric ∉ wanted.inputMetrics := by
  intro reads
  rcases others with ⟨output, written, each⟩
  rcases each _ reads with ⟨input, different, read⟩
  have same := List.inj_on_of_nodup_map unique (ahead.metrics.subset read)
    (ahead.metrics.subset written) rfl
  exact different (congrArg Prod.fst same)

theorem deeds_readsOthers (s : Session) (name seed description : String) (more : Fields)
    {inputs : List String} {output : String} {identity : Metric.Identity}
    (written : (identity, output) ∈ s.network.metrics)
    (read : ∀ id ∈ inputs, ∃ input, input ≠ identity ∧ (input, id) ∈ s.network.metrics) :
    Deeds models ReadsOthers s (s.starterTrigger name seed description more inputs output) :=
  .trans (Still.drawToken s seed).deeds (.single (.ask ⟨identity, written, read⟩))

theorem Deeds.toReadsOthers (run : Deeds models Silent s t) : Deeds models ReadsOthers s t :=
  run.mono (fun _ member => member) fun _ _ asked => asked.elim

theorem readsOthers_metricsOfTarget (s : Session) {p : Placement}
    (apart : p.kind = Domain.flowMeterKind ->
      p.raw s.aliases "flow_reading" ≠ p.standard s.aliases "flow_volume") :
    Deeds [Fixture.Model.metric] ReadsOthers s (s.metricsOfTarget p) := by
  by_cases meter : p.kind = Domain.flowMeterKind
  · rcases s.metricsOfTarget_meter meter with ⟨u, reading, volume, made, raw, known, whole⟩
    rw [whole]
    refine made.toReadsOthers.trans
      (deeds_readsOthers u _ _ _ _ (Entries.mem_of_get? known) fun id listed => ?_)
    cases List.mem_singleton.mp listed
    exact ⟨_, apart meter, Entries.mem_of_get? raw⟩
  · exact (s.deeds_metricsOfTarget_of_ne meter).toReadsOthers

/-- The demand of a zone reads volumes. -/
theorem readsOthers_demandTrigger (s : Session) (zone label : String) (meters : List String) :
    Deeds models ReadsOthers s (s.demandTrigger zone label meters) := by
  cases found : s.starterMetric? "zone_demand" zone with
  | none =>
    rw [demandTrigger_of_unknown (Or.inl found)]
  | some demand =>
    by_cases some' : s.volumes meters = []
    · rw [demandTrigger_of_unknown (Or.inr some')]
    · rw [demandTrigger_of_known found some']
      refine deeds_readsOthers s _ _ _ _ (Entries.mem_of_get? found) fun id listed => ?_
      rcases List.mem_filterMap.mp listed with ⟨meter, _, volume⟩
      refine ⟨_, fun same => ?_, Entries.mem_of_get? volume⟩
      have words : "flow_volume" = "zone_demand" := congrArg Metric.Identity.category same
      exact absurd words (by decide)

/-- What is read from the sensors in a zone has the category that was asked
for. -/
theorem mem_sensorMetrics {n : Network} {category : String} {zone : Zone} {id : String}
    (listed : id ∈ n.sensorMetrics category none zone) :
    ∃ identity, identity.category = category ∧ (identity, id) ∈ n.metrics := by
  rw [n.sensorMetrics_eq] at listed
  rcases List.mem_map.mp listed with ⟨⟨identity, own⟩, member, rfl⟩
  rcases List.mem_filter.mp member with ⟨known, belongs⟩
  unfold Network.belongs at belongs
  rw [Bool.and_eq_true, beq_iff_eq] at belongs
  exact ⟨identity, belongs.1, known⟩

/-- The average pressure of a zone reads pressures. -/
theorem readsOthers_pressureTrigger (s : Session) (zone label : String) :
    Deeds models ReadsOthers s (s.pressureTrigger zone label) := by
  cases found : s.starterMetric? "average_zone_pressure" zone with
  | none =>
    rw [pressureTrigger_of_unknown (Or.inl found)]
  | some average =>
    by_cases some' : s.pressures zone = []
    · rw [pressureTrigger_of_unknown (Or.inr some')]
    · rw [pressureTrigger_of_known found some']
      refine deeds_readsOthers s _ _ _ _ (Entries.mem_of_get? found) fun id listed => ?_
      have read : ∃ around, id ∈ s.network.sensorMetrics "pressure" none around := by
        unfold pressures at listed
        cases around : s.network.zone? zone with
        | none =>
          rw [around] at listed
          cases listed
        | some around' =>
          rw [around] at listed
          exact ⟨around', listed⟩
      rcases read with ⟨around, inside⟩
      rcases mem_sensorMetrics inside with ⟨identity, category, member⟩
      refine ⟨identity, fun same => ?_, member⟩
      have words : "pressure" = "average_zone_pressure" :=
        category.symm.trans (congrArg Metric.Identity.category same)
      exact absurd words (by decide)

theorem readsOthers_triggersOfZone (s : Session) (all : List Placement) (p : Placement) :
    Deeds models ReadsOthers s (s.triggersOfZone all p) := by
  unfold triggersOfZone
  split
  · exact (readsOthers_demandTrigger s _ _ _).trans (readsOthers_pressureTrigger _ _ _)
  · exact .refl

/-! ## A whole call -/

/-- What is placed is an item, under its kind. -/
theorem mem_placeItems {items : List Domain.Item} {p : Placement}
    (member : p ∈ (s.placeItems [] items).1) : p.item ∈ items ∧ p.kind = p.item.kind := by
  rcases (extends_nil s).placeItems items with ⟨placed, whole, each, kinds, _⟩
  rw [whole, List.nil_append] at member
  exact ⟨each ▸ List.mem_map_of_mem member, kinds p member⟩

/-- The triggers of a domain read other metrics than they write, if no meter has
its volume for a reading. -/
theorem readsOthers_addDomain (s : Session) (items : List Domain.Item)
    (apart : ∀ item ∈ items, ¬ item.FeedsItself s.aliases) :
    Deeds domainModels ReadsOthers s (s.addDomain items) := by
  have linked : Deeds domainModels ReadsOthers s (s.linked items) :=
    (deeds_linked s items).widen (by decide)
  have readings : ∀ p ∈ (s.placeItems [] items).1, p.kind = Domain.flowMeterKind ->
      p.raw s.aliases "flow_reading" ≠ p.standard s.aliases "flow_volume" := by
    intro p member meter same
    rcases mem_placeItems member with ⟨among, kind⟩
    exact apart p.item among ⟨kind.symm.trans meter, Placement.raw_eq_standard_iff.mp same⟩
  have metrics : Deeds [Fixture.Model.metric] ReadsOthers (s.linked items)
      ((s.linked items).equipped (s.placeItems [] items).1) := by
    unfold equipped
    split
    · refine .trans (Deeds.foldl _ fun u p member before => ?_)
        (Deeds.foldl _ fun u p _ _ => readsOthers_triggersOfZone u _ p)
      have aliases : u.aliases = s.aliases := before.settings.2.trans linked.settings.2
      exact readsOthers_metricsOfTarget u (aliases ▸ readings p member)
    · exact .refl
  rcases addDomain_eq s items with ⟨notice, whole⟩
  rw [whole]
  exact (linked.trans (metrics.widen (by decide))).trans (Still.note _ notice).deeds

/-- A meter whose reading is its volume has a trigger that reads what it
writes. -/
theorem Begun.feedsItself {aliases : Metric.Aliases} {items : List Domain.Item}
    {placed : List Placement} (begun : t.Begun aliases items placed) {item : Domain.Item}
    (member : item ∈ items) (feeds : item.FeedsItself aliases) :
    ∃ row ∈ t.rowsOf Fixture.Model.trigger, row.FeedsItself := by
  rw [← begun.items] at member
  rcases List.mem_map.mp member with ⟨p, among, rfl⟩
  have meter : p.isMeter = true := beq_iff_eq.mpr ((begun.kinds p among).trans feeds.1)
  rcases begun.done (Task.delta_mem_called among meter) with ⟨row, there, done⟩
  rcases done.output with ⟨output, known, written⟩
  have same := Placement.raw_eq_standard_iff.mpr feeds.2
  rcases exists_of_mem_forall₂_left done.inputs List.mem_cons_self with ⟨id, listed, read⟩
  rw [same] at read
  cases Option.some.inj (known.symm.trans read)
  exact ⟨row, there, output, listed, written⟩

/-- A domain is compiled in a session without existing rows.  If no meter among
the items has its volume for a reading, no trigger row that the call appends or
rewrites reads what it writes.  In a session that has just begun, any such meter
has a trigger that does. -/
theorem feedsItself_addDomain {options : Options} (supply : Nat) (calls : List Call)
    (items : List Domain.Item)
    (fresh : (((start options supply).run calls).addDomain items).Fresh) :
    let s := (start options supply).run calls
    let t := s.addDomain items
    ((∀ item ∈ items, ¬ item.FeedsItself options.allAliases) ->
      ∀ (position : Nat) (row : Row), t.rows[position]? = some row ->
        s.rows[position]? ≠ some row -> row.model = Fixture.Model.trigger -> ¬ row.FeedsItself) ∧
    (calls = [] -> options.starterMetrics = true ->
      ∀ item ∈ items, item.FeedsItself options.allAliases ->
        ∃ row ∈ t.rowsOf Fixture.Model.trigger, row.FeedsItself) := by
  intro s t
  have begun : Moves (start options supply) s := moves_run _ calls
  constructor
  · rintro apart position row stands new trigger ⟨output, reads, written⟩
    have aliases : s.aliases = options.allAliases := begun.settings.2.1
    have run : Deeds domainModels ReadsOthers s t :=
      readsOthers_addDomain s items (aliases ▸ apart)
    rcases run.asked stands trigger with old | ⟨moment, wanted, _, after, others, _, fields⟩
    · exact new old
    · -- the metrics that were known when the trigger was asked for are known under the same ids
      have catalogued : t.Catalogued :=
        (catalogued_start options supply).moves rfl (begun.trans (moves_addDomain s items))
      have unread := others.not_mem after.moves (catalogued.nodup_metricIds fresh)
      have own : row.text? "output_metric" = some wanted.outputMetric := by
        unfold Row.text? Row.field?
        rw [fields]
        rfl
      rw [inputs_of_fields fields] at reads
      cases Option.some.inj (own.symm.trans written)
      exact unread reads
  · rintro rfl starting item member feeds
    exact (begun_addDomain starting supply items fresh).feedsItself member feeds

/-- A flow meter whose reading is said to be a volume. -/
def volumeMeter : Domain.Item :=
  { northMeter with metricCategory := some "flow_volume" }

/-- The trigger of a meter without hints reads another metric than it writes. -/
theorem feedsItself_addDomain_meter :
    let t := (start Options.default 0).addDomain [northMeter]
    t.Fresh ∧ (t.rowsOf Fixture.Model.trigger).length = 1 ∧
      (∀ item ∈ [northMeter], ¬ item.FeedsItself Options.default.allAliases) ∧
      ∀ row ∈ t.rowsOf Fixture.Model.trigger, ¬ row.FeedsItself := by
  intro t
  have fresh : t.Fresh := by
    unfold Fresh
    decide +kernel
  have apart : ∀ item ∈ [northMeter], ¬ item.FeedsItself Options.default.allAliases := by
    decide +kernel
  refine ⟨fresh, by decide +kernel, apart, fun row member => ?_⟩
  rcases List.mem_filter.mp member with ⟨among, trigger⟩
  rcases List.getElem?_of_mem among with ⟨position, stands⟩
  exact (feedsItself_addDomain 0 [] [northMeter] fresh).1 apart position row stands
    (fun old => nomatch old) (beq_iff_eq.mp trigger)

/-- A meter whose reading is said to be a volume has a trigger that computes the
volume from itself. -/
theorem feedsItself_volumeMeter :
    let t := (start Options.default 0).addDomain [volumeMeter]
    volumeMeter.FeedsItself Options.default.allAliases ∧
      (t.rowsOf Fixture.Model.trigger).map Row.calculatorNames = [["CALCULATE_DELTA"]] ∧
      ∃ row ∈ t.rowsOf Fixture.Model.trigger, row.FeedsItself := by
  decide +kernel

end Session
end Sensornet
