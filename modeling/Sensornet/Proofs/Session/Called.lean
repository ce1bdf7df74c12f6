import Sensornet.Proofs.Session.Demand
import Sensornet.Proofs.Session.Lateness
import Sensornet.Proofs.Session.Tasks

namespace Sensornet

/-!
# The triggers that items call for

A trigger whose output no other trigger has is appended.  The tasks of a
domain have different outputs, so the trigger rows are the tasks, one by one
and in their order.
-/

open Fixture (Key Row Registry)
open Json (Value Fields)
open List (Forall₂)
open scoped List

namespace Session

variable {models : List String} {r s t : Session} {tasks : List Task}

/-! ## One trigger after another -/

/-- Every metric has an id of its own, and none is empty. -/
structure Identified (r : Session) : Prop where
  unique : r.metricIds.Nodup
  filled : ∀ id ∈ r.metricIds, id ≠ ""

/-- The trigger rows are some tasks, by what is known in the end. -/
structure Meets (r s : Session) (tasks : List Task) : Prop where
  indexed : s.Indexed
  triggers : Forall₂ (Task.DoneBy r.network) tasks (s.rowsOf Fixture.Model.trigger)

theorem Deeds.rowsOf_of_silent (run : Deeds models Silent s t) :
    t.rowsOf Fixture.Model.trigger = s.rowsOf Fixture.Model.trigger := by
  induction run with
  | refl => rfl
  | @tail u v _ deed ih =>
    refine Eq.trans ?_ ih
    unfold rowsOf
    cases deed with
    | still same => rw [same.rows]
    | bind id named => rw [(Quiet.bind _ _ _ _).rows]
    | @enter registry row model issued new named own among passive =>
      have other : (row.model == Fixture.Model.trigger) = false :=
        beq_eq_false_iff_ne.mpr (own ▸ passive)
      rw [rows_enter, List.filter_append, List.filter_cons_of_neg (by rw [other]; simp)]
      exact List.append_nil _
    | ask asked => exact asked.elim

theorem Meets.silent (meets : Meets r s tasks) (run : Deeds models Silent s t) :
    Meets r t tasks :=
  ⟨meets.indexed.moves run.moves, run.rowsOf_of_silent ▸ meets.triggers⟩

/-- A trigger with an output of its own is one more row. -/
theorem Meets.starterTrigger (meets : Meets r s tasks) (identified : r.Identified) (task : Task)
    {id : String} (output : r.network.metric? task.output = some id) {ids : List String}
    (inputs : Forall₂ (fun identity id => r.network.metric? identity = some id) task.inputs ids)
    (some' : ids ≠ []) (new : ((tasks ++ [task]).map Task.output).Nodup)
    (seed description : String) (more : Fields) :
    Meets r (s.starterTrigger task.calculator seed description more ids id) (tasks ++ [task]) := by
  let u := (s.drawToken seed).2
  let wanted := Trigger.starter task.calculator description more ids id (s.drawToken seed).1
  have whole : s.starterTrigger task.calculator seed description more ids id =
      (u.putTrigger wanted).2 := rfl
  have complete : wanted.isComplete = true :=
    Trigger.isComplete_starter (identified.filled id (mem_metricIds output)) some' _ _ _ _
  have drawn : u.Indexed := meets.indexed
  have apart : task.output ∉ tasks.map Task.output := by
    rw [List.map_append, List.nodup_append] at new
    exact fun old => new.2.2 _ old _ List.mem_cons_self rfl
  have unknown : ∀ position, u.network.triggerPosition? id = some position ->
      u.rows[position]? = none := by
    intro position known
    rcases drawn.output?_of_known known with ⟨row, stands, writes⟩
    have member : row ∈ s.rowsOf Fixture.Model.trigger :=
      List.mem_filter.mpr ⟨List.mem_of_getElem? stands,
        beq_iff_eq.mpr (Network.model_of_output? writes)⟩
    rcases exists_of_mem_forall₂ meets.triggers member with ⟨other, among, done⟩
    rcases done.output with ⟨own, knownToo, written⟩
    cases Option.some.inj ((Network.text?_of_output? writes).symm.trans written)
    -- one id belongs to one metric
    have same : other.output = task.output := by
      by_contra different
      exact ne_of_metric? identified.unique knownToo output different rfl
    exact absurd (same ▸ List.mem_map_of_mem among) apart
  have rows : ∃ key, (u.putTrigger wanted).2.rows = s.rows ++ [wanted.row key] := by
    rw [u.putTrigger_new complete unknown]
    exact ⟨_, rfl⟩
  rw [whole]
  refine ⟨drawn.moves (moves_putTrigger u wanted), ?_⟩
  rcases rows with ⟨key, rows⟩
  have grown : (u.putTrigger wanted).2.rowsOf Fixture.Model.trigger =
      s.rowsOf Fixture.Model.trigger ++ [wanted.row key] := by
    unfold rowsOf
    rw [rows, List.filter_append]
    rfl
  have read : (wanted.row key).inputs = wanted.inputMetrics := inputs_of_fields rfl
  rw [grown]
  refine List.rel_append meets.triggers (.cons ⟨rfl, ⟨id, output, rfl⟩, ?_⟩ .nil)
  rw [read]
  exact inputs

/-- Tasks of one item after another, each of them new. -/
theorem Meets.foldl {step : Session -> Placement -> Session} {own : Placement -> List Task}
    (along : Session -> Prop) (placed : List Placement)
    (moves : ∀ (u : Session) (p : Placement), Moves u (step u p))
    (stays : ∀ (u : Session) (p : Placement), along u -> along (step u p))
    (puts : ∀ (u : Session) (done : List Task) (p : Placement), p ∈ placed -> along u ->
      Moves (step u p) r -> ((done ++ own p).map Task.output).Nodup -> Meets r u done ->
        Meets r (step u p) (done ++ own p))
    (start : along s) (ahead : Moves (placed.foldl step s) r)
    (new : ((tasks ++ placed.flatMap own).map Task.output).Nodup) (meets : Meets r s tasks) :
    Meets r (placed.foldl step s) (tasks ++ placed.flatMap own) := by
  induction placed generalizing s tasks with
  | nil =>
    rw [List.flatMap_nil, List.append_nil]
    exact meets
  | cons p rest ih =>
    have others : Moves (step s p) (rest.foldl step (step s p)) :=
      Moves.foldl _ rest fun u q _ => moves u q
    have begun : ((tasks ++ own p).map Task.output).Nodup := by
      rw [List.flatMap_cons, ← List.append_assoc, List.map_append] at new
      exact new.sublist (List.sublist_append_left _ _)
    have first := puts s tasks p List.mem_cons_self start (others.trans ahead) begun meets
    rw [List.flatMap_cons, ← List.append_assoc] at new ⊢
    exact ih (fun u done q member => puts u done q (List.mem_cons_of_mem p member))
      (stays s p start) ahead new first

theorem Meets.metricsOfTarget (meets : Meets r s tasks) (identified : r.Identified)
    (p : Placement) (ahead : Moves (s.metricsOfTarget p) r)
    (new : ((tasks ++ Task.ofMeter s.aliases p).map Task.output).Nodup) :
    Meets r (s.metricsOfTarget p) (tasks ++ Task.ofMeter s.aliases p) := by
  unfold Task.ofMeter at new ⊢
  by_cases meter : p.kind = Domain.flowMeterKind
  · have own : p.isMeter = true := beq_iff_eq.mpr meter
    rcases s.metricsOfTarget_meter meter with ⟨u, reading, volume, made, raw, known, whole⟩
    rw [if_pos own] at new ⊢
    rw [whole] at ahead ⊢
    have onward : Moves u r := (moves_starterTrigger u _ _ _ _ _ _).trans ahead
    exact (meets.silent made).starterTrigger identified (Task.delta s.aliases p)
      (onward.metric? known) (.cons (onward.metric? raw) .nil) (List.cons_ne_nil _ _) new _ _ _
  · have other : ¬ p.isMeter = true := fun own => meter (beq_iff_eq.mp own)
    rw [if_neg other, List.append_nil]
    exact meets.silent (s.deeds_metricsOfTarget_of_ne meter)

section

variable {aliases : Metric.Aliases} {known : List Metric.Identity}
  (alike : ∀ identity, identity ∈ known ↔ (r.network.metric? identity).isSome = true)
include alike

/-- A trigger is put if its output is known and some of its inputs are. -/
theorem Meets.among (meets : Meets r s tasks) (identified : r.Identified) {task : Task}
    {ids : List String}
    (inputs : Forall₂ (fun identity id => r.network.metric? identity = some id)
      (task.inputs.filter fun identity => decide (identity ∈ known)) ids)
    (new : ((tasks ++ task.among known).map Task.output).Nodup)
    (put : ∀ id, r.network.metric? task.output = some id -> ids ≠ [] ->
      ∃ seed description more, t = s.starterTrigger task.calculator seed description more ids id)
    (left : r.network.metric? task.output = none ∨ ids = [] -> t = s) :
    Meets r t (tasks ++ task.among known) := by
  have empty : (task.inputs.filter fun identity => decide (identity ∈ known)) = [] ↔ ids = [] := by
    rw [← List.length_eq_zero_iff, ← List.length_eq_zero_iff, inputs.length_eq]
  unfold Task.among at new ⊢
  dsimp only at new ⊢
  split at new
  · next both =>
    rw [if_pos both]
    rcases Option.isSome_iff_exists.mp ((alike task.output).mp both.1) with ⟨id, found⟩
    have some' : ids ≠ [] := fun none => both.2 (empty.mpr none)
    rcases put id found some' with ⟨seed, description, more, whole⟩
    rw [whole]
    exact meets.starterTrigger identified { task with inputs := task.inputs.filter _ } found inputs
      some' new _ _ _
  · next missing =>
    rw [if_neg missing, List.append_nil]
    rw [left]
    · exact meets
    · by_cases listed : ids = []
      · exact Or.inr listed
      · left
        rw [← Option.not_isSome_iff_eq_none, ← alike]
        exact fun named => missing ⟨named, fun none => listed (empty.mp none)⟩

/-- The known volumes are those of the meters that feed the zone. -/
theorem forall₂_volumes {placed : List Placement} (shows : r.network.Shows placed) (z : Placement) :
    Forall₂ (fun identity id => r.network.metric? identity = some id)
      ((Task.demand placed z).inputs.filter fun identity => decide (identity ∈ known))
      (r.feedOf placed z.id) := by
  have volumes : r.feedOf placed z.id =
      (Task.demand placed z).inputs.filterMap r.network.metric? := by
    unfold feedOf volumes Task.demand
    rw [shows.metersFeeding_eq, List.filterMap_map, List.filterMap_map]
    rfl
  have tested : (fun identity => decide (identity ∈ known)) =
      fun identity => (r.network.metric? identity).isSome := by
    funext identity
    rw [Bool.eq_iff_iff, decide_eq_true_iff]
    exact alike identity
  rw [volumes, tested]
  exact forall₂_filterMap_isSome _ _

/-- The known pressures are all of those that a zone calls for. -/
theorem forall₂_pressures {placed : List Placement} (shows : r.network.Shows placed)
    (metrics : r.identities = distinct (placed.flatMap (Placement.metrics aliases)))
    {z : Placement} (member : z ∈ placed) (zone : z.isZone = true) :
    Forall₂ (fun identity id => r.network.metric? identity = some id)
      ((Task.average aliases placed z).inputs.filter fun identity => decide (identity ∈ known))
      (r.pressures z.id) := by
  have all := shows.pressures metrics z.zone
  have own : r.pressures z.id = r.network.sensorMetrics "pressure" none z.zone := by
    unfold pressures
    rw [shows.zone?_eq member zone]
    rfl
  have whole : (Task.average aliases placed z).inputs.filter (fun identity =>
      decide (identity ∈ known)) = (Task.average aliases placed z).inputs := by
    apply List.filter_eq_self.mpr
    intro identity among
    rcases exists_of_mem_forall₂_left all among with ⟨id, _, found⟩
    exact decide_eq_true ((alike identity).mpr (Option.isSome_iff_exists.mpr ⟨id, found⟩))
  rw [own, whole]
  exact all

/-- Both triggers of a zone, when all metrics are there. -/
theorem Meets.triggersOfZone (meets : Meets r s tasks) (identified : r.Identified)
    {placed : List Placement} (shows : r.network.Shows placed)
    (identities : r.identities = distinct (placed.flatMap (Placement.metrics aliases)))
    (metrics : s.network.metrics = r.network.metrics) (zones : s.network.zones = r.network.zones)
    (points : s.network.points = r.network.points) {p : Placement} (member : p ∈ placed)
    (new : ((tasks ++ (Task.ofZone aliases placed p).flatMap (Task.among known)).map
      Task.output).Nodup) :
    Meets r (s.triggersOfZone placed p)
      (tasks ++ (Task.ofZone aliases placed p).flatMap (Task.among known)) := by
  unfold Session.triggersOfZone
  unfold Task.ofZone at new ⊢
  by_cases kind : p.kind = Domain.zoneKind
  · have zone : p.isZone = true := beq_iff_eq.mpr kind
    rw [if_pos zone, List.flatMap_cons, List.flatMap_cons, List.flatMap_nil, List.append_nil,
      ← List.append_assoc] at new
    rw [if_pos zone, if_pos kind, List.flatMap_cons, List.flatMap_cons, List.flatMap_nil,
      List.append_nil, ← List.append_assoc]
    have begun : ((tasks ++ (Task.demand placed p).among known).map Task.output).Nodup := by
      rw [List.map_append] at new
      exact new.sublist (List.sublist_append_left _ _)
    let u := s.demandTrigger p.id p.item.label (Link.metersFeeding s.network placed p.id)
    have asked : Deeds [] (Asks fun _ => False) s u := deeds_demandTrigger s _ _ (nodup_distinct _)
    have known' := starterMetric?_congr metrics
    have knownToo := starterMetric?_congr ((asked.metrics List.not_mem_nil).trans metrics)
    have feed : s.volumes (Link.metersFeeding s.network placed p.id) = r.feedOf placed p.id :=
      feedOf_congr zones points metrics placed p.id
    rcases asked.targets List.not_mem_nil List.not_mem_nil with ⟨zonesToo, pointsToo, _⟩
    have read : u.pressures p.id = r.pressures p.id :=
      pressures_congr (zonesToo.trans zones) (pointsToo.trans points)
        ((asked.metrics List.not_mem_nil).trans metrics) p.id
    have first : Meets r u (tasks ++ (Task.demand placed p).among known) := by
      refine meets.among alike identified (forall₂_volumes alike shows p) begun
        (fun id found some' => ?_) fun missing => ?_
      · rw [← feed] at some' ⊢
        exact ⟨_, _, _, demandTrigger_of_known (known' ▸ found) some' _⟩
      · rw [← feed] at missing
        exact demandTrigger_of_unknown (known' ▸ missing) _
    refine first.among alike identified (forall₂_pressures alike shows identities member zone) new
        (fun id found some' => ?_) fun missing => ?_
    · rw [← read] at some' ⊢
      exact ⟨_, _, _, pressureTrigger_of_known (knownToo ▸ found) some' _⟩
    · rw [← read] at missing
      exact pressureTrigger_of_unknown (knownToo ▸ missing) _
  · have other : ¬ p.isZone = true := fun own => kind (beq_iff_eq.mp own)
    rw [if_neg other, if_neg kind, List.flatMap_nil, List.append_nil]
    exact meets

end

/-! ## A domain on nothing -/

/-- The rows of a domain that was compiled on nothing: first the targets of the
items, then what they call for. -/
structure Begun (t : Session) (aliases : Metric.Aliases) (items : List Domain.Item)
    (placed : List Placement) : Prop where
  items : placed.map Placement.item = items
  kinds : ∀ p ∈ placed, p.kind = p.item.kind
  rows : placed.map Placement.row <+: t.rows
  shows : t.network.Shows placed
  identities : t.identities = distinct (placed.flatMap (Placement.metrics aliases))
  triggers : Forall₂ (Task.DoneBy t.network) (Task.called aliases placed)
    (t.rowsOf Fixture.Model.trigger)

/-- Where there is one metric for each that targets start with, the triggers
that are put are those that the items call for. -/
theorem meets_starters {aliases : Metric.Aliases} {placed : List Placement}
    (identified : r.Identified) (shows : r.network.Shows placed)
    (identities : r.identities = distinct (placed.flatMap (Placement.metrics aliases)))
    (own : s.aliases = aliases) (ahead : Quiet (s.starters placed) r) (meets : Meets r s []) :
    Meets r (s.starters placed) (Task.called aliases placed) := by
  let v := placed.foldl Session.metricsOfTarget s
  have alike : ∀ identity, identity ∈ placed.flatMap (Placement.metrics aliases) ↔
      (r.network.metric? identity).isSome = true := by
    intro identity
    rw [← mem_identities_iff, identities, mem_distinct]
  have unique := Task.nodup_outputs_called aliases shows.unique
  unfold Task.called at unique ⊢
  have zonal : Deeds [] (Asks fun _ => False) v (s.starters placed) :=
    Deeds.foldl placed fun u p _ _ => deeds_triggersOfZone u placed p
  have first : Meets r v ([] ++ placed.flatMap (Task.ofMeter aliases)) := by
    refine Meets.foldl (fun u => u.aliases = aliases) placed moves_metricsOfTarget ?_ ?_ own
      (zonal.moves.trans ahead.moves) ?_ meets
    · intro u p same
      exact (moves_metricsOfTarget u p).settings.2.1.trans same
    · intro u done p _ same later new so
      rw [← same] at new ⊢
      exact so.metricsOfTarget identified p later new
    · rw [List.nil_append]
      rw [List.map_append] at unique
      exact unique.sublist (List.sublist_append_left _ _)
  refine Meets.foldl (fun u => u.network.metrics = r.network.metrics ∧
    u.network.zones = r.network.zones ∧ u.network.points = r.network.points) placed
    (fun u p => moves_triggersOfZone u placed p) ?_ ?_ ?_ ahead.moves unique first
  · rintro u p ⟨metrics, zones, points⟩
    have step : Deeds [] (Asks fun _ => False) u (u.triggersOfZone placed p) :=
      deeds_triggersOfZone u placed p
    rcases step.targets List.not_mem_nil List.not_mem_nil with ⟨zonesToo, pointsToo, _⟩
    exact ⟨(step.metrics List.not_mem_nil).trans metrics, zonesToo.trans zones,
      pointsToo.trans points⟩
  · rintro u done p member ⟨metrics, zones, points⟩ _ new so
    exact so.triggersOfZone alike identified shows identities metrics zones points member new
  · rcases zonal.targets List.not_mem_nil List.not_mem_nil with ⟨zones, points, _⟩
    rw [ahead.network]
    exact ⟨(zonal.metrics List.not_mem_nil).symm, zones.symm, points.symm⟩

/-- A call ends with the triggers of zones, if it makes any, and a notice. -/
theorem quiet_starters_addDomain (s : Session) (items : List Domain.Item)
    (starting : (s.linked items).options.starterMetrics = true) :
    Quiet ((s.linked items).starters (s.placeItems [] items).1) (s.addDomain items) := by
  rcases addDomain_eq s items with ⟨notice, whole⟩
  unfold equipped at whole
  rw [if_pos starting] at whole
  rw [whole]
  exact .note _ notice

/-- A domain that is compiled on nothing leaves the targets of its items, their
metrics, and the triggers that the items call for. -/
theorem begun_addDomain {options : Options} (starting : options.starterMetrics = true)
    (supply : Nat) (items : List Domain.Item)
    (fresh : ((start options supply).addDomain items).Fresh) :
    ((start options supply).addDomain items).Begun options.allAliases items
      ((start options supply).placeItems [] items).1 := by
  let s := start options supply
  let placed := (s.placeItems [] items).1
  let w := (s.placeItems [] items).2
  let u := s.linked items
  let t := s.addDomain items
  have indexed : s.Indexed := rfl
  have booked : s.Booked := ⟨rfl, fun _ among => absurd among List.not_mem_nil⟩
  have placing : Deeds targetModels Silent s w := deeds_placeItems s [] items
  have linking : Deeds [Fixture.Model.link] Silent w u := deeds_placeItems_linked s items
  have options' : u.options = options := linking.settings.1.trans placing.settings.1
  have aliases : u.aliases = options.allAliases := linking.settings.2.trans placing.settings.2
  have equipping : Deeds [Fixture.Model.metric] Any u (u.starters placed) :=
    (deeds_starters u placed : Deeds _ (Asks fun _ => False) _ _).any
  have noted : Quiet (u.starters placed) t :=
    quiet_starters_addDomain s items (options'.symm ▸ starting)
  have later : Moves w t := (linking.moves.trans equipping.moves).trans noted.moves
  -- the targets are those of the items, and stay as they are
  have began : FreshSince s w := (fresh.since s).within .refl later
  rcases (laid_start options supply).placeItems booked items began
    with ⟨laid, more, whole, own, kinds⟩
  rw [List.nil_append] at whole
  rw [← whole] at own kinds
  have shows : t.network.Shows placed := by
    have linked := (laid.shows placing.moves began).deeds linking (by decide) (by decide)
    rw [noted.network]
    exact linked.deeds equipping (by decide) (by decide)
  have rows : placed.map Placement.row <+: t.rows := by
    rw [← laid.rows]
    apply later.rows_prefix (indexed.moves placing.moves)
    intro row member
    rw [laid.rows] at member
    rcases List.mem_map.mp member with ⟨p, _, rfl⟩
    exact p.row_passive
  -- the metrics are those that targets start with
  have identities : t.identities = distinct (placed.flatMap
      (Placement.metrics options.allAliases)) := by
    have none : u.identities = [] := by
      have first := placing.metrics (by decide)
      have second := linking.metrics (by decide)
      exact congrArg Entries.keys (second.trans first)
    have kept : t.identities = (u.starters placed).identities := by
      unfold Session.identities
      rw [noted.network]
    have all := identities_starters u placed
    rw [none, aliases] at all
    exact kept.trans all
  have identified : t.Identified := by
    have catalogued : t.Catalogued :=
      (catalogued_start options supply).moves indexed (moves_addDomain s items)
    exact ⟨catalogued.nodup_metricIds fresh, fun id known => catalogued.ne_empty known⟩
  have start : Meets t u [] := by
    have none : u.rowsOf Fixture.Model.trigger = [] :=
      linking.rowsOf_of_silent.trans placing.rowsOf_of_silent
    exact ⟨indexed.moves (placing.moves.trans linking.moves), none ▸ .nil⟩
  have triggers := meets_starters identified shows identities aliases noted start
  have same : t.rowsOf Fixture.Model.trigger = (u.starters placed).rowsOf Fixture.Model.trigger := by
    unfold rowsOf
    rw [noted.rows]
  exact ⟨own, kinds, rows, shows, identities, same ▸ triggers.triggers⟩

/-- With the synonyms that are built in, the trigger rows of a domain compiled on
nothing are these and no others, in this order: for each flow meter, one that
computes its volume from its raw reading; then for each zone, one that computes
its demand from the volumes of all meters that feed it, if any does, and one
that computes its average pressure from all pressures inside, if there are any.
The metrics are those that the targets of the items start with. -/
theorem triggers_addDomain {options : Options} (builtin : options.allAliases = .builtin)
    (starting : options.starterMetrics = true) (supply : Nat) (items : List Domain.Item)
    (fresh : ((start options supply).addDomain items).Fresh) :
    let s := start options supply
    let t := s.addDomain items
    let placed := (s.placeItems [] items).1
    placed.map Placement.item = items ∧ (∀ p ∈ placed, p.kind = p.item.kind) ∧
      placed.map Placement.row <+: t.rows ∧ (placed.map Placement.id).Nodup ∧
      t.identities = distinct (placed.flatMap (Placement.metrics .builtin)) ∧
      Forall₂ (Task.DoneBy t.network)
        (placed.flatMap (Task.ofMeter .builtin) ++
          (placed.flatMap (Task.ofZone .builtin placed)).filter fun task => !task.inputs.isEmpty)
        (t.rowsOf Fixture.Model.trigger) := by
  intro s t placed
  have begun : t.Begun options.allAliases items placed :=
    begun_addDomain starting supply items fresh
  rw [builtin] at begun
  rw [← Task.called_eq_filter (by decide) (by decide) (by decide) (by decide)]
  exact ⟨begun.items, begun.kinds, begun.rows, begun.shows.unique, begun.identities,
    begun.triggers⟩

/-- A zone and the meter that feeds it by name have one trigger each. -/
theorem triggers_addDomain_north :
    let s := start .default 0
    let t := s.addDomain [northZone, northMeter]
    let placed := (s.placeItems [] [northZone, northMeter]).1
    t.Fresh ∧ (t.rowsOf Fixture.Model.trigger).map Row.calculatorNames =
        [["CALCULATE_DELTA"], ["CALCULATE_ZONE_DEMAND"]] ∧
      placed.map Placement.item = [northZone, northMeter] ∧
      (∀ p ∈ placed, p.kind = p.item.kind) ∧
      placed.map Placement.row <+: t.rows ∧ (placed.map Placement.id).Nodup ∧
      t.identities = distinct (placed.flatMap (Placement.metrics .builtin)) ∧
      Forall₂ (Task.DoneBy t.network)
        (placed.flatMap (Task.ofMeter .builtin) ++
          (placed.flatMap (Task.ofZone .builtin placed)).filter fun task => !task.inputs.isEmpty)
        (t.rowsOf Fixture.Model.trigger) := by
  have runs : ((start .default 0).addDomain [northZone, northMeter]).registry.taken.Nodup ∧
      (((start .default 0).addDomain [northZone, northMeter]).rowsOf
        Fixture.Model.trigger).map Row.calculatorNames =
          [["CALCULATE_DELTA"], ["CALCULATE_ZONE_DEMAND"]] := by
    decide +kernel
  rcases runs with ⟨fresh, names⟩
  exact ⟨fresh, names, triggers_addDomain rfl rfl 0 [northZone, northMeter] fresh⟩

end Session
end Sensornet
