import Sensornet.Proofs.Session.Identities
import Sensornet.Proofs.Session.Readings
import Sensornet.Proofs.Session.Resumption

namespace Sensornet

/-!
# The demand of a zone

A call that compiles a domain puts the demand trigger of each of its zones
anew.  It reads the volumes of the flow meters that feed the zone, and these
are looked for among the items of the call.  A meter of an earlier call keeps
its link and its volume, but the trigger reads it only if the call names it
again; a call without any meter for a zone leaves its trigger alone.
-/

open Fixture (Key Row Registry)
open Json (Value Fields)
open Relation (ReflTransGen)
open List (Forall₂)

namespace Link

/-! ## Who feeds a zone -/

theorem sensor_of_around {n : Network} {p : Placement} {link : Link}
    (called : .ok link ∈ around n p) : link.sensor = p.id := by
  unfold around at called
  split at called
  · split at called
    · cases List.mem_singleton.mp called
      rfl
    · cases List.mem_singleton.mp called
  · cases called

theorem sensor_of_named {n : Network} {p : Placement} {role : String} {label : Option String}
    {link : Link} (called : .ok link ∈ named n p role label) : link.sensor = p.id := by
  cases label with
  | none => cases called
  | some label =>
    unfold named at called
    dsimp only at called
    split at called
    · cases List.mem_singleton.mp called
      rfl
    · cases List.mem_singleton.mp called

/-- The links that an item calls for are its own. -/
theorem sensor_of_wantedBy {n : Network} {p : Placement} {link : Link}
    (called : .ok link ∈ wantedBy n p) : link.sensor = p.id := by
  unfold wantedBy at called
  split at called
  · cases called
  · rw [List.mem_append, List.mem_append] at called
    rcases called with (inside | inlet) | outlet
    · exact sensor_of_around inside
    · exact sensor_of_named inlet
    · exact sensor_of_named outlet

/-- A meter that feeds a zone is an item of the call. -/
theorem mem_metersFeeding {n : Network} {placed : List Placement} {zone meter : String}
    (feeds : meter ∈ metersFeeding n placed zone) :
    ∃ p ∈ placed, p.kind = Domain.flowMeterKind ∧ p.id = meter := by
  rcases List.mem_flatMap.mp (mem_distinct.mp feeds) with ⟨p, member, own⟩
  rcases List.mem_filter.mp member with ⟨among, kind⟩
  rcases List.mem_map.mp own with ⟨link, called, sensor⟩
  rcases List.mem_filterMap.mp (List.mem_filter.mp called).1 with ⟨outcome, there, read⟩
  cases outcome with
  | error notice => cases read
  | ok own =>
    cases Option.some.inj read
    exact ⟨p, among, beq_iff_eq.mp kind, (sensor_of_wantedBy there).symm.trans sensor⟩

end Link

namespace Session

variable {s t f : Session}

/-! ## The metrics of targets -/

/-- The metrics of a flow meter are made before its trigger, which reads the
one and writes the other. -/
theorem metricsOfTarget_meter (s : Session) {placed : Placement}
    (meter : placed.kind = Domain.flowMeterKind) :
    ∃ (u : Session) (reading volume : String),
      Deeds [Fixture.Model.metric] Silent s u ∧
        u.network.metric? (placed.raw s.aliases "flow_reading") = some reading ∧
        u.network.metric? (placed.standard s.aliases "flow_volume") = some volume ∧
        s.metricsOfTarget placed = u.starterTrigger "CALCULATE_DELTA" ("delta|" ++ placed.id)
          ("Compute Flow Volume – " ++ placed.item.label) [] [reading] volume := by
  have other : placed.kind ≠ Domain.zoneKind := by
    rw [meter]
    decide
  let raw := Starter.flowReading placed.item placed.id s.options.rawStorageTable
  let computed := Starter.flowVolume placed.id placed.item.label
  have first : Deeds [Fixture.Model.metric] Silent s _ := deeds_obtainMetric s raw
  have reading := s.metric?_obtainMetric raw
  have volume := metric?_obtainMetric (s.obtainMetric raw).2 computed
  have second : Deeds [Fixture.Model.metric] Silent (s.obtainMetric raw).2 _ :=
    deeds_obtainMetric _ computed
  rw [identityFor_flowReading] at reading
  have named : (s.obtainMetric raw).2.identityFor computed =
      placed.standard s.aliases "flow_volume" := by
    rw [← first.settings.2]
    exact identityFor_computed _ _ _ _ _ _
  rw [named] at volume
  refine ⟨_, (s.obtainMetric raw).1, _, first.trans second, second.moves.metric? reading, volume, ?_⟩
  unfold metricsOfTarget
  dsimp only
  rw [if_neg other, if_pos meter]

/-- Only a flow meter gets a trigger with its metrics. -/
theorem deeds_metricsOfTarget_of_ne (s : Session) {placed : Placement}
    (other : placed.kind ≠ Domain.flowMeterKind) :
    Deeds [Fixture.Model.metric] Silent s (s.metricsOfTarget placed) := by
  unfold metricsOfTarget
  dsimp only
  split
  · exact (deeds_obtainMetric s _).trans (deeds_obtainMetric _ _)
  · split
    · exact deeds_obtainMetric s _
    · exact .refl

section

variable (builtin : s.aliases = .builtin)
include builtin

/-- After its metrics were made a zone has a demand. -/
theorem zoneDemand_metricsOfTarget {placed : Placement} (zone : placed.kind = Domain.zoneKind) :
    ∃ demand, (s.metricsOfTarget placed).starterMetric? "zone_demand" placed.id = some demand := by
  have named : s.identityFor (Starter.zoneDemand placed.id placed.item.label) =
      ⟨"zone_demand", Starter.quarterHour, placed.id⟩ := by
    refine (s.identityFor_computed _ _ _ _ _).trans ?_
    rw [builtin]
    rfl
  have known := s.metric?_obtainMetric (Starter.zoneDemand placed.id placed.item.label)
  rw [named] at known
  unfold metricsOfTarget
  dsimp only
  rw [if_pos zone]
  exact ⟨_, metric?_obtainMetric_of_known _ known _⟩

theorem flowVolume_metricsOfTarget {placed : Placement}
    (meter : placed.kind = Domain.flowMeterKind) :
    ∃ volume, (s.metricsOfTarget placed).starterMetric? "flow_volume" placed.id = some volume := by
  rcases s.metricsOfTarget_meter meter with ⟨u, reading, volume, _, _, known, made⟩
  rw [builtin] at known
  rw [made]
  exact ⟨volume, (moves_starterTrigger u _ _ _ _ _ _).metric? known⟩

/-- The metrics of a target come with no demand trigger: the only trigger made
here writes a volume. -/
theorem reads_metricsOfTarget (indexed : s.Indexed) (placed : Placement)
    (ahead : Moves (s.metricsOfTarget placed) f) (unique : f.metricIds.Nodup)
    {zone output : String} (demand : f.starterMetric? "zone_demand" zone = some output)
    (filled : output ≠ "") : (s.metricsOfTarget placed).reads output = s.reads output := by
  by_cases meter : placed.kind = Domain.flowMeterKind
  · rcases s.metricsOfTarget_meter meter with ⟨u, reading, volume, made, _, known, whole⟩
    rw [builtin] at known
    rw [whole] at ahead ⊢
    have apart : volume ≠ output := by
      have onward : Moves u f := (moves_starterTrigger u _ _ _ _ _ _).trans ahead
      have later := onward.metric? known
      have other : Metric.Aliases.builtin.category "flow_volume" ≠ "zone_demand" := by decide
      exact ne_of_metric? unique later demand fun same =>
        other (congrArg Metric.Identity.category same)
    rw [reads_starterTrigger (indexed.moves made.moves) _ _ _ _ (List.cons_ne_nil _ _) filled,
      if_neg apart]
    exact made.reads_of_silent indexed
  · exact (s.deeds_metricsOfTarget_of_ne meter).reads_of_silent indexed

theorem reads_foldl_metricsOfTarget (indexed : s.Indexed) (placed : List Placement)
    (ahead : Moves (placed.foldl metricsOfTarget s) f) (unique : f.metricIds.Nodup)
    {zone output : String} (demand : f.starterMetric? "zone_demand" zone = some output)
    (filled : output ≠ "") : (placed.foldl metricsOfTarget s).reads output = s.reads output := by
  induction placed generalizing s with
  | nil => rfl
  | cons p rest ih =>
    have first := moves_metricsOfTarget s p
    have others : Moves (s.metricsOfTarget p) (rest.foldl metricsOfTarget (s.metricsOfTarget p)) :=
      Moves.foldl _ rest fun t q _ => moves_metricsOfTarget t q
    have later := ih (first.settings.2.1.trans builtin) (indexed.moves first) ahead
    exact later.trans
      (reads_metricsOfTarget builtin indexed p (others.trans ahead) unique demand filled)

end

/-- What is known after one item of a fold is known at its end. -/
theorem foldl_through {A : Type} {step : Session -> A -> Session}
    (each : ∀ (t : Session) (a : A), Moves t (step t a)) {items : List A} {a : A}
    (member : a ∈ items) (s : Session) :
    ∃ u, Moves s u ∧ Moves (step u a) (items.foldl step s) := by
  rcases List.append_of_mem member with ⟨before, after, rfl⟩
  rw [List.foldl_append, List.foldl_cons]
  exact ⟨before.foldl step s, Moves.foldl s before fun t b _ => each t b,
    Moves.foldl _ after fun t b _ => each t b⟩

/-! ## The triggers of zones -/

/-- The triggers of a zone give the demand of this zone, and no other, what
feeds it. -/
theorem reads_triggersOfZone (indexed : s.Indexed) (unique : s.metricIds.Nodup)
    (all : List Placement) (placed : Placement) {zone output : String} (filled : output ≠ "")
    (demand : s.starterMetric? "zone_demand" zone = some output) :
    (s.triggersOfZone all placed).reads output =
      if (placed.kind = Domain.zoneKind ∧ placed.id = zone) ∧ s.feedOf all zone ≠ [] then
        some (s.feedOf all zone)
      else s.reads output := by
  unfold triggersOfZone
  by_cases isZone : placed.kind = Domain.zoneKind
  · have run : Deeds [] (Asks fun _ => False) s (s.demandTrigger placed.id placed.item.label
        (Link.metersFeeding s.network all placed.id)) :=
      deeds_demandTrigger s _ _ (nodup_distinct _)
    have average : ∀ id, (s.demandTrigger placed.id placed.item.label
        (Link.metersFeeding s.network all placed.id)).starterMetric? "average_zone_pressure"
          placed.id = some id -> id ≠ output := by
      intro id known
      unfold starterMetric? Network.metric? at known
      rw [run.metrics List.not_mem_nil] at known
      exact ne_of_metric? unique known demand (by simp)
    rw [if_pos isZone, reads_pressureTrigger (indexed.moves run.moves) _ _ filled,
      if_neg (fun both => average output both.1 rfl), reads_demandTrigger indexed _ _ _ filled]
    by_cases same : placed.id = zone
    · rw [same, demand]
      unfold feedOf
      simp only [isZone, true_and]
    · have other : s.starterMetric? "zone_demand" placed.id ≠ some output := by
        intro known
        exact ne_of_metric? unique known demand (fun equal => same (by simpa using equal)) rfl
      rw [if_neg (fun both => other both.1), if_neg (fun both => same both.1.2)]
  · rw [if_neg isZone, if_neg (fun both => isZone both.1.1)]

/-- After the triggers of all zones the demand of each of them reads what feeds
it, if anything does. -/
theorem reads_foldl_triggersOfZone (indexed : s.Indexed) (unique : s.metricIds.Nodup)
    (all rest : List Placement) {zone output : String} (filled : output ≠ "")
    (demand : s.starterMetric? "zone_demand" zone = some output) :
    (rest.foldl (fun s p => s.triggersOfZone all p) s).reads output =
      if (∃ p ∈ rest, p.kind = Domain.zoneKind ∧ p.id = zone) ∧ s.feedOf all zone ≠ [] then
        some (s.feedOf all zone)
      else s.reads output := by
  induction rest generalizing s with
  | nil => exact (if_neg fun both => absurd both.1 (by simp)).symm
  | cons p rest ih =>
    have step : Deeds [] (Asks fun _ => False) s (s.triggersOfZone all p) :=
      deeds_triggersOfZone s all p
    rcases step.targets List.not_mem_nil List.not_mem_nil with ⟨zones, points, _⟩
    have metrics := step.metrics List.not_mem_nil
    have known : (s.triggersOfZone all p).starterMetric? = s.starterMetric? :=
      starterMetric?_congr metrics
    have feed : (s.triggersOfZone all p).feedOf all zone = s.feedOf all zone :=
      feedOf_congr zones points metrics all zone
    have later := ih (indexed.moves step.moves) (by unfold metricIds; rw [metrics]; exact unique)
      (known ▸ demand)
    rw [List.foldl_cons, later, feed, reads_triggersOfZone indexed unique all p filled demand]
    by_cases fed : s.feedOf all zone = []
    · simp only [fed, ne_eq, not_true_eq_false, and_false, if_false]
    · by_cases here : p.kind = Domain.zoneKind ∧ p.id = zone
      · have among : ∃ q ∈ p :: rest, q.kind = Domain.zoneKind ∧ q.id = zone :=
          ⟨p, List.mem_cons_self, here⟩
        have own : (p.kind = Domain.zoneKind ∧ p.id = zone) ∧ s.feedOf all zone ≠ [] := ⟨here, fed⟩
        rw [if_pos own, ite_self]
        exact (if_pos ⟨among, fed⟩).symm
      · have other : ¬ ((p.kind = Domain.zoneKind ∧ p.id = zone) ∧ s.feedOf all zone ≠ []) :=
          fun both => here both.1
        rw [if_neg other]
        refine if_congr (and_congr_left fun _ => ?_) rfl rfl
        simp only [List.mem_cons, exists_eq_or_imp, here, false_or]

/-! ## A whole call -/

/-- What is read of a list belongs to those of its items that can be read. -/
theorem forall₂_filterMap_isSome {A B : Type} (read : A -> Option B) (items : List A) :
    Forall₂ (fun a b => read a = some b) (items.filter fun a => (read a).isSome)
      (items.filterMap read) := by
  induction items with
  | nil => exact .nil
  | cons a rest ih =>
    cases own : read a with
    | none =>
      rw [List.filter_cons_of_neg (by rw [own]; simp), List.filterMap_cons_none own]
      exact ih
    | some b =>
      rw [List.filter_cons_of_pos (by rw [own]; rfl), List.filterMap_cons_some own]
      exact .cons own ih

theorem forall₂_filterMap {A B : Type} {read : A -> Option B} {items : List A}
    (all : ∀ a ∈ items, ∃ b, read a = some b) :
    Forall₂ (fun a b => read a = some b) items (items.filterMap read) := by
  have whole : items.filter (fun a => (read a).isSome) = items :=
    List.filter_eq_self.mpr fun a member => Option.isSome_iff_exists.mpr (all a member)
  have pairs := forall₂_filterMap_isSome read items
  rw [whole] at pairs
  exact pairs

/-- What the targets of a call start with: the demand of a zone reads what
feeds it, of which everything is known. -/
theorem reads_demand_starters {u : Session} (indexed : u.Indexed) (builtin : u.aliases = .builtin)
    {placed : List Placement} (unique : (u.starters placed).metricIds.Nodup)
    (filled : ∀ id ∈ (u.starters placed).metricIds, id ≠ "") {p : Placement} (member : p ∈ placed)
    (zone : p.kind = Domain.zoneKind) :
    let w := u.starters placed
    let meters := Link.metersFeeding w.network placed p.id
    ∃ demand, w.starterMetric? "zone_demand" p.id = some demand ∧
      Forall₂ (fun meter volume => w.starterMetric? "flow_volume" meter = some volume) meters
        (w.feedOf placed p.id) ∧
      w.reads demand = if meters = [] then u.reads demand else some (w.feedOf placed p.id) := by
  intro w meters
  let v := placed.foldl metricsOfTarget u
  have uv : Moves u v := Moves.foldl u placed fun t q _ => moves_metricsOfTarget t q
  have vw : Deeds [] (Asks fun _ => False) v w :=
    Deeds.foldl placed fun t q _ _ => deeds_triggersOfZone t placed q
  have metrics : w.network.metrics = v.network.metrics := vw.metrics List.not_mem_nil
  rcases vw.targets List.not_mem_nil List.not_mem_nil with ⟨zones, points, _⟩
  have uniqueThen : v.metricIds.Nodup := by
    unfold metricIds
    rw [← metrics]
    exact unique
  -- every target of the call has got its metrics when the triggers of zones are made
  have through : ∀ q ∈ placed, ∃ t : Session, t.aliases = .builtin ∧
      Moves (t.metricsOfTarget q) v := by
    intro q among
    rcases foldl_through moves_metricsOfTarget among u with ⟨t, before, after⟩
    exact ⟨t, before.settings.2.1.trans builtin, after⟩
  have demandOf : ∃ demand, v.starterMetric? "zone_demand" p.id = some demand := by
    rcases through p member with ⟨t, plain, after⟩
    rcases zoneDemand_metricsOfTarget plain zone with ⟨demand, known⟩
    exact ⟨demand, after.metric? known⟩
  have volumeOf : ∀ meter ∈ meters,
      ∃ volume, w.starterMetric? "flow_volume" meter = some volume := by
    intro meter feeds
    rcases Link.mem_metersFeeding feeds with ⟨q, among, kind, rfl⟩
    rcases through q among with ⟨t, plain, after⟩
    rcases flowVolume_metricsOfTarget plain kind with ⟨volume, known⟩
    exact ⟨volume, vw.moves.metric? (after.metric? known)⟩
  rcases demandOf with ⟨demand, known⟩
  have knownAfter : w.starterMetric? "zone_demand" p.id = some demand := vw.moves.metric? known
  have pairs := forall₂_filterMap volumeOf
  refine ⟨demand, knownAfter, pairs, ?_⟩
  have named : demand ≠ "" := filled demand (mem_metricIds knownAfter)
  have feed : v.feedOf placed p.id = w.feedOf placed p.id :=
    (feedOf_congr zones points metrics placed p.id).symm
  have before := reads_foldl_metricsOfTarget builtin indexed placed vw.moves unique knownAfter named
  have after := reads_foldl_triggersOfZone (indexed.moves uv) uniqueThen placed placed named known
  have called : ∃ q ∈ placed, q.kind = Domain.zoneKind ∧ q.id = p.id := ⟨p, member, zone, rfl⟩
  have same : w.reads demand = if w.feedOf placed p.id ≠ [] then some (w.feedOf placed p.id)
      else u.reads demand := by
    rw [feed] at after
    simp only [called, true_and] at after
    exact after.trans (by rw [before])
  rw [same]
  have empty : w.feedOf placed p.id = [] ↔ meters = [] := by
    rw [← List.length_eq_zero_iff, ← List.length_eq_zero_iff, pairs.length_eq]
    rfl
  by_cases fed : meters = []
  · rw [if_pos fed, if_neg (fun some' => some' (empty.mpr fed))]
  · rw [if_neg fed, if_pos (fun none => fed (empty.mp none))]

/-- After a call that compiles a domain, with the synonyms that are built in,
the demand of each of its zones reads the volumes of those meters of the call
that feed the zone, all of them and in their order.  If there are none its
trigger is as it was before. -/
theorem reads_demand_addDomain {options : Options} (plain : options.aliases = .none)
    (starting : options.starterMetrics = true) (supply : Nat) (calls : List Call)
    (items : List Domain.Item)
    (fresh : (((start options supply).run calls).addDomain items).Fresh) :
    let s := (start options supply).run calls
    let t := s.addDomain items
    let placed := (s.placeItems [] items).1
    ∀ p ∈ placed, p.kind = Domain.zoneKind ->
      let meters := Link.metersFeeding t.network placed p.id
      ∃ demand, t.starterMetric? "zone_demand" p.id = some demand ∧
        Forall₂ (fun meter volume => t.starterMetric? "flow_volume" meter = some volume) meters
          (t.feedOf placed p.id) ∧
        t.reads demand = if meters = [] then s.reads demand else some (t.feedOf placed p.id) := by
  intro s t placed p member zone meters
  have began : (start options supply).Indexed := rfl
  have begun : Moves (start options supply) s := moves_run _ calls
  have catalogued : t.Catalogued :=
    (catalogued_start options supply).moves began (begun.trans (moves_addDomain s items))
  let u := (s.placeItems [] items).2.writeLinks placed
  have linked : Deeds (targetModels ++ [Fixture.Model.link]) Silent s u :=
    ((deeds_placeItems s [] items).widen (by decide)).trans
      ((deeds_writeLinks _ placed).widen (by decide))
  have builtin : u.aliases = .builtin := by
    have own : (start options supply).aliases = .extended options.aliases := rfl
    rw [linked.settings.2, begun.settings.2.1, own, plain]
    rfl
  have on : u.options.starterMetrics = true := by
    have settings : u.options = options := linked.settings.1.trans begun.settings.1
    rw [settings]
    exact starting
  -- the call ends with a notice, which nothing here depends on
  have noted : Quiet (u.starters placed) t := by
    have whole : t = (if u.options.starterMetrics then u.starters placed else u).note
        (.domainCompiled items.length ((if u.options.starterMetrics then u.starters placed
          else u).rows.length - s.rows.length)) := rfl
    rw [on] at whole
    exact whole ▸ Quiet.note _ _
  have network := noted.network
  have ids : (u.starters placed).metricIds = t.metricIds := by
    unfold metricIds
    rw [network]
  rcases reads_demand_starters ((began.moves begun).moves linked.moves) builtin
    (ids ▸ catalogued.nodup_metricIds fresh) (ids ▸ fun id known => catalogued.ne_empty known)
    member zone with ⟨demand, known, pairs, reads⟩
  have earlier : u.reads demand = s.reads demand := linked.reads_of_silent (began.moves begun)
  have now : t.reads demand = (u.starters placed).reads demand :=
    congrArg (Option.map Row.inputs) noted.triggerRow?
  have metrics := congrArg Network.metrics network
  have sources : meters = Link.metersFeeding (u.starters placed).network placed p.id :=
    congrArg (Link.metersFeeding · placed p.id) network
  have feed : t.feedOf placed p.id = (u.starters placed).feedOf placed p.id :=
    feedOf_congr (congrArg Network.zones network) (congrArg Network.points network) metrics _ _
  rw [starterMetric?_congr metrics, sources, feed]
  exact ⟨demand, known, pairs, (now.trans reads).trans (by rw [earlier])⟩

/-- A second meter that feeds the zone. -/
def southMeter : Domain.Item :=
  ⟨"flow_meter", "South inlet", .null, some "North", none, none, none, none, none, none, none, none⟩

/-- The zone is named again with the second meter only. -/
theorem reads_demand_north :
    let s := (start .default 0).run [.domain [northZone, northMeter]]
    let t := s.addDomain [northZone, southMeter]
    let placed := (s.placeItems [] [northZone, southMeter]).1
    t.Fresh ∧ placed.map Placement.kind = ["zone", "flow_meter"] ∧
      ∀ p ∈ placed, p.kind = Domain.zoneKind ->
        ∃ demand, t.starterMetric? "zone_demand" p.id = some demand ∧
          Forall₂ (fun meter volume => t.starterMetric? "flow_volume" meter = some volume)
            (Link.metersFeeding t.network placed p.id) (t.feedOf placed p.id) ∧
          t.reads demand = if Link.metersFeeding t.network placed p.id = [] then s.reads demand
            else some (t.feedOf placed p.id) := by
  -- evaluated together, as the keys of the session are the costly part of either
  have evaluated : (((start .default 0).run [.domain [northZone, northMeter]]).addDomain
        [northZone, southMeter]).Fresh ∧
      (((start .default 0).run [.domain [northZone, northMeter]]).placeItems []
        [northZone, southMeter]).1.map Placement.kind = ["zone", "flow_meter"] := by
    unfold Fresh
    decide +kernel
  rcases evaluated with ⟨fresh, kinds⟩
  exact ⟨fresh, kinds, reads_demand_addDomain rfl rfl 0 [.domain [northZone, northMeter]]
    [northZone, southMeter] fresh⟩

/-- The volumes of all flow meters that some row links to a zone as an inlet. -/
def inletVolumes (s : Session) (zone : String) : List String :=
  s.volumes (((s.rows.filterMap Link.ofRow?).filter fun link =>
    link.role == Link.inlet && link.zone == zone).map Link.sensor)

/-- The first meter keeps its link and its volume, but the demand of the zone
no longer reads it. -/
theorem demand_north_loses_inlet :
    let s := (start .default 0).run
      [.domain [northZone, northMeter], .domain [northZone, southMeter]]
    (s.network.zones.map fun zone => (s.inletVolumes zone.id).length) = [2] ∧
      (s.network.zones.map fun zone => ((s.starterMetric? "zone_demand" zone.id).bind s.reads).map
        fun inputs => inputs == (s.inletVolumes zone.id).drop 1) = [some true] := by
  decide +kernel

end Session
end Sensornet
