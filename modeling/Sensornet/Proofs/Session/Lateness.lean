import Sensornet.Proofs.Session.Follow

namespace Sensornet
namespace Session

/-!
# Following through a domain

A session without a past compiles a domain, goes on to other things and ends.
A second session that starts from the rows of the end and compiles the same
domain finds all targets and links and all that targets start with.  Only the
triggers of zones depend on more than the domain: the demand reads the volumes
of the meters that feed the zone, and the average pressure reads whatever is
known of the pressure inside.  The second time these may be more, by what was
written after the domain, and then they are late.
-/

open Fixture (Key Row Registry)
open Json (Value Fields)
open Relation (ReflTransGen)

variable {models : List String} {asks : Session -> Trigger -> Prop} {r s t u v : Session}

/-! ## The triggers of zones -/

/-- A trigger of a zone that knows more than it could at first: it reads all
that there is for it in `r`, and this, or what it writes, is partly new. -/
structure Late (new : String -> Prop) (r : Session) (placed : List Placement) (output : String)
    (inputs : List String) : Prop where
  starters : r.options.starterMetrics = true
  zone : ∃ p ∈ placed, p.kind = Domain.zoneKind ∧
    (r.starterMetric? "zone_demand" p.id = some output ∧ inputs = r.feedOf placed p.id ∨
      r.starterMetric? "average_zone_pressure" p.id = some output ∧ inputs = r.pressures p.id)
  new : ∃ id ∈ output :: inputs, new id

/-- The end knows the metrics of a session and new ones besides. -/
structure Outgrows (new : String -> Prop) (s r : Session) : Prop where
  zones : r.network.zones = s.network.zones
  points : r.network.points = s.network.points
  metrics : ∃ more, r.network.metrics = s.network.metrics ++ more ∧ ∀ entry ∈ more, new entry.2

namespace Outgrows

variable {new : String -> Prop} (outgrows : Outgrows new s r)
include outgrows

theorem metric? {identity : Metric.Identity} {id : String}
    (known : s.network.metric? identity = some id) : r.network.metric? identity = some id := by
  rcases outgrows.metrics with ⟨more, whole, _⟩
  exact Entries.get?_of_prefix (whole ▸ List.prefix_append _ _) known

theorem metric?_or_new {identity : Metric.Identity} {id : String}
    (known : r.network.metric? identity = some id) :
    s.network.metric? identity = some id ∨ new id := by
  rcases outgrows.metrics with ⟨more, whole, each⟩
  cases own : s.network.metric? identity with
  | some other =>
    have same := (outgrows.metric? own).symm.trans known
    exact Or.inl same
  | none =>
    refine Or.inr (each (identity, id) ?_)
    have member := Entries.mem_of_get? known
    rw [whole, List.mem_append] at member
    rcases member with old | later
    · have absent := Entries.get?_eq_none_iff.mp own
      exact absurd (List.mem_map_of_mem old) absent
    · exact later

/-- The volumes are the same, or there is a new one. -/
theorem volumes (meters : List String) :
    (∃ id ∈ r.volumes meters, new id) ∨ s.volumes meters = r.volumes meters := by
  by_cases some' : ∃ id ∈ r.volumes meters, new id
  · exact Or.inl some'
  · right
    apply List.filterMap_congr
    intro meter member
    cases known : r.starterMetric? "flow_volume" meter with
    | some id =>
      rcases outgrows.metric?_or_new known with own | later
      · exact own
      · exact absurd ⟨id, List.mem_filterMap.mpr ⟨meter, member, known⟩, later⟩ some'
    | none =>
      cases own : s.starterMetric? "flow_volume" meter with
      | none => rfl
      | some id =>
        have there : r.starterMetric? "flow_volume" meter = some id := outgrows.metric? own
        rw [known] at there
        cases there

theorem volumes_sublist (meters : List String) :
    (s.volumes meters).Sublist (r.volumes meters) :=
  filterMap_sublist fun _ _ _ own => outgrows.metric? own

/-- What is known of the pressure in a zone was known, or is new. -/
theorem pressures (zone : String) :
    ∃ added, r.pressures zone = s.pressures zone ++ added ∧ ∀ id ∈ added, new id := by
  rcases outgrows.metrics with ⟨more, whole, each⟩
  unfold Session.pressures Network.zone?
  rw [outgrows.zones]
  cases s.network.zones.find? fun found => found.id == zone with
  | none => exact ⟨[], rfl, fun _ member => absurd member List.not_mem_nil⟩
  | some found =>
    -- what the new metrics alone would give
    refine ⟨{ s.network with metrics := more }.sensorMetrics "pressure" none found, ?_, ?_⟩
    · rw [Option.map_some, Option.map_some, Option.getD_some, Option.getD_some]
      unfold Network.sensorMetrics Network.point?
      rw [whole, outgrows.points, List.filterMap_append]
    · intro id member
      have among := (Network.sensorMetrics_sublist _ _ _ _).subset member
      rcases List.mem_map.mp among with ⟨entry, later, rfl⟩
      exact each entry later

omit outgrows in
/-- Triggers do not matter to what is outgrown. -/
theorem of_deeds (run : Deeds [] asks s u) : Outgrows new s r ↔ Outgrows new u r := by
  rcases run.targets List.not_mem_nil List.not_mem_nil with ⟨zones, points, _⟩
  have metrics := run.metrics List.not_mem_nil
  constructor
  · intro first
    exact ⟨zones ▸ first.zones, points ▸ first.points, metrics ▸ first.metrics⟩
  · intro later
    exact ⟨zones ▸ later.zones, points ▸ later.points, metrics ▸ later.metrics⟩

end Outgrows

namespace Follows

variable {new : String -> Prop} {all : List Placement}
  (follows : Follows (Late new r all) r s t) (outgrows : Outgrows new s r)
  (starting : r.options.starterMetrics = true)
include follows outgrows starting

theorem demandTrigger {p : Placement} (member : p ∈ all) (zone : p.kind = Domain.zoneKind)
    (label : String) :
    Follows (Late new r all) r
      (s.demandTrigger p.id label (Link.metersFeeding s.network all p.id))
      (t.demandTrigger p.id label (Link.metersFeeding t.network all p.id)) := by
  have meters : Link.metersFeeding s.network all p.id = Link.metersFeeding r.network all p.id :=
    metersFeeding_congr outgrows.zones.symm outgrows.points.symm all p.id
  have metersToo : Link.metersFeeding t.network all p.id = Link.metersFeeding r.network all p.id :=
    metersFeeding_congr follows.targets.1 follows.targets.2.1 all p.id
  have volumesToo : ∀ meters, t.volumes meters = r.volumes meters := by
    intro meters
    unfold Session.volumes
    rw [follows.starterMetric?]
  rw [meters, metersToo]
  have left : Deeds [] (Asks fun _ => False) s (s.demandTrigger p.id label
      (Link.metersFeeding r.network all p.id)) := deeds_demandTrigger s _ _ (nodup_distinct _)
  have right : Deeds [] (Asks fun _ => False) t (t.demandTrigger p.id label
      (Link.metersFeeding r.network all p.id)) := deeds_demandTrigger t _ _ (nodup_distinct _)
  refine follows.puts left.any right.any
    (fun output filled => reads_demandTrigger follows.indexed _ _ _ filled)
    (fun output filled => reads_demandTrigger follows.indexedToo _ _ _ filled) ?_ ?_
  · intro output known some'
    rw [follows.starterMetric?, volumesToo]
    refine ⟨outgrows.metric? known, fun none' => some' ?_⟩
    exact List.sublist_nil.mp (none' ▸ outgrows.volumes_sublist _)
  · intro output known some'
    rw [follows.starterMetric?] at known
    rw [volumesToo]
    have later : (∃ id ∈ output :: r.feedOf all p.id, new id) ->
        Late new r all output (r.feedOf all p.id) :=
      fun added => ⟨starting, ⟨p, member, zone, Or.inl ⟨known, rfl⟩⟩, added⟩
    rcases outgrows.metric?_or_new known with own | outputNew
    · rcases outgrows.volumes (Link.metersFeeding r.network all p.id) with ⟨id, among, idNew⟩ | same
      · exact Or.inr (later ⟨id, List.mem_cons_of_mem _ among, idNew⟩)
      · exact Or.inl ⟨own, same⟩
    · exact Or.inr (later ⟨output, List.mem_cons_self, outputNew⟩)

theorem pressureTrigger {p : Placement} (member : p ∈ all) (zone : p.kind = Domain.zoneKind)
    (label : String) :
    Follows (Late new r all) r (s.pressureTrigger p.id label) (t.pressureTrigger p.id label) := by
  have pressuresToo : t.pressures p.id = r.pressures p.id := by
    unfold Session.pressures Network.zone? Network.sensorMetrics Network.point?
    rw [follows.metrics, follows.targets.1, follows.targets.2.1]
  have left : Deeds [] (Asks fun _ => False) s (s.pressureTrigger p.id label) :=
    deeds_pressureTrigger s _ _
  have right : Deeds [] (Asks fun _ => False) t (t.pressureTrigger p.id label) :=
    deeds_pressureTrigger t _ _
  rcases outgrows.pressures p.id with ⟨added, whole, each⟩
  refine follows.puts left.any right.any
    (fun output filled => reads_pressureTrigger follows.indexed _ _ filled)
    (fun output filled => reads_pressureTrigger follows.indexedToo _ _ filled) ?_ ?_
  · intro output known some'
    rw [follows.starterMetric?, pressuresToo, whole]
    exact ⟨outgrows.metric? known, List.append_ne_nil_of_left_ne_nil some' _⟩
  · intro output known some'
    rw [follows.starterMetric?] at known
    rw [pressuresToo]
    have later : (∃ id ∈ output :: r.pressures p.id, new id) ->
        Late new r all output (r.pressures p.id) :=
      fun added => ⟨starting, ⟨p, member, zone, Or.inr ⟨known, rfl⟩⟩, added⟩
    rcases outgrows.metric?_or_new known with own | outputNew
    · cases added with
      | nil => exact Or.inl ⟨own, by rw [whole, List.append_nil]⟩
      | cons id rest =>
        have among : id ∈ r.pressures p.id := by
          rw [whole]
          exact List.mem_append_right _ List.mem_cons_self
        exact Or.inr (later ⟨id, List.mem_cons_of_mem _ among, each id List.mem_cons_self⟩)
    · exact Or.inr (later ⟨output, List.mem_cons_self, outputNew⟩)

theorem triggersOfZone {p : Placement} (member : p ∈ all) :
    Follows (Late new r all) r (s.triggersOfZone all p) (t.triggersOfZone all p) := by
  unfold Session.triggersOfZone
  by_cases zone : p.kind = Domain.zoneKind
  · rw [if_pos zone, if_pos zone]
    have demand : Deeds [] (Asks fun _ => False) s (s.demandTrigger p.id p.item.label
        (Link.metersFeeding s.network all p.id)) := deeds_demandTrigger s _ _ (nodup_distinct _)
    exact (follows.demandTrigger outgrows starting member zone p.item.label).pressureTrigger
      ((Outgrows.of_deeds demand).mp outgrows) starting member zone p.item.label
  · rw [if_neg zone, if_neg zone]
    exact follows

omit outgrows in
/-- What targets start with is there the second time, but triggers of zones may
be late. -/
theorem starters (ahead : Leads models (s.starters all) r)
    (outgrows : Outgrows new (s.starters all) r) (metric : Fixture.Model.metric ∈ models) :
    Follows (Late new r all) r (s.starters all) (t.starters all) := by
  have zonal : ∀ (s : Session) (p : Placement), p ∈ all ->
      Deeds [] (Asks fun _ => False) s (s.triggersOfZone all p) :=
    fun s p _ => deeds_triggersOfZone s all p
  have triggers : Deeds [] (Asks fun _ => False) (all.foldl Session.metricsOfTarget s)
      (s.starters all) := Deeds.foldl all fun u p member _ => zonal u p member
  have onward : Deeds models Any (all.foldl Session.metricsOfTarget s) (s.starters all) :=
    triggers.any.widen (List.nil_subset models)
  have first : Follows (Late new r all) r (all.foldl Session.metricsOfTarget s)
      (all.foldl Session.metricsOfTarget t) := by
    apply Leads.foldl (Follows (Late new r all) r) all (fun u p _ => ?_)
      (fun u v p _ known both => both.metricsOfTarget p known metric) (ahead.before onward) follows
    apply (deeds_metricsOfTarget u p : Deeds _ (Asks fun _ => False) _ _).any.widen
    simpa using metric
  -- on the way through the triggers what is new stays what it is
  have second : Follows (Late new r all) r (s.starters all) (t.starters all) ∧
      Outgrows new (s.starters all) r := by
    have known : Leads models (all.foldl (fun u p => u.triggersOfZone all p)
        (all.foldl Session.metricsOfTarget s)) r := ahead
    exact Leads.foldl (fun u v => Follows (Late new r all) r u v ∧ Outgrows new u r) all
      (fun u p member => (zonal u p member).any.widen (List.nil_subset models))
      (fun u v p member _ both => ⟨both.1.triggersOfZone both.2 starting member,
        (Outgrows.of_deeds (zonal u p member)).mp both.2⟩)
      known ⟨first, (Outgrows.of_deeds triggers).mpr outgrows⟩
  exact second.1

end Follows

/-! ## A whole domain -/

/-- The session after the items of a call have got their targets and links. -/
def linked (s : Session) (items : List Domain.Item) : Session :=
  (s.placeItems [] items).2.writeLinks (s.placeItems [] items).1

/-- The session after targets have got what they start with, if anything. -/
def equipped (s : Session) (placed : List Placement) : Session :=
  if s.options.starterMetrics then s.starters placed else s

theorem addDomain_eq (s : Session) (items : List Domain.Item) :
    ∃ notice, s.addDomain items =
      ((s.linked items).equipped (s.placeItems [] items).1).note notice :=
  ⟨_, rfl⟩

theorem deeds_placeItems_linked (s : Session) (items : List Domain.Item) :
    Deeds [Fixture.Model.link] asks (s.placeItems [] items).2 (s.linked items) :=
  deeds_writeLinks _ _

theorem deeds_equipped (s : Session) (placed : List Placement) :
    Deeds [Fixture.Model.metric] Any s (s.equipped placed) := by
  unfold equipped
  split
  · exact (deeds_starters s placed : Deeds _ (Asks fun _ => False) _ _).any
  · exact .refl

/-- Whoever comes to have what was placed and linked finds all of it again. -/
theorem linked_again (booked : s.Booked) (items : List Domain.Item)
    (ahead : Leads models (s.linked items) r) (noZones : Fixture.Model.polygon ∉ models)
    (noPoints : Fixture.Model.point ∉ models) (fresh : FreshSince s (s.linked items)) :
    (r.placeItems [] items).1 = (s.placeItems [] items).1 ∧ Still r (r.linked items) := by
  have placing : Moves s (s.placeItems [] items).2 := moves_placeItems s [] items
  have linking : Deeds [Fixture.Model.link] Silent (s.placeItems [] items).2 (s.linked items) :=
    deeds_placeItems_linked s items
  have aheadThen : Leads (Fixture.Model.link :: models) (s.placeItems [] items).2 r :=
    (ahead.mono (List.subset_cons_self _ _)).before (linking.widen (by simp))
  have named : ∀ kind label, (s.placeItems [] items).2.network.targetsNamed kind label <+:
      r.network.targetsNamed kind label := by
    intro kind label
    rcases aheadThen with ⟨f, after, _, network⟩
    rw [network]
    exact after.moves.targetsNamed kind label
  rcases (counted_nil s).placeItems_again booked items (fresh.within .refl linking.moves) named
    with ⟨placed, still⟩
  refine ⟨placed, still.trans ?_⟩
  unfold linked
  rw [placed]
  refine writeLinks_again fun link wanted => ?_
  have zonesToo : Fixture.Model.polygon ∉ Fixture.Model.link :: models := by
    intro among
    rcases List.mem_cons.mp among with same | later
    · exact absurd same (by decide)
    · exact noZones later
  have pointsToo : Fixture.Model.point ∉ Fixture.Model.link :: models := by
    intro among
    rcases List.mem_cons.mp among with same | later
    · exact absurd same (by decide)
    · exact noPoints later
  rcases aheadThen.targets zonesToo pointsToo with ⟨zones, points, _⟩
  rw [still.network, wantedBy_congr zones points] at wanted
  rcases ahead with ⟨f, after, rows, _⟩
  rw [still.rows, rows]
  exact (after.moves.links (booked.indexed.moves (placing.trans linking.moves))).subset
    (mem_links_writeLinks _ wanted)

/-- Targets and links are found again. -/
theorem follows_linked {late : String -> List String -> Prop} {options : Options} {supply : Nat}
    {items : List Domain.Item} (started : r.Indexed) (settings : r.options = options)
    (aliases : r.aliases = options.allAliases)
    (ahead : Leads templateModels ((start options supply).linked items) r)
    (fresh : ((start options supply).linked items).Fresh) :
    (r.placeItems [] items).1 = ((start options supply).placeItems [] items).1 ∧
      Follows late r ((start options supply).linked items) (r.linked items) := by
  let s := start options supply
  have booked : s.Booked := ⟨rfl, fun _ among => absurd among List.not_mem_nil⟩
  have placing : Deeds targetModels Silent s (s.placeItems [] items).2 :=
    deeds_placeItems s [] items
  have linking : Deeds [Fixture.Model.link] Silent (s.placeItems [] items).2 (s.linked items) :=
    deeds_placeItems_linked s items
  rcases linked_again booked items ahead (by decide) (by decide) (fresh.since s)
    with ⟨placed, still⟩
  have begin : Follows late r s r :=
    ⟨booked.indexed, started, .refl, settings, aliases, fun _ _ => Or.inr (Or.inl rfl)⟩
  exact ⟨placed, (begin.silent placing (.refl : Deeds [] Silent r r)).silent linking still.deeds⟩

/-- What is known after the domain is outgrown by what is known at the end, by
the metrics written in between. -/
theorem outgrows_addDomain {options : Options} {supply : Nat} {items : List Domain.Item}
    (ahead : Leads templateModels ((start options supply).addDomain items) r) :
    Outgrows (Adds ((start options supply).addDomain items) r)
      ((start options supply).addDomain items) r := by
  have run := moves_addDomain (start options supply) items
  have began : (start options supply).Indexed := rfl
  rcases ahead with ⟨f, after, rows, network⟩
  rcases after.moves.added_metrics (began.moves run)
    ((catalogued_start options supply).moves began run) with ⟨more, grown, each⟩
  rcases after.targets (by decide) (by decide) with ⟨zones, points, _⟩
  rw [← network] at zones points grown
  refine ⟨zones, points, more, grown, fun entry member => ?_⟩
  unfold Adds
  rw [rows]
  exact each entry member

/-- The session that goes on from the rows of another follows it through the
domain that both compile. -/
theorem follows_addDomain {options : Options} {supply : Nat} {items : List Domain.Item}
    (started : r.Indexed) (settings : r.options = options)
    (aliases : r.aliases = options.allAliases)
    (ahead : Leads templateModels ((start options supply).addDomain items) r)
    (fresh : ((start options supply).addDomain items).Fresh) :
    Follows
      (Late (Adds ((start options supply).addDomain items) r) r
        ((start options supply).placeItems [] items).1)
      r ((start options supply).addDomain items) (r.addDomain items) := by
  have outgrows := outgrows_addDomain ahead
  generalize Adds ((start options supply).addDomain items) r = new at outgrows ⊢
  rcases addDomain_eq (start options supply) items with ⟨notice, whole⟩
  rcases addDomain_eq r items with ⟨noticeToo, wholeToo⟩
  let s := (start options supply).linked items
  let placed := ((start options supply).placeItems [] items).1
  have equipping := deeds_equipped s placed
  have noting : Deeds [] Any (s.equipped placed) ((s.equipped placed).note notice) :=
    (Still.note _ notice).deeds
  rw [whole] at ahead fresh outgrows ⊢
  have aheadThen : Leads templateModels (s.equipped placed) r :=
    ahead.before (noting.widen (List.nil_subset _))
  have aheadLinked : Leads templateModels s r :=
    aheadThen.before (equipping.widen (by decide))
  have onward : Moves s ((s.equipped placed).note notice) := equipping.moves.trans noting.moves
  have both : (r.placeItems [] items).1 = placed ∧
      Follows (Late new r placed) r s (r.linked items) :=
    follows_linked started settings aliases aheadLinked (onward.fresh fresh)
  rcases both with ⟨same, follows⟩
  have equipped : Follows (Late new r placed) r (s.equipped placed)
      ((r.linked items).equipped placed) := by
    have outgrowsThen := (Outgrows.of_deeds noting).mpr outgrows
    unfold Session.equipped at aheadThen outgrowsThen ⊢
    rw [follows.options]
    by_cases on : s.options.starterMetrics = true
    · have starting : r.options.starterMetrics = true := by
        rw [← follows.ran.settings.1, follows.options]
        exact on
      simp only [if_pos on] at aheadThen outgrowsThen ⊢
      exact follows.starters starting aheadThen outgrowsThen (by decide)
    · simp only [if_neg on]
      exact follows
  rw [wholeToo, same]
  exact equipped.still (.note _ notice) (.note _ noticeToo)

/-! ## Domains bind nothing -/

theorem bindings_placeItem (s : Session) (placed : List Placement) (item : Domain.Item) :
    (s.placeItem placed item).2.bindings = s.bindings := by
  cases known : (s.network.targetsNamed item.kind item.label)[earlier placed item]? with
  | some id =>
    rw [s.placeItem_known known]
    rfl
  | none =>
    have noted := (Still.noteShared s placed item).bindings
    by_cases zone : item.kind = Domain.zoneKind
    · rw [s.placeItem_zone known zone, placeAsZone_eq]
      exact (Still.noteZone _ item).bindings.trans noted
    · rw [s.placeItem_point known zone, placeAsPoint_eq]
      exact (Still.notePoint _ item item.kind).bindings.trans noted

theorem bindings_placeItems (s : Session) (placed : List Placement) (items : List Domain.Item) :
    (s.placeItems placed items).2.bindings = s.bindings := by
  induction items generalizing s placed with
  | nil => rfl
  | cons item rest ih => exact (ih _ _).trans (bindings_placeItem s placed item)

theorem bindings_foldl_writeLink (links : List Link) (state : List Link × Session) :
    (links.foldl writeLink state).2.bindings = state.2.bindings := by
  induction links generalizing state with
  | nil => rfl
  | cons link rest ih =>
    have first : (writeLink state link).2.bindings = state.2.bindings := by
      unfold writeLink
      dsimp only
      split <;> rfl
    exact (ih _).trans first

theorem bindings_foldl {A : Type} {step : Session -> A -> Session} (items : List A) (s : Session)
    (each : ∀ (t : Session) (a : A), (step t a).bindings = t.bindings) :
    (items.foldl step s).bindings = s.bindings := by
  induction items generalizing s with
  | nil => rfl
  | cons a rest ih => exact (ih _).trans (each s a)

theorem bindings_starterTrigger (s : Session) (name seed description : String) (more : Fields)
    (inputs : List String) (output : String) :
    (s.starterTrigger name seed description more inputs output).bindings = s.bindings :=
  bindings_putTrigger (s.drawToken seed).2 _

theorem bindings_metricsOfTarget (s : Session) (placed : Placement) :
    (s.metricsOfTarget placed).bindings = s.bindings := by
  unfold metricsOfTarget
  dsimp only
  split
  · rw [bindings_obtainMetric, bindings_obtainMetric]
  · split
    · rw [bindings_starterTrigger, bindings_obtainMetric, bindings_obtainMetric]
    · split
      · exact bindings_obtainMetric s _
      · rfl

theorem bindings_triggersOfZone (s : Session) (all : List Placement) (placed : Placement) :
    (s.triggersOfZone all placed).bindings = s.bindings := by
  have demand : ∀ meters, (s.demandTrigger placed.id placed.item.label meters).bindings =
      s.bindings := by
    intro meters
    unfold demandTrigger
    dsimp only
    split
    · exact bindings_starterTrigger s _ _ _ _ _ _
    · rfl
  have pressure : ∀ u : Session, (u.pressureTrigger placed.id placed.item.label).bindings =
      u.bindings := by
    intro u
    unfold pressureTrigger
    split
    · rfl
    · dsimp only
      split
      · exact bindings_starterTrigger u _ _ _ _ _ _
      · rfl
  unfold triggersOfZone
  split
  · rw [pressure, demand]
  · rfl

theorem bindings_addDomain (s : Session) (items : List Domain.Item) :
    (s.addDomain items).bindings = s.bindings := by
  have linked : (s.linked items).bindings = s.bindings := by
    unfold linked writeLinks
    exact (bindings_foldl_writeLink _ _).trans (bindings_placeItems s [] items)
  have equipped : ∀ (u : Session) (placed : List Placement),
      (u.equipped placed).bindings = u.bindings := by
    intro u placed
    unfold Session.equipped starters
    split
    · rw [bindings_foldl placed _ fun t p => bindings_triggersOfZone t placed p,
        bindings_foldl placed u bindings_metricsOfTarget]
    · rfl
  rcases addDomain_eq s items with ⟨notice, whole⟩
  rw [whole]
  exact (equipped _ _).trans linked

end Session
end Sensornet
