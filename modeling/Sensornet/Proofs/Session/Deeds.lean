import Mathlib.Data.List.Nodup
import Mathlib.Data.List.Perm.Subperm
import Sensornet.Proofs.Network.Coverage
import Sensornet.Proofs.Session.Accounts
import Sensornet.Proofs.Session.Asking

namespace Sensornet
namespace Session

/-!
# What a stage does, and for whom

`Moves` says how rows change.  Deeds say besides which models a stage enters
rows of, and which triggers it may ask for.  A trigger is asked for by the
domain, whose triggers read and write metrics that are known, or by a blueprint
that was kept, in one of its contexts.  Keys are bound too, and those that a
zone or point may know are keys of metrics and triggers.

A stage that enters no rows of targets leaves the targets of the network
alone, and one that enters no metrics leaves the metrics alone.
-/

open Fixture (Key Row Registry)
open Json (Value Fields)
open Template (Item Kind)
open Relation (ReflTransGen)
open scoped List

/-- The ids of the metrics that are known, in the order in which they came up. -/
def metricIds (s : Session) : List String :=
  s.network.metrics.map Prod.snd

/-- The triggers that may be asked for, with what is known then. -/
inductive Asks (kept : Item -> Prop) (s : Session) (wanted : Trigger) : Prop where
  | starter (output : wanted.outputMetric ∈ s.metricIds)
      (inputs : wanted.inputMetrics <+~ s.metricIds)
  | blueprint {item : Item} (chosen : kept item) {context : Context}
      (made : context ∈ contextsOf s.network s.aliases item)
      (output : wanted.outputMetric = (s.scene context).outputOf item)
      (inputs : wanted.inputMetrics = (s.scene context).inputsOf item)

/-- One deed of a stage that enters rows of some models and asks for some
triggers. -/
inductive Deed (models : List String) (asks : Session -> Trigger -> Prop) :
    Session -> Session -> Prop where
  | still {s t : Session} (same : s.Still t) : Deed models asks s t
  | bind {s : Session} (id : Option String) {context : Context.Name} {key : Key}
      (named : context = .global ∨ s.Names key) : Deed models asks s (s.bind id context key)
  | enter {s : Session} {registry : Registry} {row : Row} (model : String)
      (issued : s.registry.Issues row.key registry) (new : s.Enters row)
      (named : row.IsNamed s.registry registry) (own : row.model = model)
      (among : model ∈ models) (passive : model ≠ Fixture.Model.trigger) :
      Deed models asks s (s.enter registry row)
  | ask {s : Session} {wanted : Trigger} (asked : asks s wanted) :
      Deed models asks s (s.putTrigger wanted).2

/-- Any number of deeds. -/
abbrev Deeds (models : List String) (asks : Session -> Trigger -> Prop) :
    Session -> Session -> Prop :=
  ReflTransGen (Deed models asks)

section

variable {models others : List String} {asks wider : Session -> Trigger -> Prop}
  {kept more : Item -> Prop} {s t : Session} {wanted : Trigger}

theorem Asks.mono (within : ∀ item, kept item -> more item) (s : Session) (wanted : Trigger)
    (asked : s.Asks kept wanted) : s.Asks more wanted := by
  cases asked with
  | starter output inputs => exact .starter output inputs
  | blueprint chosen made output inputs => exact .blueprint (within _ chosen) made output inputs

theorem Deeds.mono (run : Deeds models asks s t) (among : models ⊆ others)
    (within : ∀ s wanted, asks s wanted -> wider s wanted) : Deeds others wider s t := by
  induction run with
  | refl => exact .refl
  | tail _ deed ih =>
    refine ih.tail ?_
    cases deed with
    | still same => exact .still same
    | bind id named => exact .bind id named
    | enter model issued new named own chosen passive =>
      exact .enter model issued new named own (among chosen) passive
    | ask asked => exact .ask (within _ _ asked)

theorem Deeds.widen (run : Deeds models asks s t) (among : models ⊆ others) :
    Deeds others asks s t :=
  run.mono among fun _ _ asked => asked

theorem Still.deeds (same : s.Still t) : Deeds models asks s t :=
  .single (.still same)

/-- Deeds are moves. -/
theorem Deeds.moves (run : Deeds models asks s t) : Moves s t := by
  induction run with
  | refl => exact .refl
  | tail _ deed ih =>
    refine ih.trans ?_
    cases deed with
    | still same => exact same.toQuiet.moves
    | bind id named => exact (Quiet.bind _ _ _ _).moves
    | enter model issued new named own among passive => exact .single (.enter issued new named)
    | ask asked => exact moves_putTrigger _ _

/-- A fold does what its steps do, each of which may rely on what was done
before it. -/
theorem Deeds.foldl {A : Type} {step : Session -> A -> Session} (items : List A)
    (each : ∀ (t : Session) (a : A), a ∈ items -> Deeds models asks s t ->
      Deeds models asks t (step t a)) : Deeds models asks s (items.foldl step s) := by
  have onward : ∀ (rest : List A) (t : Session), rest ⊆ items -> Deeds models asks s t ->
      Deeds models asks s (rest.foldl step t) := by
    intro rest
    induction rest with
    | nil => exact fun t _ before => before
    | cons a rest ih =>
      intro t among before
      have member : a ∈ items := among List.mem_cons_self
      exact ih (step t a) (List.subset_of_cons_subset among)
        (before.trans (each t a member before))
  exact onward items s (fun _ member => member) .refl

/-! ## What is left alone -/

theorem network_putTrigger (s : Session) (wanted : Trigger) :
    ∃ triggers, (s.putTrigger wanted).2.network = { s.network with triggers } := by
  cases complete : wanted.isComplete with
  | false =>
    rw [s.putTrigger_incomplete complete]
    exact ⟨_, rfl⟩
  | true =>
    rcases s.stands_or_unknown wanted.outputMetric with ⟨position, row, known, stands⟩ | unknown
    · rw [s.putTrigger_known complete known stands]
      exact ⟨_, rfl⟩
    · rw [s.putTrigger_new complete unknown]
      dsimp only [network_enter]
      rw [Network.indexRow_triggerRow _ complete]
      exact ⟨_, rfl⟩

theorem targets_indexRow (n : Network) {row : Row} (zone : row.model ≠ Fixture.Model.polygon)
    (point : row.model ≠ Fixture.Model.point) (position : Nat) :
    (n.indexRow row position).zones = n.zones ∧ (n.indexRow row position).points = n.points ∧
      (n.indexRow row position).targets = n.targets := by
  unfold Network.indexRow
  rw [if_neg zone, if_neg point]
  split
  · split <;> exact ⟨rfl, rfl, rfl⟩
  · split
    · split <;> exact ⟨rfl, rfl, rfl⟩
    · exact ⟨rfl, rfl, rfl⟩

theorem metrics_indexRow (n : Network) {row : Row} (metric : row.model ≠ Fixture.Model.metric)
    (position : Nat) : (n.indexRow row position).metrics = n.metrics := by
  unfold Network.indexRow
  rw [if_neg metric]
  split
  · rfl
  · split
    · split <;> rfl
    · split
      · split <;> rfl
      · rfl

theorem network_bind (s : Session) (id : Option String) (context : Context.Name) (key : Key) :
    (s.bind id context key).network = s.network :=
  (Quiet.bind s id context key).network

/-- Deeds that enter no rows of targets leave the targets where they are. -/
theorem Deeds.targets (run : Deeds models asks s t) (noZones : Fixture.Model.polygon ∉ models)
    (noPoints : Fixture.Model.point ∉ models) :
    t.network.zones = s.network.zones ∧ t.network.points = s.network.points ∧
      t.network.targets = s.network.targets := by
  induction run with
  | refl => exact ⟨rfl, rfl, rfl⟩
  | @tail u v _ deed ih =>
    cases deed with
    | still same =>
      rw [same.network]
      exact ih
    | bind id named =>
      rw [network_bind]
      exact ih
    | @enter registry row model issued new named own among passive =>
      have zone : row.model ≠ Fixture.Model.polygon := fun same => noZones (same ▸ own ▸ among)
      have point : row.model ≠ Fixture.Model.point := fun same => noPoints (same ▸ own ▸ among)
      rcases targets_indexRow u.network zone point u.rows.length with ⟨zones, points, targets⟩
      exact ⟨zones.trans ih.1, points.trans ih.2.1, targets.trans ih.2.2⟩
    | @ask wanted asked =>
      rcases network_putTrigger u wanted with ⟨triggers, same⟩
      rw [same]
      exact ih

/-- Deeds that enter no metrics leave the metrics as they are. -/
theorem Deeds.metrics (run : Deeds models asks s t) (noMetrics : Fixture.Model.metric ∉ models) :
    t.network.metrics = s.network.metrics := by
  induction run with
  | refl => rfl
  | @tail u v _ deed ih =>
    cases deed with
    | still same =>
      rw [same.network]
      exact ih
    | bind id named =>
      rw [network_bind]
      exact ih
    | @enter registry row model issued new named own among passive =>
      have metric : row.model ≠ Fixture.Model.metric := fun same => noMetrics (same ▸ own ▸ among)
      exact (metrics_indexRow u.network metric u.rows.length).trans ih
    | @ask wanted asked =>
      rcases network_putTrigger u wanted with ⟨triggers, same⟩
      rw [same]
      exact ih

/-- The contexts of a blueprint depend on the zones and points only. -/
theorem contextsOf_congr {n m : Network} (zones : m.zones = n.zones) (points : m.points = n.points)
    (aliases : Metric.Aliases) (item : Item) :
    contextsOf m aliases item = contextsOf n aliases item := by
  unfold contextsOf Scope.contexts
  rw [zones, points]

/-- The links that are called for depend on the zones and points only. -/
theorem wantedBy_congr {n m : Network} (zones : m.zones = n.zones) (points : m.points = n.points) :
    Link.wantedBy m = Link.wantedBy n := by
  funext p
  unfold Link.wantedBy Link.around Link.named Network.point? Network.zonesAround
    Network.zoneLabelled?
  rw [zones, points]

theorem Deeds.settings (run : Deeds models asks s t) :
    t.options = s.options ∧ t.aliases = s.aliases :=
  ⟨run.moves.settings.1, run.moves.settings.2.1⟩

/-- The contexts of a blueprint are the same before and after deeds that add no
targets. -/
theorem Deeds.contexts (run : Deeds models asks s t) (noZones : Fixture.Model.polygon ∉ models)
    (noPoints : Fixture.Model.point ∉ models) (item : Item) :
    contextsOf t.network t.aliases item = contextsOf s.network s.aliases item := by
  rcases run.targets noZones noPoints with ⟨zones, points, _⟩
  rw [contextsOf_congr zones points, run.settings.2]

end

section

variable {asks : Session -> Trigger -> Prop} {kept : Item -> Prop} (s : Session)

/-! ## Placing and linking -/

/-- The models of targets. -/
def targetModels : List String :=
  [Fixture.Model.polygon, Fixture.Model.point]

theorem deeds_placeItem (placed : List Placement) (item : Domain.Item) :
    Deeds targetModels asks s (s.placeItem placed item).2 := by
  cases known : (s.network.targetsNamed item.kind item.label)[earlier placed item]? with
  | some id =>
    rw [s.placeItem_known known]
    exact (Still.note s _).deeds
  | none =>
    have noted : Deeds targetModels asks s (s.noteShared placed item) :=
      (Still.noteShared s placed item).deeds
    by_cases zone : item.kind = Domain.zoneKind
    · rw [s.placeItem_zone known zone, placeAsZone_eq]
      exact (noted.tail (.enter Fixture.Model.polygon (.text .polygon _) (.zone item _)
        (.of_purpose (purpose?_zoneRow item _) rfl) rfl (by decide) (by decide))).trans (Still.noteZone _ item).deeds
    · rw [s.placeItem_point known zone, placeAsPoint_eq]
      exact (noted.tail (.enter Fixture.Model.point (.text .point _) (.point item _ zone)
        (.of_purpose (purpose?_pointRow item _ _) rfl) rfl (by decide) (by decide))).trans (Still.notePoint _ item _).deeds

theorem deeds_placeItems (placed : List Placement) (items : List Domain.Item) :
    Deeds targetModels asks s (s.placeItems placed items).2 := by
  induction items generalizing s placed with
  | nil => exact .refl
  | cons item rest ih => exact (deeds_placeItem s placed item).trans (ih _ _)

theorem deeds_foldl_writeLink {written : List Link}
    (carried : written = s.rows.filterMap Link.ofRow?) (links : List Link) :
    Deeds [Fixture.Model.link] asks s (links.foldl writeLink (written, s)).2 := by
  induction links generalizing s written with
  | nil => exact .refl
  | cons link rest ih =>
    have first : Deeds [Fixture.Model.link] asks s (writeLink (written, s) link).2 := by
      by_cases known : link ∈ written
      · have same : writeLink (written, s) link = (written, s) := if_pos known
        rw [same]
      · rw [writeLink_new s known]
        exact .single (.enter Fixture.Model.link .integer (.link _ (carried ▸ known))
          (.of_integer rfl) rfl (by decide) (by decide))
    exact first.trans (ih _ (written_writeLink s carried link))

theorem deeds_writeLinks (placed : List Placement) :
    Deeds [Fixture.Model.link] asks s (s.writeLinks placed) :=
  .trans (Still.noteAll s _).deeds (deeds_foldl_writeLink _ rfl _)

/-! ## Metrics and triggers to start with -/

variable {s}

/-- A known metric has a known id. -/
theorem mem_metricIds {identity : Metric.Identity} {id : String}
    (known : s.network.metric? identity = some id) : id ∈ s.metricIds :=
  List.mem_map.mpr ⟨(identity, id), Entries.mem_of_get? known, rfl⟩

variable (s)

theorem deeds_obtainMetric (fields : Fields) :
    Deeds [Fixture.Model.metric] asks s (s.obtainMetric fields).2 := by
  cases known : s.network.metric?
      (.ofFields (Metric.complete s.aliases s.options.storageTable fields)) with
  | some id =>
    rcases s.obtainMetric_known known with ⟨notice, found⟩
    rw [found]
    exact (Still.note s notice).deeds
  | none =>
    rw [s.obtainMetric_new known]
    exact .single (.enter Fixture.Model.metric (.text .metric _) (.metric _ known)
      (.of_purpose (purpose?_metricRow _ _) rfl) rfl (by decide) (by decide))

theorem deeds_starterTrigger {models : List String} (name seed description : String) (more : Fields)
    {inputs : List String} {output : String} (writes : output ∈ s.metricIds)
    (reads : inputs <+~ s.metricIds) :
    Deeds models (Asks kept) s (s.starterTrigger name seed description more inputs output) :=
  .trans (Still.drawToken s seed).deeds (.single (.ask (.starter writes reads)))

theorem deeds_metricsOfTarget (placed : Placement) :
    Deeds [Fixture.Model.metric] (Asks kept) s (s.metricsOfTarget placed) := by
  unfold metricsOfTarget
  dsimp only
  split
  · exact (deeds_obtainMetric s _).trans (deeds_obtainMetric _ _)
  · split
    · have reading := s.metric?_obtainMetric
        (Starter.flowReading placed.item placed.id s.options.rawStorageTable)
      refine ((deeds_obtainMetric s _).trans (deeds_obtainMetric _ _)).trans
        (deeds_starterTrigger _ _ _ _ _ (mem_metricIds (metric?_obtainMetric _ _)) ?_)
      exact List.singleton_subperm_iff.mpr
        (mem_metricIds (metric?_obtainMetric_of_known _ reading _))
    · split
      · exact deeds_obtainMetric s _
      · exact .refl

/-- A metric of a target at the standard interval, with its identity. -/
def starterEntry? (s : Session) (category target : String) : Option (Metric.Identity × String) :=
  (s.starterMetric? category target).map
    (Prod.mk (Metric.Identity.mk category Starter.quarterHour target))

/-- Different targets have different metrics. -/
theorem filterMap_starterMetric?_subperm {targets : List String} (unique : targets.Nodup)
    (category : String) : targets.filterMap (s.starterMetric? category) <+~ s.metricIds := by
  have entries : targets.filterMap (s.starterMetric? category) =
      (targets.filterMap (s.starterEntry? category)).map Prod.snd := by
    rw [List.map_filterMap]
    refine List.filterMap_congr fun target _ => ?_
    unfold starterEntry?
    cases s.starterMetric? category target <;> rfl
  have apart : (targets.filterMap (s.starterEntry? category)).Nodup := by
    refine List.Nodup.filterMap (fun target other pair first second => ?_) unique
    rcases Option.map_eq_some_iff.mp first with ⟨_, _, rfl⟩
    rcases Option.map_eq_some_iff.mp second with ⟨_, _, same⟩
    exact (congrArg (fun pair => pair.1.target) same).symm
  have known : targets.filterMap (s.starterEntry? category) ⊆ s.network.metrics := by
    intro pair member
    rcases List.mem_filterMap.mp member with ⟨target, _, own⟩
    rcases Option.map_eq_some_iff.mp own with ⟨id, found, rfl⟩
    exact Entries.mem_of_get? found
  rw [entries]
  rcases apart.subperm known with ⟨chosen, rearranged, among⟩
  exact ⟨chosen.map Prod.snd, rearranged.map Prod.snd, among.map Prod.snd⟩

theorem deeds_demandTrigger {models : List String} (zone label : String) {meters : List String}
    (unique : meters.Nodup) : Deeds models (Asks kept) s (s.demandTrigger zone label meters) := by
  unfold demandTrigger
  dsimp only
  split
  · next demand _ _ found filled =>
    exact deeds_starterTrigger s _ _ _ _ (mem_metricIds found)
      (s.filterMap_starterMetric?_subperm unique "flow_volume")
  · exact .refl

theorem deeds_pressureTrigger {models : List String} (zone label : String) :
    Deeds models (Asks kept) s (s.pressureTrigger zone label) := by
  unfold pressureTrigger
  split
  · exact .refl
  · dsimp only
    split
    · next average _ _ found filled =>
      exact deeds_starterTrigger s _ _ _ _ (mem_metricIds found)
        (s.network.sensorMetrics_sublist "pressure" none _).subperm
    · exact .refl

theorem deeds_triggersOfZone {models : List String} (all : List Placement) (placed : Placement) :
    Deeds models (Asks kept) s (s.triggersOfZone all placed) := by
  unfold triggersOfZone
  split
  · exact (deeds_demandTrigger s _ _ (nodup_distinct _)).trans (deeds_pressureTrigger _ _ _)
  · exact .refl

theorem deeds_starters (placed : List Placement) :
    Deeds [Fixture.Model.metric] (Asks kept) s (s.starters placed) :=
  .trans (Deeds.foldl placed fun t p _ _ => deeds_metricsOfTarget t p)
    (Deeds.foldl placed fun t p _ _ => deeds_triggersOfZone t placed p)

/-! ## Templates -/

theorem deeds_makeMetric (item : Item) (context : Context) :
    Deeds [Fixture.Model.metric] asks s (makeMetric item s context) := by
  have resolved : Deeds [Fixture.Model.metric] asks s (s.resolve context (.object item.fields)).2 :=
    (Still.resolve s context (.object item.fields)).deeds
  have made := resolved.trans
    (deeds_obtainMetric _ (s.resolve context (.object item.fields)).1.fields)
  exact made.tail (.bind item.abstractionId? (.inr (.metric (metric?_obtainMetric _ _))))

theorem deeds_makeMetrics (item : Item) :
    Deeds [Fixture.Model.metric] asks s (s.makeMetrics item) := by
  unfold makeMetrics
  dsimp only
  split
  · exact .trans (Still.note s _).deeds
      (Deeds.foldl _ fun t context _ _ => deeds_makeMetric t item context)
  · exact Deeds.foldl _ fun t context _ _ => deeds_makeMetric t item context

/-- The key of a trigger that was put is bound. -/
theorem deeds_bindTrigger {models : List String} (item : Item) (context : Context)
    (wanted : Trigger) : Deeds models asks (s.putTrigger wanted).2
      (bindTrigger item context (s.putTrigger wanted)) := by
  rcases bindTrigger_cases item context (s.putTrigger wanted) with ⟨key, put, bound⟩ | ⟨_, noted⟩
  · rw [bound]
    exact .single (.bind _ (.inr (names_putTrigger _ put)))
  · rw [noted]
    exact (Still.note _ _).deeds

/-- Making a trigger blueprint asks for the one trigger that it stands for. -/
theorem deeds_makeTrigger_of {models : List String} {item : Item} {context : Context}
    (asked : ∀ (t : Session) (wanted : Trigger), s.Still t ->
      wanted.outputMetric = (s.scene context).outputOf item ->
      wanted.inputMetrics = (s.scene context).inputsOf item -> asks t wanted) :
    Deeds models asks s (makeTrigger item s context) := by
  rcases s.makeTrigger_eq item context with ⟨t, wanted, still, output, inputs, made⟩
  rw [made]
  exact (still.deeds.tail (.ask (asked t wanted still output inputs))).trans
    (deeds_bindTrigger t item context wanted)

theorem deeds_makeTrigger {models : List String} {item : Item} (chosen : kept item)
    {context : Context} (made : context ∈ contextsOf s.network s.aliases item) :
    Deeds models (Asks kept) s (makeTrigger item s context) := by
  refine deeds_makeTrigger_of s fun t wanted still output inputs => ?_
  have scene : t.scene context = s.scene context := by
    unfold scene
    rw [still.network, still.bindings, still.aliases]
  have contexts : context ∈ contextsOf t.network t.aliases item := by
    rw [still.network, still.aliases]
    exact made
  exact .blueprint chosen contexts (scene ▸ output) (scene ▸ inputs)

/-- The contexts are those of the beginning, as triggers place no targets. -/
theorem deeds_makeTriggers {models : List String} (noZones : Fixture.Model.polygon ∉ models)
    (noPoints : Fixture.Model.point ∉ models) {item : Item} (chosen : kept item) :
    Deeds models (Asks kept) s (s.makeTriggers item) := by
  refine Deeds.foldl _ fun t context member before => deeds_makeTrigger t chosen ?_
  rw [before.contexts noZones noPoints]
  exact member

/-- The models of what is shown to users. -/
def shownModels : List String :=
  [Fixture.Model.card, Fixture.Model.chart, Fixture.Model.map, Fixture.Model.page]

theorem mem_shownModels {kind : Kind} {model : String} (shown : kind.isShown = true)
    (named : kind.model? = some model) :
    model ∈ shownModels ∧ model ≠ Fixture.Model.trigger := by
  cases kind <;> cases shown <;> cases named <;> decide

theorem deeds_makeShown {item : Item} (shown : item.kind.isShown = true) :
    Deeds shownModels asks s (s.makeShown item) := by
  unfold makeShown
  split
  · exact .refl
  · next model named =>
    dsimp only
    rcases mem_shownModels shown named with ⟨among, passive⟩
    have entered : ∀ value notices fields, Deeds shownModels asks s
        (((s.nextInteger.2.resolve .global value).2.noteAll notices).push
          (Widget.row model s.registry.nextInteger.1 fields)) := fun value notices fields =>
      .tail (.single (.enter model .integer (.shown s.registry.nextInteger.1 fields shown named)
        (.of_integer rfl) rfl among passive)) (.still ⟨s.quiet_enter_shown shown named value notices fields, rfl⟩)
    split
    · exact (entered _ _ _).tail (.bind _ (.inl rfl))
    · exact (entered _ _ _).trans (Still.note _ _).deeds

theorem deeds_makeKind {models : List String} {make : Session -> Item -> Session}
    (items : List Item) (kind : Kind)
    (each : ∀ (t : Session) (item : Item), item ∈ items -> item.kind = kind ->
      Deeds models asks t (make t item)) : Deeds models asks s (makeKind make items s kind) := by
  refine Deeds.foldl _ fun t item member _ => ?_
  rcases List.mem_filter.mp member with ⟨among, same⟩
  exact each t item among (of_decide_eq_true same)

theorem deeds_makeMetricKind (items : List Item) :
    Deeds [Fixture.Model.metric] asks s (makeKind makeMetrics items s .metric) :=
  deeds_makeKind s items .metric fun t item _ _ => deeds_makeMetrics t item

theorem deeds_makeTriggerKind {items : List Item}
    (chosen : ∀ item ∈ items, item.kind = .trigger -> kept item) :
    Deeds [] (Asks kept) s (makeKind makeTriggers items s .trigger) :=
  deeds_makeKind s items .trigger fun t item member same =>
    deeds_makeTriggers t List.not_mem_nil List.not_mem_nil (chosen item member same)

theorem deeds_makeShownKinds (items : List Item) :
    Deeds shownModels asks s
      ([Kind.card, .chart, .map, .page].foldl (makeKind makeShown items) s) := by
  refine Deeds.foldl _ fun t kind member _ => ?_
  have shown : ∀ kind ∈ [Kind.card, .chart, .map, .page], kind.isShown = true := by decide
  exact deeds_makeKind t items kind fun u item _ same =>
    deeds_makeShown u (same ▸ shown kind member)

/-! ## Calls -/

/-- The models of the rows that a domain becomes, triggers excepted. -/
def domainModels : List String :=
  targetModels ++ [Fixture.Model.link, Fixture.Model.metric]

/-- The models of the rows that a template becomes, triggers excepted. -/
def templateModels : List String :=
  Fixture.Model.metric :: shownModels

theorem deeds_addDomain (items : List Domain.Item) :
    Deeds domainModels (Asks kept) s (s.addDomain items) := by
  have placed : Deeds domainModels (Asks kept) s (s.placeItems [] items).2 :=
    (deeds_placeItems s [] items).widen (by decide)
  have linked := placed.trans ((deeds_writeLinks _ (s.placeItems [] items).1).widen (by decide))
  unfold addDomain
  dsimp only
  split
  · have started := linked.trans ((deeds_starters _ (s.placeItems [] items).1).widen (by decide))
    exact started.trans (Still.note _ _).deeds
  · exact linked.trans (Still.note _ _).deeds

/-- The trigger blueprints that a compile of some sections keeps. -/
def Keeps (template : List Item) (sections : List String) (aliases : Metric.Aliases)
    (item : Item) : Prop :=
  item ∈ (Template.slice template sections aliases).items template ∧ item.kind = .trigger

theorem deeds_addTemplate (template : List Item) (sections : List String) :
    Deeds templateModels (Asks (Keeps template sections s.aliases)) s
      (s.addTemplate template sections) := by
  have noted : Deeds templateModels (Asks (Keeps template sections s.aliases)) s
      (s.noteAll (Template.sliceNotices template sections s.aliases)) := (Still.noteAll s _).deeds
  unfold addTemplate
  dsimp only
  split
  · exact noted.trans (Still.note _ _).deeds
  · unfold make
    have metrics := noted.trans ((deeds_makeMetricKind _
      ((Template.slice template sections s.aliases).items template)).widen (by decide))
    have triggers := metrics.trans ((deeds_makeTriggerKind _
      fun item member same => ⟨member, same⟩).widen (by decide))
    exact (triggers.trans ((deeds_makeShownKinds _ _).widen (by decide))).trans
      (Still.note _ _).deeds

/-- The trigger blueprints that some call keeps. -/
def KeptBy (aliases : Metric.Aliases) (calls : List Call) (item : Item) : Prop :=
  ∃ template sections, Call.template template sections ∈ calls ∧
    Keeps template sections aliases item

/-- The models of all rows but triggers. -/
def passiveModels : List String :=
  domainModels ++ shownModels

theorem deeds_run (calls : List Call) :
    Deeds passiveModels (Asks (KeptBy s.aliases calls)) s (s.run calls) := by
  refine Deeds.foldl calls fun t call member before => ?_
  cases call with
  | domain items => exact (deeds_addDomain t items).widen (by decide)
  | template items sections =>
    refine (deeds_addTemplate t items sections).mono (by decide) (Asks.mono fun item own => ?_)
    rw [before.settings.2] at own
    exact ⟨items, sections, member, own⟩

end

end Session
end Sensornet
