import Sensornet.Proofs.Session.Again
import Sensornet.Proofs.Session.Everywhere
import Sensornet.Proofs.Template.Kept

namespace Sensornet

/-!
# Metrics that descriptors stand for

A metric blueprint is kept when a needed descriptor has its category and its
interval.  Which targets the descriptor means plays no part there: a blueprint
without descriptors of its own is made for every zone, also where it was kept
for descriptors of points only.  So what it becomes is among the metrics that the
needed descriptors stand for if one of them has its words and means the targets
of its scope, and otherwise no needed descriptor stands for it.
-/

open Fixture (Key)
open Json (Value Fields)
open Template (Item)
open Sensornet.Metric (Descriptor)

/-! ## Tables with one value under a key -/

namespace Entries

variable {K V : Type} [DecidableEq K] {key : K} {value : V} {entries more : List (K × V)}

/-- What is under a key, however often, is one value. -/
def Holds (entries : List (K × V)) (key : K) (value : V) : Prop :=
  ∀ other, (key, other) ∈ entries ↔ other = value

theorem get?_insertAll_of_known (known : get? key entries = some value)
    (all : ∀ other, (key, other) ∈ more -> other = value) :
    get? key (insertAll entries more) = some value := by
  induction more generalizing entries with
  | nil => exact known
  | cons entry rest ih =>
    obtain ⟨k, v⟩ := entry
    refine ih ?_ fun other member => all other (List.mem_cons_of_mem _ member)
    by_cases own : key = k
    · subst own
      rw [all v List.mem_cons_self]
      exact get?_insert_self key value entries
    · exact (get?_insert_of_ne own v entries).trans known

theorem Holds.get?_insertAll (holds : Holds more key value) (entries : List (K × V)) :
    get? key (insertAll entries more) = some value := by
  rcases List.append_of_mem ((holds value).mpr rfl) with ⟨before, after, rfl⟩
  have written : insertAll entries (before ++ (key, value) :: after) =
      insertAll (insert key value (insertAll entries before)) after := by
    unfold insertAll
    rw [List.foldl_append, List.foldl_cons]
  rw [written]
  refine get?_insertAll_of_known (get?_insert_self key value _) fun other member => ?_
  exact (holds other).mp (List.mem_append_right before (List.mem_cons_of_mem _ member))

end Entries

/-! ## What a blueprint measures -/

/-- A word by which a blueprint may say what it measures.  It is no descriptor,
nothing in it is to be filled in, and no item goes by it. -/
structure Metric.IsWord (aliases : Metric.Aliases) (template : List Item) (word : String) : Prop
    extends Metric.IsPlain aliases word where
  unfilled : word ≠ Resolution.fillMark
  unnamed : ∀ item ∈ template, item.abstractionId? ≠ some word

/-- A metric blueprint that has words for what it measures and for how often, and
leaves the target to the context. -/
structure Template.Item.Measures (item : Item) (aliases : Metric.Aliases) (template : List Item)
    (category interval : String) : Prop where
  ofCategory : Entries.Holds item.fields "category" (.text category)
  ofInterval : Entries.Holds item.fields "interval" (.text interval)
  ofTarget : Entries.Holds item.fields "target_id" (.text Resolution.fillMark)
  words : ∀ word ∈ [category, interval], Metric.IsWord aliases template word

namespace Resolution
namespace Scene

variable {s : Scene}

theorem holds_of_forall₂ {fields members : Fields} (each : List.Forall₂ s.GivesMember fields members)
    {key raw : String} (plain : Rule.ofKey key s.context = .plain)
    (holds : Entries.Holds fields key (.text raw)) :
    Entries.Holds members key (.text (s.soleText .plain raw)) := by
  have sole : ∀ member result : String × Value, s.GivesMember member result ->
      member = (key, .text raw) -> result = (key, .text (s.soleText .plain raw)) := by
    rintro _ result ⟨same, gives⟩ rfl
    rw [plain] at gives
    exact Prod.ext same (gives.text (Or.inl rfl))
  intro value
  constructor
  · intro member
    rcases exists_of_mem_forall₂ each member with ⟨old, among, gives⟩
    have own : old = (key, .text raw) := by
      obtain ⟨k, v⟩ := old
      cases gives.1
      rw [(holds v).mp among]
    exact congrArg Prod.snd (sole old _ gives own)
  · rintro rfl
    rcases exists_of_mem_forall₂_left each ((holds _).mpr rfl) with ⟨result, among, gives⟩
    exact sole _ result gives rfl ▸ among

theorem soleText_fillMark (s : Scene) : s.soleText .plain fillMark = s.context.targetId := by
  have still := s.context.fillPlaceholders_eq_self
    (Metric.isPlain_fillMark s.aliases).placeholders
  unfold soleText
  dsimp only
  rw [still, if_pos rfl]

/-- A word that nothing is bound under stays as it is. -/
theorem soleText_of_isWord {template : List Item} {word : String}
    (isWord : Metric.IsWord s.aliases template word)
    (unbound : s.bindings.get? word s.context.name = none) : s.soleText .plain word = word := by
  have still := s.context.fillPlaceholders_eq_self isWord.placeholders
  unfold soleText
  dsimp only
  rw [still, if_neg isWord.unfilled]
  split
  · unfold metricsOf
    rw [isWord.descriptor]
    rfl
  · unfold nameOf
    rw [unbound]
    rfl

end Scene
end Resolution

namespace Session

variable {s moment : Session} {template : List Item} {sections : List String} {item : Item}
  {context : Context} {category interval : String}

/-- The metric of a blueprint in a context has the canonical words and belongs
to the target. -/
theorem identityIn_of_measures (measures : item.Measures s.aliases template category interval)
    (unbound : ∀ word ∈ [category, interval], s.bindings.get? word context.name = none) :
    s.identityIn item context =
      ⟨s.aliases.category category, s.aliases.interval interval, context.targetId⟩ := by
  have gives : (s.scene context).Gives .plain (.object item.fields)
      (s.resolve context (.object item.fields)).1 := ⟨⟨s.registry, s.notices⟩, rfl⟩
  rcases gives.members with ⟨members, made, each⟩
  have written : ∀ key raw, key ≠ "center" -> Resolution.Rule.ofKey key context = .plain ->
      Entries.Holds item.fields key (.text raw) -> ∀ entries,
        Entries.get? key (Entries.insertAll entries ((s.scene context).withNetworkCenter members)) =
          some (.text ((s.scene context).soleText .plain raw)) := by
    intro key raw other plain holds entries
    rw [(s.scene context).get?_insertAll_withNetworkCenter other]
    exact (Resolution.Scene.holds_of_forall₂ each plain holds).get?_insertAll entries
  have word : ∀ word ∈ [category, interval], (s.scene context).soleText .plain word = word :=
    fun word member => Resolution.Scene.soleText_of_isWord (measures.words word member)
      (unbound word member)
  have ofCategory := written "category" category (by decide) rfl measures.ofCategory
  have ofInterval := written "interval" interval (by decide) rfl measures.ofInterval
  have ofTarget := written "target_id" _ (by decide) rfl measures.ofTarget
  rw [word category List.mem_cons_self] at ofCategory
  rw [word interval (List.mem_cons_of_mem _ List.mem_cons_self)] at ofInterval
  rw [Resolution.Scene.soleText_fillMark] at ofTarget
  unfold identityIn identityFor
  rw [made]
  exact Metric.identity_complete (ofCategory _) (ofInterval _) (ofTarget _)

/-! ## What a blueprint becomes -/

/-- A call makes a blueprint the metric of some id in a context. -/
def Produces (s : Session) (template : List Item) (sections : List String) (item : Item)
    (context : Context) (id : String) : Prop :=
  ∃ moment, s.MakesMetric template sections item context moment ∧
    ((moment.resolve context (.object item.fields)).2.obtainMetric
      (moment.resolve context (.object item.fields)).1.fields).1 = id

/-- Until its moment nothing is bound under the words of a blueprint. -/
theorem MakesMetric.get?_word (makes : s.MakesMetric template sections item context moment)
    {word : String} (unnamed : ∀ other ∈ template, other.abstractionId? ≠ some word)
    (unbound : s.bindings.get? word context.name = none) :
    moment.bindings.get? word context.name = none := by
  have onward : Deeds templateModels Any moment (s.addTemplate template sections) :=
    ((deeds_makeMetric moment item context).widen (by decide)).trans makes.deeds.2
  have same : (s.addTemplate template sections).bindings.get? word context.name =
      s.bindings.get? word context.name :=
    get?_addTemplate (fun other member _ => unnamed other (Template.mem_of_mem_items member))
      makes.kept.2
  exact (get?_between makes.deeds.1 onward same).symm.trans (same.trans unbound)

/-- What a blueprint became is known at the end of the call by its words and its
target. -/
theorem Produces.metric? {id : String} (produces : s.Produces template sections item context id)
    (measures : item.Measures s.aliases template category interval)
    (unbound : ∀ word ∈ [category, interval], s.bindings.get? word context.name = none) :
    (s.addTemplate template sections).network.metric?
      ⟨s.aliases.category category, s.aliases.interval interval, context.targetId⟩ = some id := by
  rcases produces with ⟨moment, makes, rfl⟩
  have aliases : moment.aliases = s.aliases := makes.deeds.1.settings.2
  have identity : moment.identityIn item context =
      ⟨s.aliases.category category, s.aliases.interval interval, context.targetId⟩ := by
    rw [← aliases] at measures ⊢
    exact identityIn_of_measures measures fun word member =>
      makes.get?_word (measures.words word member).unnamed (unbound word member)
  have obtained := metric?_obtainMetric (moment.resolve context (.object item.fields)).2
    (moment.resolve context (.object item.fields)).1.fields
  have made : (makeMetric item moment context).network.metric? (moment.identityIn item context) =
      some ((moment.resolve context (.object item.fields)).2.obtainMetric
        (moment.resolve context (.object item.fields)).1.fields).1 := by
    unfold makeMetric
    dsimp only
    rw [network_bind]
    exact obtained
  rw [← identity]
  exact makes.deeds.2.moves.metric? made

end Session

/-! ## Scopes and descriptors -/

namespace Scope

/-- Whether a descriptor means metrics of the targets of a scope. -/
def isMeantBy : Scope -> Descriptor -> Bool
  | .zone, d => d.meansZones
  | .point, d => !d.meansZones && d.meansPoints

/-- Some of these descriptors has the words of a metric and means the targets of
the scope. -/
def IsSought (scope : Scope) (ds : List Descriptor) (category interval : String) : Prop :=
  ∃ d ∈ ds, d.category = category ∧ d.interval = interval ∧ scope.isMeantBy d = true

variable {n : Network} {d : Descriptor} {scope : Scope} {context : Context}

/-- A descriptor that means the targets of a scope covers all of them. -/
theorem covers_of_isMeantBy (made : context ∈ scope.contexts n) (meant : scope.isMeantBy d = true) :
    n.Covers d context.targetId := by
  unfold Network.Covers
  cases scope with
  | zone =>
    rcases List.mem_map.mp made with ⟨zone, member, rfl⟩
    have zones : d.meansZones = true := meant
    rw [if_pos zones]
    exact ⟨zone, member, rfl⟩
  | point =>
    rcases List.mem_map.mp made with ⟨point, member, rfl⟩
    have parts := Bool.and_eq_true_iff.mp meant
    rw [if_neg (by simpa using parts.1)]
    exact ⟨parts.2, point, member, rfl⟩

/-- Where zones and points are told apart by their ids, it is only the targets
of its own scope that a descriptor covers. -/
theorem isMeantBy_of_covers (made : context ∈ scope.contexts n)
    (apart : ∀ zone ∈ n.zones, ∀ point ∈ n.points, zone.id ≠ point.id)
    (covers : n.Covers d context.targetId) : scope.isMeantBy d = true := by
  unfold Network.Covers at covers
  cases scope with
  | zone =>
    rcases List.mem_map.mp made with ⟨zone, member, rfl⟩
    split at covers
    · next zones => exact zones
    · rcases covers with ⟨_, point, among, same⟩
      exact absurd same.symm (apart zone member point among)
  | point =>
    rcases List.mem_map.mp made with ⟨point, member, rfl⟩
    split at covers
    · rcases covers with ⟨zone, among, same⟩
      exact absurd same (apart zone among point member)
    · next others =>
      exact Bool.and_eq_true_iff.mpr ⟨by simpa using others, covers.1⟩

end Scope

namespace Session

variable {s : Session} {template : List Item} {sections : List String} {item : Item}
  {context : Context} {scope : Scope} {ds : List Descriptor} {category interval id : String}

namespace Legible

/-- Fresh keys tell zones and points apart. -/
theorem zone_ne_point (legible : s.Legible) (fresh : s.Fresh) :
    ∀ zone ∈ s.network.zones, ∀ point ∈ s.network.points, zone.id ≠ point.id := by
  intro zone zonal point pointed same
  rw [congrArg Network.zones legible.indexed, Network.zones_index] at zonal
  rw [congrArg Network.points legible.indexed, Network.points_index] at pointed
  rcases List.mem_map.mp zonal with ⟨row, among, rfl⟩
  rcases List.mem_filterMap.mp pointed with ⟨other, memberToo, placed⟩
  rcases List.mem_filter.mp among with ⟨member, model⟩
  have polygon : row.model = Fixture.Model.polygon := beq_iff_eq.mp model
  unfold Network.pointOf? at placed
  split at placed
  · next isPoint =>
    rcases Option.map_eq_some_iff.mp placed with ⟨place, _, rfl⟩
    rcases legible.named row member (Or.inl polygon) with ⟨text, key⟩
    rcases legible.named other memberToo (Or.inr isPoint) with ⟨textToo, keyToo⟩
    have shown : row.key.shown = other.key.shown := same
    rw [key, keyToo] at shown
    have one : row = other := eq_of_nodup_filterMap (legible.catalogued.nodup_textKeys fresh)
      member memberToo (congrArg Key.text? key)
      ((congrArg Key.text? keyToo).trans (congrArg some shown.symm))
    rw [one, isPoint] at polygon
    exact absurd polygon (by decide)
  · cases placed

/-- A metric of a target is among those that some descriptors stand for, if one
with its words means the targets of the scope. -/
theorem mem_allMetricIds_of_isSought (legible : s.Legible) (made : context ∈ scope.contexts s.network)
    (known : s.network.metric? ⟨category, interval, context.targetId⟩ = some id)
    (sought : scope.IsSought ds category interval) : id ∈ s.network.allMetricIds ds := by
  rcases sought with ⟨d, member, rfl, rfl, meant⟩
  exact (Network.mem_allMetricIds legible.distinct_metrics).mpr
    ⟨d, member, _, Scope.covers_of_isMeantBy made meant, Entries.mem_of_get? known⟩

/-- With fresh keys it is there for no other reason. -/
theorem isSought_of_mem_allMetricIds (legible : s.Legible) (fresh : s.Fresh)
    (made : context ∈ scope.contexts s.network)
    (known : s.network.metric? ⟨category, interval, context.targetId⟩ = some id)
    (member : id ∈ s.network.allMetricIds ds) : scope.IsSought ds category interval := by
  rcases (Network.mem_allMetricIds legible.distinct_metrics).mp member with
    ⟨d, among, target, covers, knownToo⟩
  have same : Metric.Identity.mk category interval context.targetId =
      ⟨d.category, d.interval, target⟩ := by
    by_contra different
    exact ne_of_metric? (legible.catalogued.nodup_metricIds fresh) known
      (Entries.get?_of_mem legible.distinct_metrics knownToo) different rfl
  cases same
  exact ⟨d, among, rfl, rfl,
    Scope.isMeantBy_of_covers made (legible.zone_ne_point fresh) covers⟩

end Legible

/-- Every kept metric blueprint becomes some metric in each of its contexts. -/
theorem exists_produces (kept : item ∈ ofKind (s.keptItems template sections) .metric)
    (made : context ∈ contextsOf s.network s.aliases item) :
    ∃ id, s.Produces template sections item context id := by
  have there : context ∈ contextsOf (s.noted template sections).network
      (s.noted template sections).aliases item := made
  rcases metricStage.exists_makesIn kept there with ⟨moment, makes⟩
  exact ⟨_, moment, makes, rfl⟩

/-- A compile of an input without a past, and a kept metric blueprint with words
for what it measures.  In each of its contexts it becomes one metric.  This is
among those that the needed descriptors stand for in the network as a whole, if
one of them has these words and means the targets of its scope.  As long as all
keys were fresh, it is among them only then. -/
theorem attained_compile {input : Job} (first : input.existing = []) {options : Options}
    {supply : Nat} {s : Session} (compiled : input.compile options supply = .ok s)
    {domain : List Domain.Item} (placed : Job.orEmpty Domain.ofJson input.domain = .ok domain)
    {template : List Item} (read : Job.orEmpty Template.ofJson input.template = .ok template)
    {item : Item} (kept : item ∈ ofKind (s.keptItems template input.sections) .metric)
    {category interval : String} (measures : item.Measures s.aliases template category interval)
    {context : Context} (made : context ∈ contextsOf s.network s.aliases item) :
    let before := (start options supply).addDomain domain
    let ds := (Template.slice template input.sections s.aliases).descriptors
    let sought := (Scope.ofItem s.aliases item).IsSought ds (s.aliases.category category)
      (s.aliases.interval interval)
    ∃ id, (∀ other, before.Produces template input.sections item context other ↔ other = id) ∧
      (sought -> id ∈ s.network.allMetricIds ds) ∧
      (s.Fresh -> id ∈ s.network.allMetricIds ds -> sought) := by
  intro before ds sought
  have whole : s = before.addTemplate template input.sections := by
    rw [Job.compile_of_read placed read, first] at compiled
    exact (Except.ok.inj compiled).symm
  have call : Deeds templateModels Any before s := by
    rw [whole]
    exact (deeds_addTemplate before template input.sections).any
  have legible : s.Legible := legible_of_moves ((moves_addDomain _ domain).trans call.moves)
  have aliases : s.aliases = before.aliases := call.settings.2
  have unbound : ∀ word ∈ [category, interval], before.bindings.get? word context.name = none := by
    intro word _
    have none' : before.bindings = .empty := bindings_addDomain (start options supply) domain
    rw [none']
    rfl
  have known : ∀ id, before.Produces template input.sections item context id ->
      s.network.metric? ⟨s.aliases.category category, s.aliases.interval interval,
        context.targetId⟩ = some id := by
    intro id produces
    rw [aliases] at measures ⊢
    rw [whole]
    exact produces.metric? measures unbound
  have inScope : context ∈ (Scope.ofItem s.aliases item).contexts s.network := by
    have hidden : item.kind.isShown = false := by
      rw [(mem_ofKind.mp kept).2]
      rfl
    exact contextsOf_of_hidden hidden s.network s.aliases ▸ made
  have produced : ∃ id, before.Produces template input.sections item context id := by
    refine exists_produces ?_ (call.contexts (by decide) (by decide) item ▸ made)
    exact keptItems_congr aliases template input.sections ▸ kept
  rcases produced with ⟨id, produces⟩
  have own := known id produces
  refine ⟨id, fun other => ⟨fun too => ?_, fun same => same ▸ produces⟩, fun one => ?_,
    fun fresh member => ?_⟩
  · exact Option.some.inj ((known other too).symm.trans own)
  · exact legible.mem_allMetricIds_of_isSought inScope own one
  · exact legible.isSought_of_mem_allMetricIds fresh inScope own member

/-! ## A volume for every target -/

/-- A card that asks for a descriptor, and a volume of every target. -/
def volumeBlueprints (asked : String) : List Item :=
  [ ⟨[ ("model", .text "fl_page_settings.pagesettings")
     , ("abstraction_id", .text "page")
     , ("fields", .object [("page", .text "OPS"), ("cards", .array [.text "card"])]) ]⟩
  , ⟨[ ("model", .text "fl_page_settings.card")
     , ("abstraction_id", .text "card")
     , ("fields", .object
         [("args", .object [("metric_descriptors", .array [.text asked])])]) ]⟩
  , metricBlueprint "volume" "flow_volume" ]

theorem measures_volumeBlueprints (asked : String) :
    (metricBlueprint "volume" "flow_volume").Measures Options.default.allAliases
      (volumeBlueprints asked) "flow_volume" "qh" := by
  have fields : (metricBlueprint "volume" "flow_volume").fields =
      [("category", .text "flow_volume"), ("interval", .text "qh"), ("target_id", .text "[FILL]")] :=
    rfl
  have ids : (volumeBlueprints asked).map Item.abstractionId? =
      [some "page", some "card", some "volume"] := rfl
  have unnamed : ∀ word ∈ ["flow_volume", "qh"], ∀ item ∈ volumeBlueprints asked,
      item.abstractionId? ≠ some word := by
    intro word among item member same
    have own : some word ∈ (volumeBlueprints asked).map Item.abstractionId? :=
      same ▸ List.mem_map_of_mem member
    rw [ids] at own
    simp only [List.mem_cons, List.not_mem_nil, or_false] at among
    rcases among with rfl | rfl
    · exact absurd own (by decide)
    · exact absurd own (by decide)
  refine ⟨fun _ => by simp [fields], fun _ => by simp [fields], fun _ => by
    simp [fields, Resolution.fillMark], fun word among => ?_⟩
  have plain : Metric.IsPlain Options.default.allAliases word ∧ word ≠ Resolution.fillMark := by
    simp only [List.mem_cons, List.not_mem_nil, or_false] at among
    rcases among with rfl | rfl
    · exact ⟨⟨rfl, by decide⟩, by decide⟩
    · exact ⟨⟨rfl, by decide⟩, by decide⟩
  exact ⟨plain.1, plain.2, unnamed word among⟩

theorem aliases_northSession : northSession.aliases = Options.default.allAliases :=
  (moves_addDomain (resume .default 0 []) [northZone]).settings.2.1

/-- The blueprint is kept wherever a volume per quarter of an hour is needed. -/
theorem kept_volumeBlueprints {asked : String} {d : Descriptor}
    (need : d ∈ (Template.select (volumeBlueprints asked) ["OPS"]
      Options.default.allAliases).needed)
    (category : d.category = "flow_volume") (interval : d.interval = "QUARTER_HOUR") :
    metricBlueprint "volume" "flow_volume" ∈
      ofKind (northSession.keptItems (volumeBlueprints asked) ["OPS"]) .metric := by
  have member : metricBlueprint "volume" "flow_volume" ∈ volumeBlueprints asked :=
    List.mem_cons_of_mem _ (List.mem_cons_of_mem _ List.mem_cons_self)
  have justified : Template.Justified Options.default.allAliases (volumeBlueprints asked) ["OPS"]
      (metricBlueprint "volume" "flow_volume") :=
    ⟨"flow_volume", "qh", ⟨rfl, by decide⟩, ⟨rfl, by decide⟩, d,
      Template.mem_descriptors.mpr need, category, interval⟩
  unfold keptItems
  rw [aliases_northSession]
  exact mem_ofKind.mpr ⟨Template.mem_items_slice.mpr ⟨member, justified⟩, rfl⟩

/-- The blueprint is made for the zone. -/
theorem exists_context_northSession : ∃ context, context ∈ contextsOf northSession.network
    northSession.aliases (metricBlueprint "volume" "flow_volume") := by
  have one : northSession.network.zones.length = 1 := by decide +kernel
  rcases List.length_eq_one_iff.mp one with ⟨zone, zones⟩
  have zonal : Scope.ofItem Options.default.allAliases (metricBlueprint "volume" "flow_volume") =
      .zone := by
    decide +kernel
  refine ⟨.zone zone, ?_⟩
  rw [contextsOf_of_hidden rfl, aliases_northSession, zonal]
  exact List.mem_map_of_mem (zones ▸ List.mem_cons_self)

/-- What a compile of these blueprints makes of the volume. -/
theorem compile_volumeBlueprints {asked : String} {d : Descriptor}
    (need : d ∈ (Template.select (volumeBlueprints asked) ["OPS"]
      Options.default.allAliases).needed)
    (category : d.category = "flow_volume") (interval : d.interval = "QUARTER_HOUR") :
    let template := volumeBlueprints asked
    let item := metricBlueprint "volume" "flow_volume"
    ∃ s, (northJob template).compile .default 0 = .ok s ∧
      s.Legible ∧ s.aliases = Options.default.allAliases ∧ s.network.points = [] ∧
      item ∈ ofKind (s.keptItems template ["OPS"]) .metric ∧
      item.Measures s.aliases template "flow_volume" "qh" ∧
      ∃ context ∈ contextsOf s.network s.aliases item, ∃ id,
        ((start .default 0).addDomain [northZone]).Produces template ["OPS"] item context id := by
  intro template item
  have placed : Job.orEmpty Domain.ofJson (northJob template).domain = .ok [northZone] := rfl
  have read : Job.orEmpty Template.ofJson (northJob template).template = .ok template := rfl
  have compiled : (northJob template).compile .default 0 =
      .ok (northSession.addTemplate template ["OPS"]) :=
    Job.compile_of_read placed read .default 0
  have run : Moves (start .default 0) northSession := moves_addDomain (start .default 0) [northZone]
  have call : Deeds templateModels Any northSession (northSession.addTemplate template ["OPS"]) :=
    (deeds_addTemplate northSession template ["OPS"]).any
  have aliases : (northSession.addTemplate template ["OPS"]).aliases =
      Options.default.allAliases := call.settings.2.trans aliases_northSession
  have points : northSession.network.points = [] := by
    have none' : northSession.network.points.length = 0 := by decide +kernel
    exact List.length_eq_zero_iff.mp none'
  have kept := kept_volumeBlueprints need category interval
  have contexts := call.contexts (by decide) (by decide) item
  refine ⟨_, compiled, legible_of_moves (run.trans call.moves), aliases,
    (call.targets (by decide) (by decide)).2.1.trans points, ?_, ?_, ?_⟩
  · rw [keptItems_congr (aliases.trans aliases_northSession.symm)]
    exact kept
  · rw [aliases]
    exact measures_volumeBlueprints asked
  · rw [contexts]
    rcases exists_context_northSession with ⟨context, made⟩
    exact ⟨context, made, exists_produces kept made⟩

/-- The volume of the zone is listed by the card that asks for volumes of zones. -/
theorem attained_compile_zone :
    let template := volumeBlueprints "MetricCategory.Zone.flow_volume.qh"
    let item := metricBlueprint "volume" "flow_volume"
    let before := (start .default 0).addDomain [northZone]
    (northJob template).existing = [] ∧
    Job.orEmpty Domain.ofJson (northJob template).domain = .ok [northZone] ∧
    Job.orEmpty Template.ofJson (northJob template).template = .ok template ∧
    ∃ s, (northJob template).compile .default 0 = .ok s ∧
      item ∈ ofKind (s.keptItems template ["OPS"]) .metric ∧
      item.Measures s.aliases template "flow_volume" "qh" ∧
      ∃ context ∈ contextsOf s.network s.aliases item, ∃ id,
        before.Produces template ["OPS"] item context id ∧
        id ∈ s.network.allMetricIds (Template.slice template ["OPS"] s.aliases).descriptors := by
  intro template item before
  have need : (⟨"Zone", "flow_volume", "QUARTER_HOUR"⟩ : Descriptor) ∈
      (Template.select template ["OPS"] Options.default.allAliases).needed := by
    decide +kernel
  rcases compile_volumeBlueprints need rfl rfl with
    ⟨s, compiled, _, aliases, _, kept, measures, context, made, _⟩
  have placed : Job.orEmpty Domain.ofJson (northJob template).domain = .ok [northZone] := rfl
  have read : Job.orEmpty Template.ofJson (northJob template).template = .ok template := rfl
  have zonal : Scope.ofItem Options.default.allAliases item = .zone := by decide +kernel
  rcases attained_compile rfl compiled placed read kept measures made with
    ⟨id, produces, attained, _⟩
  refine ⟨rfl, placed, read, s, compiled, kept, measures, context, made, id,
    (produces id).mpr rfl, attained ?_⟩
  rw [aliases, zonal]
  exact ⟨_, Template.mem_descriptors.mpr need, rfl, rfl, rfl⟩

/-- A card that asks for volumes of meters needs the same blueprint.  It is made
for the zone even so, and no needed descriptor stands for what it becomes. -/
theorem unattained_compile_meter :
    let template := volumeBlueprints "MetricCategory.FlowMeter.flow_volume.qh"
    let item := metricBlueprint "volume" "flow_volume"
    let before := (start .default 0).addDomain [northZone]
    (northJob template).existing = [] ∧
    Job.orEmpty Domain.ofJson (northJob template).domain = .ok [northZone] ∧
    Job.orEmpty Template.ofJson (northJob template).template = .ok template ∧
    ∃ s, (northJob template).compile .default 0 = .ok s ∧
      item ∈ ofKind (s.keptItems template ["OPS"]) .metric ∧
      item.Measures s.aliases template "flow_volume" "qh" ∧
      ∃ context ∈ contextsOf s.network s.aliases item, ∃ id,
        before.Produces template ["OPS"] item context id ∧
        id ∉ s.network.allMetricIds (Template.slice template ["OPS"] s.aliases).descriptors := by
  intro template item before
  have need : (⟨"FlowMeter", "flow_volume", "QUARTER_HOUR"⟩ : Descriptor) ∈
      (Template.select template ["OPS"] Options.default.allAliases).needed := by
    decide +kernel
  have others : ∀ d ∈ (Template.select template ["OPS"] Options.default.allAliases).needed,
      d.meansZones = false := by
    decide +kernel
  rcases compile_volumeBlueprints need rfl rfl with
    ⟨s, compiled, legible, aliases, points, kept, measures, context, made, id, produces⟩
  refine ⟨rfl, rfl, rfl, s, compiled, kept, measures, context, made, id, produces, fun listed => ?_⟩
  rw [Network.mem_allMetricIds legible.distinct_metrics, aliases] at listed
  rcases listed with ⟨d, among, target, covers, _⟩
  unfold Network.Covers at covers
  rw [others d (Template.mem_descriptors.mp among), points] at covers
  rcases covers.2 with ⟨point, none', _⟩
  cases none'

end Session
end Sensornet
