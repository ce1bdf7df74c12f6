import Sensornet.Proofs.MapWidget.Bound
import Sensornet.Proofs.Session.Charts
import Sensornet.Proofs.Session.Longer

namespace Sensornet

/-!
# What becomes of the descriptors of widgets

The arguments of a widget list descriptors.  Charts and cards are finished by
putting metrics in their place: all that the descriptors stand for in the zones
and at the points.  A map is finished by the repair of its zone ids, which
passes over descriptors.  So the row of a map lists the descriptors of its item,
and metrics only where the item had them.
-/

open Fixture (Row)
open Json (Value Fields)
open Template (Item Kind)
open Sensornet.Metric (Aliases Descriptor)
open Resolution.Scene (descriptorsIn descriptor? descriptorsIn_eq)

/-! ## Descriptors and the repair of a map -/

/-- A descriptor starts with its mark, blanks or no blanks. -/
theorem Metric.trimStart_of_isMarked {text : String} (marked : isMarked text = true) :
    ∃ rest, Text.trimStart text.toList = 'M' :: rest := by
  obtain ⟨rest, whole⟩ := List.isPrefixOf_iff_prefix.mp marked
  rw [← whole]
  exact ⟨_, rfl⟩

theorem Metric.Descriptor.isMarked_of_ofText? {aliases : Aliases} {text : String} {d : Descriptor}
    (read : ofText? aliases text = some d) : isMarked text = true := by
  by_contra unmarked
  rw [ofText?_of_unmarked (Bool.eq_false_iff.mpr unmarked)] at read
  cases read

namespace MapWidget

variable {aliases : Aliases} {fields args : Fields}

/-- A text with the mark of descriptors holds no value and is no placeholder. -/
theorem repairValue_of_isMarked (z : Zones) {text : String} (marked : Metric.isMarked text = true) :
    repairValue z false (.text text) = .text text := by
  obtain ⟨rest, front⟩ := Metric.trimStart_of_isMarked marked
  have plain : blob? text = none := by
    rw [blob?, front]
    rfl
  have real : standsForZone text = false := by
    rw [Bool.eq_false_iff]
    intro stands
    obtain ⟨_, _, _, bracket, -⟩ := exists_of_standsForZone stands
    rw [front] at bracket
    cases bracket
  rw [repairValue_text z false plain, real]
  rfl

/-- The descriptors of a list are there once it is repaired. -/
theorem mem_descriptorsIn_repairValue (z : Zones) {value : Option Value} {d : Descriptor}
    (member : d ∈ descriptorsIn aliases value) :
    d ∈ descriptorsIn aliases (value.map (repairValue z false)) := by
  rw [descriptorsIn_eq] at member ⊢
  obtain ⟨item, among, read⟩ := List.mem_filterMap.mp member
  obtain ⟨text, own, meant⟩ := Option.bind_eq_some_iff.mp read
  have same : repairValue z false item = item := by
    cases item <;> cases own
    exact repairValue_of_isMarked z (Descriptor.isMarked_of_ofText? meant)
  refine List.mem_filterMap.mpr ⟨item, ?_, read⟩
  cases value with
  | none => exact among
  | some value =>
    cases value with
    | array items =>
      rw [Option.map_some, repairValue_array]
      exact List.mem_map.mpr ⟨item, among, same⟩
    | null => exact among
    | text | number | bool | object =>
      cases List.mem_singleton.mp among
      rw [Option.map_some, same]
      exact among

/-- Repair leaves an object of `args` an object, whose members are repaired,
with or without zone ids under a key of their own. -/
theorem exists_args_repair (zones : List Zone)
    (object : Entries.get? "args" fields = some (.object args)) :
    ∃ own, Entries.get? "args" (repair zones fields) = some (.object own) ∧
      (own = args ∨ ∃ z : Zones, ∀ key, key ≠ "polygon_ids" -> Entries.get? key own =
        (Entries.get? key args).map (repairValue z (holdsZoneIds key))) := by
  cases given : Zones.of? zones with
  | none =>
    rw [repair, given]
    exact ⟨args, object, Or.inl rfl⟩
  | some z =>
    have repaired : Entries.get? "args" (repairedFields z fields) =
        some (.object (repairedFields z args)) := by
      rw [get?_repairedFields, object, Option.map_some, repairValue_object]
    rw [repair_eq given, get?_fillCenter (by decide)]
    rcases args_bound z (repairedFields z fields) with same | ⟨-, old, was, written⟩
    · rw [same, repaired]
      exact ⟨_, rfl, Or.inr ⟨z, fun key _ => get?_repairedFields key args⟩⟩
    · have own : old = repairedFields z args := by
        rcases was with stood | ⟨-, null⟩
        · cases repaired.symm.trans stood
          rfl
        · cases null _ repaired
      rw [written, own]
      refine ⟨_, rfl, Or.inr ⟨z, fun key other => ?_⟩⟩
      rw [Entries.get?_insert_of_ne other, get?_repairedFields]

end MapWidget

/-! ## Rows of widgets -/

/-- The ids are, each once, what some descriptors stand for in the zones and at
the points of a network. -/
structure Network.Unites (n : Network) (ds : List Descriptor) (ids : List String) : Prop where
  once : ids.Nodup
  each : ∀ id, id ∈ ids ↔ ∃ d ∈ ds, (∃ zone ∈ n.zones, id ∈ n.metricIds d (.zone zone)) ∨
    ∃ point ∈ n.points, id ∈ n.metricIds d (.point point)

theorem Network.unites_allMetricIds (n : Network) (ds : List Descriptor) :
    n.Unites ds (n.allMetricIds ds) := by
  refine ⟨nodup_distinct _, fun id => ?_⟩
  unfold allMetricIds
  rw [mem_distinct, List.mem_flatMap]
  refine exists_congr fun d => and_congr_right fun _ => ?_
  rw [List.mem_append, List.mem_flatMap, List.mem_flatMap]
  rfl

/-- A row has arguments that still list the descriptors of these, and metrics
only if these do. -/
def Fixture.Row.KeepsDescriptors (row : Row) (aliases : Aliases) (args : Fields) : Prop :=
  ∃ own, row.field? "args" = some (.object own) ∧
    (∀ d ∈ Widget.descriptors aliases args, d ∈ Widget.descriptors aliases own) ∧
    (Entries.get? "metric_ids" own).isSome = (Entries.get? "metric_ids" args).isSome

/-- A finished map keeps the descriptors of its fields. -/
theorem Widget.keepsDescriptors_finished (network : Network) (aliases : Aliases)
    {fields args : Fields} (object : Entries.get? "args" fields = some (.object args))
    (model : String) (key : Int) :
    (Widget.row model key (finished network aliases .map fields)).KeepsDescriptors aliases
      args := by
  obtain ⟨own, written, same | ⟨z, members⟩⟩ :=
    MapWidget.exists_args_repair network.zones object
  all_goals
    have stands : (Widget.row model key (finished network aliases .map fields)).field? "args" =
        some (.object own) :=
      (Widget.field?_row (by decide) model key _).trans written
  · subst same
    exact ⟨_, stands, fun d member => member, rfl⟩
  · refine ⟨own, stands, fun d member => ?_, ?_⟩
    · have listed := members "metric_descriptors" (by decide)
      rw [(by decide +kernel : MapWidget.holdsZoneIds "metric_descriptors" = false)] at listed
      change d ∈ descriptorsIn aliases (Entries.get? "metric_descriptors" own)
      rw [listed]
      exact MapWidget.mem_descriptorsIn_repairValue z member
    · rw [members "metric_ids" (by decide), Option.isSome_map]

namespace Session

variable {s m : Session} {item : Item} {row : Row} {args : Fields}

theorem Depicts.keepsDescriptors (depicts : m.Depicts item row) (anchored : m.Anchored)
    (map : item.kind = .map) (object : Entries.get? "args" item.fields = some (.object args)) :
    row.KeepsDescriptors m.aliases args := by
  obtain ⟨model, n, fields, _, gives, rfl⟩ := depicts
  obtain ⟨members, same, each⟩ := gives.object
  cases same
  have resolved := each "args" (by decide)
  rw [object] at resolved
  generalize written : Entries.get? "args" fields = value at resolved
  cases resolved with
  | some givesArgs =>
    obtain ⟨resolvedArgs, rfl, eachArg⟩ := givesArgs.object
    have descriptors : Widget.descriptors m.aliases resolvedArgs =
        Widget.descriptors m.aliases args :=
      anchored.global.descriptorsIn_of_gives m.aliases (eachArg "metric_descriptors" (by decide))
    have ids : (Entries.get? "metric_ids" resolvedArgs).isSome =
        (Entries.get? "metric_ids" args).isSome := by
      have related := eachArg "metric_ids" (by decide)
      generalize Entries.get? "metric_ids" args = before at related ⊢
      generalize Entries.get? "metric_ids" resolvedArgs = after at related ⊢
      cases related <;> rfl
    rw [map]
    obtain ⟨own, stands, kept, listed⟩ :=
      Widget.keepsDescriptors_finished m.network m.aliases written model n
    exact ⟨own, stands, descriptors ▸ kept, listed.trans ids⟩

theorem rowsSince_singleton (model : String) (s t : Session) :
    rowsSince [model] s t = (t.rows.drop s.rows.length).filter fun row => row.model == model := by
  refine List.filter_congr fun row _ => ?_
  rw [List.contains_cons, List.contains_nil, Bool.or_false]

/-- The rows of a compile that have a model of widgets are added by the template
and not by the domain before it. -/
theorem exists_addTemplate_of_compile {input : Job} {options : Options} {supply : Nat}
    (compiled : input.compile options supply = .ok s) {template : List Item}
    (read : Job.orEmpty Template.ofJson input.template = .ok template) {kind : Kind}
    (widget : kind.isWidget = true) {model : String} (named : kind.model? = some model) :
    ∃ a : Session, a.Anchored ∧ s = a.addTemplate template input.sections ∧
      s.aliases = a.aliases ∧
      ((s.rows.drop input.existing.length).filter fun row => row.model == model) =
        (s.rows.drop a.rows.length).filter fun row => row.model == model := by
  obtain ⟨domain, template', _, read', whole⟩ := Job.compile_eq compiled
  cases Except.ok.inj (read.symm.trans read')
  let begun := resume options supply input.existing
  have placing : Deeds domainModels Any begun (begun.addDomain domain) :=
    (deeds_addDomain begun domain : Deeds _ (Asks fun _ => False) _ _).any
  have templating : Moves (begun.addDomain domain) s :=
    whole ▸ moves_addTemplate _ template input.sections
  have others : model ∉ domainModels ∧ Fixture.Model.trigger ∉ [model] := by
    cases kind <;> cases widget <;> cases named <;> decide
  have none' : rowsSince [model] begun (begun.addDomain domain) = [] :=
    placing.rowsSince_eq_nil
      (fun own among same => others.1 (List.mem_singleton.mp same ▸ among)) others.2
  have indexed : (begun.addDomain domain).Indexed :=
    (indexed_resume options supply input.existing).moves placing.moves
  have both := rowsSince_trans placing.moves templating indexed others.2
  rw [none', List.nil_append, rowsSince_singleton, rowsSince_singleton, rows_resume] at both
  have anchored : (begun.addDomain domain).Anchored :=
    (Anchored.resume options supply input.existing).later (moves_addDomain _ domain)
      (bindings_addDomain _ domain)
  exact ⟨_, anchored, whole, templating.settings.2.1, both⟩

/-- Where the arguments of an item are an object with some descriptors, its row
presents instead what these stand for. -/
def Converts (s : Session) (kind : Kind) (items : List Item) (rows : List Row) : Prop :=
  ∀ (i : Nat) (item : Item) (row : Row) (args : Fields), items[i]? = some item ->
    rows[i]? = some row -> Entries.get? "args" item.fields = some (.object args) ->
      Widget.descriptors s.aliases args ≠ [] ->
        ∃ ids, row.Presents kind ids ∧ s.network.Unites (Widget.descriptors s.aliases args) ids

/-- What the rows of widgets say of the descriptors of their items. -/
structure ShowsDescriptors (s : Session) (kind : Kind) (items : List Item) (rows : List Row) :
    Prop where
  length : rows.length = items.length
  figures : kind ≠ .map -> s.Converts kind items rows
  maps : kind = .map -> ∀ (i : Nat) (item : Item) (row : Row) (args : Fields),
    items[i]? = some item -> rows[i]? = some row ->
      Entries.get? "args" item.fields = some (.object args) -> row.KeepsDescriptors s.aliases args

/-- A compile adds the rows of the charts, cards and maps that are kept, in
their order.  Charts and cards present metrics for descriptors, maps keep the
descriptors. -/
theorem descriptors_compile {input : Job} {options : Options} {supply : Nat}
    (compiled : input.compile options supply = .ok s) {template : List Item}
    (read : Job.orEmpty Template.ofJson input.template = .ok template) {kind : Kind}
    (widget : kind.isWidget = true) {model : String} (named : kind.model? = some model) :
    s.ShowsDescriptors kind (ofKind (s.keptItems template input.sections) kind)
      ((s.rows.drop input.existing.length).filter fun row => row.model == model) := by
  obtain ⟨a, anchored, whole, aliases, added⟩ :=
    exists_addTemplate_of_compile compiled read widget named
  have shown : kind.isShown = true := by
    cases kind <;> cases widget <;> rfl
  have kept := keptItems_congr aliases template input.sections
  have lists : (a.atKind template input.sections kind).Lists
      (ofKind (a.keptItems template input.sections) kind)
      ((s.rows.drop input.existing.length).filter fun row => row.model == model) := by
    rw [added, whole]
    exact a.lists_addTemplate template input.sections shown named
  rw [kept]
  refine ⟨lists.length, fun noMap i item row args stands place object some' => ?_,
    fun map i item row args stands place object => ?_⟩
  · have figure : kind = .chart ∨ kind = .card := by
      cases kind with
      | chart => exact Or.inl rfl
      | card => exact Or.inr rfl
      | map => exact absurd rfl noMap
      | page | metric | trigger | other => cases widget
    have presents :=
      presents_addTemplate anchored figure lists stands place object (aliases ▸ some')
    rw [← whole, ← aliases] at presents
    exact ⟨_, presents, s.network.unites_allMetricIds _⟩
  · have own : item.kind = .map := (mem_ofKind.mp (List.mem_of_getElem? stands)).2.trans map
    have depicts : (a.atItem template input.sections kind i).Depicts item row :=
      lists.depicts i item row stands place
    have keeps := depicts.keepsDescriptors (anchored.atItem template input.sections shown i) own
      object
    rw [(a.network_atItem template input.sections shown i).2, ← aliases] at keeps
    exact keeps

/-- A widget that shows the demand of zones. -/
def demandWidget (model id : String) : Item :=
  ⟨[ ("model", .text model)
   , ("abstraction_id", .text id)
   , ("fields", .object [("args", .object
       [("metric_descriptors", .array [.text "MetricCategory.Zone.zone_demand.qh"])])]) ]⟩

/-- A card and a map that show the demand, and their page. -/
def demandBlueprints : List Item :=
  [ ⟨[ ("model", .text Fixture.Model.page)
     , ("abstraction_id", .text "page")
     , ("fields", .object
         [ ("page", .text "OPS")
         , ("cards", .array [.text "card"])
         , ("maps", .array [.text "map"]) ]) ]⟩
  , demandWidget Fixture.Model.card "card"
  , demandWidget Fixture.Model.map "map" ]

/-- The descriptors in the arguments of the rows of a model. -/
def shownDescriptors (s : Session) (model : String) : List String :=
  (s.rowsOf model).flatMap fun row =>
    (((row.field? "args").bind (Value.get? "metric_descriptors")).map Value.texts).getD []

/-- The session that these end in. -/
def demandSession : Session :=
  northSession.addTemplate demandBlueprints ["OPS"]

theorem read_demandBlueprints : Job.orEmpty Template.ofJson (northJob demandBlueprints).template =
    .ok demandBlueprints :=
  rfl

theorem compile_demandBlueprints :
    (northJob demandBlueprints).compile .default 0 = .ok demandSession := by
  have placed : Job.orEmpty Domain.ofJson (northJob demandBlueprints).domain =
      .ok [northZone] := rfl
  exact Job.compile_of_read placed read_demandBlueprints .default 0

/-- The card lists the demand of the one zone, and the map the descriptor. -/
theorem descriptors_compile_demand :
    let job := northJob demandBlueprints
    let s := demandSession
    let kept := s.keptItems demandBlueprints job.sections
    let rows (model : String) :=
      (s.rows.drop job.existing.length).filter fun row => row.model == model
    job.compile .default 0 = .ok s ∧
    Job.orEmpty Template.ofJson job.template = .ok demandBlueprints ∧
    s.cardMetrics = ["m-8343a5190999"] ∧
    s.shownDescriptors Fixture.Model.map = ["MetricCategory.Zone.zone_demand.qh"] ∧
    s.ShowsDescriptors .card (ofKind kept .card) (rows Fixture.Model.card) ∧
    s.ShowsDescriptors .map (ofKind kept .map) (rows Fixture.Model.map) := by
  intro job s kept rows
  have compiled : job.compile .default 0 = .ok s := compile_demandBlueprints
  have read : Job.orEmpty Template.ofJson job.template = .ok demandBlueprints :=
    read_demandBlueprints
  have listed : s.cardMetrics = ["m-8343a5190999"] ∧
      s.shownDescriptors Fixture.Model.map = ["MetricCategory.Zone.zone_demand.qh"] := by
    decide +kernel
  exact ⟨compiled, read, listed.1, listed.2,
    descriptors_compile compiled read (rfl : Kind.card.isWidget = true) rfl,
    descriptors_compile compiled read (rfl : Kind.map.isWidget = true) rfl⟩

theorem eq_of_map_demandBlueprints {item : Item} (member : item ∈ demandBlueprints)
    (kind : item.kind = .map) : item = demandWidget Fixture.Model.map "map" := by
  simp only [demandBlueprints, List.mem_cons, List.not_mem_nil, or_false] at member
  rcases member with rfl | rfl | rfl
  · exact absurd kind (by decide)
  · exact absurd kind (by decide)
  · rfl

/-- The row of the map does not present the demand, although the item asks for
it. -/
theorem converts_lost_map :
    let job := northJob demandBlueprints
    job.compile .default 0 = .ok demandSession ∧
    ¬ demandSession.Converts .map
      (ofKind (demandSession.keptItems demandBlueprints job.sections) .map)
      ((demandSession.rows.drop job.existing.length).filter fun row =>
        row.model == Fixture.Model.map) := by
  intro job
  refine ⟨compile_demandBlueprints, fun converts => ?_⟩
  let kept := ofKind (demandSession.keptItems demandBlueprints job.sections) .map
  let rows := (demandSession.rows.drop job.existing.length).filter fun row =>
    row.model == Fixture.Model.map
  have counted : kept.length = 1 ∧
      rows.map (fun row => ((row.field? "args").bind (Value.get? "metric_descriptors")).isSome) =
        [true] := by
    decide +kernel
  obtain ⟨item, single⟩ := List.length_eq_one_iff.mp counted.1
  obtain ⟨row, others, listed, keeps, none'⟩ := List.map_eq_cons_iff.mp counted.2
  have among : item ∈ kept := single ▸ List.mem_singleton_self item
  have own := eq_of_map_demandBlueprints
    (Template.mem_of_mem_items (mem_ofKind.mp among).1) (mem_ofKind.mp among).2
  have stands : kept[0]? = some item := single ▸ rfl
  have place : rows[0]? = some row := listed ▸ rfl
  have object : Entries.get? "args" item.fields = some (.object
      [("metric_descriptors", .array [.text "MetricCategory.Zone.zone_demand.qh"])]) := own ▸ rfl
  have asks : Widget.descriptors demandSession.aliases
      [("metric_descriptors", .array [.text "MetricCategory.Zone.zone_demand.qh"])] ≠ [] := by
    decide +kernel
  obtain ⟨ids, presents, -⟩ := converts 0 item row _ stands place object asks
  obtain ⟨args, written, gone, -⟩ := presents.args
  rw [written] at keeps
  change (Entries.get? "metric_descriptors" args).isSome = true at keeps
  rw [gone] at keeps
  cases keeps

end Session
end Sensornet
