import Sensornet.Proofs.Resolution.Placeholders
import Sensornet.Proofs.Session.Lasting

namespace Sensornet

/-!
# Where a trigger blueprint writes in each context

A trigger blueprint is made once for each zone or each point, as the descriptor
of its output says.  This descriptor is resolved in each of these contexts, by
other rules than those that chose them.  The two agree: a blueprint for zones
is not made for points, and one for points not for zones.  So in each context
the output is the metric of the context's own target, if there is one.

A descriptor that means neither zones nor points stands for no metric at all.
The blueprint is made for some targets nevertheless, and has no output there.

Where no two metrics share their id, contexts of different targets have
different outputs, and the row that was written in one context is not written
in the other.
-/

open Fixture (Key Row)
open Json (Value)
open Resolution (Scene)
open Template (Item)
open Sensornet.Metric (Aliases Descriptor)

/-- The metric of a target that has the words of a descriptor; nothing if there is none,
or if the descriptor means neither zones nor points. -/
def Network.destination (n : Network) (d : Descriptor) (target : String) : String :=
  if d.meansZones = true ∨ d.meansPoints = true then
    (n.metric? ⟨d.category, d.interval, target⟩).getD ""
  else ""

theorem Network.metric?_of_destination {n : Network} {d : Descriptor} {target : String}
    (filled : n.destination d target ≠ "") :
    n.metric? ⟨d.category, d.interval, target⟩ = some (n.destination d target) := by
  unfold destination at filled ⊢
  split
  · next means =>
    rw [if_pos means] at filled
    cases known : n.metric? ⟨d.category, d.interval, target⟩ with
    | none =>
      rw [known] at filled
      exact absurd rfl filled
    | some id => rfl
  · next others => exact absurd (if_neg others) filled

/-- A trigger blueprint with a descriptor as its output, which leaves nothing to be filled
in. -/
structure Template.Item.Writes (item : Item) (aliases : Aliases) (d : Descriptor) : Prop where
  trigger : item.kind = .trigger
  output : ∃ raw, item.outputMetric? = some raw ∧ ¬ "[[".toList <:+: raw.toList ∧
    Descriptor.ofText? aliases raw = some d

section

variable {item : Item} {aliases : Aliases} {d : Descriptor} {n : Network} {context : Context}

/-- A blueprint is made for those targets that its output means, if it means any. -/
theorem context_of_writes (writes : item.Writes aliases d)
    (made : context ∈ contextsOf n aliases item) :
    (d.meansZones = true ∧ ∃ zone, context = .zone zone) ∨
      (d.meansZones = false ∧ d.meansPoints = true ∧ ∃ point, context = .point point) ∨
      d.meansZones = false ∧ d.meansPoints = false := by
  rcases writes.output with ⟨raw, written, _, read⟩
  have output : item.output? aliases = some d := by
    unfold Item.output?
    rw [written]
    exact read
  rw [contextsOf_of_hidden (by rw [writes.trigger]; rfl)] at made
  unfold Scope.ofItem at made
  rw [output] at made
  dsimp only at made
  cases zones : d.meansZones with
  | true =>
    rw [if_pos zones] at made
    rcases List.mem_map.mp made with ⟨zone, _, rfl⟩
    exact Or.inl ⟨rfl, zone, rfl⟩
  | false =>
    rw [if_neg (by simp [zones])] at made
    cases points : d.meansPoints with
    | true =>
      rw [if_pos points] at made
      rcases List.mem_map.mp made with ⟨point, _, rfl⟩
      exact Or.inr (Or.inl ⟨rfl, rfl, point, rfl⟩)
    | false => exact Or.inr (Or.inr ⟨rfl, rfl⟩)

/-- A descriptor of neither zones nor points stands for nothing. -/
theorem Network.metricIds_eq_nil (m : Network) (zones : d.meansZones = false)
    (points : d.meansPoints = false) (context : Context) : m.metricIds d context = [] := by
  have inZone : m.metricIdsInZone d = fun _ => [] := by
    funext zone
    simp [metricIdsInZone, zones, points]
  have atPoint : m.metricIdsAtPoint d = fun _ => [] := by
    funext point
    simp [metricIdsAtPoint, zones, points]
  have nothing : ∀ {A : Type} (items : List A), items.flatMap (fun _ => ([] : List String)) = [] :=
    fun items => List.flatMap_eq_nil_iff.mpr fun _ _ => rfl
  cases context with
  | zone zone => simp [metricIds, inZone]
  | point point => simp [metricIds, atPoint]
  | global => simp [metricIds, allMetricIds, inZone, atPoint, nothing, distinct, addAllNew]

/-- In the contexts of a blueprint, its output stands for the metric of the target. -/
theorem head_metricIds (writes : item.Writes aliases d) (made : context ∈ contextsOf n aliases item)
    (m : Network) : (m.metricIds d context).head?.getD "" = m.destination d context.targetId := by
  rcases context_of_writes writes made with
    ⟨zones, zone, rfl⟩ | ⟨zones, points, point, rfl⟩ | ⟨zones, points⟩
  · simp [Network.metricIds, Network.metricIdsInZone, Network.ownMetric, Network.destination, zones,
      Context.targetId, Option.head?_toList]
  · simp [Network.metricIds, Network.metricIdsAtPoint, Network.ownMetric, Network.destination, zones,
      points, Context.targetId, Option.head?_toList]
  · simp [m.metricIds_eq_nil zones points, Network.destination, zones, points]

namespace Resolution
namespace Scene

variable {s : Scene} {result : Value}

/-- What a descriptor without placeholders becomes as an output. -/
theorem soleText_of_descriptor {raw : String} (plain : ¬ "[[".toList <:+: raw.toList)
    (read : Descriptor.ofText? s.aliases raw = some d) :
    s.soleText .outputMetric raw = (s.network.metricIds d s.context).head?.getD "" := by
  have marked : Metric.isMarked raw = true := by
    unfold Descriptor.ofText? at read
    split at read
    · assumption
    · cases read
  have unfilled : raw ≠ fillMark := by
    rintro rfl
    exact absurd marked (by decide)
  unfold soleText metricsOf
  rw [s.context.fillPlaceholders_of_unbracketed plain]
  dsimp only
  rw [if_neg unfilled, if_pos marked, read]
  rfl

theorem exists_output (writes : item.Writes s.aliases d)
    (made : s.context ∈ contextsOf n s.aliases item) :
    ∃ raw, item.get? "output_metric" = some (.text raw) ∧
      s.soleText .outputMetric raw = s.network.destination d s.context.targetId := by
  rcases writes.output with ⟨raw, written, plain, read⟩
  rcases Option.bind_eq_some_iff.mp written with ⟨value, held, text⟩
  refine ⟨raw, ?_, (soleText_of_descriptor plain read).trans (head_metricIds writes made _)⟩
  cases value <;> cases text
  exact held

/-- A resolved blueprint has its destination as its output. -/
theorem Gives.output (gives : s.Gives .plain item.value result) (writes : item.Writes s.aliases d)
    (made : s.context ∈ contextsOf n s.aliases item) :
    result.get? "output_metric" = some (.text (s.network.destination d s.context.targetId)) := by
  rcases exists_output writes made with ⟨raw, held, text⟩
  have member : Option.Rel (s.Gives .outputMetric) (item.get? "output_metric")
      (result.get? "output_metric") := gives.get? "output_metric" (by decide)
  rw [held] at member
  generalize result.get? "output_metric" = resolved at member ⊢
  cases member with
  | some own => rw [own.text (Or.inr rfl), text]

theorem outputOf_of_writes (writes : item.Writes s.aliases d)
    (made : s.context ∈ contextsOf n s.aliases item) :
    s.outputOf item = s.network.destination d s.context.targetId := by
  rcases exists_output writes made with ⟨raw, held, text⟩
  unfold outputOf
  rw [held]
  exact text

end Scene
end Resolution

namespace Session

variable {s u : Session}

/-- A row that changes while a trigger is put is the row of its output. -/
theorem triggerPosition?_of_touched (indexed : s.Indexed) {wanted : Trigger} {place : Nat}
    (touched : (s.putTrigger wanted).2.rows[place]? ≠ s.rows[place]?) :
    (s.putTrigger wanted).2.network.triggerPosition? wanted.outputMetric = some place := by
  cases complete : wanted.isComplete with
  | false =>
    rw [s.putTrigger_incomplete complete] at touched
    exact absurd rfl touched
  | true =>
    rcases rows_putTrigger indexed complete with ⟨position, _, _, known, _, others⟩
    rw [known]
    exact congrArg some (Decidable.not_not.mp fun apart => touched (others place (Ne.symm apart)))

theorem bindTrigger_parts (item : Item) (context : Context) (put : Option Key × Session) :
    (bindTrigger item context put).rows = put.2.rows ∧
      (bindTrigger item context put).network = put.2.network := by
  rcases bindTrigger_cases item context put with ⟨key, _, bound⟩ | ⟨_, noted⟩
  · have quiet := Quiet.bind put.2 item.abstractionId? context.name key
    rw [bound]
    exact ⟨quiet.rows, quiet.network⟩
  · rw [noted]
    exact ⟨rfl, rfl⟩

/-- A row that changes while a blueprint is made in a context is the row of its output
there. -/
theorem triggerPosition?_makeTrigger (indexed : s.Indexed) {place : Nat}
    (touched : (makeTrigger item s context).rows[place]? ≠ s.rows[place]?) :
    (makeTrigger item s context).network.triggerPosition? ((s.scene context).outputOf item) =
      some place := by
  rcases s.makeTrigger_eq item context with ⟨t, wanted, still, output, _, made⟩
  rcases bindTrigger_parts item context (t.putTrigger wanted) with ⟨rows, network⟩
  rw [made, rows, ← still.rows] at touched
  rw [made, network, ← output]
  have indexedToo : t.Indexed := indexed.moves still.toQuiet.moves
  exact triggerPosition?_of_touched indexedToo touched

/-- Different targets have different destinations, where no two metrics share an id. -/
theorem target_of_destination (run : Moves s u) (unique : u.metricIds.Nodup)
    {target other : String} (filled : s.network.destination d target ≠ "")
    (same : u.network.destination d other = s.network.destination d target) : target = other := by
  have known := run.metric? (Network.metric?_of_destination filled)
  have knownToo := Network.metric?_of_destination (same ▸ filled)
  by_contra apart
  refine ne_of_metric? unique known knownToo ?_ same.symm
  exact fun equal => apart (congrArg Metric.Identity.target equal)

theorem not_touched_twice (indexed : s.Indexed) (writes : item.Writes s.aliases d)
    {other : Context} (made : context ∈ contextsOf n s.aliases item)
    (madeToo : other ∈ contextsOf n s.aliases item) (apart : context.targetId ≠ other.targetId)
    (run : Moves (makeTrigger item s context) u) (unique : u.metricIds.Nodup) {place : Nat}
    (touched : (makeTrigger item s context).rows[place]? ≠ s.rows[place]?) :
    (makeTrigger item u other).rows[place]? = u.rows[place]? := by
  by_contra touchedToo
  have first := s.moves_makeTrigger item context
  have whole : Moves s u := first.trans run
  have synonyms : u.aliases = s.aliases := whole.settings.2.1
  have last := u.moves_makeTrigger item other
  have indexedToo : u.Indexed := indexed.moves whole
  have known := triggerPosition?_makeTrigger indexed touched
  have knownToo := triggerPosition?_makeTrigger indexedToo touchedToo
  have output : (s.scene context).outputOf item = s.network.destination d context.targetId :=
    Scene.outputOf_of_writes writes made
  rw [← synonyms] at writes madeToo
  have outputToo : (u.scene other).outputOf item = u.network.destination d other.targetId :=
    Scene.outputOf_of_writes writes madeToo
  rw [output] at known
  rw [outputToo] at knownToo
  have onward : Moves (makeTrigger item s context) (makeTrigger item u other) := run.trans last
  have still := onward.triggerPosition? (indexed.moves first) known
  have same := (indexedToo.moves last).eq_of_triggerPosition? knownToo still
  rcases (indexed.moves first).output?_of_known known with ⟨row, _, own⟩
  exact apart (target_of_destination whole unique (Network.ne_empty_of_output? own) same)

/-- Let a trigger blueprint have a descriptor of zones or points as its output.  In each of
its contexts, its output becomes the metric of the context's target that has the words
of the descriptor, or nothing if there is none.  With any other descriptor it becomes
nothing.

Where no two metrics share their id, a row that is written for it in one context is not
written for it in a context of another target afterwards, whatever was done meanwhile. -/
theorem outputs_makeTrigger (writes : item.Writes aliases d) :
    (∀ (n : Network) (bindings : Bindings), ∀ context ∈ contextsOf n aliases item,
      ∀ p : Resolution.Progress,
        ((Scene.resolve ⟨n, bindings, aliases, context⟩ item.value).run p).1.get? "output_metric" =
          some (.text (n.destination d context.targetId))) ∧
    ∀ s u : Session, s.Indexed -> s.aliases = aliases ->
      ∀ context ∈ contextsOf s.network aliases item, ∀ other ∈ contextsOf s.network aliases item,
        context.targetId ≠ other.targetId -> Moves (makeTrigger item s context) u ->
        u.metricIds.Nodup -> ∀ place : Nat,
          (makeTrigger item s context).rows[place]? ≠ s.rows[place]? ->
            (makeTrigger item u other).rows[place]? = u.rows[place]? := by
  constructor
  · intro n bindings context made p
    have gives : Scene.Gives ⟨n, bindings, aliases, context⟩ .plain item.value _ := ⟨p, rfl⟩
    exact gives.output writes made
  · rintro s u indexed rfl context made other madeToo apart run unique place touched
    exact not_touched_twice indexed writes made madeToo apart run unique touched

/-- A trigger blueprint with this output, and with one input. -/
def demandBlueprint (output : String) : Item :=
  ⟨[ ("model", .text "metrictrigger"), ("output_metric", .text output)
   , ("calculators", .array [.object [("calc_args", .object [("inputs", .object
       [("metrics", .array [.text "m-0"])])])]]) ]⟩

/-- Two zones, each with a metric of its own. -/
def twoZones : List Row :=
  [ ⟨Fixture.Model.polygon, .text "pl-1", [("label", .text "North")]⟩
  , ⟨Fixture.Model.polygon, .text "pl-2", [("label", .text "South")]⟩
  , Metric.row (Starter.zoneDemand "pl-1" "North") "m-1"
  , Metric.row (Starter.zoneDemand "pl-2" "South") "m-2" ]

theorem writes_demandBlueprint :
    (demandBlueprint "MetricCategory.Zone.zone_demand.qh").Writes Options.default.allAliases
      ⟨"Zone", "zone_demand", "QUARTER_HOUR"⟩ :=
  ⟨rfl, _, rfl, by decide +kernel, by decide +kernel⟩

/-- The trigger of the first zone stands in the fifth row, and that of the second zone is
written elsewhere. -/
theorem outputs_makeTrigger_twoZones :
    let item := demandBlueprint "MetricCategory.Zone.zone_demand.qh"
    let s := resume .default 0 twoZones
    let north := Context.zone ⟨"pl-1", "North", []⟩
    let south := Context.zone ⟨"pl-2", "South", []⟩
    let t := makeTrigger item s north
    item.Writes s.aliases ⟨"Zone", "zone_demand", "QUARTER_HOUR"⟩ ∧
      t.rows[4]? ≠ s.rows[4]? ∧ (makeTrigger item t south).rows[4]? = t.rows[4]? ∧
      ((Scene.resolve ⟨s.network, .empty, s.aliases, south⟩ item.value).run
        ⟨.start .deterministic 0, []⟩).1.get? "output_metric" = some (.text "m-2") := by
  intro item s north south t
  have zonal : Scope.ofItem Options.default.allAliases item = .zone := by decide +kernel
  have contexts : contextsOf s.network s.aliases item = [north, south] := by
    have aliases : s.aliases = Options.default.allAliases := rfl
    rw [contextsOf_of_hidden rfl, aliases, zonal]
    rfl
  have unique : t.metricIds.Nodup := by decide +kernel
  have indexed : s.Indexed := indexed_resume _ _ _
  have touched : t.rows[4]? ≠ s.rows[4]? := by
    intro same
    have written : t.rows[4]?.isSome = true := by decide +kernel
    rw [same] at written
    exact absurd written (by decide +kernel)
  have first : north ∈ contextsOf s.network s.aliases item := contexts ▸ List.mem_cons_self
  have second : south ∈ contextsOf s.network s.aliases item :=
    contexts ▸ List.mem_cons_of_mem _ List.mem_cons_self
  rcases outputs_makeTrigger writes_demandBlueprint with ⟨resolved, apart⟩
  have output := resolved s.network .empty south second ⟨.start .deterministic 0, []⟩
  have own : s.network.destination ⟨"Zone", "zone_demand", "QUARTER_HOUR"⟩ south.targetId =
      "m-2" := by
    decide +kernel
  rw [own] at output
  exact ⟨writes_demandBlueprint, touched,
    apart s t indexed rfl north first south second (by decide) .refl unique 4 touched, output⟩

/-- A descriptor of devices that is not of points stands for no metric, so the trigger has no
output, though the zone it is made for has a metric in these words. -/
theorem output_lost_device :
    let d : Descriptor := ⟨"Device", "zone_demand", "QUARTER_HOUR"⟩
    let item := demandBlueprint "MetricCategory.Device.zone_demand.qh"
    let zone : Zone := ⟨"pl-1", "North", []⟩
    let n : Network := ⟨[zone], [], [], [(⟨"zone_demand", "QUARTER_HOUR", "pl-1"⟩, "m-1")], []⟩
    item.Writes .builtin d ∧ Context.zone zone ∈ contextsOf n .builtin item ∧
      n.metric? ⟨d.category, d.interval, (Context.zone zone).targetId⟩ = some "m-1" ∧
      ((Scene.resolve ⟨n, .empty, .builtin, .zone zone⟩ item.value).run
        ⟨.start .deterministic 0, []⟩).1.get? "output_metric" = some (.text "") := by
  intro d item zone n
  have writes : item.Writes .builtin d := ⟨rfl, _, rfl, by decide +kernel, by decide +kernel⟩
  have zonal : Scope.ofItem .builtin item = .zone := by decide +kernel
  have made : Context.zone zone ∈ contextsOf n .builtin item := by
    rw [contextsOf_of_hidden rfl, zonal]
    exact List.mem_cons_self
  have gives : Scene.Gives ⟨n, .empty, .builtin, .zone zone⟩ .plain item.value _ :=
    ⟨⟨.start .deterministic 0, []⟩, rfl⟩
  have nowhere : n.destination d (Context.zone zone).targetId = "" := by decide +kernel
  have output := gives.output writes made
  rw [nowhere] at output
  exact ⟨writes, made, by decide, output⟩

end Session

end

end Sensornet
