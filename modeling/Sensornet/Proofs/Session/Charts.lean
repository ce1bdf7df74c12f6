import Sensornet.Proofs.Resolution.Descriptors
import Sensornet.Proofs.Session.Everywhere
import Sensornet.Proofs.Session.Pages

namespace Sensornet

/-!
# What charts and cards show

A chart or card says by descriptors what it shows.  Its row lists the metrics
that these stand for in the network as a whole instead.  All metrics are there
when the first card is made, and nothing that is shown adds one, so the list
is complete for the rows of the whole output.
-/

open Fixture (Key Row)
open Json (Value Fields)
open Template (Item Kind)
open Sensornet.Metric (Descriptor)

/-! ## The arguments of a widget -/

namespace Widget

variable {aliases : Metric.Aliases} {fields args : Fields}

/-- Metrics take the place of descriptors. -/
theorem get?_withMetricIds (network : Network) (some' : descriptors aliases args ≠ []) :
    Entries.get? "metric_descriptors" (withMetricIds network aliases args) = none ∧
      Entries.get? "metric_ids" (withMetricIds network aliases args) =
        some (.array ((network.allMetricIds (descriptors aliases args)).map .text)) := by
  unfold withMetricIds
  split
  · next none' => exact absurd none' some'
  · rw [Entries.get?_insert_self, Entries.get?_insert_of_ne (by decide),
      Entries.get?_erase_self]
    exact ⟨rfl, rfl⟩

theorem get?_bound (network : Network) (aliases : Metric.Aliases)
    (object : Entries.get? "args" fields = some (.object args)) :
    Entries.get? "args" (bound network aliases fields) =
      some (.object (withMetricIds network aliases args)) := by
  unfold bound
  rw [object]
  exact Entries.get?_insert_self _ _ _

/-- A chart lists the metrics of its arguments once more. -/
theorem get?_chart (object : Entries.get? "args" fields = some (.object args)) {ids : List Value}
    (listed : Entries.get? "metric_ids" args = some (.array ids)) :
    Entries.get? "args" (chart fields) = some (.object args) ∧
      Entries.get? "metrics" (chart fields) = some (.array ids) := by
  have own : metricIds? fields = some (.array ids) := by
    unfold metricIds?
    rw [object]
    dsimp only
    rw [listed]
    rfl
  unfold chart
  rw [Entries.get?_insert_of_ne (by decide), Entries.get?_insert_self, own]
  exact ⟨object, rfl⟩

end Widget

/-- What the row of a chart or card says about some metrics. -/
structure Fixture.Row.Presents (row : Row) (kind : Kind) (ids : List String) : Prop where
  args : ∃ args, row.field? "args" = some (.object args) ∧
    Entries.get? "metric_descriptors" args = none ∧
    Entries.get? "metric_ids" args = some (.array (ids.map .text))
  metrics : kind = .chart -> row.field? "metrics" = some (.array (ids.map .text))

/-- A finished chart or card presents the metrics that its descriptors stand
for. -/
theorem Widget.presents_finished {network : Network} {aliases : Metric.Aliases}
    {fields args : Fields} {kind : Kind} (figure : kind = .chart ∨ kind = .card)
    (object : Entries.get? "args" fields = some (.object args))
    (some' : descriptors aliases args ≠ []) (model : String) (key : Int) :
    (Widget.row model key (finished network aliases kind fields)).Presents kind
      (network.allMetricIds (descriptors aliases args)) := by
  have arguments : (Widget.row model key (finished network aliases kind fields)).field? "args" =
      Entries.get? "args" (finished network aliases kind fields) :=
    Widget.field?_row (by decide) model key _
  have metrics : (Widget.row model key (finished network aliases kind fields)).field? "metrics" =
      Entries.get? "metrics" (finished network aliases kind fields) :=
    Widget.field?_row (by decide) model key _
  rcases get?_withMetricIds network some' with ⟨gone, ids⟩
  have bound := get?_bound network aliases object
  rcases figure with rfl | rfl
  · rcases get?_chart bound ids with ⟨args', metrics'⟩
    exact ⟨⟨_, arguments.trans args', gone, ids⟩, fun _ => metrics.trans metrics'⟩
  · exact ⟨⟨_, arguments.trans bound, gone, ids⟩, fun chart => by cases chart⟩

namespace Session

variable {s m : Session} {item : Item} {row : Row} {args : Fields}

theorem Anchored.global (anchored : m.Anchored) : (m.scene .global).Global :=
  ⟨rfl, fun found => (anchored.shown found).1⟩

/-- The row of a chart or card presents what its descriptors stand for. -/
theorem Depicts.presents (depicts : m.Depicts item row) (anchored : m.Anchored)
    (figure : item.kind = .chart ∨ item.kind = .card)
    (object : Entries.get? "args" item.fields = some (.object args))
    (some' : Widget.descriptors m.aliases args ≠ []) :
    row.Presents item.kind (m.network.allMetricIds (Widget.descriptors m.aliases args)) := by
  rcases depicts with ⟨model, n, fields, _, gives, rfl⟩
  rcases gives.object with ⟨members, same, each⟩
  cases same
  have resolved := each "args" (by decide)
  rw [object] at resolved
  generalize written : Entries.get? "args" fields = value at resolved
  cases resolved with
  | some givesArgs =>
    rcases givesArgs.object with ⟨resolvedArgs, rfl, eachArg⟩
    have descriptors : Widget.descriptors m.aliases resolvedArgs =
        Widget.descriptors m.aliases args :=
      anchored.global.descriptorsIn_of_gives m.aliases (eachArg "metric_descriptors" (by decide))
    rw [← descriptors] at some' ⊢
    exact Widget.presents_finished figure written some' model n

/-- The row of a kept chart or card presents what its descriptors stand for at
the end of the call. -/
theorem presents_addTemplate (anchored : s.Anchored) {template : List Item} {sections : List String}
    {kind : Kind} (figure : kind = .chart ∨ kind = .card) {rows : List Row}
    (lists : (s.atKind template sections kind).Lists (ofKind (s.keptItems template sections) kind)
      rows) {i : Nat}
    (stands : (ofKind (s.keptItems template sections) kind)[i]? = some item)
    (place : rows[i]? = some row) (object : Entries.get? "args" item.fields = some (.object args))
    (some' : Widget.descriptors s.aliases args ≠ []) :
    row.Presents kind ((s.addTemplate template sections).network.allMetricIds
      (Widget.descriptors s.aliases args)) := by
  have shown : kind.isShown = true := by
    rcases figure with rfl | rfl <;> rfl
  have own : item.kind = kind := (mem_ofKind.mp (List.mem_of_getElem? stands)).2
  have depicts : (s.atItem template sections kind i).Depicts item row :=
    lists.depicts i item row stands place
  rcases s.network_atItem template sections shown i with ⟨network, aliases⟩
  have presents := depicts.presents (anchored.atItem template sections shown i) (own ▸ figure)
    object (aliases ▸ some')
  rw [own, network, aliases] at presents
  exact presents

/-- Where there were no rows of a model, all its rows were added. -/
theorem Moves.rowsOf {t : Session} (run : Moves s t) {model : String}
    (absent : ∀ row ∈ s.rows, row.model ≠ model) :
    t.rowsOf model = (t.rows.drop s.rows.length).filter fun row => row.model == model := by
  have front : (t.rows.take s.rows.length).filter (fun row => row.model == model) = [] := by
    refine List.filter_eq_nil_iff.mpr fun row member equal => ?_
    have head : row.head ∈ s.rows.map Row.head := by
      have taken : (t.rows.take s.rows.length).map Row.head = s.rows.map Row.head := by
        rw [List.map_take, List.prefix_iff_eq_take.mp run.heads, List.length_map]
      rw [← taken]
      exact List.mem_map_of_mem member
    rcases List.mem_map.mp head with ⟨old, among, same⟩
    exact absent old among ((congrArg Prod.fst same).trans (beq_iff_eq.mp equal))
  unfold Session.rowsOf
  rw [← List.nil_append (List.filter _ (t.rows.drop _)), ← front, ← List.filter_append,
    List.take_append_drop]

/-- A compile of an input without a past.  Its chart rows, and likewise its card
rows, are those of the items that are kept, in their order.  Where the
arguments of an item are an object with some descriptors, the row presents
instead, each once, the metric rows of the output that one of them means. -/
theorem metrics_compile {input : Job} (first : input.existing = []) {options : Options}
    {supply : Nat} {s : Session} (compiled : input.compile options supply = .ok s)
    {template : List Item} (read : Job.orEmpty Template.ofJson input.template = .ok template)
    {kind : Kind} (figure : kind = .chart ∨ kind = .card) {model : String}
    (named : kind.model? = some model) :
    let items := ofKind (s.keptItems template input.sections) kind
    let rows := s.rowsOf model
    rows.length = items.length ∧
      ∀ (i : Nat) (item : Item) (row : Row) (args : Fields), items[i]? = some item ->
        rows[i]? = some row -> Entries.get? "args" item.fields = some (.object args) ->
          Widget.descriptors s.aliases args ≠ [] ->
            ∃ ids, row.Presents kind ids ∧ ids.Nodup ∧
              ∀ id, id ∈ ids ↔ ∃ metric ∈ s.rows, metric.key = .text id ∧
                ∃ d ∈ Widget.descriptors s.aliases args, metric.IsMeant d s.rows := by
  intro items rows
  rcases Job.compile_eq compiled with ⟨domain, template', _, read', whole⟩
  cases Except.ok.inj (read.symm.trans read')
  let a := (start options supply).addDomain domain
  have fromStart : s = a.addTemplate template input.sections := by
    rw [whole, first]
    rfl
  have shown : kind.isShown = true := by
    rcases figure with rfl | rfl <;> rfl
  have placing : Deeds domainModels Any (start options supply) a :=
    (deeds_addDomain (start options supply) domain : Deeds _ (Asks fun _ => False) _ _).any
  have templating : Moves a s := fromStart ▸ moves_addTemplate a template input.sections
  have none' : ∀ row ∈ a.rows, row.model ≠ model := by
    intro row member same
    have others : model ∉ domainModels ∧ model ≠ Fixture.Model.trigger := by
      rcases figure with rfl | rfl <;> cases named <;> decide
    rcases placing.added member with among | trigger
    · exact others.1 (same ▸ among)
    · exact others.2 (same.symm.trans trigger)
  have aliases : s.aliases = a.aliases := templating.settings.2.1
  have kept : items = ofKind (a.keptItems template input.sections) kind :=
    congrArg (ofKind · kind) (keptItems_congr aliases template input.sections)
  have lists : (a.atKind template input.sections kind).Lists
      (ofKind (a.keptItems template input.sections) kind) rows := by
    have all : rows = _ := templating.rowsOf none'
    rw [all, fromStart]
    exact a.lists_addTemplate template input.sections shown named
  have anchored : a.Anchored :=
    (Anchored.resume options supply []).later (moves_addDomain _ domain) (bindings_addDomain _ domain)
  have legible : s.Legible := legible_of_moves (placing.moves.trans templating)
  refine ⟨kept ▸ lists.length, fun i item row args stands place object some' => ?_⟩
  rw [kept] at stands
  have presents := presents_addTemplate anchored figure lists stands place object (aliases ▸ some')
  rw [← fromStart, ← aliases] at presents
  exact ⟨_, presents, nodup_distinct _, fun id => legible.mem_allMetricIds⟩

/-- The metrics that the cards of an output list, one after the other. -/
def cardMetrics (s : Session) : List String :=
  (s.rowsOf Fixture.Model.card).flatMap fun row =>
    (((row.field? "args").bind (Value.get? "metric_ids")).map Value.texts).getD []

/-- The card that asks for losses lists the loss of the one zone. -/
theorem metrics_compile_literalJob :
    ∃ s template, literalJob.existing = [] ∧ literalJob.compile .default 0 = .ok s ∧
      Job.orEmpty Template.ofJson literalJob.template = .ok template ∧
      s.cardMetrics = ["m-c11b83ec6750"] ∧
      (s.rowsOf Fixture.Model.card).length =
        (ofKind (s.keptItems template literalJob.sections) .card).length ∧
      ∀ (i : Nat) (item : Item) (row : Row) (args : Fields),
        (ofKind (s.keptItems template literalJob.sections) .card)[i]? = some item ->
          (s.rowsOf Fixture.Model.card)[i]? = some row ->
            Entries.get? "args" item.fields = some (.object args) ->
              Widget.descriptors s.aliases args ≠ [] ->
                ∃ ids, row.Presents .card ids ∧ ids.Nodup ∧
                  ∀ id, id ∈ ids ↔ ∃ metric ∈ s.rows, metric.key = .text id ∧
                    ∃ d ∈ Widget.descriptors s.aliases args, metric.IsMeant d s.rows := by
  have listed : ((literalJob.compile .default 0).toOption.map cardMetrics) =
      some ["m-c11b83ec6750"] := by
    decide +kernel
  cases compiled : literalJob.compile .default 0 with
  | error failure =>
    rw [compiled] at listed
    cases listed
  | ok s =>
    rw [compiled] at listed
    rcases Job.compile_eq compiled with ⟨_, template, _, read, _⟩
    have figures := metrics_compile rfl compiled read (Or.inr rfl) rfl
    exact ⟨s, template, rfl, rfl, read, Option.some.inj listed, figures⟩

end Session
end Sensornet
