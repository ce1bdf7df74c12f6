import Sensornet.Proofs.Session.Inventory
import Sensornet.Proofs.Session.Sequence

namespace Sensornet

/-!
# A domain and a longer one

Items that are put behind the items of a domain change nothing of the targets
and metrics that these become.  For targets this is so because items are placed
in their order.  The metrics come after all targets, so more texts are taken by
then.  But what came in between are keys of targets, links and triggers, and
under the deterministic policy a text for a metric depends on the texts of
metrics alone.

Nothing is said of triggers: that of a zone reads whatever is in the zone, and
their tokens are numbered through the session.
-/

open Fixture (Key Row Registry)
open Json (Value Fields)
open List (Forall₂)
open Relation (ReflTransGen)

/-! ## Rows of targets and metrics -/

/-- Only keys of metrics are made for metrics. -/
theorem Fixture.Row.model_of_purpose {row : Row} {seed : String}
    (purpose : row.purpose? = some (.metric, seed)) : row.model = Fixture.Model.metric := by
  by_contra other
  have unidentified : Network.identity? row = none := if_neg other
  unfold Row.purpose? at purpose
  rw [unidentified] at purpose
  split at purpose
  · cases purpose
  · split at purpose
    · cases purpose
    · rcases Option.map_eq_some_iff.mp purpose with ⟨_, _, different⟩
      cases different

namespace Placement

/-- The fields of the metrics that a target starts with, in order. -/
def starting (table : Int) (p : Placement) : List Fields :=
  if p.isZone then
    [Starter.zoneDemand p.id p.item.label, Starter.averagePressure p.id p.item.label]
  else if p.isMeter then
    [Starter.flowReading p.item p.id table, Starter.flowVolume p.id p.item.label]
  else if p.isPressureSensor then [Starter.pressure p.item p.id table]
  else []

end Placement

namespace Session

variable {models others : List String} {asks : Session -> Trigger -> Prop}
  {a b s t u v : Session}

/-! ## Added rows -/

/-- The rows of some models that a session has beyond those of another. -/
def rowsSince (models : List String) (s t : Session) : List Row :=
  (appended s t).filter fun row => models.contains row.model

theorem rowsSince_refl (models : List String) (s : Session) : rowsSince models s s = [] := by
  unfold rowsSince
  rw [appended_of_rows (List.append_nil s.rows).symm]
  rfl

/-- Rows that are no triggers are the same as long as rows stay. -/
theorem filter_of_stays (passive : Fixture.Model.trigger ∉ models) {rows later : List Row}
    (stay : Forall₂ Row.Stays rows later) :
    (later.filter fun row => models.contains row.model) =
      rows.filter fun row => models.contains row.model := by
  induction stay with
  | nil => rfl
  | @cons row then' rest others head _ ih =>
    cases among : models.contains row.model with
    | false =>
      have out : models.contains then'.model = false := head.model ▸ among
      simp only [List.filter_cons, among, out, ih, Bool.false_eq_true, if_false]
    | true =>
      have same : then' = row := head.other fun trigger =>
        passive (trigger ▸ List.contains_iff_mem.mp among)
      simp only [List.filter_cons, same, among, ih]

/-- What is added is added step by step. -/
theorem rowsSince_trans (first : Moves s t) (second : Moves t u) (indexed : t.Indexed)
    (passive : Fixture.Model.trigger ∉ models) :
    rowsSince models s u = rowsSince models s t ++ rowsSince models t u := by
  have whole := filter_of_stays passive (first.appended_append second indexed)
  rw [List.filter_append] at whole
  exact whole

/-- Deeds add rows of their models and triggers. -/
theorem Deeds.rowsSince_eq_nil (run : Deeds others asks s t)
    (apart : ∀ model ∈ others, model ∉ models) (passive : Fixture.Model.trigger ∉ models) :
    rowsSince models s t = [] := by
  refine List.filter_eq_nil_iff.mpr fun row member among => ?_
  rcases run.added member with own | trigger
  · exact apart _ own (List.contains_iff_mem.mp among)
  · exact passive (trigger ▸ List.contains_iff_mem.mp among)

theorem rowsSince_of_rows {rows : List Row} (added : t.rows = s.rows ++ rows) :
    rowsSince models s t = rows.filter fun row => models.contains row.model := by
  unfold rowsSince
  rw [appended_of_rows added]

/-- What a fold adds was added by one of its steps. -/
theorem exists_step_of_mem_rowsSince {A : Type} {step : Session -> A -> Session} {items : List A}
    (each : ∀ (t : Session) (a : A), Moves t (step t a)) (indexed : s.Indexed)
    (passive : Fixture.Model.trigger ∉ models) {row : Row}
    (member : row ∈ rowsSince models s (items.foldl step s)) :
    ∃ a ∈ items, ∃ u, Moves s u ∧ row ∈ rowsSince models u (step u a) := by
  induction items generalizing s with
  | nil =>
    rw [List.foldl_nil, rowsSince_refl] at member
    cases member
  | cons a rest ih =>
    have others : Moves (step s a) ((a :: rest).foldl step s) :=
      Moves.foldl _ rest fun t b _ => each t b
    rw [rowsSince_trans (each s a) others (indexed.moves (each s a)) passive] at member
    rcases List.mem_append.mp member with here | later
    · exact ⟨a, List.mem_cons_self, s, .refl, here⟩
    · rcases ih (indexed.moves (each s a)) later with ⟨b, among, u, run, added⟩
      exact ⟨b, List.mem_cons_of_mem a among, u, (each s a).trans run, added⟩

/-! ## Texts of metrics -/

/-- Deeds that enter no metrics issue no texts for metrics. -/
theorem Deeds.spares (run : Deeds models asks s t) (noMetrics : Fixture.Model.metric ∉ models) :
    s.registry.Spares .metric t.registry := by
  induction run with
  | refl => exact .refl _ _
  | @tail u v _ deed ih =>
    refine ih.trans ?_
    cases deed with
    | still same => exact .same same.keys
    | bind id named => exact .same (Quiet.bind u id _ _).keys
    | @enter registry row model issued new named own among passive =>
      have other : row.model ≠ Fixture.Model.metric := fun same => noMetrics (same ▸ own ▸ among)
      cases key : row.key with
      | integer n =>
        rw [key] at issued
        cases issued
        exact .nextInteger _ _
      | text id =>
        rcases named id key with ⟨kind, seed, purpose, made⟩
        have different : kind ≠ .metric := by
          rintro rfl
          exact other (Fixture.Row.model_of_purpose purpose)
        have after : (u.registry.make kind seed).2 = registry := congrArg Prod.snd made
        exact after ▸ .make u.registry different seed
    | @ask wanted asked =>
      cases complete : wanted.isComplete with
      | false =>
        rw [u.putTrigger_incomplete complete]
        exact .refl _ _
      | true =>
        rcases u.stands_or_unknown wanted.outputMetric with ⟨position, row, known, stands⟩ | unknown
        · rw [u.putTrigger_known complete known stands]
          exact .refl _ _
        · rw [u.putTrigger_new complete unknown]
          exact .make u.registry (by decide) _

/-! ## Two sessions that obtain the same metrics -/

/-- Two sessions came to know the same metrics, issue the same texts for more,
and wrote the same rows of metrics since some moments. -/
structure Paired (a b s t : Session) : Prop where
  ran : Moves a s
  ranToo : Moves b t
  indexed : a.Indexed
  indexedToo : b.Indexed
  options : t.options = s.options
  aliases : t.aliases = s.aliases
  metrics : t.network.metrics = s.network.metrics
  keys : s.registry.AgreesOn .metric t.registry
  rows : rowsSince [Fixture.Model.metric] b t = rowsSince [Fixture.Model.metric] a s

theorem not_mem_metricModel : Fixture.Model.trigger ∉ [Fixture.Model.metric] := by
  decide

namespace Paired

/-- Both go on, to the same metrics, texts for metrics and rows of metrics. -/
theorem onward (paired : Paired a b s t) (left : Moves s u) (right : Moves t v)
    (metrics : v.network.metrics = u.network.metrics)
    (keys : u.registry.AgreesOn .metric v.registry)
    (rows : rowsSince [Fixture.Model.metric] t v = rowsSince [Fixture.Model.metric] s u) :
    Paired a b u v where
  ran := paired.ran.trans left
  ranToo := paired.ranToo.trans right
  indexed := paired.indexed
  indexedToo := paired.indexedToo
  options := by rw [left.settings.1, right.settings.1, paired.options]
  aliases := by rw [left.settings.2.1, right.settings.2.1, paired.aliases]
  metrics := metrics
  keys := keys
  rows := by
    rw [rowsSince_trans paired.ran left (paired.indexed.moves paired.ran) not_mem_metricModel,
      rowsSince_trans paired.ranToo right (paired.indexedToo.moves paired.ranToo)
        not_mem_metricModel, rows, paired.rows]

/-- Whatever else either of them does makes no difference. -/
theorem aside (paired : Paired a b s t) (left : Deeds models Any s u)
    (right : Deeds others Any t v) (noMetrics : Fixture.Model.metric ∉ models)
    (noMetricsToo : Fixture.Model.metric ∉ others) : Paired a b u v := by
  have apart : ∀ {models : List String}, Fixture.Model.metric ∉ models ->
      ∀ model ∈ models, model ∉ [Fixture.Model.metric] :=
    fun absent _ among same => absent (List.mem_singleton.mp same ▸ among)
  refine paired.onward left.moves right.moves ?_
    (paired.keys.apart (left.spares noMetrics) (right.spares noMetricsToo)) ?_
  · rw [left.metrics noMetrics, right.metrics noMetricsToo, paired.metrics]
  · rw [left.rowsSince_eq_nil (apart noMetrics) not_mem_metricModel,
      right.rowsSince_eq_nil (apart noMetricsToo) not_mem_metricModel]

/-- Both enter the row of one new metric. -/
theorem enter (paired : Paired a b s t) {complete : Fields} {id : String}
    {registry registryToo : Registry}
    (unknown : s.network.metric? (Metric.Identity.ofFields complete) = none)
    (left : Moves s (s.enter registry (Metric.row complete id)))
    (right : Moves t (t.enter registryToo (Metric.row complete id)))
    (keys : registry.AgreesOn .metric registryToo) :
    Paired a b (s.enter registry (Metric.row complete id))
      (t.enter registryToo (Metric.row complete id)) := by
  have unknownToo : t.network.metric? (Metric.Identity.ofFields complete) = none := by
    unfold Network.metric? at unknown ⊢
    rw [paired.metrics]
    exact unknown
  refine paired.onward left right ?_ keys ?_
  · rw [network_enter, network_enter, Network.indexRow_metricRow _ unknown,
      Network.indexRow_metricRow _ unknownToo]
    exact congrArg (Entries.insert (Metric.Identity.ofFields complete) id) paired.metrics
  · rw [rowsSince_of_rows (rows_enter t registryToo _), rowsSince_of_rows (rows_enter s registry _)]

theorem obtainMetric (paired : Paired a b s t) (fields : Fields) :
    Paired a b (s.obtainMetric fields).2 (t.obtainMetric fields).2 := by
  cases known : s.network.metric?
      (.ofFields (Metric.complete s.aliases s.options.storageTable fields)) with
  | some id =>
    have knownToo := known
    unfold Network.metric? at knownToo
    rw [← paired.metrics, ← paired.aliases, ← paired.options] at knownToo
    rcases s.obtainMetric_known known with ⟨notice, found⟩
    rcases t.obtainMetric_known knownToo with ⟨other, foundToo⟩
    rw [found, foundToo]
    exact paired.aside (Still.note s notice).deeds (Still.note t other).deeds
      List.not_mem_nil List.not_mem_nil
  | none =>
    have unknownToo := known
    unfold Network.metric? at unknownToo
    rw [← paired.metrics, ← paired.aliases, ← paired.options] at unknownToo
    have left := moves_obtainMetric s fields
    have right := moves_obtainMetric t fields
    rw [s.obtainMetric_new known] at left ⊢
    rw [t.obtainMetric_new unknownToo] at right ⊢
    dsimp only at left right ⊢
    rw [paired.aliases, paired.options, paired.keys.id_make] at right ⊢
    exact paired.enter known left right (paired.keys.make _)

end Paired

/-! ## What targets start with -/

/-- Obtain some metrics, one after the other. -/
def obtainAll (s : Session) (fields : List Fields) : Session :=
  fields.foldl (fun s fields => (s.obtainMetric fields).2) s

theorem deeds_obtainAll (s : Session) (fields : List Fields) :
    Deeds [Fixture.Model.metric] asks s (s.obtainAll fields) :=
  Deeds.foldl fields fun t own _ _ => deeds_obtainMetric t own

/-- A target obtains its metrics, and then a flow meter its trigger. -/
theorem deeds_metricsOfTarget_of_obtainAll (s : Session) (p : Placement) :
    Deeds [] Any (s.obtainAll (Placement.starting s.options.rawStorageTable p))
      (s.metricsOfTarget p) := by
  unfold metricsOfTarget Placement.starting Placement.isZone Placement.isMeter
    Placement.isPressureSensor
  simp only [beq_iff_eq]
  split
  · exact .refl
  · split
    · exact deeds_starterTrigger_any _ _ _ _ _ _ _
    · split <;> exact .refl

/-- What a target starts with has the identities of the target. -/
theorem map_identityFor_starting (s : Session) (table : Int) (p : Placement) :
    (Placement.starting table p).map s.identityFor = p.metrics s.aliases := by
  have computed : ∀ unit label category tag, s.identityFor (Starter.computed unit label category tag
      p.id) = p.standard s.aliases category := fun _ _ _ _ => s.identityFor_computed _ _ _ _ _
  unfold Placement.starting Placement.metrics
  split
  · exact congrArg₂ (fun a b => [a, b]) (computed _ _ _ _) (computed _ _ _ _)
  · split
    · exact congrArg₂ (fun a b => [a, b]) (s.identityFor_flowReading p table) (computed _ _ _ _)
    · split
      · exact congrArg (fun a => [a]) (s.identityFor_pressure p table)
      · rfl

theorem identityFor_of_moves (run : Moves s t) (fields : Fields) :
    t.identityFor fields = s.identityFor fields := by
  unfold identityFor
  rw [run.settings.1, run.settings.2.1]

/-- The row of a metric that is obtained has the identity that was asked for. -/
theorem identity?_of_obtainMetric (s : Session) (fields : Fields) :
    ∀ row ∈ rowsSince [Fixture.Model.metric] s (s.obtainMetric fields).2,
      Network.identity? row = some (s.identityFor fields) := by
  intro row member
  cases known : s.network.metric? (s.identityFor fields) with
  | some id =>
    rcases s.obtainMetric_known known with ⟨notice, found⟩
    have same : (s.obtainMetric fields).2.rows = s.rows ++ [] := by
      rw [found, List.append_nil]
      rfl
    rw [rowsSince_of_rows same] at member
    cases member
  | none =>
    rw [rowsSince_of_rows (s.rows_obtainMetric_of_unknown known)] at member
    cases List.mem_singleton.mp (List.mem_of_mem_filter member)
    exact Network.identity?_metricRow _ _

/-- The rows of metrics that a target starts with have its identities. -/
theorem identity?_of_metricsOfTarget (indexed : s.Indexed) (p : Placement) :
    ∀ row ∈ rowsSince [Fixture.Model.metric] s (s.metricsOfTarget p),
      ∃ identity ∈ p.metrics s.aliases, Network.identity? row = some identity := by
  intro row member
  have obtained : Deeds [Fixture.Model.metric] Any s
      (s.obtainAll (Placement.starting s.options.rawStorageTable p)) := deeds_obtainAll s _
  have last := deeds_metricsOfTarget_of_obtainAll s p
  rw [rowsSince_trans obtained.moves last.moves (indexed.moves obtained.moves) not_mem_metricModel,
    last.rowsSince_eq_nil (List.forall_mem_nil _) not_mem_metricModel, List.append_nil] at member
  rcases exists_step_of_mem_rowsSince (fun t fields => moves_obtainMetric t fields) indexed
    not_mem_metricModel member with ⟨fields, among, u, run, added⟩
  refine ⟨s.identityFor fields, ?_, ?_⟩
  · rw [← s.map_identityFor_starting s.options.rawStorageTable p]
    exact List.mem_map_of_mem among
  · rw [← identityFor_of_moves run]
    exact identity?_of_obtainMetric u fields row added

theorem Paired.obtainAll (paired : Paired a b s t) (fields : List Fields) :
    Paired a b (s.obtainAll fields) (t.obtainAll fields) := by
  induction fields generalizing s t with
  | nil => exact paired
  | cons first rest ih => exact ih (paired.obtainMetric first)

/-- Two sessions in which the same targets start obtain the same metrics. -/
theorem Paired.metricsOfTarget (paired : Paired a b s t) (p : Placement) :
    Paired a b (s.metricsOfTarget p) (t.metricsOfTarget p) := by
  have left := deeds_metricsOfTarget_of_obtainAll s p
  have right := deeds_metricsOfTarget_of_obtainAll t p
  rw [paired.options] at right
  exact (paired.obtainAll _).aside left right List.not_mem_nil List.not_mem_nil

theorem Paired.foldl_metricsOfTarget (paired : Paired a b s t) (placed : List Placement) :
    Paired a b (placed.foldl Session.metricsOfTarget s)
      (placed.foldl Session.metricsOfTarget t) := by
  induction placed generalizing s t with
  | nil => exact paired
  | cons p rest ih => exact ih (paired.metricsOfTarget p)

/-! ## The longer domain -/

/-- The session after targets have got the metrics they start with, if any. -/
def furnished (s : Session) (placed : List Placement) : Session :=
  if s.options.starterMetrics then placed.foldl metricsOfTarget s else s

theorem moves_furnished (s : Session) (placed : List Placement) :
    Moves s (s.furnished placed) := by
  unfold furnished
  split
  · exact Moves.foldl _ placed fun t p _ => moves_metricsOfTarget t p
  · exact .refl

theorem furnished_append (s : Session) (placed more : List Placement) :
    s.furnished (placed ++ more) = (s.furnished placed).furnished more := by
  have settings := (moves_furnished s placed).settings.1
  unfold furnished at settings ⊢
  rw [settings]
  split
  · exact List.foldl_append
  · rfl

/-- The rows of some metrics belong to some targets. -/
def StartWith (aliases : Metric.Aliases) (placed : List Placement) (rows : List Row) : Prop :=
  ∀ row ∈ rows, ∃ p ∈ placed, ∃ identity ∈ p.metrics aliases,
    Network.identity? row = some identity

theorem startWith_furnished (indexed : s.Indexed) (placed : List Placement) :
    StartWith s.aliases placed (rowsSince [Fixture.Model.metric] s (s.furnished placed)) := by
  intro row member
  unfold furnished at member
  split at member
  · rcases exists_step_of_mem_rowsSince (fun t p => moves_metricsOfTarget t p) indexed
      not_mem_metricModel member with ⟨p, among, u, run, added⟩
    have own := identity?_of_metricsOfTarget (indexed.moves run) p row added
    rw [run.settings.2.1] at own
    exact ⟨p, among, own⟩
  · rw [rowsSince_refl] at member
    cases member

theorem Paired.furnished (paired : Paired a b s t) (placed : List Placement) :
    Paired a b (s.furnished placed) (t.furnished placed) := by
  unfold Session.furnished
  rw [paired.options]
  split
  · exact paired.foldl_metricsOfTarget placed
  · exact paired

/-- After the metrics a domain asks for triggers, and this is all. -/
theorem deeds_addDomain_of_furnished (s : Session) (items : List Domain.Item) :
    Deeds [] Any ((s.linked items).furnished (s.placeItems [] items).1) (s.addDomain items) := by
  rcases addDomain_eq s items with ⟨notice, whole⟩
  rw [whole]
  refine ReflTransGen.trans ?_ (Still.note _ notice).deeds
  unfold furnished equipped
  split
  · have zonal : Deeds [] (Asks fun _ => False)
        ((s.placeItems [] items).1.foldl metricsOfTarget (s.linked items))
        ((s.linked items).starters (s.placeItems [] items).1) :=
      Deeds.foldl _ fun t p _ _ => deeds_triggersOfZone t _ p
    exact zonal.any
  · exact .refl

/-- The rows of targets are those of the items that are new. -/
theorem rowsSince_targets_addDomain (indexed : s.Indexed) (items : List Domain.Item) :
    rowsSince targetModels s (s.addDomain items) =
      (newcomers s.network [] (s.placeItems [] items).1).map Placement.row := by
  have passive : Fixture.Model.trigger ∉ targetModels := by decide
  have placing : Moves s (s.placeItems [] items).2 := moves_placeItems s [] items
  have linking : Deeds [Fixture.Model.link] Any (s.placeItems [] items).2 (s.linked items) :=
    deeds_placeItems_linked s items
  have later : Deeds [Fixture.Model.link, Fixture.Model.metric] Any (s.placeItems [] items).2
      (s.addDomain items) :=
    (linking.widen (by decide)).trans ((deeds_addDomain_of_linked s items).widen (by decide))
  rw [rowsSince_trans placing later.moves (indexed.moves placing) passive,
    later.rowsSince_eq_nil (by decide) passive, List.append_nil]
  unfold rowsSince
  rw [(s.appended_placeItems items).2]
  refine List.filter_eq_self.mpr (List.forall_mem_map.mpr fun p _ => ?_)
  exact List.contains_iff_mem.mpr p.model_row

/-- The rows of metrics are those that targets start with. -/
theorem rowsSince_metrics_addDomain (indexed : s.Indexed) (items : List Domain.Item) :
    rowsSince [Fixture.Model.metric] s (s.addDomain items) =
      rowsSince [Fixture.Model.metric] s
        ((s.linked items).furnished (s.placeItems [] items).1) := by
  have linking : Deeds (targetModels ++ [Fixture.Model.link]) Any s (s.linked items) :=
    deeds_linked s items
  have run : Moves s ((s.linked items).furnished (s.placeItems [] items).1) :=
    linking.moves.trans (moves_furnished _ _)
  have last := deeds_addDomain_of_furnished s items
  rw [rowsSince_trans run last.moves (indexed.moves run) not_mem_metricModel,
    last.rowsSince_eq_nil (List.forall_mem_nil _) not_mem_metricModel, List.append_nil]

theorem startWith_addDomain (indexed : s.Indexed) (items : List Domain.Item) :
    StartWith s.aliases (s.placeItems [] items).1
      (rowsSince [Fixture.Model.metric] s (s.addDomain items)) := by
  have linking : Deeds (targetModels ++ [Fixture.Model.link]) Any s (s.linked items) :=
    deeds_linked s items
  have then' := indexed.moves linking.moves
  rw [rowsSince_metrics_addDomain indexed,
    rowsSince_trans linking.moves (moves_furnished _ _) then' not_mem_metricModel,
    linking.rowsSince_eq_nil (by decide) not_mem_metricModel, List.nil_append]
  exact linking.settings.2 ▸ startWith_furnished then' _

/-- What a session writes for a domain, and what it writes for a longer one. -/
structure Prolongs (s short long : Session) (placed more : List Placement) : Prop where
  targets : rowsSince targetModels s short = (newcomers s.network [] placed).map Placement.row
  targetsToo : rowsSince targetModels s long = rowsSince targetModels s short ++
    (newcomers s.network placed more).map Placement.row
  metrics : StartWith s.aliases placed (rowsSince [Fixture.Model.metric] s short)
  metricsToo : ∃ rows, rowsSince [Fixture.Model.metric] s long =
    rowsSince [Fixture.Model.metric] s short ++ rows ∧ StartWith s.aliases more rows

/-- Where texts for metrics depend on those of metrics alone, the rows of a
domain stay the same before those of further items. -/
theorem Indexed.prolongs (indexed : s.Indexed) (policy : s.registry.policy = .deterministic)
    (first second : List Domain.Item) :
    ∃ more, (s.placeItems [] (first ++ second)).1 = (s.placeItems [] first).1 ++ more ∧
      (s.placeItems [] first).1.map Placement.item = first ∧
      more.map Placement.item = second ∧
      Prolongs s (s.addDomain first) (s.addDomain (first ++ second))
        (s.placeItems [] first).1 more := by
  rcases (extends_nil s).placeItems first with ⟨placed, all, items, _, _, known⟩
  rcases known.placeItems second with ⟨more, both, itemsToo, _, _, _⟩
  rw [List.nil_append] at all
  have whole : (s.placeItems [] (first ++ second)).1 = placed ++ more := by
    rw [placeItems_append, all]
    exact both
  rw [all]
  refine ⟨more, whole, items, itemsToo, ?_⟩
  have linking : ∀ items, Deeds (targetModels ++ [Fixture.Model.link]) Any s (s.linked items) :=
    fun items => deeds_linked s items
  have alike : Paired s s s s :=
    ⟨.refl, .refl, indexed, indexed, rfl, rfl, rfl, ⟨policy, policy, fun _ _ => rfl⟩, rfl⟩
  -- the metrics of the first items come before the others, but after all targets and links
  have paired := (alike.aside (linking first) (linking (first ++ second))
    (by decide) (by decide)).furnished placed
  have midway := indexed.moves paired.ranToo
  have furnishing := moves_furnished ((s.linked (first ++ second)).furnished placed) more
  have aliases := paired.ranToo.settings.2.1
  refine ⟨?_, ?_, all ▸ startWith_addDomain indexed first,
    rowsSince [Fixture.Model.metric] _ _, ?_, aliases ▸ startWith_furnished midway more⟩
  · rw [rowsSince_targets_addDomain indexed, all]
  · rw [rowsSince_targets_addDomain indexed, rowsSince_targets_addDomain indexed, whole, all,
      newcomers_append, List.map_append, List.nil_append]
  · rw [rowsSince_metrics_addDomain indexed, rowsSince_metrics_addDomain indexed, whole, all,
      furnished_append, rowsSince_trans paired.ranToo furnishing midway not_mem_metricModel,
      paired.rows]

/-- Under the deterministic policy items that are put behind a domain rename
nothing of it: its items are given the same targets, and the rows of these and
of what they start with are the same. -/
theorem addDomain_append {options : Options} (policy : options.policy = .deterministic)
    (supply : Nat) (existing : List Row) (calls : List Call) (first second : List Domain.Item) :
    let s := (resume options supply existing).run calls
    ∃ more, (s.placeItems [] (first ++ second)).1 = (s.placeItems [] first).1 ++ more ∧
      (s.placeItems [] first).1.map Placement.item = first ∧
      more.map Placement.item = second ∧
      Prolongs s (s.addDomain first) (s.addDomain (first ++ second))
        (s.placeItems [] first).1 more := by
  intro s
  have run : Moves (resume options supply existing) s := moves_run _ calls
  have indexed : s.Indexed := (indexed_resume options supply existing).moves run
  refine indexed.prolongs ?_ first second
  rw [run.registry.policy, (resume_parts options supply existing).2.2.1,
    Fixture.Registry.policy_seed]
  exact policy

/-- A meter is put behind the zone of a domain. -/
theorem addDomain_append_northMeter :
    Options.default.policy = .deterministic ∧
      let s := (resume .default 0 []).run []
      ∃ more, (s.placeItems [] ([northZone] ++ [northMeter])).1 =
          (s.placeItems [] [northZone]).1 ++ more ∧
        (s.placeItems [] [northZone]).1.map Placement.item = [northZone] ∧
        more.map Placement.item = [northMeter] ∧
        Prolongs s (s.addDomain [northZone]) (s.addDomain ([northZone] ++ [northMeter]))
          (s.placeItems [] [northZone]).1 more :=
  ⟨rfl, addDomain_append rfl 0 [] [] [northZone] [northMeter]⟩

end Session
end Sensornet
