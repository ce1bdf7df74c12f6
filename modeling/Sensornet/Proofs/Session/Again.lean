import Sensornet.Proofs.Session.Settled

namespace Sensornet

/-!
# The same template once more

A second call with the same template in the same session asks for the same
metrics and triggers, with one difference: it finds bound what the first call
bound.  A text that was nobody's id when its blueprint was made may be one now.
Where this concerns the words of a metric, another metric is asked for, and
where it concerns what stands alone under the metrics of a calculator, a
trigger that read nothing may come to read something.  Otherwise nothing is
missing, and the call adds what is shown to users and nothing else.
-/

open Fixture (Key Row)
open Json (Value Fields)
open Template (Item Kind)

namespace Session

variable {s t moment : Session} {item : Item} {context : Context} {template : List Item}
  {sections : List String}

/-! ## Making what is there -/

/-- The metric of a blueprint is known in a context, and the blueprint bound. -/
structure HasMetric (s : Session) (item : Item) (context : Context) : Prop where
  known : ∃ id, s.network.metric? (s.identityIn item context) = some id
  bound : s.IsBound item context

/-- The trigger of a blueprint has a row, and the blueprint is bound, unless it
writes or reads nothing in the context. -/
def HasTrigger (s : Session) (item : Item) (context : Context) : Prop :=
  (s.scene context).outputOf item ≠ "" -> (s.scene context).inputsOf item ≠ [] ->
    (∃ row, s.triggerRow? ((s.scene context).outputOf item) = some row) ∧ s.IsBound item context

theorem bind_of_isBound (bound : s.IsBound item context) (key : Key) :
    s.bind item.abstractionId? context.name key = s := by
  unfold Session.bind
  cases own : item.abstractionId? with
  | none => rfl
  | some id =>
    rcases bound id own with ⟨known, found⟩
    dsimp only
    rw [Bindings.bind_of_bound found]

/-! ### Metrics -/

theorem HasMetric.still (has : s.HasMetric item context) (regular : Regular s.aliases item)
    (still : s.Still t) : t.HasMetric item context := by
  have same : t.identityIn item context = s.identityIn item context :=
    identityFor_congr still.options still.aliases regular fun _ _ _ _ => by rw [still.bindings]
  constructor
  · rw [same, still.network]
    exact has.known
  · unfold IsBound
    rw [still.bindings]
    exact has.bound

theorem still_makeMetric (has : s.HasMetric item context) :
    s.Still (makeMetric item s context) := by
  rcases has.known with ⟨id, known⟩
  rcases (s.resolve context (.object item.fields)).2.obtainMetric_known known with ⟨notice, found⟩
  have noted := (Still.resolve s context (.object item.fields)).trans (.note _ notice)
  have bound : ((s.resolve context (.object item.fields)).2.note notice).IsBound item context :=
    has.bound
  unfold makeMetric
  dsimp only
  rw [found, bind_of_isBound bound]
  exact noted

theorem still_makeMetrics (regular : Regular s.aliases item)
    (has : ∀ context ∈ contextsOf s.network s.aliases item, s.HasMetric item context) :
    s.Still (s.makeMetrics item) := by
  have made : ∀ t : Session, s.Still t ->
      s.Still ((contextsOf s.network s.aliases item).foldl (makeMetric item) t) :=
    fun t before => List.foldlRecOn _ _ before fun u now context member =>
      now.trans (still_makeMetric ((has context member).still regular now))
  unfold makeMetrics
  dsimp only
  split
  · exact made _ (.note s _)
  · exact made s (.refl s)

/-- When all metrics are known, making them changes nothing. -/
theorem still_withMetrics
    (regular : ∀ item ∈ ofKind (s.keptItems template sections) .metric, Regular s.aliases item)
    (has : ∀ item ∈ ofKind (s.keptItems template sections) .metric,
      ∀ context ∈ contextsOf s.network s.aliases item, s.HasMetric item context) :
    s.Still (s.withMetrics template sections) := by
  refine List.foldlRecOn (motive := s.Still) _ makeMetrics (Still.noteAll s _)
    fun t now item member => now.trans (still_makeMetrics ?_ fun context made => ?_)
  · rw [now.aliases]
    exact regular item member
  · rw [now.network, now.aliases] at made
    exact (has item member context made).still (regular item member) now

/-! ### Triggers -/

/-- The sessions know and bind the same, and have rows under the same keys. -/
structure Level (s t : Session) : Prop where
  aliases : t.aliases = s.aliases
  network : t.network = s.network
  bindings : t.bindings = s.bindings
  heads : t.rows.map Row.head = s.rows.map Row.head

theorem Still.level (still : s.Still t) : s.Level t :=
  ⟨still.aliases, still.network, still.bindings, congrArg _ still.rows⟩

theorem Level.trans {u : Session} (before : s.Level t) (after : t.Level u) : s.Level u :=
  ⟨after.aliases.trans before.aliases, after.network.trans before.network,
    after.bindings.trans before.bindings, after.heads.trans before.heads⟩

theorem HasTrigger.level (has : s.HasTrigger item context) (level : s.Level t) :
    t.HasTrigger item context := by
  have scene : t.scene context = s.scene context := by
    unfold Session.scene
    rw [level.network, level.bindings, level.aliases]
  unfold HasTrigger IsBound
  rw [scene, level.bindings]
  intro writes reads
  rcases has writes reads with ⟨⟨row, found⟩, bound⟩
  refine ⟨?_, bound⟩
  rcases Option.bind_eq_some_iff.mp found with ⟨position, known, stands⟩
  have head : (t.rows.map Row.head)[position]? = some row.head := by
    rw [level.heads, List.getElem?_map, stands, Option.map_some]
  rw [List.getElem?_map] at head
  rcases Option.map_eq_some_iff.mp head with ⟨later, there, _⟩
  refine ⟨later, ?_⟩
  unfold triggerRow?
  rw [level.network, known, Option.bind_some, there]

theorem level_makeTrigger (has : s.HasTrigger item context) :
    s.Level (makeTrigger item s context) := by
  rcases s.makeTrigger_eq item context with ⟨t, wanted, still, output, inputs, made⟩
  rw [made]
  cases complete : wanted.isComplete with
  | false =>
    rw [t.putTrigger_incomplete complete, bindTrigger_of_none rfl]
    exact ((still.trans (.note t _)).trans (.note _ _)).level
  | true =>
    rcases Trigger.isComplete_iff.mp complete with ⟨writes, reads⟩
    rcases has (output ▸ writes) (inputs ▸ reads) with ⟨⟨row, found⟩, bound⟩
    rw [← output, ← still.toQuiet.triggerRow?] at found
    rcases Option.bind_eq_some_iff.mp found with ⟨position, known, stands⟩
    rw [t.putTrigger_known complete known stands, bindTrigger_of_some rfl, bind_of_isBound]
    · have replaced := map_head_replaceFields
        (t.note (.triggerUpdated row.key.shown wanted.outputMetric)) position
        (wanted.fields row.key.toJson)
      exact ⟨still.aliases, still.network, still.bindings,
        replaced.trans (congrArg _ still.rows)⟩
    · have same : ∀ fields, (((t.note (.triggerUpdated row.key.shown
          wanted.outputMetric)).replaceFields position fields)).bindings = s.bindings :=
        fun _ => still.bindings
      unfold IsBound
      rw [same]
      exact bound

theorem level_makeTriggers
    (has : ∀ context ∈ contextsOf s.network s.aliases item, s.HasTrigger item context) :
    s.Level (s.makeTriggers item) :=
  List.foldlRecOn _ _ (Still.refl s).level fun _ now context member =>
    now.trans (level_makeTrigger ((has context member).level now))

/-- When all triggers have rows, making them adds no row. -/
theorem level_makeTriggerKind (kept : List Item) (has : ∀ item ∈ ofKind kept .trigger,
      ∀ context ∈ contextsOf s.network s.aliases item, s.HasTrigger item context)
    (level : s.Level t) : s.Level (makeKind makeTriggers kept t .trigger) := by
  refine List.foldlRecOn (motive := s.Level) _ makeTriggers level fun u now item member =>
    now.trans (level_makeTriggers fun context made => ?_)
  rw [now.network, now.aliases] at made
  exact (has item member context made).level now

/-! ### What is shown -/

/-- If making metrics and triggers adds no row, a call adds what is shown. -/
theorem shown_of_level (level : s.Level (s.prepared template sections)) {row : Row}
    (added : row ∈ (s.addTemplate template sections).rows.drop s.rows.length) :
    row.model ∈ shownModels := by
  have unique : shownKinds.Nodup := by decide
  rcases lists_afterKinds (s.keptItems template sections) unique (fun _ => mem_shownKinds.mp)
    (s.prepared template sections) with ⟨behind, whole, models, _⟩
  rcases s.addTemplate_eq template sections with ⟨notice, made⟩
  have length : (s.prepared template sections).rows.length = s.rows.length := by
    simpa using congrArg List.length level.heads
  rw [made, rows_note, whole, ← length, List.drop_left] at added
  rcases models row added with ⟨kind, among, named⟩
  exact (mem_shownModels (mem_shownKinds.mp among) named).1

/-! ## What the first call leaves -/

/-- A metric blueprint whose words are bound as at its moment finds its metric. -/
theorem hasMetric_addTemplate (regular : Regular s.aliases item)
    (makes : s.MakesMetric template sections item context moment)
    (words : SameWords item context.name moment.bindings
      (s.addTemplate template sections).bindings) :
    (s.addTemplate template sections).HasMetric item context := by
  rcases makes.deeds with ⟨before, after⟩
  rcases known_makeMetric moment item context with ⟨⟨id, known⟩, bound⟩
  have making : Deeds templateModels Any moment (makeMetric item moment context) :=
    (deeds_makeMetric moment item context).widen (by decide)
  have onward : Deeds templateModels Any moment (s.addTemplate template sections) :=
    making.trans after
  rcases onward.settings with ⟨options, aliases⟩
  rw [← before.settings.2] at regular
  have same : (s.addTemplate template sections).identityIn item context =
      moment.identityIn item context := identityFor_congr options aliases regular words
  exact ⟨⟨id, same ▸ after.moves.metric? known⟩, bound.later after⟩

/-- A trigger blueprint that read nothing at its moment and sees the same alone
under its metrics reads nothing still; any other finds its trigger. -/
theorem hasTrigger_addTemplate (indexed : s.Indexed) (anchored : s.Anchored)
    (writes : WritesDescriptor item)
    (makes : s.MakesTrigger template sections item context moment)
    (alone : (moment.scene context).inputsOf item = [] -> Resolution.SameLone item context moment.bindings
      (s.addTemplate template sections).bindings) :
    (s.addTemplate template sections).HasTrigger item context := by
  rcases makes.deeds with ⟨before, onward, after⟩
  intro some' reads
  have metrics := metricsOf_congr (onward.targets (by decide) (by decide))
    (onward.metrics (by decide)) onward.settings.2 context
  have output : ((s.addTemplate template sections).scene context).outputOf item =
      (moment.scene context).outputOf item := by
    rcases writes with ⟨raw, written, marked⟩
    rw [outputOf_of_marked written marked, outputOf_of_marked written marked, metrics]
  have readThen : (moment.scene context).inputsOf item ≠ [] := by
    intro none'
    have unnamed : (s.addTemplate template sections).bindings.get? "" context.name = none := by
      by_contra bound
      rcases Option.ne_none_iff_exists'.mp bound with ⟨key, found⟩
      exact (anchored.addTemplate template sections).named found rfl
    have precedes : Resolution.Precedes (moment.scene context)
        ((s.addTemplate template sections).scene context) :=
      ⟨rfl, metrics, onward.bindings, unnamed⟩
    exact precedes.inputsOf (alone none') reads none'
  rw [output] at some' ⊢
  rcases known_makeTrigger some' readThen with ⟨⟨row, found⟩, bound⟩
  have indexedThen := indexed.moves (before.moves.trans
    (triggerStage.step moment item context).moves)
  rcases after.moves.triggerRow? indexedThen found with ⟨later, there, _⟩
  exact ⟨⟨later, there⟩, bound.later after⟩

/-! ## The second call -/

/-- A call leaves the contexts of all blueprints as they are. -/
theorem contexts_addTemplate (s : Session) (template : List Item) (sections : List String)
    (item : Item) : contextsOf (s.addTemplate template sections).network
      (s.addTemplate template sections).aliases item = contextsOf s.network s.aliases item :=
  (deeds_addTemplate s template sections).contexts (by decide) (by decide) item

theorem keptItems_addTemplate (s : Session) (template : List Item) (sections : List String) :
    (s.addTemplate template sections).keptItems template sections =
      s.keptItems template sections :=
  keptItems_congr (deeds_addTemplate s template sections).settings.2 template sections

/-- Once the words have settled, a second call changes nothing up to its
triggers. -/
theorem still_again
    (regular : ∀ item ∈ ofKind (s.keptItems template sections) .metric, Regular s.aliases item)
    (words : s.WordsSettle template sections) :
    (s.addTemplate template sections).Still
      ((s.addTemplate template sections).withMetrics template sections) := by
  have aliases : (s.addTemplate template sections).aliases = s.aliases :=
    (deeds_addTemplate s template sections).settings.2
  apply still_withMetrics <;> rw [keptItems_addTemplate]
  · intro item member
    rw [aliases]
    exact regular item member
  · intro item member context made
    rw [contexts_addTemplate] at made
    have makes : ∃ moment, s.MakesMetric template sections item context moment :=
      metricStage.exists_makesIn member made
    rcases makes with ⟨moment, makes⟩
    exact hasMetric_addTemplate (regular item member) makes (words item context moment makes)

/-- Once all has settled, a second call adds no row before what is shown. -/
theorem level_again (indexed : s.Indexed) (anchored : s.Anchored)
    (regular : ∀ item ∈ ofKind (s.keptItems template sections) .metric, Regular s.aliases item)
    (words : s.WordsSettle template sections) (alone : s.LoneSettle template sections) :
    (s.addTemplate template sections).Level
      ((s.addTemplate template sections).prepared template sections) := by
  rw [prepared_eq, keptItems_addTemplate]
  refine level_makeTriggerKind _ (fun item member context made => ?_)
    (still_again regular words).level
  rw [contexts_addTemplate] at made
  have own : Keeps template sections s.aliases item := mem_ofKind.mp member
  have early := s.deeds_withMetrics template sections
  rw [← early.contexts (by decide) (by decide)] at made
  have makes : ∃ moment, s.MakesTrigger template sections item context moment :=
    triggerStage.exists_makesIn member made
  rcases makes with ⟨moment, makes⟩
  exact hasTrigger_addTemplate indexed anchored own.writesDescriptor.2 makes
    (alone item context moment makes)

/-- Calling with a template again leaves all metrics as they are.  It adds none
if nothing was bound under the words of a metric after it was made, and then it
adds no triggers either if nothing was bound under what stands alone under the
metrics of a trigger after it was left out. -/
theorem addTemplate_again (options : Options) (supply : Nat) (existing : List Row)
    (calls : List Call) {template : List Item} (sections : List String)
    (regular : ∀ item ∈ template, item.kind = .metric -> Regular options.allAliases item) :
    let s := (resume options supply existing).run calls
    let f := s.addTemplate template sections
    let g := f.addTemplate template sections
    (∀ (position : Nat) (row : Row), f.rows[position]? = some row -> row.model = Fixture.Model.metric ->
      g.rows[position]? = some row) ∧
    (s.WordsSettle template sections ->
      ∀ row ∈ g.rows.drop f.rows.length, row.model ≠ Fixture.Model.metric) ∧
    (s.WordsSettle template sections -> s.LoneSettle template sections ->
      ∀ row ∈ g.rows.drop f.rows.length, row.model ≠ Fixture.Model.trigger) := by
  intro s f g
  have earlier : Moves (resume options supply existing) s := moves_run _ calls
  have indexed : s.Indexed := (indexed_resume options supply existing).moves earlier
  have anchored : s.Anchored := (Anchored.resume options supply existing).run calls
  have aliases : s.aliases = options.allAliases :=
    earlier.settings.2.1.trans (resume_parts options supply existing).2.1
  have regularKept : ∀ item ∈ ofKind (s.keptItems template sections) .metric,
      Regular s.aliases item := by
    intro item member
    rcases mem_ofKind.mp member with ⟨among, kind⟩
    exact aliases ▸ regular item (Template.mem_of_mem_items among) kind
  refine ⟨fun position row stands metric => ?_, fun words row added same => ?_,
    fun words alone row added same => ?_⟩
  · have passive : row.model ≠ Fixture.Model.trigger := by
      rw [metric]
      decide
    exact (moves_addTemplate f template sections).passive
      (indexed.moves (moves_addTemplate s template sections)) stands passive
  · have still := still_again regularKept words
    have later : Deeds shownModels Any (f.withMetrics template sections) g :=
      f.deeds_ofWithMetrics template sections
    rw [← still.rows] at added
    rcases later.added added with shown | trigger
    · rw [same] at shown
      revert shown
      decide
    · rw [same] at trigger
      revert trigger
      decide
  · have shown := shown_of_level (level_again indexed anchored regularKept words alone) added
    rw [same] at shown
    revert shown
    decide

/-! ## A loss and a gain -/

/-- A metric per quarter of an hour, for every target. -/
def metricBlueprint (id category : String) : Item :=
  ⟨[ ("model", .text Fixture.Model.metric)
   , ("abstraction_id", .text id)
   , ("fields", .object
       [("category", .text category), ("interval", .text "qh"), ("target_id", .text "[FILL]")]) ]⟩

/-- A trigger with one calculator. -/
def triggerBlueprint (id output : String) (metrics : Value) : Item :=
  ⟨[ ("model", .text "metrictrigger")
   , ("abstraction_id", .text id)
   , ("output_metric", .text output)
   , ("calculators", .array [.object
       [ ("calc_name", .text "CALCULATE_LOSS")
       , ("calc_args", .object [("inputs", .object [("metrics", metrics)])]) ]]) ]⟩

/-- A card that shows the loss and the gain of zones.  The metric of the loss is
called `id` in the template, and its trigger reads `metrics`. -/
def lossBlueprints (id : String) (metrics : Value) : List Item :=
  [ ⟨[ ("model", .text "fl_page_settings.pagesettings")
     , ("abstraction_id", .text "page")
     , ("fields", .object [("page", .text "OPS"), ("cards", .array [.text "card"])]) ]⟩
  , ⟨[ ("model", .text "fl_page_settings.card")
     , ("abstraction_id", .text "card")
     , ("fields", .object [("args", .object [("metric_descriptors", .array
         [.text "MetricCategory.Zone.loss.qh", .text "MetricCategory.Zone.gain.qh"])])]) ]⟩
  , metricBlueprint id "loss"
  , metricBlueprint "zone_gain" "gain"
  , triggerBlueprint "loss_trigger" "MetricCategory.Zone.loss.qh" metrics
  , triggerBlueprint "gain_trigger" "MetricCategory.Zone.gain.qh" (.array [.text "legal_gain"]) ]

theorem word_metricBlueprint {id category key : String} {value : Value}
    (named : key = "category" ∨ key = "interval")
    (among : (key, value) ∈ (metricBlueprint id category).fields) :
    value = .text category ∨ value = .text "qh" := by
  have fields : (metricBlueprint id category).fields =
      [("category", .text category), ("interval", .text "qh"), ("target_id", .text "[FILL]")] := rfl
  rw [fields] at among
  simp only [List.mem_cons, Prod.mk.injEq, List.not_mem_nil, or_false] at among
  rcases among with ⟨-, rfl⟩ | ⟨-, rfl⟩ | ⟨rfl, -⟩
  · exact Or.inl rfl
  · exact Or.inr rfl
  · exact absurd named (by decide)

theorem regular_metricBlueprint {aliases : Metric.Aliases} (id : String) {category : String}
    (plain : Metric.IsPlain aliases category) (often : Metric.IsPlain aliases "qh") :
    Regular aliases (metricBlueprint id category) := by
  constructor
  · intro key value named among
    rcases word_metricBlueprint named among with rfl | rfl
    · exact ⟨category, rfl, plain⟩
    · exact ⟨"qh", rfl, often⟩
  · intro value among
    have fields : (metricBlueprint id category).fields =
        [("category", .text category), ("interval", .text "qh"), ("target_id", .text "[FILL]")] :=
      rfl
    rw [fields] at among
    simp only [List.mem_cons, Prod.mk.injEq, List.not_mem_nil, or_false] at among
    rcases among with ⟨own, -⟩ | ⟨own, -⟩ | ⟨-, rfl⟩
    · exact absurd own (by decide)
    · exact absurd own (by decide)
    · rfl

theorem metric_lossBlueprints {id : String} {metrics : Value}
    (member : item ∈ lossBlueprints id metrics) (kind : item.kind = .metric) :
    ∃ own category, (category = "loss" ∨ category = "gain") ∧ item = metricBlueprint own category := by
  simp only [lossBlueprints, List.mem_cons, List.not_mem_nil, or_false] at member
  rcases member with rfl | rfl | rfl | rfl | rfl | rfl
  · exact absurd kind (by decide)
  · exact absurd kind (by decide)
  · exact ⟨_, _, Or.inl rfl, rfl⟩
  · exact ⟨_, _, Or.inr rfl, rfl⟩
  · cases kind
  · cases kind

theorem regular_lossBlueprints (id : String) (metrics : Value) :
    ∀ item ∈ lossBlueprints id metrics, item.kind = .metric ->
      Regular Options.default.allAliases item := by
  intro item member kind
  rcases metric_lossBlueprints member kind with ⟨own, category, word, rfl⟩
  refine regular_metricBlueprint own ?_ ⟨rfl, by decide⟩
  rcases word with rfl | rfl
  · exact ⟨rfl, by decide⟩
  · exact ⟨rfl, by decide⟩

theorem trigger_lossBlueprints {id : String} {entries : List Value}
    (member : item ∈ lossBlueprints id (.array entries)) (kind : item.kind = .trigger) :
    ∀ calculator ∈ item.calculators, ∃ items, Calculator.metrics? calculator = some (.array items) := by
  have single : ∀ own output items, ∀ calculator ∈
      (triggerBlueprint own output (.array items)).calculators,
        ∃ items, Calculator.metrics? calculator = some (.array items) := by
    intro own output items calculator among
    cases List.mem_singleton.mp among
    exact ⟨items, rfl⟩
  simp only [lossBlueprints, List.mem_cons, List.not_mem_nil, or_false] at member
  rcases member with rfl | rfl | rfl | rfl | rfl | rfl
  · exact absurd kind (by decide)
  · exact absurd kind (by decide)
  · cases kind
  · cases kind
  · exact single _ _ _
  · exact single _ _ _

/-- The models of the rows that a second call with a template adds. -/
def addedAgain (s : Session) (template : List Item) (sections : List String) : List String :=
  let f := s.addTemplate template sections
  ((f.addTemplate template sections).rows.drop f.rows.length).map Row.model

/-- A session with one zone. -/
def northSession : Session :=
  (resume .default 0 []).run [.domain [northZone]]

/-- The input of the zone and of a template for its page. -/
def northJob (template : List Item) : Job where
  domain := .array [.object
    [("category", .text "zone"), ("label", .text "North"), ("coords", .array [])]]
  template := .array (template.map Item.value)
  sections := ["OPS"]
  existing := []

/-- The metric of the loss has an id of its own, and the triggers read lists. -/
theorem addTemplate_again_loss :
    let template := lossBlueprints "zone_loss" (.array [.text "gain_trigger"])
    let f := northSession.addTemplate template ["OPS"]
    let g := f.addTemplate template ["OPS"]
    (∀ item ∈ template, item.kind = .metric -> Regular Options.default.allAliases item) ∧
    northSession.WordsSettle template ["OPS"] ∧ northSession.LoneSettle template ["OPS"] ∧
    f.rows.map Row.model = Fixture.Model.polygon :: List.replicate 4 Fixture.Model.metric ++
      [Fixture.Model.trigger, Fixture.Model.trigger, Fixture.Model.card, Fixture.Model.page] ∧
    (∀ (position : Nat) (row : Row), f.rows[position]? = some row ->
      row.model = Fixture.Model.metric -> g.rows[position]? = some row) ∧
    (∀ row ∈ g.rows.drop f.rows.length, row.model ≠ Fixture.Model.metric) ∧
    ∀ row ∈ g.rows.drop f.rows.length, row.model ≠ Fixture.Model.trigger := by
  intro template f g
  have regular := regular_lossBlueprints "zone_loss" (.array [.text "gain_trigger"])
  have words : northSession.WordsSettle template ["OPS"] := by
    refine wordsSettle_of_ids fun item member key text named among other kept _ => ?_
    rcases mem_ofKind.mp member with ⟨own, kind⟩
    rcases metric_lossBlueprints (Template.mem_of_mem_items own) kind with ⟨_, category, word, rfl⟩
    have ids : ∀ other ∈ template, ∀ text ∈ ["loss", "gain", "qh"],
        other.abstractionId? ≠ some text := by
      decide
    refine ids other (Template.mem_of_mem_items kept) text ?_
    rcases word_metricBlueprint named among with same | same
    · cases same
      rcases word with rfl | rfl
      · decide
      · decide
    · cases same
      decide
  have alone : northSession.LoneSettle template ["OPS"] := by
    refine loneSettle_of_lists fun item member calculator own raw written => ?_
    rcases mem_ofKind.mp member with ⟨kept, kind⟩
    rcases trigger_lossBlueprints (Template.mem_of_mem_items kept) kind calculator own with
      ⟨items, listed⟩
    rw [listed] at written
    cases written
  have models : f.rows.map Row.model =
      Fixture.Model.polygon :: List.replicate 4 Fixture.Model.metric ++
        [Fixture.Model.trigger, Fixture.Model.trigger, Fixture.Model.card, Fixture.Model.page] := by
    decide +kernel
  have again := addTemplate_again .default 0 [] [.domain [northZone]] ["OPS"] regular
  exact ⟨regular, words, alone, models, again.1, again.2.1 words,
    again.2.2 words alone⟩

/-- Where the metric is called by its own word, a second call finds this bound
and asks for another metric.  Where the trigger of the loss reads the trigger of
the gain, and this alone, it has nothing to read before a second call. -/
theorem added_again_unsettled :
    (∀ item ∈ lossBlueprints "loss" (.array [.text "gain_trigger"]), item.kind = .metric ->
      Regular Options.default.allAliases item) ∧
    northSession.addedAgain (lossBlueprints "loss" (.array [.text "gain_trigger"])) ["OPS"] =
      [Fixture.Model.metric, Fixture.Model.card, Fixture.Model.page] ∧
    (∀ item ∈ lossBlueprints "zone_loss" (.text "gain_trigger"), item.kind = .metric ->
      Regular Options.default.allAliases item) ∧
    northSession.addedAgain (lossBlueprints "zone_loss" (.text "gain_trigger")) ["OPS"] =
      [Fixture.Model.trigger, Fixture.Model.card, Fixture.Model.page] :=
  ⟨regular_lossBlueprints _ _, by decide +kernel, regular_lossBlueprints _ _, by decide +kernel⟩

end Session
end Sensornet
