import Sensornet.Proofs.Session.Lateness
import Sensornet.Proofs.Session.Origins
import Sensornet.Proofs.Session.Steady

namespace Sensornet

/-!
# Compiling over one's own output

The rows of a compile are given to a second compile of the same input.  It
finds every target, link and metric again, under the key that it has, and puts
the triggers of the template as the first one did.  So it adds nothing but what
is shown to users, and each trigger reads what it read, with one exception:
the starter triggers of a zone read all there is, and a metric that the
template added came too late for them the first time.
-/

open Fixture (Key Row Registry)
open Json (Value Fields)
open Template (Item Kind)
open Relation (ReflTransGen)

namespace Session

variable {models : List String} {asks : Session -> Trigger -> Prop} {r s t u v : Session}
  {late : String -> List String -> Prop}

/-- What a descriptor stands for depends on targets and metrics. -/
theorem metricsOf_congr (targets : t.network.zones = s.network.zones ∧
      t.network.points = s.network.points ∧ t.network.targets = s.network.targets)
    (metrics : t.network.metrics = s.network.metrics) (aliases : t.aliases = s.aliases)
    (context : Context) (text : String) :
    (t.scene context).metricsOf text = (s.scene context).metricsOf text := by
  have network : t.network = { s.network with triggers := t.network.triggers } := by
    dsimp only
    rw [← targets.1, ← targets.2.1, ← targets.2.2, ← metrics]
  have scene : t.scene context = ⟨{ s.network with triggers := t.network.triggers }, t.bindings,
      s.aliases, context⟩ := by
    unfold Session.scene
    rw [← network, aliases]
  rw [scene]
  rfl

/-- The second session follows the first one and binds blueprints alike. -/
structure Abreast (late : String -> List String -> Prop) (r s t : Session) : Prop
    extends Follows late r s t where
  bindings : t.bindings = s.bindings

namespace Abreast

section

variable (abreast : Abreast late r s t)
include abreast

theorem still (left : Still s u) (right : Still t v) : Abreast late r u v where
  toFollows := abreast.toFollows.still left right
  bindings := by rw [right.bindings, left.bindings, abreast.bindings]

theorem bind (id : Option String) (context : Context.Name) {key other : Key} (same : other = key)
    (named : context = .global ∨ s.Names key) (namedToo : context = .global ∨ t.Names other) :
    Abreast late r (s.bind id context key) (t.bind id context other) := by
  have left : Deeds [] Silent s (s.bind id context key) := .single (.bind id named)
  have right : Deeds [] Silent t (t.bind id context other) := .single (.bind id namedToo)
  refine ⟨abreast.toFollows.silent left right, ?_⟩
  unfold Session.bind
  cases id with
  | none => exact abreast.bindings
  | some id =>
    dsimp only
    rw [abreast.bindings, same]

/-! ## Metrics -/

theorem makeMetric {item : Item} (regular : Regular r.aliases item) (context : Context)
    (ahead : Leads models (Session.makeMetric item s context) r) :
    Abreast late r (Session.makeMetric item s context) (Session.makeMetric item t context) := by
  have aliases : r.aliases = s.aliases := by
    rw [← abreast.ran.settings.2, abreast.aliases]
  have resolved := abreast.still (.resolve s context (.object item.fields))
    (.resolve t context (.object item.fields))
  have same : (t.resolve context (.object item.fields)).2.identityFor
      (t.resolve context (.object item.fields)).1.fields =
      (s.resolve context (.object item.fields)).2.identityFor
        (s.resolve context (.object item.fields)).1.fields :=
    identityFor_congr abreast.options abreast.aliases (aliases ▸ regular)
      fun _ _ _ _ => by rw [abreast.bindings]
  have named := metric?_obtainMetric (s.resolve context (.object item.fields)).2
    (s.resolve context (.object item.fields)).1.fields
  have namedToo := metric?_obtainMetric (t.resolve context (.object item.fields)).2
    (t.resolve context (.object item.fields)).1.fields
  have aheadThen : Leads models ((s.resolve context (.object item.fields)).2.obtainMetric
      (s.resolve context (.object item.fields)).1.fields).2 r :=
    ahead.before (.single (.bind item.abstractionId? (.inr (.metric named))) : Deeds models Any _ _)
  rcases resolved.toFollows.obtainMetric same aheadThen with ⟨id, still, follows⟩
  have obtained : Abreast late r _ _ := ⟨follows, by
    rw [still.bindings, bindings_obtainMetric, resolved.bindings]⟩
  exact obtained.bind item.abstractionId? context.name (congrArg Key.text id)
    (.inr (.metric named)) (.inr (.metric namedToo))

theorem contextsOf_eq (ahead : Leads models s r) (noZones : Fixture.Model.polygon ∉ models)
    (noPoints : Fixture.Model.point ∉ models) (item : Item) :
    contextsOf t.network t.aliases item = contextsOf s.network s.aliases item := by
  rcases ahead.targets noZones noPoints with ⟨zones, points, _⟩
  rcases abreast.targets with ⟨zonesToo, pointsToo, _⟩
  rw [abreast.aliases]
  exact contextsOf_congr (zonesToo.trans zones) (pointsToo.trans points) s.aliases item

theorem makeMetrics {item : Item} (regular : Regular r.aliases item)
    (ahead : Leads templateModels (s.makeMetrics item) r) :
    Abreast late r (s.makeMetrics item) (t.makeMetrics item) := by
  have made : Deeds [Fixture.Model.metric] Any s (s.makeMetrics item) := s.deeds_makeMetrics item
  have contexts := abreast.contextsOf_eq
    (ahead.before (made.widen (by decide))) (by decide) (by decide) item
  let all := contextsOf s.network s.aliases item
  have onward : ∀ u v : Session, Abreast late r u v ->
      Leads templateModels (all.foldl (Session.makeMetric item) u) r ->
      Abreast late r (all.foldl (Session.makeMetric item) u)
        (all.foldl (Session.makeMetric item) v) := by
    intro u v both known
    exact known.foldl (Abreast late r) _
      (fun w context _ => (deeds_makeMetric w item context).widen (by decide))
      (fun _ _ context _ later alike => alike.makeMetric regular context later) both
  unfold Session.makeMetrics at ahead ⊢
  dsimp only at ahead ⊢
  rw [contexts]
  by_cases none' : (contextsOf s.network s.aliases item).isEmpty = true
  · rw [if_pos none'] at ahead
    rw [if_pos none', if_pos none']
    exact onward _ _ (abreast.still (.note s _) (.note t _)) ahead
  · rw [if_neg none'] at ahead
    rw [if_neg none', if_neg none']
    exact onward s t abreast ahead

/-! ## Triggers -/

/-- What a blueprint stands for depends on targets, metrics and bindings. -/
theorem seesAlike (ahead : Leads shownModels s r) (context : Context) :
    Resolution.Scene.SeesAlike (s.scene context) (t.scene context) where
  context := rfl
  bindings := abreast.bindings
  metrics := by
    rcases ahead.targets (by decide) (by decide) with ⟨zones, points, targets⟩
    rcases abreast.targets with ⟨zonesToo, pointsToo, targetsToo⟩
    exact metricsOf_congr
      ⟨zonesToo.trans zones, pointsToo.trans points, targetsToo.trans targets⟩
      (abreast.metrics.trans (ahead.metrics (by decide))) abreast.aliases context

theorem makeTrigger {item : Item} {context : Context}
    (ahead : Leads shownModels (Session.makeTrigger item s context) r) :
    Abreast late r (Session.makeTrigger item s context) (Session.makeTrigger item t context) := by
  have asking : Deeds shownModels Any s (Session.makeTrigger item s context) :=
    s.deeds_makeTrigger_of fun _ _ _ _ _ => trivial
  have alike := abreast.seesAlike (ahead.before asking) context
  rcases s.makeTrigger_eq item context with ⟨u, wanted, still, output, inputs, made⟩
  rcases t.makeTrigger_eq item context with ⟨v, other, stillToo, outputToo, inputsToo, madeToo⟩
  have both := abreast.still still stillToo
  rw [made] at ahead ⊢
  rw [madeToo]
  have aheadThen : Leads shownModels (u.putTrigger wanted).2 r :=
    ahead.before (u.deeds_bindTrigger item context wanted : Deeds shownModels Any _ _)
  rcases both.toFollows.putTrigger (outputToo.trans ((alike.outputOf item).trans output.symm))
    (inputsToo.trans ((alike.inputsOf item).trans inputs.symm)) aheadThen with ⟨same, follows⟩
  have put : Abreast late r (u.putTrigger wanted).2 (v.putTrigger other).2 :=
    ⟨follows, by rw [bindings_putTrigger, bindings_putTrigger, both.bindings]⟩
  cases key : (u.putTrigger wanted).1 with
  | none =>
    rw [bindTrigger_of_none key, bindTrigger_of_none (same.trans key)]
    exact put.still (.note _ _) (.note _ _)
  | some key' =>
    rw [bindTrigger_of_some key, bindTrigger_of_some (same.trans key)]
    exact put.bind item.abstractionId? context.name rfl (.inr (names_putTrigger u key))
      (.inr (names_putTrigger v (same.trans key)))

theorem makeTriggers {item : Item} (ahead : Leads shownModels (s.makeTriggers item) r) :
    Abreast late r (s.makeTriggers item) (t.makeTriggers item) := by
  have asking : ∀ (u : Session) (context : Context),
      Deeds shownModels Any u (Session.makeTrigger item u context) :=
    fun u context => u.deeds_makeTrigger_of fun _ _ _ _ _ => trivial
  have made : Deeds shownModels Any s (s.makeTriggers item) :=
    Deeds.foldl _ fun u context _ _ => asking u context
  have contexts := abreast.contextsOf_eq (ahead.before made) (by decide) (by decide) item
  unfold Session.makeTriggers at ahead ⊢
  rw [contexts]
  exact ahead.foldl (Abreast late r) _ (fun u context _ => asking u context)
    (fun _ _ _ _ later both => both.makeTrigger later) abreast

end

end Abreast

/-! ## Whole stages -/

/-- The session after the metrics and triggers of a template. -/
def blueprinted (s : Session) (kept : List Item) : Session :=
  makeKind makeTriggers kept (makeKind makeMetrics kept s .metric) .trigger

theorem deeds_makeTriggers_any (s : Session) (item : Item) :
    Deeds [] Any s (s.makeTriggers item) :=
  Deeds.foldl _ fun u _ _ _ => u.deeds_makeTrigger_of fun _ _ _ _ _ => trivial

theorem Abreast.blueprinted (abreast : Abreast late r s t) {kept : List Item}
    (regular : ∀ item ∈ kept, item.kind = .metric -> Regular r.aliases item)
    (ahead : Leads shownModels (s.blueprinted kept) r) :
    Abreast late r (s.blueprinted kept) (t.blueprinted kept) := by
  have metrics : ∀ (u : Session) (item : Item), Deeds templateModels Any u (u.makeMetrics item) :=
    fun u item => (deeds_makeMetrics u item).widen (by decide)
  have triggers : ∀ (u : Session) (item : Item), Deeds shownModels Any u (u.makeTriggers item) :=
    fun u item => (deeds_makeTriggers_any u item).widen (by decide)
  have aheadMetrics : Leads templateModels (makeKind Session.makeMetrics kept s .metric) r := by
    have rest : Deeds shownModels Any (makeKind Session.makeMetrics kept s .metric)
        (s.blueprinted kept) :=
      deeds_makeKind _ kept .trigger fun u item _ _ => triggers u item
    exact (ahead.before rest).mono (by decide)
  have first : Abreast late r (makeKind Session.makeMetrics kept s .metric)
      (makeKind Session.makeMetrics kept t .metric) := by
    refine aheadMetrics.foldl (Abreast late r) _ (fun u item _ => metrics u item) ?_ abreast
    intro u v item member later both
    rcases List.mem_filter.mp member with ⟨among, kind⟩
    exact both.makeMetrics (regular item among (of_decide_eq_true kind)) later
  exact ahead.foldl (Abreast late r) _ (fun u item _ => triggers u item)
    (fun _ _ _ _ later both => both.makeTriggers later) first

/-- The session after the metrics and triggers that some sections need. -/
def prepared (s : Session) (template : List Item) (sections : List String) : Session :=
  let noted := s.noteAll (Template.sliceNotices template sections s.aliases)
  let slice := Template.slice template sections s.aliases
  if slice.isEmpty then noted else noted.blueprinted (slice.items template)

/-- What is left of a template is shown to users. -/
theorem deeds_prepared (s : Session) (template : List Item) (sections : List String) :
    Deeds shownModels asks (s.prepared template sections) (s.addTemplate template sections) := by
  unfold prepared addTemplate
  dsimp only
  split
  · exact (Still.note _ _).deeds
  · exact (deeds_makeShownKinds _ _).trans (Still.note _ _).deeds

theorem Abreast.prepared (abreast : Abreast late r s t) {template : List Item}
    (sections : List String)
    (regular : ∀ item ∈ template, item.kind = .metric -> Regular r.aliases item)
    (ahead : Leads shownModels (s.prepared template sections) r) :
    Abreast late r (s.prepared template sections) (t.prepared template sections) := by
  unfold Session.prepared at ahead ⊢
  dsimp only at ahead ⊢
  rw [abreast.aliases]
  have noted := abreast.still (.noteAll s (Template.sliceNotices template sections s.aliases))
    (.noteAll t (Template.sliceNotices template sections s.aliases))
  by_cases empty : (Template.slice template sections s.aliases).isEmpty = true
  · rw [if_pos empty, if_pos empty]
    exact noted
  · rw [if_neg empty] at ahead
    rw [if_neg empty, if_neg empty]
    exact noted.blueprinted (fun item member => regular item (Template.mem_of_mem_items member))
      ahead

/-! ## The rows of the second compile -/

/-- What a second compile makes of a row: a trigger may have got inputs late,
and nothing else is different. -/
structure Repeats (late : String -> List String -> Prop) (old new : Row) : Prop where
  model : new.model = old.model
  key : new.key = old.key
  output : new.text? "output_metric" = old.text? "output_metric"
  inputs : new.inputs = old.inputs ∨
    ∃ output, new.text? "output_metric" = some output ∧ late output new.inputs
  other : old.model ≠ Fixture.Model.trigger -> new = old

/-- Old rows, and new ones that begin with them.  What is added is shown to
users, or is a trigger whose inputs came late. -/
structure Reproduces (late : String -> List String -> Prop) (old new : List Row) : Prop where
  again : ∀ (position : Nat) (row : Row), old[position]? = some row ->
    ∃ other, new[position]? = some other ∧ Repeats late row other
  added : ∀ row ∈ new.drop old.length, row.model ∈ shownModels ∨
    row.model = Fixture.Model.trigger ∧
      ∃ output, row.text? "output_metric" = some output ∧ late output row.inputs

/-- A session that went on from some rows and gave late inputs at most. -/
structure Recompiled (late : String -> List String -> Prop) (r e : Session) : Prop where
  indexed : r.Indexed
  unrepeated : Unrepeated r.rows
  titled : Titled r.rows
  ran : Deeds shownModels Any r e
  reads : ∀ output, output ≠ "" -> e.reads output = r.reads output ∨
    ∃ inputs, e.reads output = some inputs ∧ late output inputs

namespace Recompiled

variable {e : Session} (recompiled : Recompiled late r e)
include recompiled

/-- What a trigger row of the second compile reads was read, or is late. -/
theorem reads_of_stands {position : Nat} {row : Row} {output : String}
    (stands : e.rows[position]? = some row) (writes : Network.output? row = some output) :
    e.network.triggerPosition? output = some position ∧
      (r.reads output = some row.inputs ∨ late output row.inputs) := by
  have run := recompiled.ran.moves
  have known := triggerPosition?_of_output? (recompiled.indexed.moves run)
    (recompiled.unrepeated.moves recompiled.indexed run) stands writes
  have own : e.reads output = some row.inputs := by
    unfold Session.reads triggerRow?
    rw [known, Option.bind_some, stands, Option.map_some]
  refine ⟨known, ?_⟩
  have filled := Network.ne_empty_of_output? writes
  rcases recompiled.reads output filled with same | ⟨inputs, there, later⟩
  · exact Or.inl (same.symm.trans own)
  · cases Option.some.inj (there.symm.trans own)
    exact Or.inr later

/-- Each row is still there, and a trigger reads what it read, or it is late. -/
theorem again {position : Nat} {row : Row} (stands : r.rows[position]? = some row) :
    ∃ other, e.rows[position]? = some other ∧ Repeats late row other := by
  have run := recompiled.ran.moves
  by_cases trigger : row.model = Fixture.Model.trigger
  · rcases run.rowAt stands with ⟨other, place, model, key⟩
    rcases recompiled.titled row (List.mem_of_getElem? stands) trigger with ⟨output, writes⟩
    have known := triggerPosition?_of_output? recompiled.indexed recompiled.unrepeated stands writes
    have still := run.triggerPosition? recompiled.indexed known
    rcases (recompiled.indexed.moves run).output?_of_known still with ⟨held, there, writesHeld⟩
    cases Option.some.inj (there.symm.trans place)
    have text := Network.text?_of_output? writesHeld
    have old : r.reads output = some row.inputs := by
      unfold Session.reads triggerRow?
      rw [known, Option.bind_some, stands, Option.map_some]
    refine ⟨other, place, model, key, text.trans (Network.text?_of_output? writes).symm, ?_,
      fun other => absurd trigger other⟩
    rcases (recompiled.reads_of_stands place writesHeld).2 with same | later
    · exact Or.inl (Option.some.inj (same.symm.trans old))
    · exact Or.inr ⟨output, text, later⟩
  · exact ⟨row, run.passive recompiled.indexed stands trigger, rfl, rfl, rfl, Or.inl rfl,
      fun _ => rfl⟩

/-- The rows that are added are shown to users, or are triggers that are late. -/
theorem added {row : Row} (member : row ∈ e.rows.drop r.rows.length) :
    row.model ∈ shownModels ∨ row.model = Fixture.Model.trigger ∧
      ∃ output, row.text? "output_metric" = some output ∧ late output row.inputs := by
  rcases recompiled.ran.added member with shown | trigger
  · exact Or.inl shown
  · right
    have run := recompiled.ran.moves
    rcases recompiled.titled.moves run row (List.mem_of_mem_drop member) trigger with
      ⟨output, writes⟩
    rcases List.getElem?_of_mem member with ⟨offset, stands⟩
    rw [List.getElem?_drop] at stands
    rcases recompiled.reads_of_stands stands writes with ⟨known, same | later⟩
    · -- a trigger that was read before stands among the old rows
      rcases Option.map_eq_some_iff.mp same with ⟨old, found, _⟩
      rcases Option.bind_eq_some_iff.mp found with ⟨position, knownOld, place⟩
      have moved := run.triggerPosition? recompiled.indexed knownOld
      have below := (List.getElem?_eq_some_iff.mp place).1
      have same := Option.some.inj (moved.symm.trans known)
      omega
    · exact ⟨trigger, output, Network.text?_of_output? writes, later⟩

theorem reproduces : Reproduces late r.rows e.rows :=
  ⟨fun _ _ stands => recompiled.again stands, fun _ member => recompiled.added member⟩

end Recompiled

/-! ## A whole compile -/

theorem bindings_resume (options : Options) (supply : Nat) (existing : List Row) :
    (resume options supply existing).bindings = .empty := by
  unfold resume
  dsimp only
  split <;> rfl

/-- A session that goes on from the rows of one without a past has its data. -/
theorem resume_own {options : Options} {supply : Nat} {f : Session} (again : Nat)
    (run : Moves (start options supply) f) :
    let r := resume options again f.rows
    r.options = f.options ∧ r.rows = f.rows ∧ r.network = f.network := by
  have began : (start options supply).Indexed := rfl
  rcases resume_parts options again f.rows with ⟨settings, _, _, network, rows⟩
  exact ⟨settings.trans run.settings.1.symm, rows, network.trans (began.moves run).symm⟩

/-- Lateness is a matter of rows, network and options. -/
theorem late_congr {a : Session} (same : s.options = r.options ∧ s.rows = r.rows ∧
    s.network = r.network) (placed : List Placement) :
    Late (Adds a s) s placed = Late (Adds a r) r placed := by
  rcases same with ⟨options, rows, network⟩
  have metrics := congrArg Network.metrics network
  have feed : s.feedOf placed = r.feedOf placed := funext fun zone =>
    feedOf_congr (congrArg Network.zones network) (congrArg Network.points network) metrics _ zone
  have pressures : s.pressures = r.pressures := by
    unfold Session.pressures
    rw [network]
  have adds : Adds a s = Adds a r := by
    unfold Adds
    rw [rows]
  have moved : ∀ {u v : Session}, u.options = v.options -> u.starterMetric? = v.starterMetric? ->
      u.feedOf placed = v.feedOf placed -> u.pressures = v.pressures ->
      ∀ {new : String -> Prop} {output : String} {inputs : List String},
        Late new v placed output inputs -> Late new u placed output inputs := by
    intro u v options starter feed pressures new output inputs later
    refine ⟨options ▸ later.starters, ?_, later.new⟩
    rw [starter, feed, pressures]
    exact later.zone
  have starter := starterMetric?_congr metrics
  rw [adds]
  funext output inputs
  exact propext ⟨moved options.symm starter.symm feed.symm pressures.symm,
    moved options starter feed pressures⟩

/-- A second session compiles the domain of the first and binds alike. -/
theorem abreast_addDomain {options : Options} {supply : Nat} {items : List Domain.Item}
    (again : Nat) {f : Session} (ahead : Deeds templateModels Any
      ((start options supply).addDomain items) f) (fresh : f.Fresh) :
    let a := (start options supply).addDomain items
    let r := resume options again f.rows
    Abreast (Late (Adds a r) r ((start options supply).placeItems [] items).1) r a
      (r.addDomain items) := by
  intro a r
  have run : Moves (start options supply) f := (moves_addDomain _ items).trans ahead.moves
  rcases resume_own again run with ⟨_, rows, network⟩
  rcases resume_parts options again f.rows with ⟨settings, aliases, _⟩
  refine ⟨follows_addDomain (indexed_resume options again _) settings aliases
    ⟨f, ahead, rows, network⟩ (ahead.moves.fresh fresh), ?_⟩
  rw [bindings_addDomain, bindings_addDomain, bindings_resume]
  rfl

/-- A second compile goes on from the rows of the first. -/
theorem recompiled_addTemplate {options : Options} (supply again : Nat) {items : List Domain.Item}
    {template : List Item} (sections : List String)
    (regular : ∀ item ∈ template, item.kind = .metric -> Regular options.allAliases item)
    (fresh : (((start options supply).addDomain items).addTemplate template sections).Fresh) :
    let a := (start options supply).addDomain items
    let f := a.addTemplate template sections
    let r := resume options again f.rows
    Recompiled (Late (Adds a f) f ((start options supply).placeItems [] items).1) r
      ((r.addDomain items).addTemplate template sections) := by
  intro a f r
  have began : (start options supply).Indexed := rfl
  have compiling := deeds_addTemplate a template sections
  have run : Moves (start options supply) f := (moves_addDomain _ items).trans compiling.moves
  have same := resume_own again run
  rw [← late_congr same]
  rcases same with ⟨_, rows, network⟩
  have aliases : r.aliases = options.allAliases := (resume_parts options again f.rows).2.1
  have showing : Deeds shownModels Silent (a.prepared template sections) f :=
    deeds_prepared a template sections
  have showingToo : Deeds shownModels Silent ((r.addDomain items).prepared template sections)
      ((r.addDomain items).addTemplate template sections) := deeds_prepared _ template sections
  have prepared := (abreast_addDomain again compiling.any fresh).prepared sections
    (aliases ▸ regular) ⟨f, showing.any, rows, network⟩
  have atEnd : ∀ output, r.reads output = (a.prepared template sections).reads output := by
    intro output
    rw [← showing.reads_of_silent prepared.indexed]
    unfold Session.reads triggerRow?
    rw [network, rows]
  have unrepeated : Unrepeated (start options supply).rows :=
    ⟨List.nodup_nil, List.nodup_nil, List.nodup_nil⟩
  have titled : Titled (start options supply).rows := fun _ member => absurd member List.not_mem_nil
  refine ⟨indexed_resume options again _, ?_, ?_, ?_, fun output filled => ?_⟩
  · exact rows ▸ unrepeated.moves began run
  · exact rows ▸ titled.moves run
  · exact (prepared.ran.widen (List.nil_subset _)).trans showingToo.any
  · rw [showingToo.reads_of_silent prepared.indexedToo]
    rcases prepared.reads output filled with own | own | later
    · exact Or.inl (own.trans (atEnd output).symm)
    · exact Or.inl own
    · exact Or.inr later

end Session

namespace Job

/-- The same input with some rows that exist already. -/
def onto (input : Job) (existing : List Row) : Job :=
  { input with existing }

end Job

namespace Session

/-- Volumes of meters have a name of their own, and another name stands for
them. -/
def synonymOptions : Options :=
  { Options.default with aliases := ⟨[("flow_volume", "fv"), ("vol", "flow_volume")], []⟩ }

/-- A card that shows the volume of a meter, and this volume, under the other
name. -/
def synonymBlueprints : List Item :=
  [ ⟨[ ("model", .text "fl_page_settings.pagesettings")
     , ("abstraction_id", .text "page")
     , ("fields", .object [("page", .text "OPS"), ("cards", .array [.text "card"])]) ]⟩
  , ⟨[ ("model", .text "fl_page_settings.card")
     , ("abstraction_id", .text "card")
     , ("fields", .object [("args", .object
         [("metric_descriptors", .array [.text "MetricCategory.FlowMeter.vol.qh"])])]) ]⟩
  , ⟨[ ("model", .text "fl_monitoring.metricdefinition")
     , ("abstraction_id", .text "volume")
     , ("fields", .object
         [ ("category", .text "vol")
         , ("interval", .text "qh")
         , ("target_id", .text "[FILL]")
         , ("note", .text "MetricCategory.FlowMeter.vol.qh") ]) ]⟩ ]

/-- A zone, a meter that feeds it, and the blueprints. -/
def synonymJob : Job where
  domain := .array
    [ .object [("category", .text "zone"), ("label", .text "North"), ("coords", .array [])]
    , .object
        [ ("category", .text "flow_meter")
        , ("label", .text "North inlet")
        , ("coords", .array [Value.integer 5, Value.integer 5])
        , ("inlet_for", .text "North") ] ]
  template := .array (synonymBlueprints.map Item.value)
  sections := ["OPS"]
  existing := []

theorem regular_synonymBlueprints {item : Item} (member : item ∈ synonymBlueprints)
    (kind : item.kind = .metric) : Regular synonymOptions.allAliases item := by
  have plain : ∀ text, text = "vol" ∨ text = "qh" ->
      Metric.IsPlain synonymOptions.allAliases text := by
    rintro text (rfl | rfl)
    · exact ⟨rfl, by decide⟩
    · exact ⟨rfl, by decide⟩
  simp only [synonymBlueprints, List.mem_cons, List.not_mem_nil, or_false] at member
  rcases member with rfl | rfl | rfl
  · exact absurd kind (by decide)
  · exact absurd kind (by decide)
  · have fields : ∀ members : Fields, Item.fields ⟨
        [ ("model", .text "fl_monitoring.metricdefinition")
        , ("abstraction_id", .text "volume")
        , ("fields", .object members) ]⟩ = members := fun _ => rfl
    constructor <;> rw [fields]
    · intro key value named among
      simp only [List.mem_cons, Prod.mk.injEq, List.not_mem_nil, or_false] at among
      rcases among with ⟨rfl, rfl⟩ | ⟨rfl, rfl⟩ | ⟨rfl, -⟩ | ⟨rfl, -⟩
      · exact ⟨"vol", rfl, plain "vol" (Or.inl rfl)⟩
      · exact ⟨"qh", rfl, plain "qh" (Or.inr rfl)⟩
      · exact absurd named (by decide)
      · exact absurd named (by decide)
    · intro value among
      simp only [List.mem_cons, Prod.mk.injEq, List.not_mem_nil, or_false] at among
      rcases among with ⟨own, -⟩ | ⟨own, -⟩ | ⟨-, rfl⟩ | ⟨own, -⟩
      · exact absurd own (by decide)
      · exact absurd own (by decide)
      · rfl
      · exact absurd own (by decide)

theorem regular_synonymJob : ∀ template,
    Job.orEmpty Template.ofJson synonymJob.template = .ok template ->
      ∀ item ∈ template, item.kind = .metric -> Regular synonymOptions.allAliases item := by
  intro template read item member kind
  have reads : Job.orEmpty Template.ofJson synonymJob.template = .ok synonymBlueprints := rfl
  cases Except.ok.inj (reads.symm.trans read)
  exact regular_synonymBlueprints member kind

/-- The rows that a second compile adds, by their models. -/
def addedModels (input : Job) (options : Options) (supply again : Nat) : List String :=
  match input.compile options supply with
  | .error _ => []
  | .ok f =>
    match (input.onto f.rows).compile options again with
    | .error _ => []
    | .ok e => (e.rows.drop f.rows.length).map Row.model

end Session
end Sensornet
