import Sensornet.Proofs.Session.Anchored

namespace Sensornet

/-!
# The moments of a call

A call makes its metric blueprints one by one, and then its trigger blueprints,
each in one context after the other.  So every kept blueprint has a moment in
each of its contexts: the session in which it is made there.  The metric or
trigger that it asks for at its moment is there from then on, and so is the
binding of the blueprint.
-/

open Fixture (Key Row)
open Template (Item Kind)

namespace Session

variable {models : List String} {asks : Session -> Trigger -> Prop} {s t moment : Session}
  {item : Item} {context : Context}

/-! ## Folds -/

/-- A fold comes to a step in some session. -/
def Reaches {A : Type} (step : Session -> A -> Session) (s : Session) (items : List A) (a : A)
    (moment : Session) : Prop :=
  ∃ before after, items = before ++ a :: after ∧ moment = before.foldl step s

theorem exists_reaches {A : Type} {items : List A} {a : A} (member : a ∈ items)
    (step : Session -> A -> Session) (s : Session) : ∃ moment, Reaches step s items a moment := by
  rcases List.append_of_mem member with ⟨before, after, whole⟩
  exact ⟨_, before, after, whole, rfl⟩

theorem Reaches.mem {A : Type} {step : Session -> A -> Session} {items : List A} {a : A}
    (reaches : Reaches step s items a moment) : a ∈ items := by
  rcases reaches with ⟨before, after, rfl, _⟩
  exact List.mem_append_right before List.mem_cons_self

/-- What leads to the step, and what leads on from it. -/
theorem Reaches.deeds {A : Type} {step : Session -> A -> Session} {items : List A} {a : A}
    (reaches : Reaches step s items a moment)
    (each : ∀ (t : Session) (a : A), Deeds models asks t (step t a)) :
    Deeds models asks s moment ∧ Deeds models asks (step moment a) (items.foldl step s) := by
  rcases reaches with ⟨before, after, rfl, rfl⟩
  rw [List.foldl_append, List.foldl_cons]
  exact ⟨Deeds.foldl before fun t b _ _ => each t b, Deeds.foldl after fun t b _ _ => each t b⟩

/-! ## Stages -/

/-- A stage makes an item in its contexts, one after the other, and adds no
targets. -/
structure Stage (models : List String) (each : Item -> Session -> Context -> Session)
    (make : Session -> Item -> Session) : Prop where
  step : ∀ (s : Session) (item : Item) (context : Context), Deeds models Any s (each item s context)
  run : ∀ (s : Session) (item : Item), Deeds models Any s (make s item)
  whole : ∀ {s : Session} {item : Item} {context : Context},
    context ∈ contextsOf s.network s.aliases item ->
      make s item = (contextsOf s.network s.aliases item).foldl (each item) s
  noZones : Fixture.Model.polygon ∉ models
  noPoints : Fixture.Model.point ∉ models

/-- A stage makes an item in a context in some session. -/
def MakesIn (each : Item -> Session -> Context -> Session) (make : Session -> Item -> Session)
    (s : Session) (items : List Item) (item : Item) (context : Context) (moment : Session) : Prop :=
  ∃ begun, Reaches make s items item begun ∧
    Reaches (each item) begun (contextsOf begun.network begun.aliases item) context moment

namespace Stage

variable {each : Item -> Session -> Context -> Session} {make : Session -> Item -> Session}
  (stage : Stage models each make)
include stage

theorem exists_makesIn {items : List Item} (member : item ∈ items)
    (made : context ∈ contextsOf s.network s.aliases item) :
    ∃ moment, MakesIn each make s items item context moment := by
  rcases exists_reaches member make s with ⟨begun, first⟩
  have before := (first.deeds stage.run).1
  have there : context ∈ contextsOf begun.network begun.aliases item := by
    rw [before.contexts stage.noZones stage.noPoints]
    exact made
  rcases exists_reaches there (each item) begun with ⟨moment, second⟩
  exact ⟨moment, begun, first, second⟩

theorem deeds {items : List Item} (makes : MakesIn each make s items item context moment) :
    Deeds models Any s moment ∧
      Deeds models Any (each item moment context) (items.foldl make s) := by
  rcases makes with ⟨begun, first, second⟩
  have outer := first.deeds stage.run
  have inner := second.deeds fun t context => stage.step t item context
  rw [← stage.whole second.mem] at inner
  exact ⟨outer.1.trans inner.1, inner.2.trans outer.2⟩

end Stage

theorem metricStage : Stage [Fixture.Model.metric] makeMetric makeMetrics where
  step := deeds_makeMetric
  run := deeds_makeMetrics
  whole := by
    intro s item context made
    have some' : (contextsOf s.network s.aliases item).isEmpty = false :=
      List.isEmpty_eq_false_iff_exists_mem.mpr ⟨context, made⟩
    unfold makeMetrics
    dsimp only
    rw [some', if_neg Bool.false_ne_true]
  noZones := by decide
  noPoints := by decide

theorem triggerStage : Stage [] makeTrigger makeTriggers where
  step := fun s _ _ => s.deeds_makeTrigger_of fun _ _ _ _ _ => trivial
  run := deeds_makeTriggers_any
  whole := fun _ => rfl
  noZones := List.not_mem_nil
  noPoints := List.not_mem_nil

/-! ## The stages of a call -/

/-- The session when a call begins to make things. -/
def noted (s : Session) (template : List Item) (sections : List String) : Session :=
  s.noteAll (Template.sliceNotices template sections s.aliases)

/-- The session after the metrics of a call. -/
def withMetrics (s : Session) (template : List Item) (sections : List String) : Session :=
  makeKind makeMetrics (s.keptItems template sections) (s.noted template sections) .metric

theorem prepared_eq (s : Session) (template : List Item) (sections : List String) :
    s.prepared template sections = makeKind makeTriggers (s.keptItems template sections)
      (s.withMetrics template sections) .trigger := by
  unfold prepared
  dsimp only
  split
  · next empty =>
    have nothing : s.keptItems template sections = [] := keptItems_of_isEmpty empty
    unfold withMetrics
    rw [nothing]
    rfl
  · rfl

/-- A call makes a metric blueprint in a context in some session. -/
def MakesMetric (s : Session) (template : List Item) (sections : List String) (item : Item)
    (context : Context) (moment : Session) : Prop :=
  MakesIn makeMetric makeMetrics (s.noted template sections)
    (ofKind (s.keptItems template sections) .metric) item context moment

/-- A call makes a trigger blueprint in a context in some session. -/
def MakesTrigger (s : Session) (template : List Item) (sections : List String) (item : Item)
    (context : Context) (moment : Session) : Prop :=
  MakesIn makeTrigger makeTriggers (s.withMetrics template sections)
    (ofKind (s.keptItems template sections) .trigger) item context moment

variable {template : List Item} {sections : List String}

theorem deeds_withMetrics (s : Session) (template : List Item) (sections : List String) :
    Deeds [Fixture.Model.metric] Any s (s.withMetrics template sections) :=
  (Still.noteAll s _).deeds.trans (deeds_makeMetricKind _ _)

/-- From the triggers on a call adds triggers and what is shown. -/
theorem deeds_ofWithMetrics (s : Session) (template : List Item) (sections : List String) :
    Deeds shownModels Any (s.withMetrics template sections) (s.addTemplate template sections) := by
  have triggers : Deeds [] Any (s.withMetrics template sections) (s.prepared template sections) := by
    rw [s.prepared_eq template sections]
    exact deeds_makeKind _ _ _ fun t item _ _ => deeds_makeTriggers_any t item
  exact (triggers.widen (List.nil_subset _)).trans (deeds_prepared s template sections)

theorem MakesMetric.deeds (makes : s.MakesMetric template sections item context moment) :
    Deeds [Fixture.Model.metric] Any s moment ∧
      Deeds templateModels Any (Session.makeMetric item moment context)
        (s.addTemplate template sections) := by
  rcases metricStage.deeds makes with ⟨before, after⟩
  have later := s.deeds_ofWithMetrics template sections
  exact ⟨(Still.noteAll s _).deeds.trans before,
    (after.widen (by decide)).trans (later.widen (by decide))⟩

theorem MakesTrigger.deeds (makes : s.MakesTrigger template sections item context moment) :
    Deeds [Fixture.Model.metric] Any s moment ∧
      Deeds shownModels Any moment (s.addTemplate template sections) ∧
      Deeds shownModels Any (Session.makeTrigger item moment context)
        (s.addTemplate template sections) := by
  rcases triggerStage.deeds makes with ⟨before, after⟩
  have made : Deeds shownModels Any (Session.makeTrigger item moment context)
      (s.addTemplate template sections) := by
    refine (after.widen (List.nil_subset _)).trans ?_
    have shown : Deeds shownModels Any (s.prepared template sections)
        (s.addTemplate template sections) := deeds_prepared s template sections
    rw [s.prepared_eq template sections] at shown
    exact shown
  have own : Deeds shownModels Any moment (Session.makeTrigger item moment context) :=
    (triggerStage.step moment item context).widen (List.nil_subset _)
  exact ⟨(s.deeds_withMetrics template sections).trans (before.widen (List.nil_subset _)),
    own.trans made, made⟩

/-! ## What is there from then on -/

/-- The metric that a blueprint asks for in a context. -/
def identityIn (s : Session) (item : Item) (context : Context) : Metric.Identity :=
  s.identityFor (s.resolve context (.object item.fields)).1.fields

/-- A blueprint is bound in a context, if it has an id. -/
def IsBound (s : Session) (item : Item) (context : Context) : Prop :=
  ∀ id, item.abstractionId? = some id -> ∃ key, s.bindings.get? id context.name = some key

theorem IsBound.later (bound : s.IsBound item context) (run : Deeds models asks s t) :
    t.IsBound item context := by
  intro id own
  rcases bound id own with ⟨key, found⟩
  exact ⟨key, run.bindings found⟩

theorem isBound_bind (s : Session) (item : Item) (context : Context) (key : Key) :
    (s.bind item.abstractionId? context.name key).IsBound item context := by
  intro id own
  rw [own]
  exact ⟨_, Bindings.get?_bind_self⟩

/-- Once a metric blueprint was made, its metric is known. -/
theorem known_makeMetric (s : Session) (item : Item) (context : Context) :
    (∃ id, (makeMetric item s context).network.metric? (s.identityIn item context) = some id) ∧
      (makeMetric item s context).IsBound item context := by
  have known := metric?_obtainMetric (s.resolve context (.object item.fields)).2
    (s.resolve context (.object item.fields)).1.fields
  unfold makeMetric
  dsimp only
  rw [network_bind]
  exact ⟨⟨_, known⟩, isBound_bind _ item context _⟩

/-- Once a trigger blueprint was made that writes and reads something, its
trigger has a row. -/
theorem known_makeTrigger {s : Session} (writes : (s.scene context).outputOf item ≠ "")
    (reads : (s.scene context).inputsOf item ≠ []) :
    (∃ row, (makeTrigger item s context).triggerRow? ((s.scene context).outputOf item) = some row) ∧
      (makeTrigger item s context).IsBound item context := by
  rcases s.makeTrigger_eq item context with ⟨t, wanted, _, output, inputs, made⟩
  rw [← output] at writes ⊢
  rw [← inputs] at reads
  rcases t.key_putTrigger (Trigger.isComplete_iff.mpr ⟨writes, reads⟩) with ⟨row, found, key⟩
  rw [made, bindTrigger_of_some key]
  refine ⟨⟨row, ?_⟩, isBound_bind _ item context _⟩
  rw [(Quiet.bind _ _ _ _).triggerRow?]
  exact found

end Session
end Sensornet
