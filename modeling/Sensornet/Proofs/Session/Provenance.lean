import Sensornet.Proofs.Session.Origins
import Sensornet.Proofs.Session.Readings

namespace Sensornet

/-!
# Inputs that are no metrics

The inputs of the triggers of a domain are metrics.  Those of a template are
what is written in the lists of metrics of its calculators, and not everything
that may be written there is a descriptor.  `[FILL]` is the target, the id of
another blueprint is the row that it became here, which may be a trigger, and
any other text is kept.  Nothing else can go wrong: an input that is no metric
goes back to an entry that is no descriptor.

A binding, once made, is never lost, and its row stays, so what an entry stood
for when the trigger was made it stands for at the end.
-/

open Fixture (Key Row)
open Json (Value Fields)
open Template (Item Kind)
open Resolution (Scene)
open Relation (ReflTransGen)

namespace Session

variable {models : List String} {kept : Item -> Prop} {s t : Session}

/-! ## Bindings -/

/-- What is bound to a zone or point is the row of a metric or of a trigger. -/
def Bound (s : Session) : Prop :=
  ∀ id context key, s.bindings.get? id context = some key -> context ≠ .global ->
    ∃ row ∈ s.rows, row.key = key ∧
      (row.model = Fixture.Model.metric ∨ row.model = Fixture.Model.trigger)

/-- A look-up after binding gives what was there, or the new key. -/
theorem get?_bind {b : Bindings} {id other : String} {context elsewhere : Context.Name}
    {key known : Key} (found : (b.bind other elsewhere key).get? id context = some known) :
    b.get? id context = some known ∨ (context = elsewhere ∧ known = key) := by
  unfold Bindings.bind at found
  split at found
  · unfold Bindings.get? at found ⊢
    generalize b.entries = entries at found ⊢
    induction entries with
    | nil =>
      rw [List.nil_append, Entries.get?] at found
      split at found
      · next same =>
        cases same
        exact Or.inr ⟨rfl, (Option.some.inj found).symm⟩
      · cases found
    | cons entry rest ih =>
      rw [List.cons_append, Entries.get?] at found
      rw [Entries.get?]
      split at found
      · next same =>
        rw [if_pos same]
        exact Or.inl found
      · next different =>
        rw [if_neg different]
        exact ih found
  · exact Or.inl found

/-- A key by which a metric or trigger is known is that of its row. -/
theorem Names.row {key : Key} (named : s.Names key) (indexed : s.Indexed)
    (catalogued : s.Catalogued) : ∃ row ∈ s.rows, row.key = key ∧
      (row.model = Fixture.Model.metric ∨ row.model = Fixture.Model.trigger) := by
  cases named with
  | metric known =>
    rcases catalogued.mem_metricIds_iff.mp (mem_metricIds known) with ⟨row, member, metric, key⟩
    exact ⟨row, member, key, Or.inl metric⟩
  | trigger known stands =>
    rcases indexed.output?_of_known known with ⟨row, place, writes⟩
    have same := Option.some.inj (stands.symm.trans place)
    exact ⟨row, List.mem_of_getElem? place, congrArg Row.key same.symm,
      Or.inr (Network.model_of_output? writes)⟩

theorem Bound.deeds (bound : s.Bound) (indexed : s.Indexed) (catalogued : s.Catalogued)
    (run : Deeds models (Asks kept) s t) : t.Bound := by
  induction run with
  | refl => exact bound
  | @tail u v before deed ih =>
    have indexedThen := indexed.moves (Deeds.moves before)
    have cataloguedThen := catalogued.moves indexed (Deeds.moves before)
    have onward : v.bindings = u.bindings -> v.Bound := by
      intro same id context key found zonal
      rw [same] at found
      rcases ih id context key found zonal with ⟨row, member, own, sort⟩
      rcases (Deeds.moves (.single deed)).row member with ⟨later, among, model, still⟩
      exact ⟨later, among, still.trans own, model ▸ sort⟩
    cases deed with
    | still same => exact onward same.bindings
    | @bind name context key named =>
      cases name with
      | none => exact ih
      | some name =>
        intro id elsewhere other found zonal
        rcases get?_bind found with old | ⟨rfl, rfl⟩
        · exact ih id elsewhere other old zonal
        · rcases named with shown | named
          · exact absurd shown zonal
          · exact named.row indexedThen cataloguedThen
    | enter model issued new named own among passive => exact onward rfl
    | ask asked => exact onward (bindings_putTrigger _ _)

/-- Bindings change by binding alone. -/
theorem Deeds.bindings_induction {asks : Session -> Trigger -> Prop} (run : Deeds models asks s t)
    {motive : Bindings -> Prop}
    (before : motive s.bindings)
    (bind : ∀ b id context key, motive b -> motive (b.bind id context key)) :
    motive t.bindings := by
  induction run with
  | refl => exact before
  | @tail u v _ deed ih =>
    cases deed with
    | still same =>
      rw [same.bindings]
      exact ih
    | @bind name context key named =>
      cases name with
      | none => exact ih
      | some name => exact bind u.bindings name context key ih
    | enter model issued new named own among passive => exact ih
    | ask asked =>
      rw [bindings_putTrigger]
      exact ih

/-- What is bound stays bound to the same row. -/
theorem Deeds.bindings {asks : Session -> Trigger -> Prop} (run : Deeds models asks s t)
    {id : String} {context : Context.Name} {key : Key}
    (found : s.bindings.get? id context = some key) : t.bindings.get? id context = some key :=
  run.bindings_induction (motive := fun b => b.get? id context = some key) found
    fun _ _ _ _ kept => Bindings.get?_bind_of_bound kept

/-! ## What an entry stands for -/

/-- What a text that is no descriptor stands for in a context, if it is no
metric: the target for `[FILL]`, the row of a trigger that is bound under the
text, or the text itself. -/
def StandsFor (s : Session) (context : Context) (text id : String) : Prop :=
  if text = Resolution.fillMark then id = context.targetId
  else id = text ∨ ∃ row ∈ s.rows, row.model = Fixture.Model.trigger ∧
    s.bindings.get? text context.name = some row.key ∧ row.key.shown = id

/-- An input that comes from an entry of a blueprint that is no descriptor. -/
structure Loose (s : Session) (item : Item) (id : String) (raw : String)
    (context : Context) : Prop where
  entry : raw ∈ Scene.entriesOf item
  made : context ∈ contextsOf s.network s.aliases item
  plain : Metric.isMarked (context.fillPlaceholders raw) = false
  stands : s.StandsFor context (context.fillPlaceholders raw) id

/-- Blueprints of metrics and triggers are made for zones and points. -/
theorem name_ne_global {n : Network} {aliases : Metric.Aliases} {item : Item} {context : Context}
    (hidden : item.kind.isShown = false) (made : context ∈ contextsOf n aliases item) :
    context.name ≠ .global := by
  rw [contextsOf_of_hidden hidden] at made
  unfold Scope.contexts at made
  split at made
  · rcases List.mem_map.mp made with ⟨zone, _, rfl⟩
    exact fun same => nomatch same
  · rcases List.mem_map.mp made with ⟨point, _, rfl⟩
    exact fun same => nomatch same

/-- What an entry stands for is a known metric, or the entry is no descriptor. -/
theorem stands_of_mem_entryTexts {context : Context} {raw id : String} (bound : s.Bound)
    (zonal : context.name ≠ .global) (catalogued : s.Catalogued)
    (member : id ∈ (s.scene context).entryTexts raw) :
    id ∈ s.metricIds ∨ (Metric.isMarked (context.fillPlaceholders raw) = false ∧
      s.StandsFor context (context.fillPlaceholders raw) id) := by
  have here : (s.scene context).context = context := rfl
  unfold Scene.entryTexts at member
  rw [here] at member
  dsimp only at member
  unfold StandsFor
  split at member
  · next fill =>
    rw [if_pos fill, fill]
    exact Or.inr ⟨by decide, List.mem_singleton.mp member⟩
  · next text =>
    rw [if_neg text]
    split at member
    · exact Or.inl (Scene.known_of_mem_metricsOf member)
    · next plain =>
      have own := List.mem_singleton.mp member
      unfold Scene.nameOf at own
      cases found : s.bindings.get? (context.fillPlaceholders raw) context.name with
      | none =>
        have unbound : (s.scene context).bindings.get? (context.fillPlaceholders raw)
            (s.scene context).context.name = none := found
        rw [unbound] at own
        exact Or.inr ⟨Bool.eq_false_iff.mpr plain, Or.inl own⟩
      | some key =>
        have held : (s.scene context).bindings.get? (context.fillPlaceholders raw)
            (s.scene context).context.name = some key := found
        rw [held] at own
        rcases bound _ _ _ found zonal with ⟨row, among, same, metric | trigger⟩
        · rcases catalogued.named row among metric with ⟨text, textual, _⟩
          have shown : id = text := by
            rw [own, ← same, textual]
            rfl
          exact Or.inl (catalogued.mem_metricIds_iff.mpr ⟨row, among, metric, shown ▸ textual⟩)
        · refine Or.inr ⟨Bool.eq_false_iff.mpr plain, Or.inr ⟨row, among, trigger, ?_, ?_⟩⟩
          · rw [same]
          · rw [own, same]
            rfl

/-- An entry stands for the same later. -/
theorem StandsFor.later {context : Context} {text id : String}
    (stands : s.StandsFor context text id) (run : Deeds models (Asks kept) s t) :
    t.StandsFor context text id := by
  unfold StandsFor at stands ⊢
  split
  · next fill =>
    rw [if_pos fill] at stands
    exact stands
  · next other =>
    rw [if_neg other] at stands
    rcases stands with own | ⟨row, member, trigger, found, shown⟩
    · exact Or.inl own
    · rcases run.moves.row member with ⟨later, among, model, key⟩
      exact Or.inr ⟨later, among, model.trans trigger, key ▸ run.bindings found, key ▸ shown⟩

/-- Every input of a trigger that was asked for is a known metric or goes back
to an entry of its blueprint that is no descriptor. -/
theorem Origin.inputs {row : Row} {moment : Session} {wanted : Trigger}
    (origin : Origin models kept s t row moment wanted) (indexed : s.Indexed)
    (catalogued : s.Catalogued) (bound : s.Bound)
    (hidden : ∀ item, kept item -> item.kind.isShown = false) {id : String}
    (reads : id ∈ row.inputs) :
    (∃ metric ∈ t.rows, metric.model = Fixture.Model.metric ∧ metric.key = .text id) ∨
      ∃ item raw context, kept item ∧ t.Loose item id raw context := by
  have then' := catalogued.moves indexed origin.before.moves
  have now := then'.moves (indexed.moves origin.before.moves) origin.after.moves
  have known : id ∈ moment.metricIds ->
      ∃ metric ∈ t.rows, metric.model = Fixture.Model.metric ∧ metric.key = .text id :=
    fun member => now.mem_metricIds_iff.mp (origin.after.moves.metricIds.subset member)
  rw [inputs_of_fields origin.fields] at reads
  cases origin.asked with
  | starter output inputs => exact Or.inl (known (inputs.subset reads))
  | @blueprint item chosen context made output inputs =>
    rw [inputs] at reads
    rcases (Scene.mem_inputsOf reads).2 with ⟨raw, entry, stands⟩
    rcases stands_of_mem_entryTexts (bound.deeds indexed catalogued origin.before)
      (name_ne_global (hidden item chosen) made) then' stands with metric | ⟨plain, loose⟩
    · exact Or.inl (known metric)
    · exact Or.inr ⟨item, raw, context, chosen, entry, origin.after.moves.contexts made, plain,
        loose.later origin.after⟩

end Session

/-! ## A whole compile -/

namespace Session

/-- The inputs of trigger rows that are keys of no metric row. -/
def danglingInputs (s : Session) : List String :=
  ((s.rowsOf Fixture.Model.trigger).flatMap Row.inputs).filter fun id =>
    !(s.rowsOf Fixture.Model.metric).any fun row => decide (row.key = .text id)

/-- A compile without existing rows leaves no input without a metric, but for
entries of the template that are no descriptors: `[FILL]`, which is the target,
the id of a blueprint that became a trigger, and texts that nothing is bound
under. -/
theorem loose_of_dangling {input : Job} (first : input.existing = []) {options : Options}
    {supply : Nat} {s : Session} (compiled : input.compile options supply = .ok s) :
    ∀ id ∈ s.danglingInputs, ∃ template item raw context,
      Job.orEmpty Template.ofJson input.template = .ok template ∧
        Keeps template input.sections s.aliases item ∧ s.Loose item id raw context := by
  intro id dangling
  rcases Job.compile_eq compiled with ⟨domain, template, _, read, whole⟩
  have fromStart : s = (start options supply).run
      [.domain domain, .template template input.sections] := by
    rw [whole, first]
    rfl
  have run := (start options supply).deeds_run [.domain domain, .template template input.sections]
  have hidden : ∀ item, KeptBy (start options supply).aliases
      [.domain domain, .template template input.sections] item -> item.kind.isShown = false := by
    rintro item ⟨_, _, _, own⟩
    rw [own.2]
    rfl
  have unbound : (start options supply).Bound := fun _ _ _ found => nomatch found
  rw [← fromStart] at run
  rcases List.mem_filter.mp dangling with ⟨listed, unknown⟩
  rcases List.mem_flatMap.mp listed with ⟨row, among, reads⟩
  rcases List.mem_filter.mp among with ⟨member, trigger⟩
  rcases run.origin member (beq_iff_eq.mp trigger) with old | ⟨moment, wanted, origin⟩
  · cases old
  · rcases origin.inputs rfl (catalogued_start options supply) unbound hidden reads with
      ⟨metric, there, model, key⟩ | ⟨item, raw, context, ⟨blueprints, sections, call, own⟩, loose⟩
    · have found : (s.rowsOf Fixture.Model.metric).any (fun row => decide (row.key = .text id)) =
          true := by
        refine List.any_eq_true.mpr ⟨metric, List.mem_filter.mpr ⟨there, beq_iff_eq.mpr model⟩, ?_⟩
        exact decide_eq_true key
      rw [found] at unknown
      cases unknown
    · simp only [List.mem_cons, List.not_mem_nil, or_false, reduceCtorEq, false_or,
        Call.template.injEq] at call
      have aliases : s.aliases = (start options supply).aliases := run.settings.2
      rw [call.1, call.2, ← aliases] at own
      exact ⟨template, item, raw, context, read, own, loose⟩

/-- A zone whose loss is computed from its demand and from a text that names
nothing. -/
def literalJob : Job where
  domain := .array [.object [("category", .text "zone"), ("label", .text "North")]]
  template := .array
    [ .object
        [ ("model", .text "fl_page_settings.pagesettings")
        , ("abstraction_id", .text "page")
        , ("fields", .object [("page", .text "OPS"), ("cards", .array [.text "card"])]) ]
    , .object
        [ ("model", .text "fl_page_settings.card")
        , ("abstraction_id", .text "card")
        , ("fields", .object [("args", .object
            [("metric_descriptors", .array [.text "MetricCategory.Zone.loss.qh"])])]) ]
    , .object
        [ ("model", .text "fl_monitoring.metricdefinition")
        , ("abstraction_id", .text "loss")
        , ("fields", .object
            [ ("category", .text "loss")
            , ("interval", .text "qh")
            , ("target_id", .text "[FILL]") ]) ]
    , .object
        [ ("model", .text "metrictrigger")
        , ("abstraction_id", .text "loss_trigger")
        , ("output_metric", .text "MetricCategory.Zone.loss.qh")
        , ("calculators", .array [.object
            [ ("calc_name", .text "CALCULATE_LOSS")
            , ("calc_args", .object [("inputs", .object
                [("metrics", .array
                  [.text "MetricCategory.Zone.zone_demand.qh", .text "legal_loss"])])]) ]]) ] ]
  sections := ["OPS"]
  existing := []

/-- The text is kept as an input, although no metric has it as its key. -/
theorem dangling_literalJob :
    ((literalJob.compile .default 0).toOption.map danglingInputs) = some ["legal_loss"] := by
  decide +kernel

/-- The one input without a metric goes back to that entry. -/
theorem loose_literalJob :
    ∃ s, literalJob.existing = [] ∧ literalJob.compile .default 0 = .ok s ∧
      s.danglingInputs ≠ [] ∧
      ∀ id ∈ s.danglingInputs, ∃ template item raw context,
        Job.orEmpty Template.ofJson literalJob.template = .ok template ∧
          Keeps template literalJob.sections s.aliases item ∧ s.Loose item id raw context := by
  have one : ((literalJob.compile .default 0).toOption.map fun s =>
      s.danglingInputs.length) = some 1 := by
    decide +kernel
  cases compiled : literalJob.compile .default 0 with
  | error failure =>
    rw [compiled] at one
    cases one
  | ok s =>
    rw [compiled] at one
    have single : s.danglingInputs.length = 1 := Option.some.inj one
    refine ⟨s, rfl, rfl, fun none => ?_, loose_of_dangling rfl compiled⟩
    rw [none] at single
    cases single

end Session
end Sensornet
