import Sensornet.Proofs.Resolution.Inputs
import Sensornet.Proofs.Session.Stages

namespace Sensornet
namespace Session

/-!
# Asking for metrics and triggers

What a session knows once it was asked.  A metric that was obtained is known
from then on, and so is the row of a trigger that was put.  Making a trigger
blueprint comes down to putting one trigger, whose output and inputs can be
read off the blueprint.
-/

open Fixture (Key Row Registry)
open Json (Value Fields)
open Template (Item)

variable (s : Session)

/-- Nothing happens that rows or bindings depend on. -/
structure Still (s t : Session) : Prop extends Quiet s t where
  bindings : t.bindings = s.bindings

namespace Still

theorem refl : Still s s := ⟨.refl s, rfl⟩

variable {s} in
theorem trans {t u : Session} (before : Still s t) (after : Still t u) : Still s u :=
  ⟨before.toQuiet.trans after.toQuiet, after.bindings.trans before.bindings⟩

theorem note (notice : Notice) : Still s (s.note notice) := ⟨.note s notice, rfl⟩

theorem noteAll (notices : List Notice) : Still s (s.noteAll notices) := ⟨.noteAll s notices, rfl⟩

theorem drawToken (seed : String) : Still s (s.drawToken seed).2 := ⟨.drawToken s seed, rfl⟩

theorem resolve (context : Context) (value : Value) : Still s (s.resolve context value).2 :=
  ⟨.resolve s context value, rfl⟩

theorem completeCalculators (seed : String) (calculators : List Value) :
    Still s (s.completeCalculators seed calculators).2 := by
  refine ⟨.completeCalculators s seed calculators, ?_⟩
  induction calculators generalizing s with
  | nil => rfl
  | cons calculator rest ih =>
    have first : (s.completeCalculator seed calculator).2.bindings = s.bindings := by
      unfold Session.completeCalculator
      split <;> rfl
    exact (ih _).trans first

theorem noteZone (item : Domain.Item) : Still s (s.noteZone item) := by
  refine ⟨.noteZone s item, ?_⟩
  unfold Session.noteZone
  split <;> rfl

theorem notePoint (item : Domain.Item) (kind : String) : Still s (s.notePoint item kind) := by
  refine ⟨.notePoint s item kind, ?_⟩
  unfold Session.notePoint
  split <;> split <;> rfl

theorem noteShared (placed : List Placement) (item : Domain.Item) :
    Still s (s.noteShared placed item) := by
  refine ⟨.noteShared s placed item, ?_⟩
  unfold Session.noteShared
  split <;> rfl

end Still

/-! ## Metrics -/

/-- The identity that a session gives a metric with these fields. -/
def identityFor (s : Session) (fields : Fields) : Metric.Identity :=
  .ofFields (Metric.complete s.aliases s.options.storageTable fields)

/-- A metric that was obtained is known. -/
theorem metric?_obtainMetric (fields : Fields) :
    (s.obtainMetric fields).2.network.metric? (s.identityFor fields) =
      some (s.obtainMetric fields).1 := by
  cases known : s.network.metric? (s.identityFor fields) with
  | some id =>
    rcases s.obtainMetric_known known with ⟨notice, found⟩
    rw [found]
    exact known
  | none =>
    rw [s.obtainMetric_new known]
    dsimp only [network_enter]
    rw [Network.indexRow_metricRow s.network known]
    exact Network.metric?_insertMetric_self _ _ _

/-- A metric that was known before stays known. -/
theorem metric?_obtainMetric_of_known {identity : Metric.Identity} {id : String}
    (known : s.network.metric? identity = some id) (fields : Fields) :
    (s.obtainMetric fields).2.network.metric? identity = some id := by
  cases own : s.network.metric? (s.identityFor fields) with
  | some other =>
    rcases s.obtainMetric_known own with ⟨notice, found⟩
    rw [found]
    exact known
  | none =>
    have different : identity ≠ s.identityFor fields := by
      rintro rfl
      rw [own] at known
      cases known
    rw [s.obtainMetric_new own]
    dsimp only [network_enter]
    rw [Network.indexRow_metricRow s.network own]
    exact (Network.metric?_insertMetric_of_ne _ different _).trans known

theorem bindings_obtainMetric (s : Session) (fields : Fields) :
    (s.obtainMetric fields).2.bindings = s.bindings := by
  unfold obtainMetric
  dsimp only
  split <;> rfl

/-! ## Triggers -/

/-- A key by which a session knows a metric or the row of a trigger. -/
inductive Names (s : Session) : Key -> Prop where
  | metric {identity : Metric.Identity} {id : String}
      (known : s.network.metric? identity = some id) : Names s (.text id)
  | trigger {output : String} {position : Nat} {row : Row}
      (known : s.network.triggerPosition? output = some position)
      (stands : s.rows[position]? = some row) : Names s row.key

/-- The row of the trigger with an output. -/
def triggerRow? (s : Session) (output : String) : Option Row :=
  (s.network.triggerPosition? output).bind fun position => s.rows[position]?

/-- A trigger that is put gives the key of its row, where it is found from
then on. -/
theorem key_putTrigger {wanted : Trigger} (complete : wanted.isComplete = true) :
    ∃ row, (s.putTrigger wanted).2.triggerRow? wanted.outputMetric = some row ∧
      (s.putTrigger wanted).1 = some row.key := by
  unfold triggerRow?
  rcases s.stands_or_unknown wanted.outputMetric with ⟨position, row, known, stands⟩ | unknown
  · rw [s.putTrigger_known complete known stands]
    rw [network_replaceFields, network_note, rows_replaceFields, rows_note, known, Option.bind_some, List.getElem?_modify_eq, stands]
    exact ⟨_, rfl, rfl⟩
  · rw [s.putTrigger_new complete unknown]
    dsimp only [network_enter]
    rw [Network.indexRow_triggerRow _ complete]
    have here : (s.network.insertTrigger wanted.outputMetric s.rows.length).triggerPosition?
        wanted.outputMetric = some s.rows.length := Entries.get?_insert_self _ _ _
    rw [here]
    exact ⟨_, List.getElem?_concat_length, rfl⟩

/-- A trigger that was put is known by its key. -/
theorem names_putTrigger {wanted : Trigger} {key : Key}
    (put : (s.putTrigger wanted).1 = some key) : (s.putTrigger wanted).2.Names key := by
  cases complete : wanted.isComplete with
  | false =>
    rw [s.putTrigger_incomplete complete] at put
    cases put
  | true =>
    rcases s.key_putTrigger complete with ⟨row, found, own⟩
    rcases Option.bind_eq_some_iff.mp found with ⟨position, known, stands⟩
    cases Option.some.inj (put.symm.trans own)
    exact .trigger known stands

theorem bindings_putTrigger (s : Session) (wanted : Trigger) :
    (s.putTrigger wanted).2.bindings = s.bindings := by
  unfold putTrigger
  split
  · rfl
  · split <;> rfl

/-! ## Trigger blueprints -/

theorem inputs_completeCalculator (seed : String) (calculator : Value) :
    Calculator.inputs (s.completeCalculator seed calculator).1 =
      Calculator.listedTexts (Calculator.metrics? calculator) := by
  unfold completeCalculator
  split <;> exact Calculator.inputs_complete calculator _

theorem inputs_completeCalculators (seed : String) (calculators : List Value) :
    (s.completeCalculators seed calculators).1.flatMap Calculator.inputs =
      calculators.flatMap fun calculator =>
        Calculator.listedTexts (Calculator.metrics? calculator) := by
  induction calculators generalizing s with
  | nil => rfl
  | cons calculator rest ih =>
    have parts : (s.completeCalculators seed (calculator :: rest)).1 =
        (s.completeCalculator seed calculator).1 ::
          ((s.completeCalculator seed calculator).2.completeCalculators seed rest).1 := rfl
    rw [parts, List.flatMap_cons, List.flatMap_cons, ih, inputs_completeCalculator]

/-- The trigger that a resolved blueprint asks for, with its calculators. -/
def blueprintTrigger (resolved : Value) (calculators : List Value) : Trigger :=
  let textOf := fun key => ((resolved.get? key).bind Value.text?).getD ""
  { calculators
    description := textOf "description"
    scheduleJob := textOf "schedule_job"
    inputMetrics := distinct (calculators.flatMap Calculator.inputs)
    outputMetric := textOf "output_metric" }

/-- What a session does with the key of a trigger blueprint. -/
def bindTrigger (item : Item) (context : Context) (put : Option Key × Session) : Session :=
  match put.1 with
  | some key => put.2.bind item.abstractionId? context.name key
  | none => put.2.note (.triggerEmpty item.shownName context.name.text)

section

variable {item : Item} {context : Context} {put : Option Key × Session}

theorem bindTrigger_of_some {key : Key} (known : put.1 = some key) :
    bindTrigger item context put = put.2.bind item.abstractionId? context.name key := by
  unfold bindTrigger
  rw [known]

theorem bindTrigger_of_none (nothing : put.1 = none) :
    bindTrigger item context put =
      put.2.note (.triggerEmpty item.shownName context.name.text) := by
  unfold bindTrigger
  rw [nothing]

theorem bindTrigger_cases (item : Item) (context : Context) (put : Option Key × Session) :
    (∃ key, put.1 = some key ∧
      bindTrigger item context put = put.2.bind item.abstractionId? context.name key) ∨
      ∃ notice, bindTrigger item context put = put.2.note notice := by
  cases known : put.1 with
  | some key => exact Or.inl ⟨key, rfl, bindTrigger_of_some known⟩
  | none => exact Or.inr ⟨_, bindTrigger_of_none known⟩

end

/-- Making a trigger blueprint is putting one trigger, with the output and the
inputs that the blueprint asks for in its context. -/
theorem makeTrigger_eq (item : Item) (context : Context) :
    ∃ (t : Session) (wanted : Trigger), s.Still t ∧
      wanted.outputMetric = (s.scene context).outputOf item ∧
      wanted.inputMetrics = (s.scene context).inputsOf item ∧
      makeTrigger item s context = bindTrigger item context (t.putTrigger wanted) := by
  have resolved : (s.scene context).Gives .plain item.value (s.resolve context item.value).1 :=
    ⟨⟨s.registry, s.notices⟩, rfl⟩
  have inputs := inputs_completeCalculators (s.resolve context item.value).2 context.name.text
    (Value.itemsOf ((s.resolve context item.value).1.get? "calculators"))
  have still := (Still.resolve s context item.value).trans
    (.completeCalculators _ context.name.text
      (Value.itemsOf ((s.resolve context item.value).1.get? "calculators")))
  exact ⟨_, blueprintTrigger (s.resolve context item.value).1 _, still, resolved.outputOf,
    (congrArg distinct inputs).trans resolved.inputsOf, rfl⟩

end Session
end Sensornet
