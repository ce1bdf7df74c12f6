import Sensornet.Proofs.Resolution.Growth
import Sensornet.Proofs.Session.Moments

namespace Sensornet

/-!
# What is bound after it was looked up

A blueprint looks texts up at its moments, and some of them may be bound only
later in the same call.  For a metric the texts that matter are the words by
which it says what it measures, and for a trigger without anything to read
those that stand alone under the metrics of its calculators.  They have settled
when they are bound at the end of the call as they were at the moment.

A call binds metrics and triggers under their own ids, in their own contexts.
So words that are nobody's id have always settled, and so have triggers whose
calculators have lists of metrics.
-/

open Fixture (Key Row)
open Template (Item Kind)

namespace Session

variable {s moment f : Session} {item : Item} {context : Context} {template : List Item}
  {sections : List String} {text : String} {name : Context.Name}

/-- Under a word of a metric blueprint nothing was bound after the blueprint was
made. -/
def WordsSettle (s : Session) (template : List Item) (sections : List String) : Prop :=
  ∀ item context moment, s.MakesMetric template sections item context moment ->
    SameWords item context.name moment.bindings (s.addTemplate template sections).bindings

/-- Under what stands alone under the metrics of a calculator nothing was bound
after the trigger blueprint had nothing to read. -/
def LoneSettle (s : Session) (template : List Item) (sections : List String) : Prop :=
  ∀ item context moment, s.MakesTrigger template sections item context moment ->
    (moment.scene context).inputsOf item = [] ->
      Resolution.SameLone item context moment.bindings (s.addTemplate template sections).bindings

/-! ## Ids that are bound -/

theorem get?_makeMetric (apart : item.abstractionId? ≠ some text) (s : Session)
    (context : Context) :
    (makeMetric item s context).bindings.get? text name = s.bindings.get? text name := by
  unfold makeMetric
  dsimp only
  rw [get?_bind_apart (Or.inl apart), bindings_obtainMetric]
  rfl

theorem get?_makeMetrics (apart : item.abstractionId? ≠ some text) (s : Session) :
    (s.makeMetrics item).bindings.get? text name = s.bindings.get? text name := by
  unfold makeMetrics
  dsimp only
  rw [get?_foldl fun t context _ => get?_makeMetric apart t context]
  split <;> rfl

theorem get?_makeTrigger (apart : item.abstractionId? ≠ some text) (s : Session)
    (context : Context) :
    (makeTrigger item s context).bindings.get? text name = s.bindings.get? text name := by
  rcases s.makeTrigger_eq item context with ⟨t, wanted, still, _, _, made⟩
  have put : (t.putTrigger wanted).2.bindings = s.bindings :=
    (bindings_putTrigger t wanted).trans still.bindings
  rw [made, ← put]
  rcases bindTrigger_cases item context (t.putTrigger wanted) with ⟨key, _, bound⟩ | ⟨_, noted⟩
  · rw [bound]
    exact get?_bind_apart (Or.inl apart) _ _
  · rw [noted]
    rfl

theorem get?_makeTriggers (apart : item.abstractionId? ≠ some text) (s : Session) :
    (s.makeTriggers item).bindings.get? text name = s.bindings.get? text name :=
  get?_foldl (fun t context _ => get?_makeTrigger apart t context) s

/-- A call binds nothing for a zone or point under what is no id of a metric or
trigger. -/
theorem get?_addTemplate (apart : ∀ item ∈ s.keptItems template sections,
      item.kind = .metric ∨ item.kind = .trigger -> item.abstractionId? ≠ some text)
    (zonal : name ≠ .global) :
    (s.addTemplate template sections).bindings.get? text name = s.bindings.get? text name := by
  have metrics : (s.withMetrics template sections).bindings.get? text name =
      s.bindings.get? text name := by
    refine get?_foldl (fun t item member => get?_makeMetrics ?_ t) (s.noted template sections)
    rcases mem_ofKind.mp member with ⟨among, kind⟩
    exact apart item among (Or.inl kind)
  have triggers : (s.prepared template sections).bindings.get? text name =
      (s.withMetrics template sections).bindings.get? text name := by
    rw [prepared_eq]
    refine get?_foldl (fun t item member => get?_makeTriggers ?_ t) _
    rcases mem_ofKind.mp member with ⟨among, kind⟩
    exact apart item among (Or.inr kind)
  have shown : ((s.prepared template sections).afterKinds (s.keptItems template sections)
      shownKinds).bindings.get? text name = (s.prepared template sections).bindings.get? text name :=
    get?_foldl (fun t kind among => get?_foldl (fun u item member =>
      get?_makeShown (shown_of_mem_ofKind (mem_shownKinds.mp among) member)
        (Or.inr (Ne.symm zonal)) u) t) _
  rcases s.addTemplate_eq template sections with ⟨notice, made⟩
  rw [made]
  exact shown.trans (triggers.trans metrics)

/-! ## What has settled -/

/-- What is bound alike at both ends is bound alike in between. -/
theorem get?_between {models others : List String} {asks wider : Session -> Trigger -> Prop}
    (before : Deeds models asks s moment) (after : Deeds others wider moment f)
    (same : f.bindings.get? text name = s.bindings.get? text name) :
    f.bindings.get? text name = moment.bindings.get? text name := by
  cases first : s.bindings.get? text name with
  | some key => rw [before.bindings first, same, first]
  | none =>
    cases found : moment.bindings.get? text name with
    | none => rw [same, first]
    | some key =>
      rw [after.bindings found, first] at same
      cases same

theorem MakesMetric.kept (makes : s.MakesMetric template sections item context moment) :
    item ∈ ofKind (s.keptItems template sections) .metric ∧ context.name ≠ .global := by
  rcases makes with ⟨begun, first, second⟩
  exact ⟨first.mem, name_ne_global ((mem_ofKind.mp first.mem).2 ▸ rfl) second.mem⟩

/-- Words that are no ids have settled. -/
theorem wordsSettle_of_ids
    (apart : ∀ item ∈ ofKind (s.keptItems template sections) .metric, ∀ key text,
      key = "category" ∨ key = "interval" -> (key, .text text) ∈ item.fields ->
        ∀ other ∈ s.keptItems template sections, other.kind = .metric ∨ other.kind = .trigger ->
          other.abstractionId? ≠ some text) :
    s.WordsSettle template sections := by
  intro item context moment makes key text named word
  rcases makes.kept with ⟨member, zonal⟩
  have onward : Deeds templateModels Any moment (s.addTemplate template sections) :=
    ((deeds_makeMetric moment item context).widen (by decide)).trans makes.deeds.2
  exact get?_between makes.deeds.1 onward
    (get?_addTemplate (apart item member key text named word) zonal)

/-- Where all metrics of calculators are in lists, there is nothing to settle. -/
theorem loneSettle_of_lists (listed : ∀ item ∈ ofKind (s.keptItems template sections) .trigger,
      ∀ calculator ∈ item.calculators, ∀ raw,
        Calculator.metrics? calculator ≠ some (.text raw)) :
    s.LoneSettle template sections := by
  intro item context moment makes _ calculator own raw written
  rcases makes with ⟨begun, first, _⟩
  exact absurd written (listed item first.mem calculator own raw)

end Session
end Sensornet
