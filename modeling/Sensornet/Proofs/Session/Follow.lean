import Sensornet.Proofs.Session.Placing
import Sensornet.Proofs.Session.Tokens

namespace Sensornet
namespace Session

/-!
# One session after another

A second session starts from the rows that a first one ended with, and both
are told the same.  Wherever the first one is, it comes to those rows, so all
that it asks for is known to the second one, which therefore adds nothing but
triggers, and puts the same triggers.  There is one exception.  The trigger of
a zone reads all that is known when it is put, and the second session knows
from the start what the first one was told later.  `late` says which outputs
and inputs this may concern.

What is compared is what each trigger reads: in the second session it is what
it is in the first one, or what it was at the start, or it is late.
-/

open Fixture (Key Row Registry)
open Json (Value Fields)
open Relation (ReflTransGen)

/-- Whatever is asked for. -/
def Any (_ : Session) (_ : Trigger) : Prop :=
  True

/-- The session comes to the rows and the network of another, by deeds that
enter rows of some models. -/
def Leads (models : List String) (s r : Session) : Prop :=
  ∃ f, Deeds models Any s f ∧ r.rows = f.rows ∧ r.network = f.network

variable {models others : List String} {asks : Session -> Trigger -> Prop} {r s t u v : Session}

theorem Deeds.any (run : Deeds models asks s t) : Deeds models Any s t :=
  run.mono (fun _ member => member) fun _ _ _ => trivial

theorem deeds_starterTrigger_any (s : Session) (name seed description : String) (more : Fields)
    (inputs : List String) (output : String) :
    Deeds models Any s (s.starterTrigger name seed description more inputs output) :=
  .trans (Still.drawToken s seed).deeds (.single (.ask trivial))

namespace Leads

theorem before (run : Deeds models asks s u) (ahead : Leads models u r) : Leads models s r := by
  rcases ahead with ⟨f, after, same⟩
  exact ⟨f, run.any.trans after, same⟩

theorem mono (ahead : Leads models s r) (among : models ⊆ others) : Leads others s r := by
  rcases ahead with ⟨f, after, same⟩
  exact ⟨f, after.widen among, same⟩

/-- A known metric is known at the end. -/
theorem metric? (ahead : Leads models s r) {identity : Metric.Identity} {id : String}
    (known : s.network.metric? identity = some id) : r.network.metric? identity = some id := by
  rcases ahead with ⟨f, after, _, network⟩
  rw [network]
  exact after.moves.metric? known

/-- The row of a trigger is there at the end, under its key. -/
theorem triggerRow? (ahead : Leads models s r) (indexed : s.Indexed) {output : String} {row : Row}
    (found : s.triggerRow? output = some row) :
    ∃ later, r.triggerRow? output = some later ∧ later.key = row.key := by
  rcases ahead with ⟨f, after, rows, network⟩
  unfold Session.triggerRow?
  rw [rows, network]
  exact after.moves.triggerRow? indexed found

theorem targets (ahead : Leads models s r) (noZones : Fixture.Model.polygon ∉ models)
    (noPoints : Fixture.Model.point ∉ models) :
    r.network.zones = s.network.zones ∧ r.network.points = s.network.points ∧
      r.network.targets = s.network.targets := by
  rcases ahead with ⟨f, after, _, network⟩
  rw [network]
  exact after.targets noZones noPoints

theorem metrics (ahead : Leads models s r) (noMetrics : Fixture.Model.metric ∉ models) :
    r.network.metrics = s.network.metrics := by
  rcases ahead with ⟨f, after, _, network⟩
  rw [network]
  exact after.metrics noMetrics

/-- Two sessions go through the same steps side by side as long as what the
first one comes to is known to the second one. -/
theorem foldl {A : Type} (along : Session -> Session -> Prop) {step : Session -> A -> Session}
    (items : List A) (each : ∀ (s : Session) (a : A), a ∈ items -> Deeds models Any s (step s a))
    (keeps : ∀ (s t : Session) (a : A), a ∈ items -> Leads models (step s a) r -> along s t ->
      along (step s a) (step t a))
    (ahead : Leads models (items.foldl step s) r) (start : along s t) :
    along (items.foldl step s) (items.foldl step t) := by
  induction items generalizing s t with
  | nil => exact start
  | cons a rest ih =>
    have others : Deeds models Any (step s a) (rest.foldl step (step s a)) :=
      Deeds.foldl rest fun u b member _ => each u b (List.mem_cons_of_mem a member)
    have first : along (step s a) (step t a) :=
      keeps s t a List.mem_cons_self (ahead.before others) start
    exact ih (fun u b member => each u b (List.mem_cons_of_mem a member))
      (fun u v b member => keeps u v b (List.mem_cons_of_mem a member)) ahead first

end Leads

/-- The second session, which started from the rows of `r`, does what the first
one does. -/
structure Follows (late : String -> List String -> Prop) (r s t : Session) : Prop where
  indexed : s.Indexed
  started : r.Indexed
  ran : Deeds [] Any r t
  options : t.options = s.options
  aliases : t.aliases = s.aliases
  reads : ∀ output, output ≠ "" -> t.reads output = s.reads output ∨
    t.reads output = r.reads output ∨ ∃ inputs, t.reads output = some inputs ∧ late output inputs

namespace Follows

variable {late : String -> List String -> Prop}

section

variable (follows : Follows late r s t)
include follows

theorem indexedToo : t.Indexed :=
  follows.started.moves follows.ran.moves

/-- What the second session knows of metrics and targets it knew at the start. -/
theorem metrics : t.network.metrics = r.network.metrics :=
  follows.ran.metrics List.not_mem_nil

theorem targets : t.network.zones = r.network.zones ∧ t.network.points = r.network.points ∧
    t.network.targets = r.network.targets :=
  follows.ran.targets List.not_mem_nil List.not_mem_nil

theorem starterMetric? : t.starterMetric? = r.starterMetric? := by
  funext category target
  unfold Session.starterMetric? Network.metric?
  rw [follows.metrics]

/-! ## Single steps -/

/-- Steps that ask for nothing leave what is read alone. -/
theorem silent (left : Deeds models Silent s u) (right : Deeds [] Silent t v) :
    Follows late r u v where
  indexed := follows.indexed.moves left.moves
  started := follows.started
  ran := follows.ran.trans right.any
  options := by rw [right.settings.1, left.settings.1, follows.options]
  aliases := by rw [right.settings.2, left.settings.2, follows.aliases]
  reads output filled := by
    rw [right.reads_of_silent follows.indexedToo, left.reads_of_silent follows.indexed]
    exact follows.reads output filled

theorem still (left : Still s u) (right : Still t v) : Follows late r u v :=
  follows.silent (left.deeds : Deeds [] Silent s u) right.deeds

/-- A metric that both ask for has one id, and the second session knew it. -/
theorem obtainMetric {fields moreFields : Fields}
    (same : t.identityFor moreFields = s.identityFor fields)
    (ahead : Leads models (s.obtainMetric fields).2 r) :
    (t.obtainMetric moreFields).1 = (s.obtainMetric fields).1 ∧
      Still t (t.obtainMetric moreFields).2 ∧
      Follows late r (s.obtainMetric fields).2 (t.obtainMetric moreFields).2 := by
  have known : t.network.metric? (t.identityFor moreFields) = some (s.obtainMetric fields).1 := by
    unfold Network.metric?
    rw [follows.metrics, same]
    exact ahead.metric? (s.metric?_obtainMetric fields)
  rcases t.obtainMetric_known known with ⟨notice, found⟩
  rw [found]
  have noted : Still t (t.note notice) := .note t notice
  have left : Deeds [Fixture.Model.metric] Silent s (s.obtainMetric fields).2 :=
    s.deeds_obtainMetric fields
  exact ⟨rfl, noted, follows.silent left noted.deeds⟩

/-- A trigger that both put has one key, and reads the same in both. -/
theorem putTrigger {wanted other : Trigger} (output : other.outputMetric = wanted.outputMetric)
    (inputs : other.inputMetrics = wanted.inputMetrics)
    (ahead : Leads models (s.putTrigger wanted).2 r) :
    (t.putTrigger other).1 = (s.putTrigger wanted).1 ∧
      Follows late r (s.putTrigger wanted).2 (t.putTrigger other).2 := by
  have like : other.isComplete = wanted.isComplete := by
    rw [Bool.eq_iff_iff, Trigger.isComplete_iff, Trigger.isComplete_iff, output, inputs]
  have left := moves_putTrigger s wanted
  have right : Deeds [] Any t (t.putTrigger other).2 := .single (.ask trivial)
  constructor
  · cases complete : wanted.isComplete with
    | false =>
      rw [s.putTrigger_incomplete complete, t.putTrigger_incomplete (like.trans complete)]
    | true =>
      rcases s.key_putTrigger complete with ⟨row, found, key⟩
      rcases ahead.triggerRow? (follows.indexed.moves left) found with ⟨atStart, there, sameKey⟩
      rcases follows.ran.moves.triggerRow? follows.started there with ⟨here, stands, keptKey⟩
      rcases Option.bind_eq_some_iff.mp stands with ⟨position, known, place⟩
      rw [← output] at known
      rw [t.putTrigger_known (like.trans complete) known place, key, keptKey, sameKey]
  · refine ⟨follows.indexed.moves left, follows.started, follows.ran.trans right, ?_, ?_, ?_⟩
    · rw [right.settings.1, left.settings.1, follows.options]
    · rw [right.settings.2, left.settings.2.1, follows.aliases]
    · intro own filled
      rw [reads_putTrigger follows.indexedToo, reads_putTrigger follows.indexed, like, output,
        inputs]
      by_cases put : wanted.isComplete = true ∧ wanted.outputMetric = own
      · rw [if_pos put, if_pos put]
        exact Or.inl rfl
      · rw [if_neg put, if_neg put]
        exact follows.reads own filled

theorem starterTrigger (name seed description : String) (more : Fields) (inputs : List String)
    (output : String)
    (ahead : Leads models (s.starterTrigger name seed description more inputs output) r) :
    Follows late r (s.starterTrigger name seed description more inputs output)
      (t.starterTrigger name seed description more inputs output) := by
  have drawn := follows.still (.drawToken s seed) (.drawToken t seed)
  have sameOutput := Trigger.outputMetric_starter name description more inputs output
  have sameInputs := Trigger.inputMetrics_starter name description more inputs output
  exact (drawn.putTrigger ((sameOutput _).trans (sameOutput _).symm)
    ((sameInputs _).trans (sameInputs _).symm) ahead).2

/-! ## What targets start with -/

theorem metricsOfTarget (placed : Placement) (ahead : Leads models (s.metricsOfTarget placed) r)
    (metric : Fixture.Model.metric ∈ models) :
    Follows late r (s.metricsOfTarget placed) (t.metricsOfTarget placed) := by
  have like : ∀ {u v : Session} (fields : Fields), Follows late r u v ->
      v.identityFor fields = u.identityFor fields := by
    intro u v fields both
    unfold identityFor
    rw [both.options, both.aliases]
  have within : ∀ {u : Session} (fields : Fields),
      Deeds models Silent u (u.obtainMetric fields).2 := by
    intro u fields
    apply (deeds_obtainMetric u fields).widen
    simpa using metric
  unfold Session.metricsOfTarget at ahead ⊢
  dsimp only at ahead ⊢
  rw [follows.options]
  by_cases zone : placed.kind = Domain.zoneKind
  · simp only [if_pos zone] at ahead ⊢
    have first := (follows.obtainMetric (like _ follows) (ahead.before (within _))).2.2
    exact (first.obtainMetric (like _ first) ahead).2.2
  · simp only [if_neg zone] at ahead ⊢
    by_cases meter : placed.kind = Domain.flowMeterKind
    · simp only [if_pos meter] at ahead ⊢
      have volumeAhead := ahead.before (deeds_starterTrigger_any _ _ _ _ _ _ _)
      rcases follows.obtainMetric (like _ follows) (volumeAhead.before (within _))
        with ⟨reading, _, first⟩
      rcases first.obtainMetric (like _ first) volumeAhead with ⟨volume, _, second⟩
      rw [reading, volume]
      exact second.starterTrigger _ _ _ _ _ _ ahead
    · simp only [if_neg meter] at ahead ⊢
      by_cases sensor : placed.kind = Domain.pressureSensorKind
      · simp only [if_pos sensor] at ahead ⊢
        exact (follows.obtainMetric (like _ follows) ahead).2.2
      · simp only [if_neg sensor]
        exact follows

/-- Both may put a trigger, the second session one that knows more. -/
theorem puts (left : Deeds models Any s u) (right : Deeds [] Any t v) {own known : Option String}
    {few many : List String}
    (ownReads : ∀ output, output ≠ "" ->
      u.reads output = if own = some output ∧ few ≠ [] then some few else s.reads output)
    (knownReads : ∀ output, output ≠ "" ->
      v.reads output = if known = some output ∧ many ≠ [] then some many else t.reads output)
    (within : ∀ output, own = some output -> few ≠ [] -> known = some output ∧ many ≠ [])
    (alike : ∀ output, known = some output -> many ≠ [] ->
      (own = some output ∧ few = many) ∨ late output many) : Follows late r u v where
  indexed := follows.indexed.moves left.moves
  started := follows.started
  ran := follows.ran.trans right
  options := by rw [right.settings.1, left.settings.1, follows.options]
  aliases := by rw [right.settings.2, left.settings.2, follows.aliases]
  reads output filled := by
    rw [knownReads output filled, ownReads output filled]
    by_cases put : known = some output ∧ many ≠ []
    · rw [if_pos put]
      rcases alike output put.1 put.2 with ⟨first, same⟩ | later
      · rw [same, if_pos ⟨first, put.2⟩]
        exact Or.inl rfl
      · exact Or.inr (Or.inr ⟨many, rfl, later⟩)
    · rw [if_neg put, if_neg fun both => put (within output both.1 both.2)]
      exact follows.reads output filled

end

end Follows

end Session
end Sensornet
