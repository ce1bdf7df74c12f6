import Sensornet.Proofs.Session.Lateness

namespace Sensornet
namespace Session

/-!
# The same domain twice

A domain is compiled, and then compiled again at once.  The second call finds
all that the first one wrote: the n-th item of a category and label is given
the target that it was given, every link is written, every metric is known,
and every trigger is put where it stands.  So the network stays what it is, no
row is added, and a trigger that is put again differs in its token only.

The two calls are followed side by side.  While the first one is at `s`, on
its way to `r`, the second one is at `t`: its rows are those of `r`, except
that some triggers stand there as they stand in `s` already, with tokens of
their own.  This covers triggers that are put more than once in one call, which
the rows of the past may bring about.
-/

open Fixture (Key Row Registry)
open Json (Value Fields)
open Relation (ReflTransGen)
open List (Forall₂)

/-- A row is left alone, or it is a trigger with new tokens. -/
def Renewed (row later : Row) : Prop :=
  later = row ∨ row.model = Fixture.Model.trigger ∧ later.hideTokens = row.hideTokens

namespace Renewed

variable {row later : Row}

theorem key (renewed : Renewed row later) : later.key = row.key := by
  rcases renewed with rfl | ⟨_, hidden⟩
  · rfl
  · rw [← later.key_hideTokens, hidden, row.key_hideTokens]

theorem model (renewed : Renewed row later) : later.model = row.model := by
  rcases renewed with rfl | ⟨_, hidden⟩
  · rfl
  · rw [← later.model_hideTokens, hidden, row.model_hideTokens]

end Renewed

/-- The place of a row, as the second call has it: as it is at the end of the
first call, or as it is there at the moment, with new tokens. -/
def InPlace (atEnd now again : Option Row) : Prop :=
  again = atEnd ∨ ∃ row later, now = some row ∧ again = some later ∧ Renewed row later

/-- The second call goes through what the first call goes through. -/
structure Echoes (r s t : Session) : Prop where
  indexed : s.Indexed
  network : t.network = r.network
  options : t.options = s.options
  aliases : t.aliases = s.aliases
  rows : ∀ position : Nat, InPlace r.rows[position]? s.rows[position]? t.rows[position]?

variable {models : List String} {asks : Session -> Trigger -> Prop} {r s t u v : Session}

/-! ## Rows that stay -/

/-- Where no trigger is asked for, rows are only added. -/
theorem Deeds.rows_of_silent (run : Deeds models Silent s t) : s.rows <+: t.rows := by
  induction run with
  | refl => exact List.prefix_refl _
  | @tail u v _ deed ih =>
    cases deed with
    | still same =>
      rw [same.rows]
      exact ih
    | bind id named =>
      rw [(Quiet.bind _ _ _ _).rows]
      exact ih
    | enter model issued new named own among passive => exact ih.trans (List.prefix_append _ _)
    | ask asked => exact asked.elim

/-- Lists that correspond place by place. -/
theorem forall₂_of_getElem? {A : Type} {alike : A -> A -> Prop} {xs ys : List A}
    (refl : ∀ x, alike x x)
    (each : ∀ position : Nat, ys[position]? = xs[position]? ∨
      ∃ x y, xs[position]? = some x ∧ ys[position]? = some y ∧ alike x y) :
    Forall₂ alike xs ys := by
  induction xs generalizing ys with
  | nil =>
    cases ys with
    | nil => exact .nil
    | cons y rest =>
      rcases each 0 with same | ⟨_, _, impossible, _⟩
      · cases same
      · cases impossible
  | cons x rest ih =>
    cases ys with
    | nil =>
      rcases each 0 with same | ⟨_, _, _, impossible, _⟩
      · cases same
      · cases impossible
    | cons y others =>
      refine .cons ?_ (ih fun position => each (position + 1))
      rcases each 0 with same | ⟨a, b, own, ownToo, related⟩
      · cases same
        exact refl x
      · cases own
        cases ownToo
        exact related

namespace Echoes

section

variable (echoes : Echoes r s t)
include echoes

/-! ## Single steps -/

/-- Steps that put no trigger add what the second call knows. -/
theorem silent (left : Deeds models Silent s u) (right : Quiet t v) : Echoes r u v where
  indexed := echoes.indexed.moves left.moves
  network := right.network.trans echoes.network
  options := by rw [right.options, left.settings.1, echoes.options]
  aliases := by rw [right.aliases, left.settings.2, echoes.aliases]
  rows position := by
    rw [right.rows]
    rcases echoes.rows position with same | ⟨row, later, now, again, renewed⟩
    · exact Or.inl same
    · have below : position < s.rows.length := (List.getElem?_eq_some_iff.mp now).1
      refine Or.inr ⟨row, later, ?_, again, renewed⟩
      rcases left.rows_of_silent with ⟨more, whole⟩
      rw [← whole, List.getElem?_append_left below]
      exact now

theorem obtainMetric (fields : Fields) (ahead : Leads models (s.obtainMetric fields).2 r) :
    (t.obtainMetric fields).1 = (s.obtainMetric fields).1 ∧
      Echoes r (s.obtainMetric fields).2 (t.obtainMetric fields).2 := by
  have same : t.identityFor fields = s.identityFor fields := by
    unfold identityFor
    rw [echoes.options, echoes.aliases]
  have known : t.network.metric? (t.identityFor fields) = some (s.obtainMetric fields).1 := by
    rw [echoes.network, same]
    exact ahead.metric? (s.metric?_obtainMetric fields)
  rcases t.obtainMetric_known known with ⟨notice, found⟩
  have left : Deeds [Fixture.Model.metric] Silent s (s.obtainMetric fields).2 :=
    s.deeds_obtainMetric fields
  rw [found]
  exact ⟨rfl, echoes.silent left (.note t notice)⟩

/-- A trigger is put where it stands, with another token. -/
theorem putStarter (name description : String) (more : Fields) (inputs : List String)
    (output token other : String)
    (ahead : Leads models
      (s.putTrigger (Trigger.starter name description more inputs output token)).2 r) :
    Echoes r (s.putTrigger (Trigger.starter name description more inputs output token)).2
      (t.putTrigger (Trigger.starter name description more inputs output other)).2 := by
  let wanted := Trigger.starter name description more inputs output token
  let again := Trigger.starter name description more inputs output other
  have like : again.isComplete = wanted.isComplete := rfl
  have left := moves_putTrigger s wanted
  cases complete : wanted.isComplete with
  | false =>
    rw [s.putTrigger_incomplete complete, t.putTrigger_incomplete (like.trans complete)]
    have noted : Deeds [] Silent s (s.note (.triggerSkipped wanted.description
        wanted.outputMetric wanted.inputMetrics.length)) := (Still.note s _).deeds
    exact echoes.silent noted (.note t _)
  | true =>
    rcases rows_putTrigger echoes.indexed complete with ⟨position, key, _, known, stands, others⟩
    have began : (s.putTrigger wanted).2.Indexed := echoes.indexed.moves left
    rcases ahead with ⟨f, after, rows, network⟩
    have position' : t.network.triggerPosition? again.outputMetric = some position := by
      rw [echoes.network, network]
      exact after.moves.triggerPosition? began known
    -- the row that the second call finds there
    have held : ∃ found, t.rows[position]? = some found ∧
        found.model = Fixture.Model.trigger ∧ found.key = key := by
      rcases after.moves.rowAt stands with ⟨later, there, model, own⟩
      rcases echoes.rows position with same | ⟨row, found, now, here, renewed⟩
      · rw [rows, there] at same
        exact ⟨later, same, model, own⟩
      · refine ⟨found, here, ?_⟩
        rcases left.rowAt now with ⟨still, place, sameModel, sameKey⟩
        cases Option.some.inj (place.symm.trans stands)
        exact ⟨renewed.model.trans sameModel.symm, renewed.key.trans sameKey.symm⟩
    rcases held with ⟨found, here, model, own⟩
    rw [t.putTrigger_known (like.trans complete) position' here]
    refine ⟨began, echoes.network, ?_, ?_, fun place => ?_⟩
    · exact echoes.options.trans left.settings.1.symm
    · exact echoes.aliases.trans left.settings.2.1.symm
    · rw [rows_replaceFields, rows_note]
      by_cases same : place = position
      · subst same
        refine Or.inr ⟨_, { found with fields := again.fields found.key.toJson }, stands, ?_,
          Or.inr ⟨rfl, ?_⟩⟩
        · rw [List.getElem?_modify_eq, here]
          rfl
        · obtain ⟨_, _, _⟩ := found
          cases model
          cases own
          rfl
      · rw [List.getElem?_modify_ne _ _ (Ne.symm same)]
        rcases echoes.rows place with atEnd | ⟨row, later, now, there, renewed⟩
        · exact Or.inl atEnd
        · exact Or.inr ⟨row, later, (others place same).trans now, there, renewed⟩

theorem starterTrigger (name seed description : String) (more : Fields) (inputs : List String)
    (output : String)
    (ahead : Leads models (s.starterTrigger name seed description more inputs output) r) :
    Echoes r (s.starterTrigger name seed description more inputs output)
      (t.starterTrigger name seed description more inputs output) := by
  have drawn : Deeds [] Silent s (s.drawToken seed).2 := (Still.drawToken s seed).deeds
  exact (echoes.silent drawn (.drawToken t seed)).putStarter _ _ _ _ _ _ _ ahead

/-! ## What targets start with -/

theorem metricsOfTarget (placed : Placement) (ahead : Leads models (s.metricsOfTarget placed) r)
    (metric : Fixture.Model.metric ∈ models) :
    Echoes r (s.metricsOfTarget placed) (t.metricsOfTarget placed) := by
  have within : ∀ {u : Session} (fields : Fields),
      Deeds models Silent u (u.obtainMetric fields).2 := by
    intro u fields
    apply (deeds_obtainMetric u fields).widen
    simpa using metric
  unfold Session.metricsOfTarget at ahead ⊢
  dsimp only at ahead ⊢
  rw [echoes.options]
  by_cases zone : placed.kind = Domain.zoneKind
  · simp only [if_pos zone] at ahead ⊢
    have first := (echoes.obtainMetric _ (ahead.before (within _))).2
    exact (first.obtainMetric _ ahead).2
  · simp only [if_neg zone] at ahead ⊢
    by_cases meter : placed.kind = Domain.flowMeterKind
    · simp only [if_pos meter] at ahead ⊢
      have volumeAhead := ahead.before (deeds_starterTrigger_any _ _ _ _ _ _ _)
      rcases echoes.obtainMetric _ (volumeAhead.before (within _)) with ⟨reading, first⟩
      rcases first.obtainMetric _ volumeAhead with ⟨volume, second⟩
      rw [reading, volume]
      exact second.starterTrigger _ _ _ _ _ _ ahead
    · simp only [if_neg meter] at ahead ⊢
      by_cases sensor : placed.kind = Domain.pressureSensorKind
      · simp only [if_pos sensor] at ahead ⊢
        exact (echoes.obtainMetric _ ahead).2
      · simp only [if_neg sensor]
        exact echoes

/-- Once all metrics are there, both calls know the same ones. -/
theorem starterMetric? (ahead : Leads [] s r) : t.starterMetric? = s.starterMetric? := by
  apply starterMetric?_congr
  rw [echoes.network]
  exact ahead.metrics List.not_mem_nil

theorem demandTrigger (zone label : String) (meters : List String)
    (ahead : Leads [] (s.demandTrigger zone label meters) r) :
    Echoes r (s.demandTrigger zone label meters) (t.demandTrigger zone label meters) := by
  have asked : Deeds [] Any s (s.demandTrigger zone label meters) := by
    unfold Session.demandTrigger
    dsimp only
    split
    · exact deeds_starterTrigger_any s _ _ _ _ _ _
    · exact .refl
  have known := echoes.starterMetric? (ahead.before asked)
  unfold Session.demandTrigger at ahead ⊢
  dsimp only at ahead ⊢
  rw [known]
  split
  · next found listed =>
    simp only [found, listed] at ahead ⊢
    exact echoes.starterTrigger _ _ _ _ _ _ ahead
  · exact echoes

theorem pressureTrigger (zone label : String)
    (ahead : Leads [] (s.pressureTrigger zone label) r) :
    Echoes r (s.pressureTrigger zone label) (t.pressureTrigger zone label) := by
  have asked : Deeds [] Any s (s.pressureTrigger zone label) :=
    (deeds_pressureTrigger s zone label : Deeds [] (Asks fun _ => False) _ _).any
  have start := ahead.before asked
  have known := echoes.starterMetric? start
  have metrics : t.network.metrics = s.network.metrics := by
    rw [echoes.network]
    exact start.metrics List.not_mem_nil
  rcases start.targets List.not_mem_nil List.not_mem_nil with ⟨zones, points, _⟩
  rw [← echoes.network] at zones points
  have found : t.network.zone? zone = s.network.zone? zone := by
    unfold Network.zone?
    rw [zones]
  have read : ∀ around, t.network.sensorMetrics "pressure" none around =
      s.network.sensorMetrics "pressure" none around := by
    intro around
    unfold Network.sensorMetrics Network.point?
    rw [metrics, points]
  unfold Session.pressureTrigger at ahead ⊢
  rw [found]
  cases there : s.network.zone? zone with
  | none => exact echoes
  | some around =>
    simp only [there] at ahead ⊢
    rw [known, read]
    split
    · next known listed =>
      simp only [known, listed] at ahead ⊢
      exact echoes.starterTrigger _ _ _ _ _ _ ahead
    · exact echoes

theorem triggersOfZone (all : List Placement) (placed : Placement)
    (ahead : Leads [] (s.triggersOfZone all placed) r) :
    Echoes r (s.triggersOfZone all placed) (t.triggersOfZone all placed) := by
  have asked : Deeds [] Any s (s.triggersOfZone all placed) :=
    (deeds_triggersOfZone s all placed : Deeds [] (Asks fun _ => False) _ _).any
  rcases (ahead.before asked).targets List.not_mem_nil List.not_mem_nil with ⟨zones, points, _⟩
  rw [← echoes.network] at zones points
  unfold Session.triggersOfZone at ahead ⊢
  by_cases zone : placed.kind = Domain.zoneKind
  · rw [if_pos zone] at ahead
    rw [if_pos zone, if_pos zone, metersFeeding_congr zones points]
    have pressure : Deeds [] Any (s.demandTrigger placed.id placed.item.label
        (Link.metersFeeding s.network all placed.id)) _ :=
      (deeds_pressureTrigger _ placed.id placed.item.label :
        Deeds [] (Asks fun _ => False) _ _).any
    exact (echoes.demandTrigger _ _ _ (ahead.before pressure)).pressureTrigger _ _ ahead
  · rw [if_neg zone, if_neg zone]
    exact echoes

theorem starters (all : List Placement) (ahead : Leads [] (s.starters all) r)  :
    Echoes r (s.starters all) (t.starters all) := by
  have zonal : ∀ (u : Session) (p : Placement), p ∈ all ->
      Deeds [] Any u (u.triggersOfZone all p) := fun u p _ =>
    (deeds_triggersOfZone u all p : Deeds [] (Asks fun _ => False) _ _).any
  have triggers : Deeds [] Any (all.foldl Session.metricsOfTarget s) (s.starters all) :=
    Deeds.foldl all fun u p member _ => zonal u p member
  have middle : Leads [Fixture.Model.metric] (all.foldl Session.metricsOfTarget s) r :=
    (ahead.before triggers).mono (List.nil_subset _)
  have first : Echoes r (all.foldl Session.metricsOfTarget s)
      (all.foldl Session.metricsOfTarget t) := by
    refine Leads.foldl (Echoes r) all (fun u p _ => ?_) (fun u v p _ known both => ?_) middle echoes
    · exact (deeds_metricsOfTarget u p : Deeds _ (Asks fun _ => False) _ _).any
    · exact both.metricsOfTarget p known List.mem_cons_self
  exact Leads.foldl (Echoes r) all zonal
    (fun u v p _ known both => both.triggersOfZone all p known) ahead first

end

end Echoes

/-! ## A whole domain -/

/-- What a call leaves is what the same call finds. -/
theorem leads_addDomain (s : Session) (items : List Domain.Item) :
    Leads [] ((s.linked items).equipped (s.placeItems [] items).1) (s.addDomain items) := by
  rcases addDomain_eq s items with ⟨notice, whole⟩
  rw [whole]
  exact ⟨_, .refl, rfl, rfl⟩

theorem echoes_addDomain (booked : s.Booked) (items : List Domain.Item)
    (fresh : FreshSince s (s.addDomain items)) :
    Echoes (s.addDomain items) ((s.linked items).equipped (s.placeItems [] items).1)
      (((s.addDomain items).linked items).equipped
        ((s.addDomain items).placeItems [] items).1) := by
  let r := s.addDomain items
  let placed := (s.placeItems [] items).1
  have linking : Moves s (s.linked items) :=
    (moves_placeItems s [] items).trans (moves_writeLinks _ _)
  have equipping := deeds_equipped (s.linked items) placed
  have ahead : Leads [] ((s.linked items).equipped placed) r := s.leads_addDomain items
  have aheadLinked : Leads [Fixture.Model.metric] (s.linked items) r :=
    (ahead.mono (List.nil_subset _)).before equipping
  have noting : Moves ((s.linked items).equipped placed) r := by
    rcases addDomain_eq s items with ⟨notice, whole⟩
    have same : r = ((s.linked items).equipped placed).note notice := whole
    rw [same]
    exact (Quiet.note _ notice).moves
  have onward : Moves (s.linked items) r := equipping.moves.trans noting
  rcases linked_again booked items aheadLinked (by decide) (by decide)
    (fresh.within .refl onward) with ⟨same, still⟩
  have began : Echoes r (s.linked items) (r.linked items) := by
    refine ⟨booked.indexed.moves linking, still.network, ?_, ?_, fun position => Or.inl ?_⟩
    · exact still.options.trans onward.settings.1
    · exact still.aliases.trans onward.settings.2.1
    · rw [still.rows]
  rw [same]
  unfold equipped at ahead ⊢
  rw [began.options]
  by_cases on : (s.linked items).options.starterMetrics = true
  · rw [if_pos on] at ahead
    rw [if_pos on, if_pos on]
    exact began.starters placed ahead
  · rw [if_neg on, if_neg on]
    exact began

/-- Compiling a domain a second time leaves the network as it is and adds no
row.  Every row stays as it is, but for the tokens of triggers. -/
theorem addDomain_twice {options : Options} {supply : Nat} {existing : List Row}
    {calls : List Call} {items : List Domain.Item} {s t : Session}
    (began : (resume options supply existing).run calls = s) (once : s.addDomain items = t)
    (nameable : ∀ row ∈ t.rows.drop s.rows.length, row.Nameable t.registry) :
    (t.addDomain items).network = t.network ∧
      Forall₂ Renewed t.rows (t.addDomain items).rows := by
  subst once
  have booked : s.Booked :=
    began ▸ (booked_resume options supply existing).moves (moves_run _ calls)
  have fresh : FreshSince s (s.addDomain items) :=
    freshSince_of_nameable (moves_addDomain s items) booked.indexed nameable
  have echoes := echoes_addDomain booked items fresh
  rcases addDomain_eq s items with ⟨notice, first⟩
  rcases addDomain_eq (s.addDomain items) items with ⟨noticeToo, second⟩
  rw [second]
  refine ⟨echoes.network, forall₂_of_getElem? (fun row => Or.inl rfl) fun position => ?_⟩
  rcases echoes.rows position with same | ⟨row, later, now, again, renewed⟩
  · exact Or.inl same
  · refine Or.inr ⟨row, later, ?_, again, renewed⟩
    rw [first]
    exact now

/-- A flow meter that was placed before. -/
def meterRows : List Row :=
  [⟨Fixture.Model.point, .text "p-1",
    [("id", .text "p-1"), ("label", .text "North inlet"), ("category", .text "flow_meter")]⟩]

def loneMeter : Domain.Item :=
  ⟨"flow_meter", "North inlet", .null, none, none, none, none, none, none, none, none, none⟩

/-- The first call adds two metrics and a trigger, the second one nothing. -/
theorem addDomain_twice_meterRows :
    let t := (resume .default 0 meterRows).addDomain [loneMeter]
    t.rows.length = 4 ∧
      (∀ row ∈ t.rows.drop meterRows.length, row.Nameable t.registry) ∧
      (t.addDomain [loneMeter]).network = t.network ∧
      Forall₂ Renewed t.rows (t.addDomain [loneMeter]).rows := by
  intro t
  have length : t.rows.length = 4 := by
    decide +kernel
  have policy : t.registry.policy = .deterministic := by
    decide +kernel
  have nameable : ∀ row ∈ t.rows.drop meterRows.length, row.Nameable t.registry :=
    Row.nameable_of_all policy (by decide : 1 < Registry.maxAttempts) (by decide +kernel)
  have began : (resume .default 0 meterRows).run [] = resume .default 0 meterRows := rfl
  exact ⟨length, nameable, addDomain_twice began rfl nameable⟩

end Session
end Sensornet
