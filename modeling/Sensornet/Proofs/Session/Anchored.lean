import Sensornet.Proofs.Decimal.Numerals
import Sensornet.Proofs.Session.Provenance
import Sensornet.Proofs.Session.Showing

namespace Sensornet

/-!
# Bindings of the network as a whole

What is made for the network as a whole is shown to users.  So the keys that
are bound there are integers, each that of a row of a card, chart, map or page.
No blueprint is bound under the empty text, which is nobody's id.
-/

open Fixture (Key Row)
open Json (Value)
open Template (Item Kind)

/-! ## Ids are filled -/

theorem Template.Item.ne_empty_of_abstractionId? {item : Item} {id : String}
    (own : item.abstractionId? = some id) : id ≠ "" := by
  unfold abstractionId? at own
  split at own
  · next text _ =>
    split at own
    · cases own
    · next filled =>
      cases own
      rintro rfl
      exact filled rfl
  · cases own
    exact Json.Number.text_ne_empty _
  · cases own

namespace Session

variable {s t : Session} {item : Item}

/-- Blueprints are bound under their ids, and those of the network as a whole
to rows that are shown to users. -/
structure Anchored (s : Session) : Prop where
  named : ∀ {id : String} {context : Context.Name} {key : Key},
    s.bindings.get? id context = some key -> id ≠ ""
  shown : ∀ {id : String} {key : Key}, s.bindings.get? id .global = some key ->
    (∃ n, key = .integer n) ∧ ∃ row ∈ s.rows, row.key = key ∧ row.model ∈ shownModels

namespace Anchored

theorem resume (options : Options) (supply : Nat) (existing : List Row) :
    (resume options supply existing).Anchored := by
  have none' : (Session.resume options supply existing).bindings = .empty :=
    bindings_resume options supply existing
  constructor
  · intro id context key found
    rw [none'] at found
    cases found
  · intro id key found
    rw [none'] at found
    cases found

theorem later (anchored : s.Anchored) (run : Moves s t) (same : t.bindings = s.bindings) :
    t.Anchored := by
  constructor
  · intro id context key found
    rw [same] at found
    exact anchored.named found
  · intro id key found
    rw [same] at found
    rcases anchored.shown found with ⟨integer, row, member, own, model⟩
    rcases run.row member with ⟨row', member', model', key'⟩
    exact ⟨integer, row', member', key'.trans own, model' ▸ model⟩

/-- A binding made for a zone or a point. -/
theorem bind (anchored : s.Anchored) (item : Item) {context : Context.Name} {key : Key}
    (sound : context = .global -> (∃ n, key = .integer n) ∧
      ∃ row ∈ s.rows, row.key = key ∧ row.model ∈ shownModels) :
    (s.bind item.abstractionId? context key).Anchored := by
  cases own : item.abstractionId? with
  | none => exact anchored
  | some name =>
    constructor
    · intro id elsewhere other found
      by_cases same : (id, elsewhere) = (name, context)
      · cases same
        exact Item.ne_empty_of_abstractionId? own
      · exact anchored.named ((Bindings.get?_bind_of_ne same).symm.trans found)
    · intro id other found
      rcases get?_bind found with old | ⟨rfl, rfl⟩
      · exact anchored.shown old
      · exact sound rfl

/-! ## Stages -/

theorem makeMetric (anchored : s.Anchored) (item : Item) {context : Context}
    (zonal : context.name ≠ .global) : (Session.makeMetric item s context).Anchored := by
  have resolved := anchored.later (Quiet.resolve s context (.object item.fields)).moves rfl
  have obtained := resolved.later
    (moves_obtainMetric _ (s.resolve context (.object item.fields)).1.fields)
    (bindings_obtainMetric _ _)
  exact obtained.bind item fun global => absurd global zonal

theorem makeMetrics (anchored : s.Anchored) (metric : item.kind = .metric) :
    (s.makeMetrics item).Anchored := by
  have hidden : item.kind.isShown = false := metric ▸ rfl
  have made : ∀ t : Session, t.Anchored ->
      ((contextsOf s.network s.aliases item).foldl (Session.makeMetric item) t).Anchored :=
    fun t before => List.foldlRecOn _ _ before fun u now context member =>
      now.makeMetric item (name_ne_global hidden member)
  unfold Session.makeMetrics
  dsimp only
  split
  · exact made _ (anchored.later (Quiet.note s _).moves rfl)
  · exact made s anchored

theorem makeTrigger (anchored : s.Anchored) (item : Item) {context : Context}
    (zonal : context.name ≠ .global) : (Session.makeTrigger item s context).Anchored := by
  rcases s.makeTrigger_eq item context with ⟨t, wanted, still, _, _, made⟩
  have put := (anchored.later still.toQuiet.moves still.bindings).later (moves_putTrigger t wanted)
    (bindings_putTrigger t wanted)
  rw [made]
  rcases bindTrigger_cases item context (t.putTrigger wanted) with ⟨key, _, bound⟩ | ⟨_, noted⟩
  · rw [bound]
    exact put.bind item fun global => absurd global zonal
  · rw [noted]
    exact put.later (Quiet.note _ _).moves rfl

theorem makeTriggers (anchored : s.Anchored) (trigger : item.kind = .trigger) :
    (s.makeTriggers item).Anchored :=
  List.foldlRecOn _ _ anchored fun _ now _ member =>
    now.makeTrigger item (name_ne_global (trigger ▸ rfl) member)

theorem makeShown (anchored : s.Anchored) (shown : item.kind.isShown = true) :
    (s.makeShown item).Anchored := by
  rcases shows_makeShown s shown with ⟨row, shows⟩
  rcases shows.depicts with ⟨model, key, fields, named, _, made⟩
  -- the row is there before it is bound
  let written : Session := { s.makeShown item with bindings := s.bindings }
  have writing : Moves s written :=
    (moves_makeShown s shown).trans (Quiet.moves ⟨rfl, rfl, rfl, rfl, .refl _⟩)
  have there : row ∈ written.rows := by
    have rows : written.rows = s.rows ++ [row] := shows.rows
    rw [rows]
    exact List.mem_append_right _ (List.mem_singleton_self row)
  have bound : (written.bind item.abstractionId? .global row.key).Anchored :=
    (anchored.later writing rfl).bind item
      fun _ => ⟨⟨key, made ▸ rfl⟩, row, there, rfl, made ▸ (mem_shownModels shown named).1⟩
  have same : (s.makeShown item).bindings =
      (written.bind item.abstractionId? .global row.key).bindings := by
    rw [shows.bindings]
    unfold Session.bind
    cases item.abstractionId? <;> rfl
  refine bound.later (Quiet.moves ?_) same
  cases item.abstractionId? <;> exact ⟨rfl, rfl, rfl, rfl, .refl _⟩

/-! ## Calls -/

theorem makeKind (anchored : s.Anchored) {make : Session -> Item -> Session} (kept : List Item)
    (kind : Kind)
    (each : ∀ (t : Session) (item : Item), t.Anchored -> item.kind = kind -> (make t item).Anchored) :
    (Session.makeKind make kept s kind).Anchored :=
  List.foldlRecOn _ _ anchored fun t now item member =>
    each t item now (of_decide_eq_true (List.mem_filter.mp member).2)

theorem prepared (anchored : s.Anchored) (template : List Item) (sections : List String) :
    (s.prepared template sections).Anchored := by
  have noted := anchored.later
    (Quiet.noteAll s (Template.sliceNotices template sections s.aliases)).moves rfl
  unfold Session.prepared
  dsimp only
  split
  · exact noted
  · refine Anchored.makeKind (noted.makeKind _ .metric ?_) _ .trigger ?_
    · exact fun t item now metric => now.makeMetrics metric
    · exact fun t item now trigger => now.makeTriggers trigger

theorem afterKinds (anchored : s.Anchored) (kept : List Item) {kinds : List Kind}
    (shown : ∀ kind ∈ kinds, kind.isShown = true) : (s.afterKinds kept kinds).Anchored :=
  List.foldlRecOn _ _ anchored fun _ now kind member =>
    now.makeKind kept kind fun _ _ before same => before.makeShown (same ▸ shown kind member)

/-- So it is whenever something is made that is shown. -/
theorem atItem (anchored : s.Anchored) (template : List Item) (sections : List String) {kind : Kind}
    (shown : kind.isShown = true) (i : Nat) : (s.atItem template sections kind i).Anchored := by
  have before : (s.atKind template sections kind).Anchored :=
    (anchored.prepared template sections).afterKinds _ fun _ => shown_before
  exact List.foldlRecOn _ _ before fun _ now _ member =>
    now.makeShown (shown_of_mem_ofKind shown (List.mem_of_mem_take member))

theorem addTemplate (anchored : s.Anchored) (template : List Item) (sections : List String) :
    (s.addTemplate template sections).Anchored := by
  rcases s.addTemplate_eq template sections with ⟨notice, made⟩
  rw [made]
  exact ((anchored.prepared template sections).afterKinds _ fun _ => mem_shownKinds.mp).later
    (Quiet.note _ notice).moves rfl

theorem run (anchored : s.Anchored) (calls : List Call) : (s.run calls).Anchored :=
  List.foldlRecOn _ _ anchored fun t now call _ => by
    cases call with
    | domain items => exact now.later (moves_addDomain t items) (bindings_addDomain t items)
    | template items sections => exact now.addTemplate items sections

end Anchored
end Session
end Sensornet
