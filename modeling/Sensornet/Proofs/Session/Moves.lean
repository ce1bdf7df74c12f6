import Mathlib.Logic.Relation
import Sensornet.Proofs.Resolution.Progress
import Sensornet.Proofs.Session.Enter

namespace Sensornet
namespace Session

/-!
# The moves of a session

All that a compile does to a session is a sequence of moves of three sorts: a
row is entered under a key just issued, the fields of a trigger row are
replaced where it stands, or nothing happens that rows depend on.  A move
records what was known when it was made: a new metric had an identity that no
metric had, a new trigger an output that no standing row writes, and a new
link was carried by no row.  A text key was made for what its row is.

An invariant of rows, network and keys need only be checked for the three
sorts of moves; every stage of a compile is then covered.
-/

open Fixture (Key Row Registry)
open Json (Value Fields)
open Template (Item)
open Relation (ReflTransGen)

/-- The rows that may be entered, with what the session knows before. -/
inductive Enters (s : Session) : Row -> Prop where
  | zone (item : Domain.Item) (id : String) : Enters s (item.zoneRow id)
  | point (item : Domain.Item) {kind : String} (id : String) (sensor : kind ≠ Domain.zoneKind) :
      Enters s (item.pointRow kind id)
  | metric {fields : Fields} (id : String) (unknown : s.network.metric?
        (.ofFields (Metric.complete s.aliases s.options.storageTable fields)) = none) :
      Enters s (Metric.row (Metric.complete s.aliases s.options.storageTable fields) id)
  | trigger {wanted : Trigger} (id : String) (complete : wanted.isComplete = true)
      (unknown : ∀ position, s.network.triggerPosition? wanted.outputMetric = some position ->
        s.rows[position]? = none) :
      Enters s (wanted.row id)
  | link {link : Link} (id : Int) (unwritten : link ∉ s.rows.filterMap Link.ofRow?) :
      Enters s (link.row id)
  | shown {kind : Template.Kind} {model : String} (key : Int) (fields : Fields)
      (shown : kind.isShown = true) (named : kind.model? = some model) :
      Enters s (Widget.row model key fields)

/-- Nothing happens that rows depend on: notices, bindings and tokens may
differ. -/
structure Quiet (s t : Session) : Prop where
  options : t.options = s.options
  aliases : t.aliases = s.aliases
  rows : t.rows = s.rows
  network : t.network = s.network
  keys : s.registry.SameKeys t.registry

/-- One move. -/
inductive Move : Session -> Session -> Prop where
  | quiet {s t : Session} (same : s.Quiet t) : Move s t
  | enter {s : Session} {registry : Registry} {row : Row}
      (issued : s.registry.Issues row.key registry) (new : s.Enters row)
      (named : row.IsNamed s.registry registry) : Move s (s.enter registry row)
  | rewrite {s : Session} {wanted : Trigger} {position : Nat} {row : Row}
      (complete : wanted.isComplete = true)
      (known : s.network.triggerPosition? wanted.outputMetric = some position)
      (stands : s.rows[position]? = some row) :
      Move s (s.replaceFields position (wanted.fields row.key.toJson))

/-- Any number of moves. -/
abbrev Moves : Session -> Session -> Prop :=
  ReflTransGen Move

variable (s : Session)

/-! ## Quiet steps -/

namespace Quiet

theorem refl : Quiet s s := ⟨rfl, rfl, rfl, rfl, .refl s.registry⟩

variable {s} in
theorem trans {t u : Session} (before : Quiet s t) (after : Quiet t u) : Quiet s u :=
  ⟨after.options.trans before.options, after.aliases.trans before.aliases,
    after.rows.trans before.rows, after.network.trans before.network,
    before.keys.trans after.keys⟩

variable {s} in
theorem moves {t : Session} (same : Quiet s t) : Moves s t :=
  .single (.quiet same)

theorem note (notice : Notice) : Quiet s (s.note notice) :=
  ⟨rfl, rfl, rfl, rfl, .refl s.registry⟩

theorem noteAll (notices : List Notice) : Quiet s (s.noteAll notices) :=
  ⟨rfl, rfl, rfl, rfl, .refl s.registry⟩

theorem bind (id : Option String) (context : Context.Name) (key : Key) :
    Quiet s (s.bind id context key) := by
  cases id <;> exact ⟨rfl, rfl, rfl, rfl, .refl s.registry⟩

theorem drawToken (seed : String) : Quiet s (s.drawToken seed).2 :=
  ⟨rfl, rfl, rfl, rfl, .token s.registry seed⟩

theorem resolve (context : Context) (value : Value) : Quiet s (s.resolve context value).2 :=
  ⟨rfl, rfl, rfl, rfl, (s.scene context).leavesKeys_resolveUnder .plain value
    ⟨s.registry, s.notices⟩⟩

theorem completeCalculator (seed : String) (calculator : Value) :
    Quiet s (s.completeCalculator seed calculator).2 := by
  unfold Session.completeCalculator
  split
  · exact drawToken s seed
  · exact refl s

theorem completeCalculators (seed : String) (calculators : List Value) :
    Quiet s (s.completeCalculators seed calculators).2 := by
  induction calculators generalizing s with
  | nil => exact refl s
  | cons calculator rest ih => exact (completeCalculator s seed calculator).trans (ih _)

theorem noteZone (item : Domain.Item) : Quiet s (s.noteZone item) := by
  unfold Session.noteZone
  split
  · exact refl s
  · exact note s _

theorem notePoint (item : Domain.Item) (kind : String) : Quiet s (s.notePoint item kind) := by
  unfold Session.notePoint
  split <;> split
  · exact refl s
  · exact note s _
  · exact note s _
  · exact (note s _).trans (note _ _)

theorem noteShared (placed : List Placement) (item : Domain.Item) :
    Quiet s (s.noteShared placed item) := by
  unfold Session.noteShared
  split
  · exact note s _
  · exact refl s

end Quiet

/-! ## Exchanging a row -/

/-- Exchanging a row for one that is read alike changes nothing that is read. -/
theorem filterMap_modify {A : Type} {read : Row -> Option A} {exchange : Row -> Row}
    {rows : List Row} {position : Nat}
    (alike : ∀ row, rows[position]? = some row -> read (exchange row) = read row) :
    (rows.modify position exchange).filterMap read = rows.filterMap read := by
  induction rows generalizing position with
  | nil => rw [List.modify_nil]
  | cons row rest ih =>
    cases position with
    | zero => rw [List.modify_zero_cons, List.filterMap_cons, List.filterMap_cons, alike row rfl]
    | succ position =>
      rw [List.modify_succ_cons, List.filterMap_cons, List.filterMap_cons, ih alike]

/-- Replacing fields leaves all keys where they are. -/
theorem map_key_replaceFields (position : Nat) (fields : Fields) :
    (s.replaceFields position fields).rows.map Row.key = s.rows.map Row.key := by
  unfold replaceFields
  rw [← List.filterMap_eq_map]
  exact filterMap_modify fun row _ => rfl

/-! ## Runs of moves -/

/-- A fold is a run of moves when each of its steps is one. -/
theorem Moves.foldl {A : Type} {step : Session -> A -> Session} (items : List A)
    (each : ∀ (t : Session) (a : A), a ∈ items -> Moves t (step t a)) :
    Moves s (items.foldl step s) := by
  induction items generalizing s with
  | nil => exact .refl
  | cons item rest ih =>
    have first := each s item List.mem_cons_self
    have others := ih (step s item) fun t a member => each t a (List.mem_cons_of_mem item member)
    exact first.trans others

end Session
end Sensornet
