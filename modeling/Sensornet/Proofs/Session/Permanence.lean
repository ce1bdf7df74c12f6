import Mathlib.Data.List.Nodup
import Sensornet.Proofs.Session.Anchored

namespace Sensornet

/-!
# What is bound is there, and for good

A resolved text holds the key of a row, and nobody looks after it once it is
written.  That it is right, and stays right, rests on three facts.  A blueprint
is bound once in a context.  What it is bound to is the key of a row: a text,
of a metric or of a trigger, for a zone or a point, and an integer, of
something that is shown, for the network as a whole.  And neither bindings nor
rows are ever taken back.

Only a session that began with nothing has texts for the keys of all its
triggers: rows that were there before may have come with any keys.
-/

open Fixture (Key Row)

/-! ## Bindings one by one -/

namespace Bindings

variable {b : Bindings} {id : String} {context : Context.Name} {key : Key}

/-- No blueprint is bound twice in a context. -/
def Single (b : Bindings) : Prop :=
  (b.entries.map Prod.fst).Nodup

theorem prefix_bind (b : Bindings) (id : String) (context : Context.Name) (key : Key) :
    b.entries <+: (b.bind id context key).entries := by
  unfold bind
  split
  · exact List.prefix_append _ _
  · exact List.prefix_refl _

theorem Single.bind (single : b.Single) (id : String) (context : Context.Name) (key : Key) :
    (b.bind id context key).Single := by
  unfold Bindings.bind
  split
  · next free =>
    have unbound : (id, context) ∉ b.entries.map Prod.fst :=
      Entries.get?_eq_none_iff.mp (Option.isNone_iff_eq_none.mp free)
    unfold Single
    rw [List.map_append, List.nodup_append']
    refine ⟨single, List.nodup_singleton _, ?_⟩
    exact List.disjoint_singleton.mpr unbound
  · exact single

/-- So whatever is bound is found. -/
theorem Single.mem_iff (single : b.Single) :
    ((id, context), key) ∈ b.entries ↔ b.get? id context = some key := by
  refine ⟨fun member => ?_, Entries.mem_of_get?⟩
  cases found : b.get? id context with
  | none =>
    exact absurd (List.mem_map_of_mem member) (Entries.get?_eq_none_iff.mp found)
  | some other =>
    have same := List.inj_on_of_nodup_map single (Entries.mem_of_get? found) member rfl
    exact congrArg (fun entry => some entry.2) same

end Bindings

namespace Session

variable {models : List String} {asks : Session -> Trigger -> Prop} {s t : Session}

/-- What was bound stays in front of what is bound later. -/
theorem Deeds.bindings_grow (run : Deeds models asks s t) :
    s.bindings.entries <+: t.bindings.entries :=
  run.bindings_induction (motive := fun b => s.bindings.entries <+: b.entries)
    (List.prefix_refl _) fun b id context key before =>
      before.trans (b.prefix_bind id context key)

theorem Deeds.single (run : Deeds models asks s t) (single : s.bindings.Single) :
    t.bindings.Single :=
  run.bindings_induction single fun _ id context key before => before.bind id context key

/-! ## Keys that are texts -/

/-- The keys of metrics and triggers are texts. -/
def Lettered (s : Session) : Prop :=
  ∀ row ∈ s.rows, row.model = Fixture.Model.metric ∨ row.model = Fixture.Model.trigger ->
    ∃ id, row.key = .text id

theorem Enters.lettered {row : Row} (new : s.Enters row)
    (sort : row.model = Fixture.Model.metric ∨ row.model = Fixture.Model.trigger) :
    ∃ id, row.key = .text id := by
  rcases sort with metric | trigger
  · rcases new.of_metric metric with ⟨_, id, rfl, _⟩
    exact ⟨id, rfl⟩
  · rcases new.of_trigger trigger with ⟨_, id, rfl, _⟩
    exact ⟨id, rfl⟩

theorem Lettered.moves (lettered : s.Lettered) (run : Moves s t) : t.Lettered := by
  induction run with
  | refl => exact lettered
  | @tail u v _ move ih =>
    cases move with
    | quiet same =>
      unfold Lettered
      rw [same.rows]
      exact ih
    | enter issued new named =>
      intro row member sort
      rcases List.mem_append.mp member with old | last
      · exact ih row old sort
      · cases List.mem_singleton.mp last
        exact new.lettered sort
    | @rewrite wanted position found complete known stands =>
      -- model and key of the rewritten row are those it had
      intro row member sort
      have head : row.head ∈ u.rows.map Row.head :=
        map_head_replaceFields u position _ ▸ List.mem_map_of_mem member
      rcases List.mem_map.mp head with ⟨old, among, same⟩
      have key : old.key = row.key := congrArg Prod.snd same
      have model : old.model = row.model := congrArg Prod.fst same
      rw [← key]
      rw [← model] at sort
      exact ih old among sort

/-! ## Whole sessions -/

/-- In a session that began with nothing every blueprint that is bound is bound
once in a context, to the text that is the key of a metric or trigger where the
context is a zone or a point, and to the integer that is the key of something
shown where it is the network as a whole.  All this stays bound as it is,
whatever is called later. -/
theorem bindings_run (options : Options) (supply : Nat) (calls : List Call) :
    let s := (start options supply).run calls
    (∀ id context key,
      ((id, context), key) ∈ s.bindings.entries ↔ s.bindings.get? id context = some key) ∧
    (∀ id context key, s.bindings.get? id context = some key -> context ≠ .global ->
      (∃ text, key = .text text) ∧ ∃ row ∈ s.rows, row.key = key ∧
        (row.model = Fixture.Model.metric ∨ row.model = Fixture.Model.trigger)) ∧
    (∀ id key, s.bindings.get? id .global = some key ->
      (∃ n, key = .integer n) ∧ ∃ row ∈ s.rows, row.key = key ∧ row.model ∈ shownModels) ∧
    ∀ later, s.bindings.entries <+: (s.run later).bindings.entries ∧
      ∀ id context key, s.bindings.get? id context = some key ->
        (s.run later).bindings.get? id context = some key := by
  intro s
  have run := (start options supply).deeds_run calls
  have unbound : (start options supply).Bound := fun _ _ _ found => nomatch found
  have bound : s.Bound := unbound.deeds rfl (catalogued_start options supply) run
  have anchored : s.Anchored := (Anchored.resume options supply []).run calls
  have lettered : s.Lettered :=
    Lettered.moves (fun _ member => absurd member List.not_mem_nil) run.moves
  refine ⟨fun id context key => (run.single List.nodup_nil).mem_iff, ?_,
    fun id key => anchored.shown, fun later => ⟨(s.deeds_run later).bindings_grow,
      fun id context key => (s.deeds_run later).bindings⟩⟩
  intro id context key found zonal
  rcases bound id context key found zonal with ⟨row, member, own, sort⟩
  exact ⟨own ▸ lettered row member sort, row, member, own, sort⟩

end Session
end Sensornet
