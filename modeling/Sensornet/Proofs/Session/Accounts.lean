import Sensornet.Proofs.Session.Stages

namespace Sensornet
namespace Session

/-!
# The keys of a session

A session without a past issues all its keys itself.  At every moment the
texts that are taken are the keys of its rows, the greatest integer is that of
a row, and every row carries its key once more under `id`.  So nothing about
keys is known to the session that cannot be read off its rows.

Rows that a session goes on from are not covered: their `id` may differ from
their key, and both are taken.
-/

open Fixture (Key Row Registry)

/-- What is known of keys is what the rows say. -/
structure Accounted (s : Session) : Prop where
  carries : ∀ row ∈ s.rows, Registry.CarriesKey row
  taken : ∀ id, s.registry.isTaken id = true ↔ .text id ∈ s.rows.map Row.key
  integers : ∀ n, .integer n ∈ s.rows.map Row.key -> 0 < n ∧ n ≤ s.registry.lastInteger
  attained : s.registry.lastInteger = 0 ∨ .integer s.registry.lastInteger ∈ s.rows.map Row.key
  few : s.registry.lastInteger ≤ s.rows.length

theorem accounted_start (options : Options) (supply : Nat) : (start options supply).Accounted where
  carries row member := absurd member List.not_mem_nil
  taken id := by
    constructor
    · intro known
      cases known
    · intro among
      cases among
  integers n among := absurd among List.not_mem_nil
  attained := Or.inl rfl
  few := le_rfl

variable {s t : Session}

theorem Enters.carriesKey {row : Row} (new : s.Enters row) : Registry.CarriesKey row := by
  cases new with
  | zone item id => rfl
  | point item id sensor => rfl
  | metric id unknown => exact Entries.get?_insert_self "id" _ _
  | trigger id complete unknown => rfl
  | link id unwritten => rfl
  | shown key fields shown named => rfl

/-- A key just issued is accounted for by the row that is entered. -/
theorem Accounted.enter (accounted : s.Accounted) {registry : Registry} {row : Row}
    (issued : s.registry.Issues row.key registry) (new : s.Enters row) :
    (s.enter registry row).Accounted := by
  have carries : ∀ other ∈ s.rows ++ [row], Registry.CarriesKey other := by
    intro other member
    rcases List.mem_append.mp member with old | last
    · exact accounted.carries other old
    · exact List.mem_singleton.mp last ▸ new.carriesKey
  have keys : (s.rows ++ [row]).map Row.key = s.rows.map Row.key ++ [row.key] := List.map_append
  have longer : (s.rows ++ [row]).length = s.rows.length + 1 := List.length_append
  have few := accounted.few
  generalize row.key = key at issued keys
  unfold Session.enter
  cases issued with
  | text kind seed =>
    refine ⟨carries, fun id => ?_, fun n among => ?_, ?_, ?_⟩
    · dsimp only
      rw [keys, Registry.isTaken_make_iff, accounted.taken, List.mem_append, List.mem_singleton,
        Key.text.injEq, or_comm]
    · dsimp only at among
      rw [keys, List.mem_append, List.mem_singleton] at among
      rcases among with old | same
      · exact accounted.integers n old
      · cases same
    · dsimp only
      rw [keys]
      exact accounted.attained.imp id (List.mem_append_left _)
    · have same : (s.registry.make kind seed).2.lastInteger = s.registry.lastInteger := rfl
      dsimp only
      rw [longer, same]
      omega
  | integer =>
    have next : s.registry.nextInteger.2.lastInteger = s.registry.lastInteger + 1 := rfl
    have issued : s.registry.nextInteger.1 = s.registry.lastInteger + 1 := rfl
    refine ⟨carries, fun id => ?_, fun n among => ?_, ?_, ?_⟩
    · have same : s.registry.nextInteger.2.isTaken id = s.registry.isTaken id := rfl
      dsimp only
      rw [keys, same, accounted.taken, List.mem_append, List.mem_singleton]
      simp
    · dsimp only at among ⊢
      rw [keys, List.mem_append, List.mem_singleton] at among
      rw [next]
      rcases among with old | same
      · have known := accounted.integers n old
        omega
      · have positive : 0 ≤ s.registry.lastInteger := by
          rcases accounted.attained with none | some
          · omega
          · exact (accounted.integers _ some).1.le
        have value : n = s.registry.lastInteger + 1 := Key.integer.inj same
        omega
    · dsimp only
      rw [keys, next, issued]
      exact Or.inr (List.mem_append_right _ List.mem_cons_self)
    · dsimp only
      rw [longer, next]
      omega

/-- The new fields of a trigger carry the key of its row. -/
theorem Accounted.replaceFields (accounted : s.Accounted) {position : Nat} {row : Row}
    (stands : s.rows[position]? = some row) (wanted : Trigger) :
    (s.replaceFields position (wanted.fields row.key.toJson)).Accounted := by
  have keys := s.map_key_replaceFields position (wanted.fields row.key.toJson)
  refine ⟨fun other member => ?_, fun id => ?_, fun n among => ?_, ?_, ?_⟩
  · rcases List.getElem?_of_mem member with ⟨place, holds⟩
    unfold Session.replaceFields at holds
    rw [List.getElem?_modify] at holds
    rcases Option.map_eq_some_iff.mp holds with ⟨old, held, same⟩
    by_cases here : position = place
    · rw [if_pos here] at same
      have known : old = row := by
        rw [← here, stands] at held
        exact (Option.some.inj held).symm
      rw [← same, known]
      rfl
    · rw [if_neg here] at same
      exact same ▸ accounted.carries old (List.mem_of_getElem? held)
  · rw [keys]
    exact accounted.taken id
  · rw [keys] at among
    exact accounted.integers n among
  · rw [keys]
    exact accounted.attained
  · have length : (s.replaceFields position (wanted.fields row.key.toJson)).rows.length =
        s.rows.length := List.length_modify ..
    rw [length]
    exact accounted.few

theorem Accounted.quiet (accounted : s.Accounted) (same : Quiet s t) : t.Accounted := by
  refine ⟨?_, fun id => ?_, ?_, ?_, ?_⟩
  · rw [same.rows]
    exact accounted.carries
  · have taken : t.registry.isTaken id = s.registry.isTaken id := by
      unfold Registry.isTaken
      rw [same.keys.taken]
    rw [same.rows, taken]
    exact accounted.taken id
  · rw [same.rows, same.keys.lastInteger]
    exact accounted.integers
  · rw [same.rows, same.keys.lastInteger]
    exact accounted.attained
  · rw [same.rows, same.keys.lastInteger]
    exact accounted.few

theorem Accounted.moves (accounted : s.Accounted) (run : Moves s t) : t.Accounted := by
  induction run with
  | refl => exact accounted
  | tail before move ih =>
    cases move with
    | quiet same => exact ih.quiet same
    | enter issued new => exact ih.enter issued new
    | rewrite complete known stands => exact ih.replaceFields stands _

/-! ## What never changes -/

/-- Settings are those of the beginning. -/
theorem Moves.settings (run : Moves s t) :
    t.options = s.options ∧ t.aliases = s.aliases ∧ t.registry.policy = s.registry.policy := by
  induction run with
  | refl => exact ⟨rfl, rfl, rfl⟩
  | tail before move ih =>
    rcases ih with ⟨options, aliases, policy⟩
    cases move with
    | quiet same => exact ⟨same.options.trans options, same.aliases.trans aliases,
        same.keys.policy.trans policy⟩
    | enter issued new => exact ⟨options, aliases, issued.policy.trans policy⟩
    | rewrite complete known stands => exact ⟨options, aliases, policy⟩

end Session
end Sensornet
