import Sensornet.Proofs.Registry.Freshness
import Sensornet.Proofs.Session.Catalogue

namespace Sensornet

/-!
# Fresh keys

Every row that a session enters has a key that no row had before, neither as
its key nor under `id`.  Text keys and integers get there on different ways.
Integers are counted up from the greatest one seen.  Texts are searched for,
so they are fresh if the search succeeds; whether it does can be asked of the
last registry, which has taken more than any before it.

`FreshSince` is what other modules need of this: whatever key was issued on
the way from one session to another was free at that moment.
-/

open Fixture (Key Row Registry)

/-- There is a free key for what the row is. -/
def Fixture.Row.Nameable (row : Row) (r : Registry) : Prop :=
  ∀ kind seed, row.purpose? = some (kind, seed) -> r.CanName kind seed

/-- Under the deterministic policy one free candidate for each row is enough. -/
theorem Fixture.Row.nameable_of_all {r : Registry} (policy : r.policy = .deterministic)
    {attempt : Nat} (within : attempt < Registry.maxAttempts) {rows : List Row}
    (free : rows.all (fun row => row.purpose?.all fun purpose =>
      !r.isTaken (r.candidate purpose.1 purpose.2 attempt)) = true) :
    ∀ row ∈ rows, row.Nameable r := by
  intro row member kind seed purpose
  have own := List.all_eq_true.mp free row member
  rw [purpose, Option.all_some, Bool.not_eq_true'] at own
  exact Registry.canName_of_deterministic policy within own

/-- Under the random policy any row can be named while there are fewer taken keys
than attempts. -/
theorem Fixture.Row.nameable_of_random {r : Registry} (policy : r.policy = .random)
    (few : r.taken.length < Registry.maxAttempts) (row : Row) : row.Nameable r :=
  fun kind seed _ => Registry.canName_of_random policy few kind seed

namespace Session

variable {s t u v : Session}

theorem Moves.registry (run : Moves s t) : s.registry.Before t.registry := by
  induction run with
  | refl => exact .refl _
  | tail _ move ih =>
    cases move with
    | quiet same => exact ih.trans (.same same.keys)
    | enter issued new named => exact ih.trans (.issues issued)
    | rewrite complete known stands => exact ih

/-! ## The keys that are added -/

/-- The keys of the rows that one session has and the other has not yet. -/
def keysSince (s t : Session) : List Key :=
  (t.rows.map Row.key).drop s.rows.length

/-- The new keys are those that were issued: texts are taken one by one, and
integers are counted up. -/
structure KeysGrow (s t : Session) : Prop where
  length : s.rows.length ≤ t.rows.length
  taken : t.registry.taken =
    ((keysSince s t).filterMap Key.text?).reverse ++ s.registry.taken
  ascending : ((keysSince s t).filterMap Key.integer?).Pairwise (· < ·)
  between : ∀ n, .integer n ∈ keysSince s t ->
    s.registry.lastInteger < n ∧ n ≤ t.registry.lastInteger

namespace KeysGrow

theorem refl (s : Session) : KeysGrow s s := by
  have none : keysSince s s = [] := by
    unfold keysSince
    rw [List.drop_eq_nil_iff, List.length_map]
  refine ⟨le_rfl, ?_, ?_, ?_⟩
  · simp [none]
  · simp [none]
  · simp [none]

/-- Nothing changes as long as keys and registry stay the same. -/
theorem same (grow : KeysGrow s t) (keys : u.rows.map Row.key = t.rows.map Row.key)
    (taken : u.registry.taken = t.registry.taken)
    (lastInteger : u.registry.lastInteger = t.registry.lastInteger) : KeysGrow s u := by
  have still : keysSince s u = keysSince s t := congrArg (List.drop s.rows.length) keys
  have length : u.rows.length = t.rows.length := by
    simpa using congrArg List.length keys
  refine ⟨length ▸ grow.length, ?_, ?_, ?_⟩
  · rw [still, taken]
    exact grow.taken
  · rw [still]
    exact grow.ascending
  · rw [still, lastInteger]
    exact grow.between

theorem enter (grow : KeysGrow s t) (before : s.registry.Before t.registry) {registry : Registry}
    {row : Row} (issued : t.registry.Issues row.key registry) :
    KeysGrow s (t.enter registry row) := by
  have more : keysSince s (t.enter registry row) = keysSince s t ++ [row.key] := by
    unfold keysSince
    rw [rows_enter, List.map_append, List.drop_append_of_le_length]
    · rfl
    · rw [List.length_map]
      exact grow.length
  have length : s.rows.length ≤ (t.enter registry row).rows.length := by
    rw [rows_enter, List.length_append]
    exact grow.length.trans (Nat.le_add_right _ _)
  have own : (t.enter registry row).registry = registry := rfl
  generalize row.key = key at issued more
  cases issued with
  | text kind seed =>
    refine ⟨length, ?_, ?_, ?_⟩
    · rw [more, own, List.filterMap_append, List.reverse_append, List.append_assoc, ← grow.taken]
      rfl
    · have none : [Key.text (t.registry.make kind seed).1].filterMap Key.integer? = [] := rfl
      rw [more, List.filterMap_append, none, List.append_nil]
      exact grow.ascending
    · intro n among
      rw [more, List.mem_append, List.mem_singleton] at among
      rcases among with old | new
      · exact grow.between n old
      · cases new
  | integer =>
    have next : t.registry.nextInteger.2.lastInteger = t.registry.lastInteger + 1 := rfl
    have value : t.registry.nextInteger.1 = t.registry.lastInteger + 1 := rfl
    have least := before.lastInteger
    refine ⟨length, ?_, ?_, ?_⟩
    · have none : [Key.integer t.registry.nextInteger.1].filterMap Key.text? = [] := rfl
      rw [more, own, List.filterMap_append, none, List.append_nil]
      exact grow.taken
    · have single : [Key.integer t.registry.nextInteger.1].filterMap Key.integer? =
          [t.registry.nextInteger.1] := rfl
      rw [more, List.filterMap_append, single, List.pairwise_append]
      refine ⟨grow.ascending, List.pairwise_singleton _ _, fun n old m new => ?_⟩
      rcases List.mem_filterMap.mp old with ⟨key, among, held⟩
      have known : Key.integer n ∈ keysSince s t := by
        cases key with
        | text id => cases held
        | integer other => exact Option.some.inj held ▸ among
      have below := (grow.between n known).2
      rw [List.mem_singleton.mp new, value]
      omega
    · intro n among
      rw [more, List.mem_append, List.mem_singleton] at among
      rw [own, next]
      rcases among with old | new
      · have known := grow.between n old
        omega
      · have last : n = t.registry.lastInteger + 1 := (Key.integer.inj new).trans value
        omega

end KeysGrow

theorem Moves.keysGrow (run : Moves s t) : KeysGrow s t := by
  induction run with
  | refl => exact .refl s
  | @tail u v before move ih =>
    cases move with
    | quiet same =>
      exact ih.same (congrArg (List.map Row.key) same.rows) same.keys.taken same.keys.lastInteger
    | enter issued new named => exact ih.enter (Moves.registry before) issued
    | rewrite complete known stands => exact ih.same (map_key_replaceFields u _ _) rfl rfl

/-! ## Searches that succeed -/

/-- Every text key that was issued on the way was free. -/
def FreshSince (s t : Session) : Prop :=
  ∀ id before, s.registry.taken <:+ before -> (id :: before) <:+ t.registry.taken -> id ∉ before

theorem Fresh.since (fresh : t.Fresh) (s : Session) : FreshSince s t := by
  intro id before _ among
  have unique : (id :: before).Nodup := List.Nodup.sublist among.sublist fresh
  exact (List.nodup_cons.mp unique).1

/-- What holds on the way holds on each part of the way. -/
theorem FreshSince.within (fresh : FreshSince s t) (early : Moves s u) (late : Moves v t) :
    FreshSince u v := by
  intro id before from' among
  exact fresh id before (early.taken.trans from') (among.trans late.taken)

/-- Texts that were free when they were taken are new and taken once. -/
theorem nodup_of_free {base added : List String}
    (free : ∀ id before, base <:+ before -> (id :: before) <:+ added ++ base -> id ∉ before) :
    added.Nodup ∧ ∀ id ∈ added, id ∉ base := by
  induction added with
  | nil => exact ⟨List.nodup_nil, fun _ member => absurd member List.not_mem_nil⟩
  | cons first rest ih =>
    have here := free first (rest ++ base) (List.suffix_append _ _) (List.suffix_refl _)
    have later := ih fun id before from' among =>
      free id before from' (among.trans (List.suffix_cons first _))
    rw [List.mem_append, not_or] at here
    refine ⟨List.nodup_cons.mpr ⟨here.1, later.1⟩, fun id member => ?_⟩
    rcases List.mem_cons.mp member with rfl | old
    · exact here.2
    · exact later.2 id old

/-- Keys are distinct when texts and integers are. -/
theorem nodup_of_texts_integers {keys : List Key} (texts : (keys.filterMap Key.text?).Nodup)
    (integers : (keys.filterMap Key.integer?).Nodup) : keys.Nodup := by
  induction keys with
  | nil => exact List.nodup_nil
  | cons key rest ih =>
    cases key with
    | text id =>
      have own : Key.text? (.text id) = some id := rfl
      rw [List.filterMap_cons_some own, List.nodup_cons] at texts
      rw [List.filterMap_cons_none rfl] at integers
      refine List.nodup_cons.mpr ⟨fun again => ?_, ih texts.2 integers⟩
      exact texts.1 (List.mem_filterMap.mpr ⟨_, again, rfl⟩)
    | integer n =>
      have own : Key.integer? (.integer n) = some n := rfl
      rw [List.filterMap_cons_none rfl] at texts
      rw [List.filterMap_cons_some own, List.nodup_cons] at integers
      refine List.nodup_cons.mpr ⟨fun again => ?_, ih texts integers.2⟩
      exact integers.1 (List.mem_filterMap.mpr ⟨_, again, rfl⟩)

theorem FreshSince.nodup (fresh : FreshSince s t) (grow : KeysGrow s t) :
    (keysSince s t).Nodup := by
  unfold FreshSince at fresh
  rw [grow.taken] at fresh
  have texts := List.nodup_reverse.mp (nodup_of_free fresh).1
  exact nodup_of_texts_integers texts (grow.ascending.imp ne_of_lt)

/-- A new key is nothing that was covered before. -/
theorem FreshSince.ne_of_covers (fresh : FreshSince s t) (grow : KeysGrow s t)
    (positive : 0 ≤ s.registry.lastInteger)
    (fits : Word.fitsSigned t.registry.lastInteger = true) {key : Key}
    (new : key ∈ keysSince s t) {value : Json.Value} (covers : s.registry.Covers value) :
    value ≠ key.toJson := by
  cases key with
  | text id =>
    unfold FreshSince at fresh
    rw [grow.taken] at fresh
    have among : id ∈ ((keysSince s t).filterMap Key.text?).reverse :=
      List.mem_reverse.mpr (List.mem_filterMap.mpr ⟨_, new, rfl⟩)
    exact Registry.ne_text_of_covers covers ((nodup_of_free fresh).2 id among)
  | integer n =>
    rcases grow.between n new with ⟨greater, least⟩
    rw [Word.fitsSigned_iff] at fits
    have fitsToo : Word.fitsSigned n = true := by
      rw [Word.fitsSigned_iff]
      omega
    exact Registry.ne_integer_of_covers covers fitsToo greater

/-- A row that was added stands behind the rows from before. -/
theorem mem_drop_iff {A : Type} {items : List A} {count : Nat} {item : A} :
    item ∈ items.drop count ↔ ∃ position, count ≤ position ∧ items[position]? = some item := by
  constructor
  · intro member
    rcases List.getElem?_of_mem member with ⟨offset, there⟩
    rw [List.getElem?_drop] at there
    exact ⟨count + offset, Nat.le_add_right _ _, there⟩
  · rintro ⟨position, far, there⟩
    apply List.mem_of_getElem?
    rw [List.getElem?_drop, Nat.add_sub_cancel' far]
    exact there

/-- A row stays where it is, and so does what its key was made for. -/
theorem Moves.purposeAt (run : Moves s t) (indexed : s.Indexed) {position : Nat} {row : Row}
    (stands : s.rows[position]? = some row) :
    ∃ later, t.rows[position]? = some later ∧ later.purpose? = row.purpose? := by
  induction run with
  | refl => exact ⟨row, stands, rfl⟩
  | @tail u v before move ih =>
    rcases ih with ⟨held, there, purpose⟩
    cases move with
    | quiet same => exact ⟨held, same.rows ▸ there, purpose⟩
    | enter issued new named =>
      have below : position < u.rows.length := (List.getElem?_eq_some_iff.mp there).1
      exact ⟨held, (List.getElem?_append_left below).trans there, purpose⟩
    | @rewrite wanted place found complete known holds =>
      by_cases here : place = position
      · subst here
        rcases (indexed.moves before).output?_of_known known with ⟨own, stood, writes⟩
        cases Option.some.inj (stood.symm.trans holds)
        cases Option.some.inj (stood.symm.trans there)
        -- the fields are new, the output is the one by which the row was found
        have trigger : held.model = Fixture.Model.trigger := Network.model_of_output? writes
        have output : Network.output? { held with fields := wanted.fields held.key.toJson } =
            some wanted.outputMetric :=
          if_pos ⟨trigger, Network.ne_empty_of_output? writes⟩
        refine ⟨{ held with fields := wanted.fields held.key.toJson }, ?_, ?_⟩
        · rw [rows_replaceFields, List.getElem?_modify_eq, stood]
          rfl
        · rw [purpose?_of_output? output, ← purpose, purpose?_of_output? writes]
      · refine ⟨held, ?_, purpose⟩
        rw [rows_replaceFields, List.getElem?_modify_ne _ _ here]
        exact there

/-- Where every new row can be named at last, every search succeeded. -/
theorem freshSince_of_nameable (run : Moves s t) (indexed : s.Indexed)
    (nameable : ∀ row ∈ t.rows.drop s.rows.length, row.Nameable t.registry) : FreshSince s t := by
  induction run with
  | refl =>
    intro id before from' among
    have longer := from'.length_le
    have shorter := among.length_le
    rw [List.length_cons] at shorter
    omega
  | @tail u v before move ih =>
    have onward : Moves u v := .single move
    have earlier : FreshSince s u := by
      apply ih
      intro row member kind seed purpose
      rcases mem_drop_iff.mp member with ⟨position, far, stands⟩
      rcases onward.purposeAt (indexed.moves before) stands with ⟨later, there, same⟩
      have can := nameable later (mem_drop_iff.mpr ⟨position, far, there⟩) kind seed
      exact (can (same.trans purpose)).before onward.registry
    cases move with
    | quiet same =>
      intro id before
      rw [same.keys.taken]
      exact earlier id before
    | @enter registry row issued new named =>
      have last : row ∈ (u.enter registry row).rows.drop s.rows.length := by
        have grown := (Moves.keysGrow before).length
        rw [rows_enter, List.drop_append_of_le_length grown]
        exact List.mem_append_right _ List.mem_cons_self
      intro id before' from' among
      have own : (u.enter registry row).registry = registry := rfl
      rw [own] at among
      cases key : row.key with
      | integer n =>
        rw [key] at issued
        cases issued
        exact earlier id before' from' among
      | text made =>
        rcases named made key with ⟨kind, seed, purpose, make⟩
        have can := (nameable row last kind seed purpose).before onward.registry
        have free := can.not_mem
        have taken : registry.taken = made :: u.registry.taken := by
          have issuedToo := congrArg (fun pair => pair.2.taken) make
          have first := congrArg Prod.fst make
          exact issuedToo.symm.trans (congrArg (· :: u.registry.taken) first)
        rw [make] at free
        rw [taken] at among
        rcases List.suffix_cons_iff.mp among with whole | part
        · cases whole
          exact free
        · exact earlier id before' from' part
    | rewrite complete known stands => exact earlier

/-- A session without a past issues fresh keys only, if all of its rows can be
named. -/
theorem fresh_of_nameable {options : Options} {supply : Nat} (run : Moves (start options supply) t)
    (nameable : ∀ row ∈ t.rows, row.Nameable t.registry) : t.Fresh := by
  have fresh : FreshSince (start options supply) t := freshSince_of_nameable run rfl nameable
  have none : (start options supply).registry.taken = [] := rfl
  unfold FreshSince at fresh
  rw [none, ← List.append_nil t.registry.taken] at fresh
  exact (nodup_of_free fresh).1

/-! ## Rows under their own keys -/

/-- What holds of every row that is entered or rewritten holds of every row that
is not as it was. -/
theorem Moves.made {P : Row -> Prop}
    (entered : ∀ {u : Session} {row : Row}, u.Enters row -> P row)
    (rewritten : ∀ (wanted : Trigger) (row : Row),
      P { row with fields := wanted.fields row.key.toJson })
    (run : Moves s t) {position : Nat} {row : Row} (stands : t.rows[position]? = some row) :
    P row ∨ s.rows[position]? = some row := by
  induction run generalizing row with
  | refl => exact Or.inr stands
  | @tail u v before move ih =>
    cases move with
    | quiet same => exact ih (same.rows ▸ stands)
    | @enter registry entry issued new named =>
      rw [rows_enter] at stands
      by_cases below : position < u.rows.length
      · rw [List.getElem?_append_left below] at stands
        exact ih stands
      · rw [List.getElem?_append_right (Nat.le_of_not_lt below)] at stands
        have last := List.mem_singleton.mp (List.mem_of_getElem? stands)
        exact Or.inl (last ▸ entered new)
    | @rewrite wanted place found complete known holds =>
      rw [rows_replaceFields] at stands
      by_cases here : place = position
      · subst here
        rw [List.getElem?_modify_eq, holds] at stands
        cases stands
        exact Or.inl (rewritten wanted found)
      · rw [List.getElem?_modify_ne _ _ here] at stands
        exact ih stands

/-- A row that is not as it was carries its key under `id`. -/
theorem Moves.carriesKey (run : Moves s t) {position : Nat} {row : Row}
    (stands : t.rows[position]? = some row) :
    Registry.CarriesKey row ∨ s.rows[position]? = some row :=
  Moves.made Enters.carriesKey (fun _ _ => rfl) run stands

/-! ## Whole histories -/

/-- The keys of all rows that a session enters are distinct, and none of them
is the key or the `id` of a row that was there.  A row that is new or
rewritten carries its own key under `id`. -/
theorem fresh_keys_run {options : Options} {supply : Nat} {existing : List Row}
    {calls : List Call} {s : Session} (ran : (resume options supply existing).run calls = s)
    (fits : Word.fitsSigned s.registry.lastInteger = true)
    (nameable : ∀ row ∈ s.rows.drop existing.length, row.Nameable s.registry) :
    ((s.rows.drop existing.length).map Row.key).Nodup ∧
      (∀ row ∈ s.rows.drop existing.length, ∀ old ∈ existing,
        row.key ≠ old.key ∧ old.field? "id" ≠ some row.key.toJson) ∧
      ∀ (position : Nat) (row : Row), s.rows[position]? = some row ->
        Registry.CarriesKey row ∨ existing[position]? = some row := by
  subst ran
  rcases resume_parts options supply existing with ⟨_, _, registry, _, rows⟩
  have run := moves_run (resume options supply existing) calls
  generalize (resume options supply existing).run calls = t at run fits nameable ⊢
  have added : keysSince (resume options supply existing) t =
      (t.rows.drop existing.length).map Row.key := by
    unfold keysSince
    rw [rows, List.map_drop]
  have grow := run.keysGrow
  have fresh : FreshSince (resume options supply existing) t :=
    freshSince_of_nameable run (indexed_resume options supply existing) (rows.symm ▸ nameable)
  have positive : 0 ≤ (resume options supply existing).registry.lastInteger := by
    rw [registry]
    exact (Registry.Before.seed (.start options.policy supply) existing).lastInteger
  refine ⟨added ▸ fresh.nodup grow, fun row new old among => ?_, fun position row stands => ?_⟩
  · have covered := Registry.covers_seed (.start options.policy supply) among
    rw [← registry] at covered
    have own : row.key ∈ keysSince (resume options supply existing) t :=
      added ▸ List.mem_map_of_mem new
    constructor
    · intro same
      exact fresh.ne_of_covers grow positive fits own covered.1 (congrArg Key.toJson same.symm)
    · intro same
      exact fresh.ne_of_covers grow positive fits own (covered.2 _ same) rfl
  · have kept := run.carriesKey stands
    rw [rows] at kept
    exact kept

/-- A link and a zone whose ids are not their keys.  The zone holds the key
that a zone called North would get. -/
def strayRows : List Row :=
  [ ⟨Fixture.Model.link, .integer 4, [("id", Json.Value.integer 11)]⟩
  , ⟨Fixture.Model.polygon, .text "pl-9",
      [("id", .text "pl-542c7eb11e9c"), ("label", .text "South")]⟩ ]

/-- A zone, and a page that brings an id along. -/
def strayCalls : List Call :=
  [ .domain [⟨"zone", "North", .null, none, none, none, none, none, none, none, none, none⟩]
  , .template [⟨[ ("model", .text Fixture.Model.page), ("abstraction_id", .text "page")
                , ("fields", .object [("page", .text "OPS"), ("id", .text "pl-9")]) ]⟩] ["OPS"] ]

/-- The zone is named at the second attempt, and the page gets number 12. -/
theorem fresh_keys_run_strayRows :
    let s := (resume { Options.default with starterMetrics := false } 0 strayRows).run strayCalls
    (s.rows.drop strayRows.length).map Row.key = [.text "pl-a22a8017e598", .integer 12] ∧
      (∀ row ∈ s.rows.drop strayRows.length, row.Nameable s.registry) ∧
      ((s.rows.drop strayRows.length).map Row.key).Nodup ∧
      (∀ row ∈ s.rows.drop strayRows.length, ∀ old ∈ strayRows,
        row.key ≠ old.key ∧ old.field? "id" ≠ some row.key.toJson) ∧
      ∀ (position : Nat) (row : Row), s.rows[position]? = some row ->
        Registry.CarriesKey row ∨ strayRows[position]? = some row := by
  intro s
  have keys : (s.rows.drop strayRows.length).map Row.key =
      [.text "pl-a22a8017e598", .integer 12] := by
    decide +kernel
  have fits : Word.fitsSigned s.registry.lastInteger = true := by
    decide +kernel
  have policy : s.registry.policy = .deterministic := by
    decide +kernel
  have nameable : ∀ row ∈ s.rows.drop strayRows.length, row.Nameable s.registry :=
    Row.nameable_of_all policy (by decide : 2 < Registry.maxAttempts) (by decide +kernel)
  exact ⟨keys, nameable, fresh_keys_run rfl fits nameable⟩

end Session
end Sensornet
