import Sensornet.Proofs.Session.Accounts
import Sensornet.Proofs.Session.Twins

namespace Sensornet

/-!
# Going on from saved rows

Rows that are written out and read again are the same rows.  A session that
goes on from them has the network and the keys of the session that wrote them,
since both can be read off the rows, and is its twin as far as domains are
concerned.  What it has lost are bindings and the number of tokens drawn.

Integer keys are only read back when they have 64 bits.  A session issues them
one by one, so this is a matter of how many rows there are.
-/

open Fixture (Key Row Registry)

namespace Fixture

/-! ## Writing and reading rows -/

theorem Key.ofJson?_toJson_eq_some_iff {key other : Key} :
    Key.ofJson? key.toJson = some other ↔
      other = key ∧ ∀ n, key = .integer n -> Word.fitsSigned n = true := by
  cases key with
  | text own =>
    constructor
    · intro read
      cases read
      exact ⟨rfl, fun n same => by cases same⟩
    · rintro ⟨rfl, _⟩
      rfl
  | integer m =>
    simp only [Key.toJson, Json.Value.integer, Key.ofJson?]
    constructor
    · intro read
      split at read
      · next fits =>
        cases read
        exact ⟨rfl, fun n same => by cases same; exact fits⟩
      · cases read
    · rintro ⟨rfl, fits⟩
      exact if_pos (fits m rfl)

theorem Row.ofJson?_toJson (row : Row) :
    Row.ofJson? row.toJson =
      (Key.ofJson? row.key.toJson).map fun key => ⟨row.model, key, row.fields⟩ := by
  have parts : Row.ofJson? row.toJson =
    Row.ofParts? (.text row.model) row.key.toJson (.object row.fields) := rfl
  rw [parts]
  unfold Row.ofParts?
  cases Key.ofJson? row.key.toJson <;> rfl

/-- What is read back, if anything is, are the rows that were written. -/
theorem Rows.ofItems_map_toJson_eq_ok_iff {rows others : List Row} {index : Nat} :
    Rows.ofItems index (rows.map Row.toJson) = .ok others ↔
      others = rows ∧ ∀ n, .integer n ∈ rows.map Row.key -> Word.fitsSigned n = true := by
  induction rows generalizing index others with
  | nil =>
    constructor
    · intro read
      cases read
      exact ⟨rfl, fun n among => absurd among List.not_mem_nil⟩
    · rintro ⟨rfl, _⟩
      rfl
  | cons row rest ih =>
    simp only [List.map_cons, Rows.ofItems, Row.ofJson?_toJson, List.mem_cons]
    constructor
    · intro read
      cases key : Key.ofJson? row.key.toJson with
      | none =>
        rw [key] at read
        cases read
      | some own =>
        rcases Key.ofJson?_toJson_eq_some_iff.mp key with ⟨rfl, fits⟩
        rw [key] at read
        cases later : Rows.ofItems (index + 1) (rest.map Row.toJson) with
        | error failure =>
          simp only [later] at read
          cases read
        | ok read' =>
          rcases ih.mp later with ⟨rfl, others⟩
          simp only [later] at read
          cases read
          refine ⟨rfl, fun n among => ?_⟩
          rcases among with same | among
          · exact fits n same.symm
          · exact others n among
    · rintro ⟨rfl, fits⟩
      have first : Key.ofJson? row.key.toJson = some row.key :=
        Key.ofJson?_toJson_eq_some_iff.mpr ⟨rfl, fun n same => fits n (Or.inl same.symm)⟩
      have later : Rows.ofItems (index + 1) (rest.map Row.toJson) = .ok rest :=
        ih.mpr ⟨rfl, fun n among => fits n (Or.inr among)⟩
      simp only [first, later]
      rfl

end Fixture

namespace Session

variable {s : Session}

/-- The integer keys of few enough rows have 64 bits. -/
theorem Accounted.fits (accounted : s.Accounted) (room : s.rows.length < Word.signedEnd) (n : Int)
    (among : .integer n ∈ s.rows.map Row.key) : Word.fitsSigned n = true := by
  have known := accounted.integers n among
  have few := accounted.few
  unfold Word.signedEnd at room
  rw [Word.fitsSigned_iff]
  omega

/-- Seeding with the rows of a session gives a registry that issues what the
session would issue. -/
theorem Accounted.agrees (accounted : s.Accounted) (policy : s.registry.policy = .deterministic)
    (fits : ∀ n, .integer n ∈ s.rows.map Row.key -> Word.fitsSigned n = true) (supply : Nat) :
    s.registry.Agrees ((Registry.start .deterministic supply).seed s.rows) where
  policy := policy
  otherPolicy := Registry.policy_seed _ s.rows
  taken id := by
    rw [Bool.eq_iff_iff, Registry.isTaken_seed_iff _ accounted.carries, accounted.taken]
    have nothing : (Registry.start .deterministic supply).isTaken id = false := rfl
    rw [nothing]
    simp
  lastInteger := by
    rcases (Registry.start .deterministic supply).lastInteger_seed accounted.carries fits with
      ⟨least, greatest, attained⟩
    have zero : (Registry.start .deterministic supply).lastInteger = 0 := rfl
    rw [zero] at least attained
    apply le_antisymm
    · rcases attained with none | some
      · rw [none]
        rcases accounted.attained with nothing | own
        · exact nothing.ge
        · exact (accounted.integers _ own).1.le
      · exact (accounted.integers _ some).2
    · rcases accounted.attained with none | some
      · rw [none]
        exact least
      · exact greatest _ some

/-- A session and one that goes on from its rows are twins. -/
theorem twins_resume {options : Options} (deterministic : options.policy = .deterministic)
    (supply again : Nat) (calls : List Call)
    (fits : ∀ n, .integer n ∈ ((start options supply).run calls).rows.map Row.key ->
      Word.fitsSigned n = true) :
    let live := (start options supply).run calls
    let resumed := resume options again live.rows
    Twins live.registry resumed.registry live resumed := by
  intro live resumed
  have moves : Moves (start options supply) live := moves_run _ calls
  have began : (start options supply).Indexed := rfl
  have accounted : live.Accounted := (accounted_start options supply).moves moves
  have indexed : live.Indexed := began.moves moves
  rcases moves.settings with ⟨sameOptions, sameAliases, samePolicy⟩
  have policy : live.registry.policy = .deterministic := samePolicy.trans deterministic
  rcases resume_parts options again live.rows with
    ⟨optionsAgain, aliasesAgain, registryAgain, networkAgain, rowsAgain⟩
  have keys : live.registry.Agrees resumed.registry := by
    rw [registryAgain, deterministic]
    exact accounted.agrees policy fits again
  constructor
  · exact indexed
  · exact optionsAgain.trans sameOptions.symm
  · exact aliasesAgain.trans sameAliases.symm
  · exact networkAgain.trans indexed.symm
  · exact keys
  · exact ⟨policy, le_rfl⟩
  · exact ⟨keys.otherPolicy, le_rfl⟩
  · rw [rowsAgain]
    exact List.forall₂_same.mpr fun row _ => .refl row

/-- Under the deterministic policy, saving a session without a past and going
on from what was saved makes no difference to domains.  The rows can be read
again if there are not more of them than 64 bits can number.  What is read is
what was written, and compiling any domain on the session or on one that goes
on from these rows gives the same rows, but for tokens that this very compile
draws. -/
theorem addDomain_resume {options : Options} (deterministic : options.policy = .deterministic)
    (supply again : Nat) (calls : List Call) (items : List Domain.Item) :
    let live := (start options supply).run calls
    (live.rows.length < Word.signedEnd ->
      Fixture.Rows.ofJson (Fixture.Rows.toJson live.rows) = .ok live.rows) ∧
      ∀ rows, Fixture.Rows.ofJson (Fixture.Rows.toJson live.rows) = .ok rows ->
        let resumed := resume options again rows
        rows = live.rows ∧
          List.Forall₂ (SameButTokens live.registry resumed.registry) (live.addDomain items).rows
            (resumed.addDomain items).rows := by
  intro live
  have accounted : live.Accounted :=
    (accounted_start options supply).moves (moves_run _ calls)
  constructor
  · intro room
    exact Fixture.Rows.ofItems_map_toJson_eq_ok_iff.mpr ⟨rfl, accounted.fits room⟩
  · intro rows read
    rcases Fixture.Rows.ofItems_map_toJson_eq_ok_iff.mp read with ⟨rfl, fits⟩
    exact ⟨rfl, ((twins_resume deterministic supply again calls fits).addDomain items).rows⟩

/-- A zone as a user may write it. -/
def northZone : Domain.Item :=
  ⟨"zone", "North", .array [], none, none, none, none, none, none, none, none, none⟩

/-- A flow meter that feeds the zone. -/
def northMeter : Domain.Item :=
  ⟨"flow_meter", "North inlet", .null, some "North", none, none, none, none, none, none, none, none⟩

/-- The zone is saved, and its meter comes afterwards. -/
theorem addDomain_resume_north :
    let live := (start .default 0).run [.domain [northZone]]
    let resumed := resume .default 7 live.rows
    Options.default.policy = .deterministic ∧ live.rows.length < Word.signedEnd ∧
      Fixture.Rows.ofJson (Fixture.Rows.toJson live.rows) = .ok live.rows ∧
      List.Forall₂ (SameButTokens live.registry resumed.registry)
        (live.addDomain [northZone, northMeter]).rows
        (resumed.addDomain [northZone, northMeter]).rows := by
  have deterministic : Options.default.policy = .deterministic := rfl
  have few : ((start .default 0).run [.domain [northZone]]).rows.length < Word.signedEnd := by
    decide +kernel
  rcases addDomain_resume deterministic 0 7 [.domain [northZone]] [northZone, northMeter] with
    ⟨saved, resumed⟩
  exact ⟨deterministic, few, saved few, (resumed _ (saved few)).2⟩

end Session
end Sensornet
