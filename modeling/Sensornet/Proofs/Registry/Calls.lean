import Sensornet.Proofs.Registry.Freshness

namespace Sensornet
namespace Fixture
namespace Registry

/-!
# No key comes up twice

Rows are seeded, identifiers are reserved and keys are issued in any order.  A
call brings some keys: those that the rows have, the one that is reserved or the
one that is issued.  The texts that came up are taken and no others, and the
greatest integer is at least those that came up, so neither is issued again.

None of this depends on the digests, nor on what the random policy draws.  So
both come from a `Source` here, which may give any texts for them.  A registry
issues from the standard source.
-/

/-! ## Issuing from a source -/

/-- What identifiers are made of: the digest of a text, and what the random
policy draws. -/
structure Source where
  digest : String -> List Char
  draw : Nat -> List Char

/-- A call to a registry. -/
inductive Call where
  | seed (rows : List Row)
  | reserve (id : String)
  | make (kind : Record) (seed : String)
  | nextInteger

/-- An integer that is covered is at most the greatest one. -/
theorem le_of_covers {r : Registry} {value : Json.Value} (covers : r.Covers value) {n : Int}
    (read : Key.ofJson? value = some (.integer n)) : n ≤ r.lastInteger := by
  unfold Key.ofJson? at read
  split at read
  · cases read
  · split at read
    · next fits =>
      cases read
      exact covers fits
    · cases read
  · cases read

namespace Source

/-- Digests are taken by SHA-256, and the supply is counted through. -/
def standard (supply : Nat) : Source where
  digest := Digest.ofText
  draw n := base32 26 ((supply + n) % Nat.pow 2 128)

variable (source : Source)

section

variable (r : Registry) (kind : Record) (seed : String)

/-- What stands behind the hyphen at an attempt. -/
def body (attempt : Nat) : List Char :=
  match r.policy with
  | .deterministic =>
    (source.digest (kind.mark ++ "::" ++ seed ++ "::" ++
      String.ofList (Decimal.natural attempt))).take digestDigits
  | .random => source.draw (r.drawn + attempt)

/-- The identifier proposed at an attempt. -/
def candidate (attempt : Nat) : String :=
  kind.mark ++ String.ofList ('-' :: source.body r kind seed attempt)

/-- The attempt that is settled on. -/
def attempt : Nat :=
  search (fun attempt => r.isTaken (source.candidate r kind seed attempt)) maxAttempts 0

/-- Issue an identifier for what `seed` describes. -/
def make : String × Registry :=
  let attempt := source.attempt r kind seed
  let id := source.candidate r kind seed attempt
  let drawn :=
    match r.policy with
    | .deterministic => r.drawn
    | .random => r.drawn + attempt + 1
  (id, { r with taken := id :: r.taken, drawn })

end

/-- The registry after a call. -/
def perform (r : Registry) : Call -> Registry
  | .seed rows => r.seed rows
  | .reserve id => (r.reserve id).2
  | .make kind seed => (source.make r kind seed).2
  | .nextInteger => r.nextInteger.2

/-- The registry after some calls. -/
def run (r : Registry) (calls : List Call) : Registry :=
  calls.foldl source.perform r

/-- The keys that come up in a call. -/
def Brings (r : Registry) (key : Key) : Call -> Prop
  | .seed rows => ∃ row ∈ rows, Shows row key
  | .reserve id => key = .text id
  | .make kind seed => key = .text (source.make r kind seed).1
  | .nextInteger => key = .integer r.nextInteger.1

/-- The keys that come up in some calls, one after the other. -/
inductive Met (key : Key) : Registry -> List Call -> Prop where
  | now {r : Registry} {call : Call} {calls : List Call} (brought : source.Brings r key call) :
    Met key r (call :: calls)
  | later {r : Registry} {call : Call} {calls : List Call}
    (met : Met key (source.perform r call) calls) : Met key r (call :: calls)

theorem met_cons_iff {key : Key} {r : Registry} {call : Call} {calls : List Call} :
    source.Met key r (call :: calls) ↔
      source.Brings r key call ∨ source.Met key (source.perform r call) calls := by
  constructor
  · rintro (brought | met)
    · exact .inl brought
    · exact .inr met
  · rintro (brought | met)
    · exact .now brought
    · exact .later met

/-! ## The standard source -/

section

variable (r : Registry) (kind : Record) (seed : String)

theorem candidate_standard (attempt : Nat) :
    (standard r.supply).candidate r kind seed attempt = r.candidate kind seed attempt := by
  unfold candidate Registry.candidate body Registry.body supplied
  cases r.policy with
  | deterministic => rfl
  | random => rw [Nat.add_assoc r.supply]; rfl

/-- A registry issues from the standard source. -/
theorem make_standard : (standard r.supply).make r kind seed = r.make kind seed := by
  have settled : (standard r.supply).attempt r kind seed =
      r.firstFree kind seed maxAttempts 0 := by
    rw [firstFree_eq_search]
    simp only [attempt, candidate_standard]
  cases policy : r.policy <;>
    simp only [make, Registry.make, settled, candidate_standard, policy]

end

/-! ## Issuing one identifier -/

section

variable {source : Source} {r : Registry} {kind : Record} {seed : String}

/-- An identifier is issued at the first attempt that is free. -/
theorem make_least
    (free : ∃ attempt < maxAttempts, r.isTaken (source.candidate r kind seed attempt) = false) :
    ∃ attempt < maxAttempts,
      (source.make r kind seed).1 = source.candidate r kind seed attempt ∧
      r.isTaken (source.candidate r kind seed attempt) = false ∧
      ∀ earlier < attempt, r.isTaken (source.candidate r kind seed earlier) = true := by
  rcases free with ⟨n, within, free⟩
  let passed attempt := r.isTaken (source.candidate r kind seed attempt)
  rcases search_least passed within free with ⟨least, found⟩
  exact ⟨source.attempt r kind seed, least.trans_lt within, rfl, found,
    fun earlier early => passed_of_lt_search passed (Nat.zero_le earlier) early⟩

theorem hasMark_make (source : Source) (r : Registry) (kind mark : Record) (seed : String) :
    (Key.text (source.make r kind seed).1).hasMark mark = true ↔ kind = mark :=
  hasMark_marked_iff kind mark (source.body r kind seed (source.attempt r kind seed))

end

/-! ## Calls -/

section

variable (source : Source) (r : Registry)

theorem before_perform (call : Call) : r.Before (source.perform r call) := by
  match call with
  | .seed rows => exact .seed r rows
  | .reserve id => exact .reserve r id
  | .make kind seed =>
    refine ⟨rfl, rfl, ?_, List.suffix_cons _ _, le_rfl⟩
    simp only [perform, make]
    split <;> omega
  | .nextInteger => exact .issues .integer

theorem before_run (calls : List Call) : r.Before (source.run r calls) := by
  induction calls generalizing r with
  | nil => exact .refl r
  | cons call calls ih => exact (before_perform source r call).trans (ih (source.perform r call))

/-- A call makes those texts taken that it brings. -/
theorem isTaken_perform_iff (call : Call) (own : String) :
    (source.perform r call).isTaken own = true ↔
      r.isTaken own = true ∨ source.Brings r (.text own) call := by
  match call with
  | .seed rows => exact r.isTaken_seed_iff_shows rows own
  | .reserve chosen =>
    simp only [perform, reserve, Brings, Key.text.injEq]
    split
    · next taken => exact ⟨Or.inl, fun known => known.elim id fun same => same ▸ taken⟩
    · simp [isTaken, or_comm]
  | .make kind seed => simp [perform, make, Brings, isTaken, or_comm]
  | .nextInteger => simp [perform, Brings, nextInteger, isTaken]

theorem isTaken_run_iff (calls : List Call) (own : String) :
    (source.run r calls).isTaken own = true ↔
      r.isTaken own = true ∨ source.Met (.text own) r calls := by
  induction calls generalizing r with
  | nil => exact ⟨Or.inl, fun known => known.elim id fun met => nomatch met⟩
  | cons call calls ih =>
    have step : source.run r (call :: calls) = source.run (source.perform r call) calls := rfl
    rw [step, ih, isTaken_perform_iff, or_assoc, met_cons_iff]

end

variable {source : Source} {r : Registry} {n : Int}

/-- The greatest integer is at least those that a call brings. -/
theorem le_perform {call : Call} (brought : source.Brings r (.integer n) call) :
    n ≤ (source.perform r call).lastInteger := by
  match call with
  | .seed rows =>
    obtain ⟨row, member, shown⟩ := brought
    have covered := r.covers_seed member
    rcases shown with own | ⟨id, held, read⟩
    · exact le_of_covers covered.1 own
    · exact le_of_covers (covered.2 id held) read
  | .nextInteger =>
    cases brought
    exact le_refl (r.lastInteger + 1)

theorem le_run {calls : List Call} (met : source.Met (.integer n) r calls) :
    n ≤ (source.run r calls).lastInteger := by
  induction met with
  | now brought => exact (le_perform brought).trans (before_run source _ _).lastInteger
  | later met ih => exact ih

/-- After any calls, an identifier that can be issued is the first candidate that
is free, has the mark of its kind only and did not come up before, and what is
taken are the texts that came up.  The next integer is greater than those that
came up.  With the standard source this is what a registry issues itself. -/
theorem make_run_fresh (source : Source) (policy : Policy) (supply : Nat) (calls : List Call)
    (kind : Record) (seed : String) :
    let start := Registry.start policy supply
    let r := source.run start calls
    let id := (source.make r kind seed).1
    ((∃ attempt < maxAttempts, r.isTaken (source.candidate r kind seed attempt) = false) ->
      ¬ source.Met (.text id) start calls ∧
      ∃ attempt < maxAttempts, id = source.candidate r kind seed attempt ∧
        r.isTaken (source.candidate r kind seed attempt) = false ∧
        ∀ earlier < attempt, r.isTaken (source.candidate r kind seed earlier) = true) ∧
    (∀ mark, (Key.text id).hasMark mark = true ↔ kind = mark) ∧
    (∀ own, r.isTaken own = true ↔ source.Met (.text own) start calls) ∧
    (∀ n, source.Met (.integer n) start calls -> n < r.nextInteger.1) ∧
    (standard supply).make r kind seed = r.make kind seed := by
  intro start r id
  have taken : ∀ own, r.isTaken own = true ↔ source.Met (.text own) start calls := fun own =>
    (isTaken_run_iff source start calls own).trans (or_iff_right Bool.false_ne_true)
  have kept : r.supply = supply := (before_run source start calls).supply
  refine ⟨fun free => ?_, fun mark => hasMark_make source r kind mark seed, taken,
    fun n met => ?_, ?_⟩
  · rcases make_least free with ⟨attempt, within, settled, found, before⟩
    refine ⟨fun met => ?_, attempt, within, settled, found, before⟩
    have known : r.isTaken (source.make r kind seed).1 = true := (taken id).mpr met
    rw [settled, found] at known
    cases known
  · exact Int.lt_add_one_of_le (le_run met)
  · rw [← kept]
    exact make_standard r kind seed

/-- A row with a text as its key and an integer under `id`, an identifier that is
reserved, one that is issued, and an integer. -/
def mixedCalls : List Call :=
  [.seed [⟨Model.point, .text "p-a", [("id", Json.Value.integer 11)]⟩], .reserve "p-b",
    .make .point "x", .nextInteger]

/-- The same seed once more gets the candidate of the second attempt. -/
theorem make_run_fresh_mixedCalls :
    let start := Registry.start .deterministic 0
    let r := (standard 0).run start mixedCalls
    let id := (r.make .point "x").1
    r.taken = ["p-7931620f3768", "p-b", "p-a"] ∧ id = "p-f9d6cb41cf94" ∧
      ¬ (standard 0).Met (.text id) start mixedCalls ∧
      (∀ mark, (Key.text id).hasMark mark = true ↔ Record.point = mark) ∧
      (∀ n, (standard 0).Met (.integer n) start mixedCalls -> n < r.nextInteger.1) ∧
      r.nextInteger.1 = 13 := by
  intro start r id
  have fresh := make_run_fresh (standard 0) .deterministic 0 mixedCalls .point "x"
  have free : r.isTaken ((standard 0).candidate r .point "x" 1) = false := by decide +kernel
  have issued : ((standard 0).make r .point "x").1 = id := congrArg Prod.fst fresh.2.2.2.2
  refine ⟨by decide +kernel, by decide +kernel, ?_, ?_, fresh.2.2.2.1, by decide +kernel⟩
  · exact issued ▸ (fresh.1 ⟨1, by decide, free⟩).1
  · exact issued ▸ fresh.2.1

end Source

end Registry
end Fixture
end Sensornet
