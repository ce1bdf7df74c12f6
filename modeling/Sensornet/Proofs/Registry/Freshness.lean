import Mathlib.Data.List.GetD
import Mathlib.Data.List.Nodup
import Mathlib.Data.Nat.ModEq
import Sensornet.Proofs.Registry.Issuing

namespace Sensornet
namespace Fixture
namespace Registry

/-!
# Keys that are free

The search for a text key tries candidate after candidate and stops at the
first that is free, so what it finds is free unless all candidates are taken.
`CanName` says of a purpose that they are not: among the texts taken now one
candidate is free, wherever in the supply the search may have begun.  As a
registry only takes more texts, this is a statement about all searches for the
purpose so far.

A registry that took note of some rows covers what they have as keys and under
`id`, and a key that it issues afterwards is none of these.
-/

/-- What issuing does to a registry, step after step. -/
structure Before (r later : Registry) : Prop where
  policy : later.policy = r.policy
  supply : later.supply = r.supply
  drawn : r.drawn ≤ later.drawn
  taken : r.taken <:+ later.taken
  lastInteger : r.lastInteger ≤ later.lastInteger

namespace Before

theorem refl (r : Registry) : Before r r := ⟨rfl, rfl, le_rfl, List.suffix_refl _, le_rfl⟩

theorem trans {first second third : Registry} (before : Before first second)
    (after : Before second third) : Before first third where
  policy := after.policy.trans before.policy
  supply := after.supply.trans before.supply
  drawn := before.drawn.trans after.drawn
  taken := before.taken.trans after.taken
  lastInteger := before.lastInteger.trans after.lastInteger

theorem same {r other : Registry} (keys : SameKeys r other) : Before r other where
  policy := keys.policy
  supply := keys.supply
  drawn := keys.drawn
  taken := keys.taken ▸ List.suffix_refl _
  lastInteger := keys.lastInteger.ge

theorem issues {r after : Registry} {key : Key} (issued : r.Issues key after) :
    Before r after := by
  cases issued with
  | text kind seed =>
    refine ⟨rfl, rfl, ?_, List.suffix_cons _ _, le_rfl⟩
    unfold make
    dsimp only
    split <;> omega
  | integer =>
    have next : r.nextInteger.2.lastInteger = r.lastInteger + 1 := rfl
    exact ⟨rfl, rfl, le_rfl, List.suffix_refl _, by omega⟩

theorem observe (r : Registry) (value : Json.Value) : Before r (r.observe value) := by
  unfold Registry.observe
  split
  · exact ⟨rfl, rfl, le_rfl, List.suffix_cons _ _, le_rfl⟩
  · split
    · exact ⟨rfl, rfl, le_rfl, List.suffix_refl _, le_max_left _ _⟩
    · exact refl r
  · exact refl r

theorem observeRow (r : Registry) (row : Row) : Before r (r.observeRow row) := by
  unfold Registry.observeRow
  dsimp only
  split
  · exact (observe r _).trans (observe _ _)
  · exact observe r _

theorem seed (r : Registry) (rows : List Row) : Before r (r.seed rows) := by
  induction rows generalizing r with
  | nil => exact refl r
  | cons row rest ih => exact (observeRow r row).trans (ih (r.observeRow row))

theorem reserve (r : Registry) (id : String) : Before r (r.reserve id).2 := by
  unfold Registry.reserve
  split
  · exact refl r
  · exact ⟨rfl, rfl, le_rfl, List.suffix_cons _ _, le_rfl⟩

end Before

/-! ## Searching -/

/-- Some candidate for a purpose is free, wherever in the supply the search
began. -/
def CanName (r : Registry) (kind : Record) (seed : String) : Prop :=
  ∀ drawn ≤ r.drawn, ∃ attempt < maxAttempts,
    r.isTaken ({ r with drawn }.candidate kind seed attempt) = false

variable {r later : Registry} {kind : Record} {seed : String}

theorem candidate_eq (before : r.Before later) (drawn attempt : Nat) :
    ({ later with drawn } : Registry).candidate kind seed attempt =
      ({ r with drawn } : Registry).candidate kind seed attempt := by
  unfold candidate body supplied
  simp only [before.policy, before.supply]

/-- What can be named at last could be named all along. -/
theorem CanName.before (can : later.CanName kind seed) (before : r.Before later) :
    r.CanName kind seed := by
  intro drawn few
  rcases can drawn (few.trans before.drawn) with ⟨attempt, within, free⟩
  refine ⟨attempt, within, ?_⟩
  rw [candidate_eq before] at free
  apply Bool.eq_false_iff.mpr
  intro taken
  have still := before.taken.subset (List.contains_iff_mem.mp taken)
  exact Bool.eq_false_iff.mp free (List.contains_iff_mem.mpr still)

/-- What can be named gets a free key. -/
theorem CanName.not_mem (can : r.CanName kind seed) : (r.make kind seed).1 ∉ r.taken := by
  intro member
  have taken : r.isTaken (r.make kind seed).1 = true := List.contains_iff_mem.mpr member
  rcases can r.drawn le_rfl with ⟨attempt, within, free⟩
  exact Bool.eq_false_iff.mp (isTaken_id_make within free) taken

/-- Digests do not depend on the supply, so one free candidate is enough. -/
theorem canName_of_deterministic (policy : r.policy = .deterministic) {attempt : Nat}
    (within : attempt < maxAttempts) (free : r.isTaken (r.candidate kind seed attempt) = false) :
    r.CanName kind seed := by
  intro drawn few
  have same : ({ r with drawn } : Registry).candidate kind seed attempt =
      r.candidate kind seed attempt := by
    unfold candidate body
    simp only [policy]
  exact ⟨attempt, within, same ▸ free⟩

/-! ## Enough random numbers -/

theorem getD_base32Digits_inj {m n : Nat} (small : m < 32) (smallToo : n < 32)
    (same : base32Digits.getD m '0' = base32Digits.getD n '0') : m = n := by
  have unique : base32Digits.Nodup := by decide
  have length : base32Digits.length = 32 := by decide
  rw [List.getD_eq_getElem _ _ (length ▸ small), List.getD_eq_getElem _ _ (length ▸ smallToo)]
    at same
  exact (unique.getElem_inj_iff).mp same

/-- Numbers with the same digits are the same, as far as the digits go. -/
theorem mod_eq_of_base32 {count m n : Nat} (same : base32 count m = base32 count n) :
    m % 32 ^ count = n % 32 ^ count := by
  have digits : ∀ place < count, m / 32 ^ place % 32 = n / 32 ^ place % 32 := by
    intro place within
    have own : count - 1 - (count - 1 - place) = place := by omega
    have there : count - 1 - place < count := by omega
    have here := congrArg (fun digits => digits[count - 1 - place]?) same
    unfold base32 at here
    simp only [List.getElem?_map, List.getElem?_range there, Option.map_some, Option.some.injEq,
      own] at here
    exact getD_base32Digits_inj (Nat.mod_lt _ (by decide)) (Nat.mod_lt _ (by decide)) here
  clear same
  induction count with
  | zero => simp [Nat.mod_one]
  | succ count ih =>
    have lower := ih fun place within => digits place (Nat.lt_succ_of_lt within)
    rw [Nat.mod_pow_succ, Nat.mod_pow_succ, lower, digits count (Nat.lt_succ_self count)]

/-- Different attempts of the random policy have different candidates. -/
theorem candidate_random_inj {r : Registry} (policy : r.policy = .random) {kind : Record}
    {seed : String} {first second : Nat} (small : first < 2 ^ 128) (smallToo : second < 2 ^ 128)
    (same : r.candidate kind seed first = r.candidate kind seed second) : first = second := by
  have bodies : base32 26 (r.supplied first) = base32 26 (r.supplied second) := by
    have texts := congrArg String.toList same
    unfold candidate body at texts
    simp only [policy, String.toList_append, String.toList_ofList] at texts
    exact List.tail_eq_of_cons_eq (List.append_cancel_left texts)
  have below : ∀ attempt, r.supplied attempt < 32 ^ 26 := fun attempt =>
    (Nat.mod_lt _ (by decide)).trans (by decide)
  have numbers := mod_eq_of_base32 bodies
  rw [Nat.mod_eq_of_lt (below first), Nat.mod_eq_of_lt (below second)] at numbers
  unfold supplied at numbers
  exact (Nat.ModEq.add_left_cancel' _ numbers).eq_of_lt_of_lt small smallToo

/-- More attempts than taken keys include a free one. -/
theorem exists_free_random {r : Registry} (policy : r.policy = .random) (kind : Record)
    (seed : String) {tries : Nat} (bound : tries ≤ 2 ^ 128) (few : r.taken.length < tries) :
    ∃ attempt < tries, r.isTaken (r.candidate kind seed attempt) = false := by
  by_contra none
  push Not at none
  have unique : ((List.range tries).map (r.candidate kind seed)).Nodup := by
    refine List.Nodup.map_on (fun first small second smallToo same => ?_) List.nodup_range
    rw [List.mem_range] at small smallToo
    exact candidate_random_inj policy (small.trans_le bound) (smallToo.trans_le bound) same
  have within : (List.range tries).map (r.candidate kind seed) ⊆ r.taken := by
    intro id listed
    rcases List.mem_map.mp listed with ⟨attempt, small, rfl⟩
    have taken := Bool.eq_true_of_not_eq_false (none attempt (List.mem_range.mp small))
    exact List.contains_iff_mem.mp taken
  have length := unique.length_le_of_subset within
  rw [List.length_map, List.length_range] at length
  omega

/-- Random candidates are all different, so it takes as many keys as there are
attempts to make the search fail. -/
theorem canName_of_random {r : Registry} (policy : r.policy = .random)
    (few : r.taken.length < maxAttempts) (kind : Record) (seed : String) : r.CanName kind seed := by
  intro drawn _
  exact exists_free_random (r := { r with drawn }) policy kind seed (by decide) few

/-! ## What is covered -/

/-- A value that some row has as its key or under `id` is known. -/
def Covers (r : Registry) : Json.Value -> Prop
  | .text id => id ∈ r.taken
  | .number (.integer n) => Word.fitsSigned n = true -> n ≤ r.lastInteger
  | _ => True

theorem Covers.mono {value : Json.Value} (covers : r.Covers value) (before : r.Before later) :
    later.Covers value := by
  unfold Covers at covers ⊢
  split
  · exact before.taken.subset covers
  · exact fun fits => (covers fits).trans before.lastInteger
  · trivial

theorem covers_observe (r : Registry) (value : Json.Value) : (r.observe value).Covers value := by
  unfold Covers
  split
  · exact List.mem_cons_self
  · next n =>
    intro fits
    have seen : (r.observe (.number (.integer n))).lastInteger = max r.lastInteger n := by
      simp only [observe, fits, if_true]
    exact seen ▸ le_max_right _ _
  · trivial

theorem covers_observeRow (r : Registry) (row : Row) :
    (r.observeRow row).Covers row.key.toJson ∧
      ∀ id, row.field? "id" = some id -> (r.observeRow row).Covers id := by
  have key := r.covers_observe row.key.toJson
  unfold observeRow
  dsimp only
  split
  · next id held =>
    refine ⟨key.mono (.observe _ _), fun other same => ?_⟩
    cases held.symm.trans same
    exact covers_observe _ id
  · next missing =>
    refine ⟨key, fun other same => ?_⟩
    cases missing.symm.trans same

/-- After seeding, keys and ids of all rows are covered. -/
theorem covers_seed (r : Registry) {rows : List Row} {row : Row} (member : row ∈ rows) :
    (r.seed rows).Covers row.key.toJson ∧
      ∀ id, row.field? "id" = some id -> (r.seed rows).Covers id := by
  induction rows generalizing r with
  | nil => cases member
  | cons first rest ih =>
    rcases List.mem_cons.mp member with rfl | among
    · rcases r.covers_observeRow row with ⟨key, ids⟩
      have after := Before.seed (r.observeRow row) rest
      exact ⟨key.mono after, fun id held => (ids id held).mono after⟩
    · exact ih (r.observeRow first) among

/-- A free text is covered by nothing. -/
theorem ne_text_of_covers {value : Json.Value} (covers : r.Covers value) {id : String}
    (free : id ∉ r.taken) : value ≠ (Key.text id).toJson := by
  rintro rfl
  exact free covers

/-- A greater integer is covered by nothing. -/
theorem ne_integer_of_covers {value : Json.Value} (covers : r.Covers value) {n : Int}
    (fits : Word.fitsSigned n = true) (greater : r.lastInteger < n) :
    value ≠ (Key.integer n).toJson := by
  rintro rfl
  have known : n ≤ r.lastInteger := covers fits
  omega

end Registry
end Fixture
end Sensornet
