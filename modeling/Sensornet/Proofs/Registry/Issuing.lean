import Mathlib.Order.MinMax
import Sensornet.Fixture.Registry

namespace Sensornet
namespace Fixture
namespace Registry

/-!
# What issuing does to a registry

Of the parts of a registry only three matter for keys: the policy, the texts
that are taken and the greatest integer.  Tokens change none of them, so a
registry before and after some tokens has the same keys.  Under the random
policy a token uses up a number of the supply, but the supply stays where it
is.  A key comes about in one of two ways, and `Issues` says what the registry
is afterwards.  A text is searched for attempt after attempt, and `search` is
what such a search does, whatever is passed over.

A text begins with the mark of what it is issued for, so texts for different
kinds of records never meet.  Under the deterministic policy a text depends on
the taken texts with its mark and on nothing else: two registries that agree on
these issue the same texts for the kind from then on, whatever else either of
them issues, and two that agree on all that is taken issue the same keys.  Rows
that carry their own key once more under `id` are seeded as if they had been
issued: what is taken are their texts, and the greatest integer is theirs.
-/

/-! ## Searching -/

/-- The first of `tries` numbers from `first` on that is not passed over. -/
def search (passed : Nat -> Bool) : Nat -> Nat -> Nat
  | 0, first => first
  | tries + 1, first => if passed first then search passed tries (first + 1) else first

section

variable (passed : Nat -> Bool)

/-- The number that is settled on is free, or all tries were in vain. -/
theorem search_free (tries first : Nat) :
    passed (search passed tries first) = false ∨ search passed tries first = first + tries := by
  induction tries generalizing first with
  | zero => exact Or.inr rfl
  | succ tries ih =>
    unfold search
    split
    · rcases ih (first + 1) with free | last
      · exact Or.inl free
      · refine Or.inr ?_
        rw [last]
        omega
    · next free => exact Or.inl (Bool.eq_false_iff.mpr free)

/-- Every number before the one that is settled on is passed over. -/
theorem passed_of_lt_search {tries first earlier : Nat} (start : first ≤ earlier)
    (before : earlier < search passed tries first) : passed earlier = true := by
  induction tries generalizing first with
  | zero =>
    unfold search at before
    omega
  | succ tries ih =>
    unfold search at before
    split at before
    · next skipped =>
      by_cases same : first = earlier
      · exact same ▸ skipped
      · exact ih (by omega) before
    · omega

/-- A search that can succeed does. -/
theorem search_least {tries n : Nat} (within : n < tries) (free : passed n = false) :
    search passed tries 0 ≤ n ∧ passed (search passed tries 0) = false := by
  have least : search passed tries 0 ≤ n := by
    by_contra later
    have skipped := passed_of_lt_search passed (Nat.zero_le n) (Nat.lt_of_not_le later)
    exact Bool.eq_false_iff.mp free skipped
  refine ⟨least, (search_free passed tries 0).resolve_right ?_⟩
  omega

end

theorem firstFree_eq_search (r : Registry) (kind : Record) (seed : String) (tries attempt : Nat) :
    r.firstFree kind seed tries attempt =
      search (fun attempt => r.isTaken (r.candidate kind seed attempt)) tries attempt := by
  induction tries generalizing attempt with
  | zero => rfl
  | succ tries ih => rw [Registry.firstFree, search, ih]

/-- The attempt that is settled on is free, or all tries were in vain. -/
theorem firstFree_free (r : Registry) (kind : Record) (seed : String) (tries attempt : Nat) :
    r.isTaken (r.candidate kind seed (r.firstFree kind seed tries attempt)) = false ∨
      r.firstFree kind seed tries attempt = attempt + tries := by
  rw [firstFree_eq_search]
  exact search_free (fun attempt => r.isTaken (r.candidate kind seed attempt)) tries attempt

/-- What is issued was free, if some attempt is. -/
theorem isTaken_id_make {r : Registry} {kind : Record} {seed : String} {attempt : Nat}
    (within : attempt < maxAttempts) (free : r.isTaken (r.candidate kind seed attempt) = false) :
    r.isTaken (r.make kind seed).1 = false := by
  let passed attempt := r.isTaken (r.candidate kind seed attempt)
  have found : passed (search passed maxAttempts 0) = false := (search_least passed within free).2
  rwa [← firstFree_eq_search] at found

/-! ## What stays the same -/

/-- Two registries with the same keys, whatever tokens were issued. -/
structure SameKeys (r other : Registry) : Prop where
  policy : other.policy = r.policy
  taken : other.taken = r.taken
  lastInteger : other.lastInteger = r.lastInteger
  supply : other.supply = r.supply
  drawn : r.drawn ≤ other.drawn

namespace SameKeys

theorem refl (r : Registry) : SameKeys r r := ⟨rfl, rfl, rfl, rfl, le_rfl⟩

theorem trans {first second third : Registry} (before : SameKeys first second)
    (after : SameKeys second third) : SameKeys first third :=
  ⟨after.policy.trans before.policy, after.taken.trans before.taken,
    after.lastInteger.trans before.lastInteger, after.supply.trans before.supply,
    before.drawn.trans after.drawn⟩

/-- Tokens are no keys. -/
theorem token (r : Registry) (seed : String) : SameKeys r (r.token seed).2 := by
  unfold Registry.token
  split
  · exact ⟨rfl, rfl, rfl, rfl, le_rfl⟩
  · exact ⟨rfl, rfl, rfl, rfl, Nat.le_succ _⟩

end SameKeys

/-- A key that was issued, and the registry afterwards. -/
inductive Issues (r : Registry) : Key -> Registry -> Prop where
  | text (kind : Record) (seed : String) :
      Issues r (.text (r.make kind seed).1) (r.make kind seed).2
  | integer : Issues r (.integer r.nextInteger.1) r.nextInteger.2

theorem Issues.policy {r after : Registry} {key : Key} (issued : r.Issues key after) :
    after.policy = r.policy := by
  cases issued <;> rfl

/-! ## Keys of one kind of record -/

section

variable {kind : Record} {r other later otherLater : Registry}

/-- What is put behind the mark and the hyphen does not matter. -/
theorem hasMark_marked_iff (kind mark : Record) (body : List Char) :
    (Key.text (kind.mark ++ String.ofList ('-' :: body))).hasMark mark = true ↔ kind = mark := by
  have text : (kind.mark ++ String.ofList ('-' :: body)).toList =
      kind.mark.toList ++ '-' :: body := by
    rw [String.toList_append, String.toList_ofList]
  unfold Key.hasMark
  dsimp only
  rw [text]
  -- no mark with its hyphen begins another one
  cases kind <;> cases mark <;> simp [Record.mark, List.isPrefixOf]

theorem hasMark_candidate_iff (r : Registry) (kind mark : Record) (seed : String) (attempt : Nat) :
    (Key.text (r.candidate kind seed attempt)).hasMark mark = true ↔ kind = mark :=
  hasMark_marked_iff kind mark (r.body kind seed attempt)

theorem hasMark_candidate (r : Registry) (kind : Record) (seed : String) (attempt : Nat) :
    (Key.text (r.candidate kind seed attempt)).hasMark kind = true :=
  (hasMark_candidate_iff r kind kind seed attempt).mpr rfl

/-- Between two registries nothing is issued for a kind of record. -/
structure Spares (kind : Record) (r later : Registry) : Prop where
  policy : later.policy = r.policy
  taken : ∀ id, (Key.text id).hasMark kind = true -> later.isTaken id = r.isTaken id

namespace Spares

theorem refl (kind : Record) (r : Registry) : Spares kind r r :=
  ⟨rfl, fun _ _ => rfl⟩

theorem trans {first second third : Registry} (before : Spares kind first second)
    (after : Spares kind second third) : Spares kind first third :=
  ⟨after.policy.trans before.policy, fun id own => (after.taken id own).trans (before.taken id own)⟩

theorem same (keys : SameKeys r later) : Spares kind r later := by
  refine ⟨keys.policy, fun id _ => ?_⟩
  unfold isTaken
  rw [keys.taken]

theorem nextInteger (kind : Record) (r : Registry) : Spares kind r r.nextInteger.2 :=
  ⟨rfl, fun _ _ => rfl⟩

theorem make (r : Registry) {issued : Record} (different : issued ≠ kind) (seed : String) :
    Spares kind r (r.make issued seed).2 := by
  refine ⟨rfl, fun id own => ?_⟩
  rw [Bool.eq_iff_iff, isTaken_make_iff]
  refine ⟨fun among => among.resolve_left ?_, Or.inr⟩
  rintro rfl
  exact different ((hasMark_candidate_iff r issued kind seed _).mp own)

end Spares

/-- Two registries that issue the same texts for a kind of record. -/
structure AgreesOn (kind : Record) (r other : Registry) : Prop where
  policy : r.policy = .deterministic
  otherPolicy : other.policy = .deterministic
  taken : ∀ id, (Key.text id).hasMark kind = true -> other.isTaken id = r.isTaken id

namespace AgreesOn

variable (agree : AgreesOn kind r other)
include agree

theorem apart (left : Spares kind r later) (right : Spares kind other otherLater) :
    AgreesOn kind later otherLater where
  policy := left.policy.trans agree.policy
  otherPolicy := right.policy.trans agree.otherPolicy
  taken id own := by rw [left.taken id own, right.taken id own, agree.taken id own]

theorem candidate (seed : String) (attempt : Nat) :
    other.candidate kind seed attempt = r.candidate kind seed attempt := by
  unfold Registry.candidate body
  rw [agree.policy, agree.otherPolicy]

theorem firstFree (seed : String) (tries attempt : Nat) :
    other.firstFree kind seed tries attempt = r.firstFree kind seed tries attempt := by
  induction tries generalizing attempt with
  | zero => rfl
  | succ tries ih =>
    unfold Registry.firstFree
    rw [agree.candidate, agree.taken _ (hasMark_candidate r kind seed attempt), ih]

theorem id_make (seed : String) : (other.make kind seed).1 = (r.make kind seed).1 := by
  unfold Registry.make
  dsimp only
  rw [agree.firstFree, agree.candidate]

theorem make (seed : String) : AgreesOn kind (r.make kind seed).2 (other.make kind seed).2 where
  policy := agree.policy
  otherPolicy := agree.otherPolicy
  taken id own := by
    rw [Bool.eq_iff_iff, isTaken_make_iff, isTaken_make_iff, agree.id_make, agree.taken id own]

end AgreesOn

end

/-! ## Registries that issue the same keys -/

/-- Two registries of the deterministic policy that take the same texts for
taken and go on from the same integer. -/
structure Agrees (r other : Registry) : Prop where
  policy : r.policy = .deterministic
  otherPolicy : other.policy = .deterministic
  taken : ∀ id, other.isTaken id = r.isTaken id
  lastInteger : other.lastInteger = r.lastInteger

namespace Agrees

variable {r other : Registry} (agree : Agrees r other)
include agree

theorem on (kind : Record) : AgreesOn kind r other :=
  ⟨agree.policy, agree.otherPolicy, fun id _ => agree.taken id⟩

theorem id_make (kind : Record) (seed : String) :
    (other.make kind seed).1 = (r.make kind seed).1 :=
  (agree.on kind).id_make seed

theorem make (kind : Record) (seed : String) :
    Agrees (r.make kind seed).2 (other.make kind seed).2 where
  policy := agree.policy
  otherPolicy := agree.otherPolicy
  taken id := by
    rw [Bool.eq_iff_iff, isTaken_make_iff, isTaken_make_iff, agree.id_make, agree.taken]
  lastInteger := agree.lastInteger

theorem integer_eq : other.nextInteger.1 = r.nextInteger.1 :=
  congrArg (· + 1) agree.lastInteger

theorem nextInteger : Agrees r.nextInteger.2 other.nextInteger.2 :=
  ⟨agree.policy, agree.otherPolicy, agree.taken, agree.integer_eq⟩

/-- Tokens drawn on one side or the other make no difference. -/
theorem same {later otherLater : Registry} (left : SameKeys r later)
    (right : SameKeys other otherLater) : Agrees later otherLater where
  policy := left.policy.trans agree.policy
  otherPolicy := right.policy.trans agree.otherPolicy
  taken id := by
    unfold isTaken
    rw [left.taken, right.taken]
    exact agree.taken id
  lastInteger := by
    rw [left.lastInteger, right.lastInteger]
    exact agree.lastInteger

end Agrees

/-! ## Seeding -/

/-- A row that carries its key under `id` as well. -/
def CarriesKey (row : Row) : Prop :=
  row.field? "id" = some row.key.toJson

/-- A key that a row has as its key or under `id`. -/
def Shows (row : Row) (key : Key) : Prop :=
  Key.ofJson? row.key.toJson = some key ∨
    ∃ id, row.field? "id" = some id ∧ Key.ofJson? id = some key

section

variable (r : Registry) {row : Row}

/-- The key of such a row is seen twice. -/
theorem observeRow_eq (carries : CarriesKey row) :
    r.observeRow row = (r.observe row.key.toJson).observe row.key.toJson := by
  have held : row.field? "id" = some row.key.toJson := carries
  unfold observeRow
  simp only [held]

theorem isTaken_observe_iff (value : Json.Value) (id : String) :
    (r.observe value).isTaken id = true ↔
      r.isTaken id = true ∨ Key.ofJson? value = some (.text id) := by
  cases value with
  | text own =>
    have seen : r.observe (.text own) = { r with taken := own :: r.taken } := rfl
    rw [seen, Key.ofJson?, Option.some.injEq, Key.text.injEq]
    unfold isTaken
    rw [List.contains_cons, Bool.or_eq_true, beq_iff_eq]
    exact or_comm.trans (or_congr_right eq_comm)
  | number n =>
    cases n with
    | integer n =>
      have seen : (r.observe (.number (.integer n))).taken = r.taken := by
        simp only [observe]
        split <;> rfl
      unfold isTaken
      rw [seen]
      simp [Key.ofJson?]
    | float x => simp [observe, Key.ofJson?]
  | null | bool | array | object => simp [observe, Key.ofJson?]

theorem isTaken_observeRow_iff (row : Row) (id : String) :
    (r.observeRow row).isTaken id = true ↔ r.isTaken id = true ∨ Shows row (.text id) := by
  unfold observeRow Shows
  dsimp only
  split
  · next value held => simp [isTaken_observe_iff, held, or_assoc]
  · next missing => simp [isTaken_observe_iff, missing]

/-- After seeding, the texts that rows show are taken. -/
theorem isTaken_seed_iff_shows (rows : List Row) (id : String) :
    (r.seed rows).isTaken id = true ↔
      r.isTaken id = true ∨ ∃ row ∈ rows, Shows row (.text id) := by
  induction rows generalizing r with
  | nil => simp [seed]
  | cons row rest ih =>
    have step : r.seed (row :: rest) = (r.observeRow row).seed rest := rfl
    simp only [step, ih (r.observeRow row), isTaken_observeRow_iff, or_assoc, List.mem_cons,
      exists_eq_or_imp]

theorem lastInteger_observeRow_of_text (carries : CarriesKey row) {own : String}
    (key : row.key = .text own) : (r.observeRow row).lastInteger = r.lastInteger := by
  rw [r.observeRow_eq carries, key]
  rfl

theorem lastInteger_observeRow_of_integer (carries : CarriesKey row) {n : Int}
    (key : row.key = .integer n) (fits : Word.fitsSigned n = true) :
    (r.observeRow row).lastInteger = max r.lastInteger n := by
  rw [r.observeRow_eq carries, key]
  simp only [Key.toJson, Json.Value.integer, observe, fits, if_true, max_assoc, max_self]

theorem policy_observeRow (row : Row) : (r.observeRow row).policy = r.policy := by
  have observed : ∀ (r : Registry) (value : Json.Value), (r.observe value).policy = r.policy := by
    intro r value
    unfold observe
    split
    · rfl
    · split <;> rfl
    · rfl
  unfold observeRow
  dsimp only
  split
  · rw [observed, observed]
  · rw [observed]

theorem policy_seed (rows : List Row) : (r.seed rows).policy = r.policy := by
  induction rows generalizing r with
  | nil => rfl
  | cons row rest ih => exact (ih (r.observeRow row)).trans (r.policy_observeRow row)

theorem shows_text_iff (carries : CarriesKey row) (id : String) :
    Shows row (.text id) ↔ .text id = row.key := by
  have held : row.field? "id" = some row.key.toJson := carries
  have read : Key.ofJson? row.key.toJson = some (.text id) ↔ .text id = row.key := by
    cases row.key with
    | text own => simp [Key.toJson, Key.ofJson?, eq_comm]
    | integer n => simp [Key.toJson, Json.Value.integer, Key.ofJson?]
  simp only [Shows, held, Option.some.injEq, exists_eq_left', read, or_self]

/-- After seeding, the texts of the rows are taken and no others. -/
theorem isTaken_seed_iff {rows : List Row} (carries : ∀ row ∈ rows, CarriesKey row) (id : String) :
    (r.seed rows).isTaken id = true ↔ r.isTaken id = true ∨ .text id ∈ rows.map Row.key := by
  have shown : (∃ row ∈ rows, Shows row (.text id)) ↔ .text id ∈ rows.map Row.key := by
    rw [List.mem_map]
    exact exists_congr fun row => and_congr_right fun member =>
      (shows_text_iff (carries row member) id).trans eq_comm
  rw [isTaken_seed_iff_shows, shown]

/-- After seeding, the greatest integer is at least that of every row, and it
is that of some row unless it is the one from before. -/
theorem lastInteger_seed {rows : List Row} (carries : ∀ row ∈ rows, CarriesKey row)
    (fits : ∀ n, .integer n ∈ rows.map Row.key -> Word.fitsSigned n = true) :
    r.lastInteger ≤ (r.seed rows).lastInteger ∧
      (∀ n, .integer n ∈ rows.map Row.key -> n ≤ (r.seed rows).lastInteger) ∧
      ((r.seed rows).lastInteger = r.lastInteger ∨
        .integer (r.seed rows).lastInteger ∈ rows.map Row.key) := by
  induction rows generalizing r with
  | nil => exact ⟨le_rfl, fun n among => absurd among List.not_mem_nil, Or.inl rfl⟩
  | cons row rest ih =>
    have step : r.seed (row :: rest) = (r.observeRow row).seed rest := rfl
    have first := carries row List.mem_cons_self
    rcases ih (r.observeRow row) (fun other later => carries other (List.mem_cons_of_mem row later))
      (fun n later => fits n (List.mem_cons_of_mem row.key later)) with ⟨least, greatest, attained⟩
    simp only [List.map_cons, List.mem_cons] at fits ⊢
    rw [step]
    cases key : row.key with
    | text own =>
      rw [r.lastInteger_observeRow_of_text first key] at least attained
      refine ⟨least, fun n among => ?_, ?_⟩
      · rcases among with same | later
        · cases same
        · exact greatest n later
      · rcases attained with same | later
        · exact Or.inl same
        · exact Or.inr (Or.inr later)
    | integer n =>
      have own := r.lastInteger_observeRow_of_integer first key (fits n (Or.inl key.symm))
      rw [own] at least attained
      refine ⟨(le_max_left _ _).trans least, fun m among => ?_, ?_⟩
      · rcases among with same | later
        · cases same
          exact (le_max_right _ _).trans least
        · exact greatest m later
      · rcases attained with same | later
        · rcases max_choice r.lastInteger n with old | new
          · exact Or.inl (same.trans old)
          · exact Or.inr (Or.inl (congrArg Key.integer (same.trans new)))
        · exact Or.inr (Or.inr later)

end

end Registry
end Fixture
end Sensornet
