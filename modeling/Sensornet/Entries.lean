namespace Sensornet

/-!
# Insertion-ordered tables

A table is a list of pairs in the order in which its keys were first written.
Writing a key that is present replaces its value and keeps its place; a new
key goes to the end.  Nothing in the type forbids a repeated key, because
objects inside a JSON value are plain lists of pairs.  `Entries.Distinct` is
the separate obligation: `distinct_insert` and `distinct_erase` say that it is
kept.  Look-up reads the first pair of a key either way.
-/

namespace Entries

variable {Key Value : Type} [DecidableEq Key]

/-- The value of the first pair with this key. -/
def get? (key : Key) : List (Key × Value) -> Option Value
  | [] => none
  | (k, v) :: rest => if k = key then some v else get? key rest

/-- Whether some pair has this key. -/
def contains (key : Key) (entries : List (Key × Value)) : Bool :=
  (get? key entries).isSome

/-- Write a value: in place for a known key, at the end for a new one. -/
def insert (key : Key) (value : Value) : List (Key × Value) -> List (Key × Value)
  | [] => [(key, value)]
  | (k, v) :: rest => if k = key then (k, value) :: rest else (k, v) :: insert key value rest

/-- Write all pairs of `more`, in their order. -/
def insertAll (entries more : List (Key × Value)) : List (Key × Value) :=
  more.foldl (fun table entry => insert entry.1 entry.2 table) entries

/-- The entries under other keys, in their order. -/
def erase (key : Key) (entries : List (Key × Value)) : List (Key × Value) :=
  entries.filter fun entry => !decide (entry.1 = key)

/-- The keys in the order of their places. -/
def keys (entries : List (Key × Value)) : List Key :=
  entries.map Prod.fst

/-- No key has two places. -/
def Distinct (entries : List (Key × Value)) : Prop :=
  (keys entries).Nodup

@[simp] theorem get?_nil (key : Key) : get? key ([] : List (Key × Value)) = none := rfl

theorem get?_insert_self (key : Key) (value : Value) (entries : List (Key × Value)) :
    get? key (insert key value entries) = some value := by
  induction entries with
  | nil => simp [insert, get?]
  | cons entry rest ih =>
    obtain ⟨k, v⟩ := entry
    by_cases h : k = key <;> simp [insert, get?, h, ih]

theorem get?_insert_of_ne {key other : Key} (different : other ≠ key) (value : Value)
    (entries : List (Key × Value)) :
    get? other (insert key value entries) = get? other entries := by
  induction entries with
  | nil => simp [insert, get?, Ne.symm different]
  | cons entry rest ih =>
    obtain ⟨k, v⟩ := entry
    by_cases h : k = key
    · subst h
      simp [insert, get?, Ne.symm different]
    · rw [insert, if_neg h, get?, get?, ih]

/-- A pair under a new key goes to the end. -/
theorem insert_of_unknown {key : Key} {entries : List (Key × Value)}
    (unknown : get? key entries = none) (value : Value) :
    insert key value entries = entries ++ [(key, value)] := by
  induction entries with
  | nil => rfl
  | cons entry rest ih =>
    obtain ⟨k, v⟩ := entry
    rw [get?] at unknown
    split at unknown
    · cases unknown
    · next other => rw [insert, if_neg other, ih unknown, List.cons_append]

theorem keys_insert_of_mem {key : Key} {entries : List (Key × Value)}
    (known : key ∈ keys entries) (value : Value) :
    keys (insert key value entries) = keys entries := by
  induction entries with
  | nil => simp [keys] at known
  | cons entry rest ih =>
    obtain ⟨k, v⟩ := entry
    by_cases h : k = key
    · simp [insert, keys, h]
    · have inRest : key ∈ keys rest := by
        simpa [keys, Ne.symm h] using known
      simpa [insert, keys, h] using ih inRest

theorem keys_insert_of_not_mem {key : Key} {entries : List (Key × Value)}
    (fresh : key ∉ keys entries) (value : Value) :
    keys (insert key value entries) = keys entries ++ [key] := by
  induction entries with
  | nil => simp [insert, keys]
  | cons entry rest ih =>
    obtain ⟨k, v⟩ := entry
    simp only [keys, List.map_cons, List.mem_cons, not_or] at fresh
    have h : k ≠ key := fun equal => fresh.1 equal.symm
    simpa [insert, keys, h] using ih (by simpa [keys] using fresh.2)

theorem mem_keys_insert {key other : Key} {value : Value} {entries : List (Key × Value)} :
    other ∈ keys (insert key value entries) ↔ other = key ∨ other ∈ keys entries := by
  by_cases known : key ∈ keys entries
  · rw [keys_insert_of_mem known]
    constructor
    · exact Or.inr
    · rintro (rfl | member)
      · exact known
      · exact member
  · rw [keys_insert_of_not_mem known, List.mem_append, List.mem_singleton]
    exact Or.comm

/-- What is found under a key is one of the pairs. -/
theorem mem_of_get? {key : Key} {value : Value} {entries : List (Key × Value)}
    (found : get? key entries = some value) : (key, value) ∈ entries := by
  induction entries with
  | nil => cases found
  | cons entry rest ih =>
    obtain ⟨k, v⟩ := entry
    by_cases h : k = key
    · rw [get?, if_pos h] at found
      cases h
      cases found
      exact List.mem_cons_self
    · rw [get?, if_neg h] at found
      exact List.mem_cons_of_mem _ (ih found)

/-- What stands in a table after a value was written. -/
theorem mem_insert {key : Key} {value : Value} {entries : List (Key × Value)} {entry : Key × Value}
    (member : entry ∈ insert key value entries) : entry = (key, value) ∨ entry ∈ entries := by
  induction entries with
  | nil => exact Or.inl (List.mem_singleton.mp member)
  | cons first rest ih =>
    obtain ⟨k, v⟩ := first
    rw [insert] at member
    split at member
    · next same =>
      rcases List.mem_cons.mp member with rfl | later
      · exact Or.inl (same ▸ rfl)
      · exact Or.inr (List.mem_cons_of_mem _ later)
    · rcases List.mem_cons.mp member with rfl | later
      · exact Or.inr List.mem_cons_self
      · exact (ih later).imp_right (List.mem_cons_of_mem _)

/-- Only the pair that is found under the key gives way when a value is
written. -/
theorem mem_insert_of_mem {key : Key} {value : Value} {entries : List (Key × Value)}
    {entry : Key × Value} (member : entry ∈ entries) :
    entry ∈ insert key value entries ∨ entry.1 = key ∧ get? key entries = some entry.2 := by
  induction entries with
  | nil => cases member
  | cons first rest ih =>
    obtain ⟨k, v⟩ := first
    rw [insert, get?]
    split
    · next same =>
      rcases List.mem_cons.mp member with rfl | later
      · exact Or.inr ⟨same, rfl⟩
      · exact Or.inl (List.mem_cons_of_mem _ later)
    · rcases List.mem_cons.mp member with rfl | later
      · exact Or.inl List.mem_cons_self
      · exact (ih later).imp_left (List.mem_cons_of_mem _)

theorem get?_eq_none_iff {key : Key} {entries : List (Key × Value)} :
    get? key entries = none ↔ key ∉ keys entries := by
  induction entries with
  | nil => simp [keys]
  | cons entry rest ih =>
    obtain ⟨k, v⟩ := entry
    by_cases h : k = key
    · simp [get?, keys, h]
    · have absent : key ∉ keys ((k, v) :: rest) ↔ key ∉ keys rest := by
        simp [keys, Ne.symm h]
      rw [get?, if_neg h, ih, absent]

theorem contains_iff_mem_keys {key : Key} {entries : List (Key × Value)} :
    contains key entries = true ↔ key ∈ keys entries := by
  have absent : get? key entries = none ↔ key ∉ keys entries := get?_eq_none_iff
  rw [contains, Option.isSome_iff_ne_none, ne_eq, absent, Decidable.not_not]

/-- Writing a value gives no key a second place. -/
theorem distinct_insert {entries : List (Key × Value)} (distinct : Distinct entries) (key : Key)
    (value : Value) : Distinct (insert key value entries) := by
  unfold Distinct at distinct ⊢
  by_cases known : key ∈ keys entries
  · rw [keys_insert_of_mem known]
    exact distinct
  · rw [keys_insert_of_not_mem known, List.nodup_append]
    refine ⟨distinct, by simp, ?_⟩
    intro a member b same equal
    rw [List.mem_singleton] at same
    exact known (same ▸ equal ▸ member)

theorem distinct_insertAll {entries : List (Key × Value)} (distinct : Distinct entries)
    (more : List (Key × Value)) : Distinct (insertAll entries more) := by
  induction more generalizing entries with
  | nil => exact distinct
  | cons entry rest ih => exact ih (distinct_insert distinct entry.1 entry.2)

/-- Where keys are distinct, every pair is found. -/
theorem get?_of_mem {entries : List (Key × Value)} (apart : Distinct entries) {key : Key}
    {value : Value} (member : (key, value) ∈ entries) : get? key entries = some value := by
  induction entries with
  | nil => cases member
  | cons entry rest ih =>
    obtain ⟨k, v⟩ := entry
    have parts := List.nodup_cons.mp apart
    rcases List.mem_cons.mp member with same | later
    · cases same
      exact if_pos rfl
    · have other : k ≠ key := by
        rintro rfl
        exact parts.1 (List.mem_map.mpr ⟨_, later, rfl⟩)
      rw [get?, if_neg other]
      exact ih parts.2 later

/-- Erasing a key leaves the other keys where they are. -/
theorem distinct_erase {entries : List (Key × Value)} (distinct : Distinct entries) (key : Key) :
    Distinct (erase key entries) :=
  distinct.sublist (List.filter_sublist.map Prod.fst)

theorem get?_erase_self (key : Key) (entries : List (Key × Value)) :
    get? key (erase key entries) = none := by
  rw [get?_eq_none_iff]
  intro member
  obtain ⟨entry, kept, same⟩ := List.mem_map.mp member
  have other := (List.mem_filter.mp kept).2
  rw [same] at other
  simp at other

theorem get?_erase_of_ne {key other : Key} (different : other ≠ key)
    (entries : List (Key × Value)) : get? other (erase key entries) = get? other entries := by
  induction entries with
  | nil => rfl
  | cons entry rest ih =>
    obtain ⟨k, v⟩ := entry
    by_cases h : k = key
    · have gone : erase key ((k, v) :: rest) = erase key rest := by
        simp [erase, h]
      have passed : k ≠ other := fun equal => different (equal.symm.trans h)
      rw [gone, ih, get?, if_neg passed]
    · have kept : erase key ((k, v) :: rest) = (k, v) :: erase key rest := by
        simp [erase, h]
      rw [kept, get?, get?, ih]

end Entries
end Sensornet
