namespace Sensornet

/-!
# Lists without repeats

Several results are sets that remember their order: the ids a list of
descriptors stands for, the widgets a page mentions, the needed descriptors.
They are lists in order of first occurrence.
-/

/-- Append a value that is not there yet. -/
def addNew {A : Type} [DecidableEq A] (seen : List A) (value : A) : List A :=
  if value ∈ seen then seen else seen ++ [value]

/-- Append those of many values that are not there yet. -/
def addAllNew {A : Type} [DecidableEq A] (seen values : List A) : List A :=
  values.foldl addNew seen

/-- The values in order of first occurrence. -/
def distinct {A : Type} [DecidableEq A] (values : List A) : List A :=
  addAllNew [] values

section

variable {A : Type} [DecidableEq A]

theorem addNew_of_mem {seen : List A} {value : A} (known : value ∈ seen) :
    addNew seen value = seen := if_pos known

theorem addNew_of_not_mem {seen : List A} {value : A} (absent : value ∉ seen) :
    addNew seen value = seen ++ [value] := if_neg absent

theorem addAllNew_cons (seen : List A) (value : A) (rest : List A) :
    addAllNew seen (value :: rest) = addAllNew (addNew seen value) rest := rfl

@[simp] theorem mem_addNew {seen : List A} {value other : A} :
    other ∈ addNew seen value ↔ other ∈ seen ∨ other = value := by
  by_cases known : value ∈ seen
  · rw [addNew_of_mem known]
    constructor
    · exact Or.inl
    · rintro (member | rfl)
      · exact member
      · exact known
  · rw [addNew_of_not_mem known, List.mem_append, List.mem_singleton]

theorem prefix_addNew (seen : List A) (value : A) : seen <+: addNew seen value := by
  by_cases known : value ∈ seen
  · exact ⟨[], (List.append_nil seen).trans (addNew_of_mem known).symm⟩
  · exact ⟨[value], (addNew_of_not_mem known).symm⟩

theorem length_addNew_le (seen : List A) (value : A) :
    (addNew seen value).length ≤ seen.length + 1 := by
  by_cases known : value ∈ seen
  · rw [addNew_of_mem known]
    exact Nat.le_succ _
  · have longer : (addNew seen value).length = seen.length + 1 := by
      rw [addNew_of_not_mem known, List.length_append, List.length_singleton]
    exact Nat.le_of_eq longer

theorem addNew_append_of_not_mem {seen : List A} {value : A} (absent : value ∉ seen)
    (new : List A) : addNew (seen ++ new) value = seen ++ addNew new value := by
  by_cases known : value ∈ new
  · rw [addNew_of_mem (List.mem_append_right _ known), addNew_of_mem known]
  · have nowhere : value ∉ seen ++ new := by
      rw [List.mem_append, not_or]
      exact ⟨absent, known⟩
    rw [addNew_of_not_mem nowhere, addNew_of_not_mem known, List.append_assoc]

theorem filter_addNew_of_pos {chosen : A -> Bool} {value : A} (right : chosen value = true)
    (seen : List A) : (addNew seen value).filter chosen = addNew (seen.filter chosen) value := by
  by_cases known : value ∈ seen
  · rw [addNew_of_mem known, addNew_of_mem (List.mem_filter.mpr ⟨known, right⟩)]
  · have absent : value ∉ seen.filter chosen := fun there => known (List.mem_filter.mp there).1
    rw [addNew_of_not_mem known, addNew_of_not_mem absent, List.filter_append,
      List.filter_cons_of_pos right, List.filter_nil]

theorem filter_addNew_of_neg {chosen : A -> Bool} {value : A} (wrong : ¬ chosen value = true)
    (seen : List A) : (addNew seen value).filter chosen = seen.filter chosen := by
  by_cases known : value ∈ seen
  · rw [addNew_of_mem known]
  · rw [addNew_of_not_mem known, List.filter_append, List.filter_cons_of_neg wrong,
      List.filter_nil, List.append_nil]

@[simp] theorem mem_addAllNew {seen values : List A} {other : A} :
    other ∈ addAllNew seen values ↔ other ∈ seen ∨ other ∈ values := by
  induction values generalizing seen with
  | nil => simp [addAllNew]
  | cons value rest ih => rw [addAllNew_cons, ih, mem_addNew, List.mem_cons, or_assoc]

@[simp] theorem mem_distinct {values : List A} {other : A} :
    other ∈ distinct values ↔ other ∈ values := by
  simp [distinct]

theorem addAllNew_append (seen first second : List A) :
    addAllNew seen (first ++ second) = addAllNew (addAllNew seen first) second :=
  List.foldl_append

theorem addAllNew_addNew (seen before : List A) (value : A) :
    addAllNew seen (addNew before value) = addNew (addAllNew seen before) value := by
  by_cases known : value ∈ before
  · have later : value ∈ addAllNew seen before := mem_addAllNew.mpr (Or.inr known)
    rw [addNew_of_mem known, addNew_of_mem later]
  · rw [addNew_of_not_mem known, addAllNew_append]
    rfl

/-- Nothing is gained by dropping repeats beforehand. -/
theorem addAllNew_addAllNew (seen before values : List A) :
    addAllNew seen (addAllNew before values) = addAllNew (addAllNew seen before) values := by
  induction values generalizing before with
  | nil => rfl
  | cons value rest ih => rw [addAllNew_cons, addAllNew_cons, ih, addAllNew_addNew]

theorem addAllNew_distinct (seen values : List A) :
    addAllNew seen (distinct values) = addAllNew seen values :=
  addAllNew_addAllNew seen [] values

/-- Values that were all seen add nothing. -/
theorem addAllNew_eq_self {seen values : List A} (known : ∀ value ∈ values, value ∈ seen) :
    addAllNew seen values = seen := by
  induction values with
  | nil => rfl
  | cons value rest ih =>
    rw [addAllNew_cons, addNew_of_mem (known value List.mem_cons_self)]
    exact ih fun other member => known other (List.mem_cons_of_mem value member)

theorem nodup_addNew {seen : List A} (distinctSeen : seen.Nodup) (value : A) :
    (addNew seen value).Nodup := by
  by_cases known : value ∈ seen
  · rw [addNew_of_mem known]
    exact distinctSeen
  · rw [addNew_of_not_mem known, List.nodup_append]
    refine ⟨distinctSeen, by simp, ?_⟩
    intro a member b same equal
    rw [List.mem_singleton] at same
    exact known (same ▸ equal ▸ member)

theorem nodup_addAllNew {seen : List A} (distinctSeen : seen.Nodup) (values : List A) :
    (addAllNew seen values).Nodup := by
  induction values generalizing seen with
  | nil => exact distinctSeen
  | cons value rest ih => exact ih (nodup_addNew distinctSeen value)

theorem nodup_distinct (values : List A) : (distinct values).Nodup :=
  nodup_addAllNew List.nodup_nil values

/-- Adding new values is adding those that are not there, each once. -/
theorem addAllNew_eq_append (seen values : List A) :
    addAllNew seen values = seen ++ distinct (values.filter fun value => value ∉ seen) := by
  have onward : ∀ new : List A, addAllNew (seen ++ new) values =
      seen ++ addAllNew new (values.filter fun value => value ∉ seen) := by
    induction values with
    | nil => exact fun _ => rfl
    | cons value rest ih =>
      intro new
      rw [addAllNew_cons]
      by_cases known : value ∈ seen
      · rw [addNew_of_mem (List.mem_append_left _ known), ih,
          List.filter_cons_of_neg (by simpa using known)]
      · rw [addNew_append_of_not_mem known, ih, List.filter_cons_of_pos (by simpa using known),
          addAllNew_cons]
  exact (congrArg (addAllNew · values) (List.append_nil seen).symm).trans (onward [])

theorem addAllNew_filter (chosen : A -> Bool) (seen values : List A) :
    (addAllNew seen values).filter chosen =
      addAllNew (seen.filter chosen) (values.filter chosen) := by
  induction values generalizing seen with
  | nil => rfl
  | cons value rest ih =>
    rw [addAllNew_cons, ih]
    by_cases right : chosen value = true
    · rw [filter_addNew_of_pos right, List.filter_cons_of_pos right, addAllNew_cons]
    · rw [filter_addNew_of_neg right, List.filter_cons_of_neg right]

theorem distinct_filter (chosen : A -> Bool) (values : List A) :
    (distinct values).filter chosen = distinct (values.filter chosen) :=
  addAllNew_filter chosen [] values

end

end Sensornet
