import Mathlib.Data.List.Induction
import Sensornet.Network.Index

namespace Sensornet
namespace Network

/-!
# What an index knows about its rows

An index is built one row at a time, so an index over one row more is the old
index with that row noted at its position.  From this the two look-ups that
decide whether something is written again are described by the rows alone: an
identity is known exactly when some metric row has it, and an output exactly
when some trigger row writes it, whose position is then the one remembered.

Which row of several with one identity or output is meant is not repeated
here: the first metric row and the last trigger row, by `indexRow`.
-/

open Fixture (Row)

/-- The identity of a row, if it is the row of a metric. -/
def identity? (row : Row) : Option Metric.Identity :=
  if row.model = Fixture.Model.metric then some (identityOf row) else none

/-- The output of a row, if it is the row of a trigger that has one. -/
def output? (row : Row) : Option String :=
  if row.model = Fixture.Model.trigger ∧ row.textOf "output_metric" ≠ "" then
    some (row.textOf "output_metric")
  else none

theorem model_of_output? {row : Row} {output : String} (writes : output? row = some output) :
    row.model = Fixture.Model.trigger := by
  unfold output? at writes
  split at writes
  · next trigger => exact trigger.1
  · cases writes

theorem textOf_of_output? {row : Row} {output : String} (writes : output? row = some output) :
    row.textOf "output_metric" = output := by
  unfold output? at writes
  split at writes
  · exact Option.some.inj writes
  · cases writes

/-- The output of a trigger row is written there as a text. -/
theorem text?_of_output? {row : Row} {output : String} (writes : output? row = some output) :
    row.text? "output_metric" = some output := by
  have text := textOf_of_output? writes
  unfold output? at writes
  unfold Row.textOf at text writes
  cases written : row.text? "output_metric" with
  | some own =>
    rw [written] at text
    exact congrArg some text
  | none =>
    rw [written] at writes
    simp at writes

theorem ne_empty_of_output? {row : Row} {output : String} (writes : output? row = some output) :
    output ≠ "" := by
  unfold output? at writes
  split at writes
  · next trigger => exact Option.some.inj writes ▸ trigger.2
  · cases writes

variable (n : Network)

theorem indexFrom_append (position : Nat) (rows more : List Row) :
    n.indexFrom position (rows ++ more) =
      (n.indexFrom position rows).indexFrom (position + rows.length) more := by
  induction rows generalizing n position with
  | nil => rfl
  | cons row rest ih =>
    have shifted : position + (row :: rest).length = position + 1 + rest.length := by
      rw [List.length_cons]
      omega
    rw [List.cons_append, indexFrom, ih, indexFrom, shifted]

/-- The index over one row more. -/
theorem index_concat (rows : List Row) (row : Row) :
    n.index (rows ++ [row]) = (n.index rows).indexRow row rows.length := by
  unfold index
  rw [indexFrom_append, Nat.zero_add]
  rfl

/-- A row may be exchanged for one that is indexed alike. -/
theorem indexFrom_modify (exchange : Row -> Row) (rows : List Row) (start position : Nat)
    (alike : ∀ row, rows[position]? = some row -> ∀ (m : Network) (place : Nat),
      m.indexRow (exchange row) place = m.indexRow row place) :
    n.indexFrom start (rows.modify position exchange) = n.indexFrom start rows := by
  induction rows generalizing n start position with
  | nil => rw [List.modify_nil]
  | cons row rest ih =>
    cases position with
    | zero =>
      rw [List.modify_zero_cons, indexFrom, indexFrom, alike row rfl]
    | succ position =>
      rw [List.modify_succ_cons, indexFrom, indexFrom]
      exact ih (n.indexRow row start) (start + 1) position alike

/-- Two trigger rows with one output are indexed alike. -/
theorem indexRow_trigger {row other : Row} (trigger : row.model = Fixture.Model.trigger)
    (otherTrigger : other.model = Fixture.Model.trigger)
    (output : other.textOf "output_metric" = row.textOf "output_metric") (position : Nat) :
    n.indexRow other position = n.indexRow row position := by
  unfold indexRow
  rw [trigger, otherTrigger, output]
  rfl

/-! ## One row at a time -/

theorem indexRow_polygon {row : Row} (polygon : row.model = Fixture.Model.polygon)
    (position : Nat) : n.indexRow row position = n.addZone (zoneOf row) := by
  unfold indexRow
  rw [if_pos polygon]

theorem indexRow_point {row : Row} (point : row.model = Fixture.Model.point) (position : Nat) :
    n.indexRow row position =
      match positionOf? row with
      | some place => n.addPoint ⟨row.key.shown, row.textOf "label", row.textOf "category", place⟩
      | none => n.noteTarget (row.textOf "category") (row.textOf "label") row.key.shown := by
  unfold indexRow
  exact (if_neg (by rw [point]; decide)).trans (if_pos point)

theorem indexRow_metric {row : Row} (metric : row.model = Fixture.Model.metric) (position : Nat) :
    n.indexRow row position =
      match n.metric? (identityOf row) with
      | some _ => n
      | none => n.insertMetric (identityOf row) row.key.shown := by
  unfold indexRow
  rw [if_neg (by rw [metric]; decide), if_neg (by rw [metric]; decide)]
  exact if_pos metric

theorem indexRow_output {row : Row} {output : String} (writes : output? row = some output)
    (position : Nat) : n.indexRow row position = n.insertTrigger output position := by
  have trigger := model_of_output? writes
  have text := textOf_of_output? writes
  have filled := ne_empty_of_output? writes
  unfold indexRow
  rw [if_neg (by rw [trigger]; decide), if_neg (by rw [trigger]; decide),
    if_neg (by rw [trigger]; decide), if_pos trigger, text]
  split
  · contradiction
  · rfl

/-- The models of rows that the network reads. -/
def Reads (model : String) : Prop :=
  model = Fixture.Model.polygon ∨ model = Fixture.Model.point ∨ model = Fixture.Model.metric ∨
    model = Fixture.Model.trigger

theorem indexRow_other {row : Row} (other : ¬ Reads row.model) (position : Nat) :
    n.indexRow row position = n := by
  simp only [Reads, not_or] at other
  unfold indexRow
  rw [if_neg other.1, if_neg other.2.1, if_neg other.2.2.1, if_neg other.2.2.2]

/-- A trigger without an output is known to nobody. -/
theorem indexRow_silent {row : Row} (trigger : row.model = Fixture.Model.trigger)
    (silent : output? row = none) (position : Nat) : n.indexRow row position = n := by
  have empty : row.textOf "output_metric" = "" := by
    unfold output? at silent
    by_cases empty : row.textOf "output_metric" = ""
    · exact empty
    · rw [if_pos ⟨trigger, empty⟩] at silent
      cases silent
  unfold indexRow
  rw [if_neg (by rw [trigger]; decide), if_neg (by rw [trigger]; decide),
    if_neg (by rw [trigger]; decide), if_pos trigger, empty]
  rfl

/-- How one row changes what is known of an identity: an earlier row with it
stays the one that counts. -/
theorem metric?_indexRow (row : Row) (position : Nat) (identity : Metric.Identity) :
    (n.indexRow row position).metric? identity =
      (n.metric? identity).or
        (if identity? row = some identity then some row.key.shown else none) := by
  by_cases metric : row.model = Fixture.Model.metric
  · have own : identity? row = some (identityOf row) := if_pos metric
    rw [n.indexRow_metric metric, own]
    by_cases same : identityOf row = identity
    · subst same
      cases known : n.metric? (identityOf row) with
      | some id =>
        rw [if_pos rfl]
        exact known
      | none =>
        rw [if_pos rfl]
        exact n.metric?_insertMetric_self (identityOf row) row.key.shown
    · rw [if_neg (fun equal => same (Option.some.inj equal)), Option.or_none]
      split
      · rfl
      · exact n.metric?_insertMetric_of_ne (Ne.symm same) row.key.shown
  · have none' : identity? row = none := if_neg metric
    rw [none', if_neg (by simp), Option.or_none]
    unfold indexRow
    rw [if_neg metric]
    split
    · rfl
    · split
      · split <;> rfl
      · split
        · split <;> rfl
        · rfl

/-- How one row changes what is known of an output: the last row with it is
the one that counts. -/
theorem triggerPosition?_indexRow (row : Row) (position : Nat) (output : String) :
    (n.indexRow row position).triggerPosition? output =
      if output? row = some output then some position else n.triggerPosition? output := by
  cases writes : output? row with
  | some own =>
    rw [n.indexRow_output writes]
    by_cases same : own = output
    · subst same
      rw [if_pos rfl]
      exact Entries.get?_insert_self own position n.triggers
    · rw [if_neg (fun equal => same (Option.some.inj equal))]
      exact Entries.get?_insert_of_ne (Ne.symm same) position n.triggers
  | none =>
    rw [if_neg (by simp)]
    by_cases trigger : row.model = Fixture.Model.trigger
    · rw [n.indexRow_silent trigger writes]
    · unfold indexRow
      rw [if_neg trigger]
      split
      · rfl
      · split
        · split <;> rfl
        · split
          · split <;> rfl
          · rfl

/-! ## All rows -/

theorem metric?_index_eq_none_iff (rows : List Row) (identity : Metric.Identity) :
    (empty.index rows).metric? identity = none ↔ identity ∉ rows.filterMap identity? := by
  induction rows using List.reverseRecOn with
  | nil => simp [index, indexFrom, empty, metric?]
  | append_singleton rows row ih =>
    rw [index_concat, metric?_indexRow, Option.or_eq_none_iff, ih, List.filterMap_append,
      List.mem_append, not_or]
    cases own : identity? row with
    | none => simp [own]
    | some known => simp [own, eq_comm]

/-- A remembered position holds a trigger row with the output. -/
theorem output?_of_triggerPosition? {rows : List Row} {output : String} {position : Nat}
    (known : (empty.index rows).triggerPosition? output = some position) :
    ∃ row, rows[position]? = some row ∧ output? row = some output := by
  induction rows using List.reverseRecOn with
  | nil => cases known
  | append_singleton rows row ih =>
    rw [index_concat, triggerPosition?_indexRow] at known
    split at known
    · next writes =>
      have last : position = rows.length := (Option.some.inj known).symm
      subst last
      exact ⟨row, by simp, writes⟩
    · rcases ih known with ⟨found, place, writes⟩
      have below : position < rows.length := (List.getElem?_eq_some_iff.mp place).1
      exact ⟨found, by rw [List.getElem?_append_left below]; exact place, writes⟩

theorem triggerPosition?_index_eq_none_iff (rows : List Row) (output : String) :
    (empty.index rows).triggerPosition? output = none ↔ output ∉ rows.filterMap output? := by
  induction rows using List.reverseRecOn with
  | nil => simp [index, indexFrom, empty, triggerPosition?]
  | append_singleton rows row ih =>
    rw [index_concat, triggerPosition?_indexRow, List.filterMap_append, List.mem_append, not_or,
      ← ih]
    cases own : output? row with
    | none => simp [own]
    | some known =>
      by_cases same : known = output
      · simp [own, same]
      · simp [own, same, Ne.symm same]

end Network
end Sensornet
