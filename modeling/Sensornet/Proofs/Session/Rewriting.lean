import Sensornet.Proofs.Session.Freshness
import Sensornet.Proofs.Session.Standing

namespace Sensornet

/-!
# What a trigger keeps when it is written again

A trigger that is asked for again gets its calculators, its inputs, its
description and its schedule anew.  It gets all other fields anew as well, as a
new trigger has them: whoever calls it, whether it is active, and nothing that a
compile does not write.  A row that a session wrote itself has these fields
already, so nothing else changes in it.  A row that was there before keeps
them exactly when it has no others.
-/

open Fixture (Key Row)

/-- The fields that a trigger is to have anew when it is written again. -/
def Trigger.replaced : List String :=
  ["calculators", "description", "schedule_job", "input_metrics"]

/-- The fields that a trigger has in all. -/
def Trigger.names : List String :=
  ["id", "caller", "is_active", "calculator"] ++ Trigger.replaced ++ ["output_metric"]

/-- Beside its output and what is replaced, a trigger row holds what every new one
holds. -/
structure Fixture.Row.IsPlain (row : Row) : Prop where
  id : row.field? "id" = some row.key.toJson
  caller : row.field? "caller" = some (.text "REAL_TIME")
  active : row.field? "is_active" = some (.bool true)
  calculator : row.field? "calculator" = some (.text "")
  others : ∀ name, row.field? name ≠ none -> name ∈ Trigger.names

namespace Trigger

theorem keys_fields (wanted : Trigger) (id : Json.Value) :
    Entries.keys (wanted.fields id) = names :=
  rfl

theorem get?_fields_eq_none_iff {wanted : Trigger} {id : Json.Value} {name : String} :
    Entries.get? name (wanted.fields id) = none ↔ name ∉ names := by
  rw [Entries.get?_eq_none_iff, keys_fields]

theorem isPlain_fields (wanted : Trigger) (row : Row) :
    Row.IsPlain { row with fields := wanted.fields row.key.toJson } where
  id := rfl
  caller := rfl
  active := rfl
  calculator := rfl
  others _ held := Decidable.not_not.mp fun absent => held (get?_fields_eq_none_iff.mpr absent)

/-- The fields of a trigger are those of a row with its output, outside of what is
replaced, exactly when the row is plain. -/
theorem keeps_iff_isPlain {wanted : Trigger} {row : Row}
    (writes : Network.output? row = some wanted.outputMetric) :
    (∀ name, name ∉ replaced ->
      Entries.get? name (wanted.fields row.key.toJson) = row.field? name) ↔ row.IsPlain := by
  constructor
  · intro keeps
    refine ⟨(keeps "id" (by decide)).symm, (keeps "caller" (by decide)).symm,
      (keeps "is_active" (by decide)).symm, (keeps "calculator" (by decide)).symm,
      fun name held => ?_⟩
    by_cases among : name ∈ replaced
    · exact List.mem_append_left _ (List.mem_append_right _ among)
    · rw [← keeps name among] at held
      exact Decidable.not_not.mp fun absent => held (get?_fields_eq_none_iff.mpr absent)
  · intro plain name other
    by_cases among : name ∈ names
    · unfold names at among
      simp only [List.mem_append, other, or_false, List.mem_cons, List.not_mem_nil] at among
      rcases among with (rfl | rfl | rfl | rfl) | rfl
      · exact plain.id.symm
      · exact plain.caller.symm
      · exact plain.active.symm
      · exact plain.calculator.symm
      · exact (Network.field?_of_output? writes).symm
    · rw [get?_fields_eq_none_iff.mpr among]
      exact (Decidable.not_not.mp fun held => among (plain.others name held)).symm

end Trigger

namespace Session

variable {s t : Session}

/-- A trigger row that is not as it was is plain. -/
theorem Moves.isPlain (run : Moves s t) {position : Nat} {row : Row}
    (stands : t.rows[position]? = some row) (trigger : row.model = Fixture.Model.trigger) :
    row.IsPlain ∨ s.rows[position]? = some row := by
  have entered : ∀ {u : Session} {row : Row}, u.Enters row ->
      row.model = Fixture.Model.trigger -> row.IsPlain := by
    intro u row new trigger
    rcases new.of_trigger trigger with ⟨wanted, id, rfl, _⟩
    exact wanted.isPlain_fields (wanted.row id)
  exact (Moves.made entered (fun wanted row _ => wanted.isPlain_fields row) run stands).imp_left
    fun made => made trigger

/-- A trigger whose output some row has is written where it is known to stand. -/
theorem Indexed.exists_known (indexed : s.Indexed) {position : Nat} {row : Row} {output : String}
    (stands : s.rows[position]? = some row) (writes : Network.output? row = some output) :
    ∃ place held, s.network.triggerPosition? output = some place ∧
      s.rows[place]? = some held ∧ Network.output? held = some output := by
  cases known : s.network.triggerPosition? output with
  | none =>
    rw [indexed, Network.triggerPosition?_index_eq_none_iff] at known
    exact absurd (List.mem_filterMap.mpr ⟨row, List.mem_of_getElem? stands, writes⟩) known
  | some place =>
    rcases indexed.output?_of_known known with ⟨held, there, same⟩
    exact ⟨place, held, rfl, there, same⟩

/-- After any calls, whatever rows they went on from, a trigger that is asked for
again is written where it stands.  The row keeps its model and its key, and it
keeps all fields but the replaced ones exactly when it is plain, which it is
unless it was there before the session.  No other row changes. -/
theorem putTrigger_keeps (options : Options) (supply : Nat) (existing : List Row)
    (calls : List Call) {wanted : Trigger} (complete : wanted.isComplete = true) :
    let s := (resume options supply existing).run calls
    let t := (s.putTrigger wanted).2
    ∀ (position : Nat) (row : Row), s.rows[position]? = some row ->
      Network.output? row = some wanted.outputMetric ->
        (row.IsPlain ∨ existing[position]? = some row) ∧ t.rows.length = s.rows.length ∧
        ∃ later, t.rows[position]? = some later ∧ later.model = row.model ∧ later.key = row.key ∧
          (s.network.triggerPosition? wanted.outputMetric = some position ->
            later.fields = wanted.fields row.key.toJson ∧
              ((∀ name, name ∉ Trigger.replaced -> later.field? name = row.field? name) ↔
                row.IsPlain)) ∧
          (s.network.triggerPosition? wanted.outputMetric ≠ some position -> later = row) := by
  intro s t position row stands writes
  have run : Moves (resume options supply existing) s := moves_run _ calls
  have indexed : s.Indexed := (indexed_resume options supply existing).moves run
  have made := run.isPlain stands (Network.model_of_output? writes)
  rw [rows_resume] at made
  rcases indexed.exists_known stands writes with ⟨place, held, known, there, own⟩
  have rows : t.rows =
      s.rows.modify place fun row => { row with fields := wanted.fields held.key.toJson } := by
    have written := s.putTrigger_known complete known there
    exact congrArg (fun result => result.2.rows) written
  refine ⟨made, by rw [rows, List.length_modify], ?_⟩
  -- rows that were there before may share an output, and then only one of them is written
  by_cases here : place = position
  · subst here
    cases Option.some.inj (there.symm.trans stands)
    refine ⟨{ row with fields := wanted.fields row.key.toJson }, ?_, rfl, rfl,
      fun _ => ⟨rfl, Trigger.keeps_iff_isPlain writes⟩, fun elsewhere => absurd known elsewhere⟩
    rw [rows, List.getElem?_modify_eq, stands]
    rfl
  · refine ⟨row, ?_, rfl, rfl, fun same => absurd ?_ here, fun _ => rfl⟩
    · rw [rows, List.getElem?_modify_ne _ _ here, stands]
    · exact Option.some.inj (known.symm.trans same)

/-- A trigger row with a caller, switched on or off. -/
def calledRow (caller : String) (active : Bool) : Row :=
  ⟨Fixture.Model.trigger, .text "t-1",
    [ ("id", .text "t-1"), ("caller", .text caller), ("is_active", .bool active)
    , ("calculator", .text ""), ("input_metrics", .array [.text "m-1"])
    , ("output_metric", .text "m-2") ]⟩

/-- The trigger that is wanted in its place. -/
def calledAgain : Trigger :=
  ⟨[], "Volume of F", "flow", ["m-1"], "m-2"⟩

/-- A row as a session writes it is as it was, but for what is replaced. -/
theorem putTrigger_keeps_realTime :
    let row := calledRow "REAL_TIME" true
    let t := ((resume Options.default 0 [row]).putTrigger calledAgain).2
    calledAgain.isComplete = true ∧ Network.output? row = some calledAgain.outputMetric ∧
      row.IsPlain ∧ ∃ later, t.rows[0]? = some later ∧ later.key = row.key ∧
        ∀ name, name ∉ Trigger.replaced -> later.field? name = row.field? name := by
  intro row t
  have writes : Network.output? row = some calledAgain.outputMetric := by decide +kernel
  have names : Entries.keys row.fields = ["id", "caller", "is_active", "calculator",
      "input_metrics", "output_metric"] := rfl
  have plain : row.IsPlain := by
    refine ⟨rfl, rfl, rfl, rfl, fun name held => ?_⟩
    have among : name ∈ Entries.keys row.fields :=
      Decidable.not_not.mp fun absent => held (Entries.get?_eq_none_iff.mpr absent)
    rw [names] at among
    have all : ∀ name ∈ ["id", "caller", "is_active", "calculator", "input_metrics",
      "output_metric"], name ∈ Trigger.names := by decide
    exact all name among
  have rows : (resume Options.default 0 [row]).rows = [row] := rows_resume _ _ _
  have known : (resume Options.default 0 [row]).network.triggerPosition? "m-2" = some 0 := by
    decide +kernel
  rcases putTrigger_keeps Options.default 0 [row] [] (by decide : calledAgain.isComplete = true) 0
    row (by exact congrArg (·[0]?) rows) writes with ⟨_, _, later, stands, _, key, keeps, _⟩
  exact ⟨by decide, writes, plain, later, stands, key, (keeps known).2.mpr plain⟩

/-- A trigger that was switched off is switched on, and called in real time
instead of by hand. -/
theorem putTrigger_switchesOn :
    let row := calledRow "MANUAL" false
    let t := ((resume Options.default 0 [row]).putTrigger calledAgain).2
    calledAgain.isComplete = true ∧ Network.output? row = some calledAgain.outputMetric ∧
      row.field? "is_active" = some (.bool false) ∧ row.field? "caller" = some (.text "MANUAL") ∧
      ∃ later, t.rows[0]? = some later ∧ later.key = row.key ∧
        later.field? "is_active" = some (.bool true) ∧
        later.field? "caller" = some (.text "REAL_TIME") := by
  intro row t
  have known : (resume Options.default 0 [row]).network.triggerPosition? "m-2" = some 0 := by
    decide +kernel
  have rows : (resume Options.default 0 [row]).rows = [row] := rows_resume _ _ _
  have stands : (resume Options.default 0 [row]).rows[0]? = some row := congrArg (·[0]?) rows
  have complete : calledAgain.isComplete = true := by decide
  have written := Session.putTrigger_known _ complete known stands
  have now : t.rows[0]? = some { row with fields := calledAgain.fields row.key.toJson } := by
    have modified := congrArg (fun result => result.2.rows[0]?) written
    exact modified.trans (by rw [rows_replaceFields, rows_note, rows]; rfl)
  exact ⟨complete, by decide +kernel, rfl, rfl, _, now, rfl, rfl, rfl⟩

end Session
end Sensornet
