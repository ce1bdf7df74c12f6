import Sensornet.Proofs.Session.Lasting

namespace Sensornet

/-!
# Rows stand where they stood

A call adds rows behind the old ones.  Of these it may replace the fields of
a trigger, and nothing else.  The place that it writes to is looked up in the
network under the output of the new trigger, so the row that stands there has
this output already, whoever wrote it.
-/

open Fixture (Row)

/-- What a call may make of a row: only a trigger is rewritten, and not in what
it writes. -/
structure Fixture.Row.Stays (row later : Row) : Prop where
  model : later.model = row.model
  key : later.key = row.key
  output : later.field? "output_metric" = row.field? "output_metric"
  other : row.model ≠ Fixture.Model.trigger -> later = row

/-- A row that writes an output holds it as a text. -/
theorem Network.field?_of_output? {row : Row} {output : String}
    (writes : output? row = some output) : row.field? "output_metric" = some (.text output) := by
  rcases Option.bind_eq_some_iff.mp (text?_of_output? writes) with ⟨value, held, text⟩
  cases value <;> cases text
  exact held

namespace Session

variable {s t : Session}

/-- A row whose fields are replaced has the output it is found by. -/
theorem output_replaceFields (indexed : s.Indexed) {wanted : Trigger} {place position : Nat}
    {id : Json.Value} {row later : Row}
    (known : s.network.triggerPosition? wanted.outputMetric = some place)
    (stands : s.rows[position]? = some row)
    (now : (s.replaceFields place (wanted.fields id)).rows[position]? = some later) :
    later.field? "output_metric" = row.field? "output_metric" := by
  rw [rows_replaceFields] at now
  by_cases here : place = position
  · subst here
    rcases indexed.output?_of_known known with ⟨held, there, writes⟩
    cases Option.some.inj (there.symm.trans stands)
    rw [List.getElem?_modify_eq, stands] at now
    cases Option.some.inj now
    exact (Network.field?_of_output? writes).symm
  · rw [List.getElem?_modify_ne _ _ here, stands] at now
    rw [Option.some.inj now]

/-- The output of a row stays what it is. -/
theorem Moves.outputAt (run : Moves s t) (indexed : s.Indexed) {position : Nat} {row later : Row}
    (stands : s.rows[position]? = some row) (now : t.rows[position]? = some later) :
    later.field? "output_metric" = row.field? "output_metric" := by
  induction run generalizing later with
  | refl => rw [Option.some.inj (now.symm.trans stands)]
  | @tail u v before move ih =>
    rcases Moves.rowAt before stands with ⟨then', place, _, _⟩
    rw [← ih place]
    cases move with
    | quiet same =>
      rw [same.rows] at now
      rw [Option.some.inj (now.symm.trans place)]
    | enter issued new =>
      have below : position < u.rows.length := (List.getElem?_eq_some_iff.mp place).1
      rw [rows_enter, List.getElem?_append_left below] at now
      rw [Option.some.inj (now.symm.trans place)]
    | rewrite complete known held =>
      exact output_replaceFields (indexed.moves before) known place now

/-- Every row stands where it stood. -/
theorem Moves.stays (run : Moves s t) (indexed : s.Indexed) {position : Nat} {row : Row}
    (stands : s.rows[position]? = some row) :
    ∃ later, t.rows[position]? = some later ∧ row.Stays later := by
  rcases run.rowAt stands with ⟨later, now, model, key⟩
  refine ⟨later, now, model, key, run.outputAt indexed stands now, fun other => ?_⟩
  exact Option.some.inj (now.symm.trans (run.passive indexed stands other))

/-- After any calls, whatever rows they went on from, a further call puts its
rows behind those that are there.  These keep their places, their models and
their keys; a trigger keeps its output, and any other row all of its fields. -/
theorem rows_stay_perform (options : Options) (supply : Nat) (existing : List Row)
    (calls : List Call) (call : Call) :
    let s := (resume options supply existing).run calls
    let t := s.perform call
    s.rows.map Row.head <+: t.rows.map Row.head ∧
      ∀ (position : Nat) (row : Row), s.rows[position]? = some row ->
        ∃ later, t.rows[position]? = some later ∧ row.Stays later := by
  intro s t
  have indexed : s.Indexed := (indexed_resume options supply existing).moves (moves_run _ calls)
  have run : Moves s t := moves_perform s call
  exact ⟨run.heads, fun _ _ stands => run.stays indexed stands⟩

end Session
end Sensornet
