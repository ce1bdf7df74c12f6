import Sensornet.Proofs.Session.Stages

namespace Sensornet
namespace Session

/-!
# The network says what the rows say

The rows are what is written, and the network only says where things are.  It
is kept up to date at every place that writes, and at every moment it is the
network that reading all rows anew would give.  So every look-up, also one
that depends on an order, is answered as the rows themselves would answer it,
and a remembered position of a trigger is that of a trigger row.
-/

open Fixture (Row)

/-- The network is the index of the rows. -/
def Indexed (s : Session) : Prop :=
  s.network = Network.empty.index s.rows

section

variable (options : Options) (supply : Nat) (existing : List Row)

/-- What a session that goes on from some rows begins with. -/
theorem resume_parts :
    (resume options supply existing).options = options ∧
      (resume options supply existing).aliases = options.allAliases ∧
      (resume options supply existing).registry =
        (Fixture.Registry.start options.policy supply).seed existing ∧
      (resume options supply existing).network = Network.empty.index existing ∧
      (resume options supply existing).rows = existing := by
  unfold resume
  dsimp only
  split <;> exact ⟨rfl, rfl, rfl, rfl, rfl⟩

theorem rows_resume : (resume options supply existing).rows = existing :=
  (resume_parts options supply existing).2.2.2.2

theorem indexed_resume : (resume options supply existing).Indexed := by
  unfold Indexed
  rw [rows_resume]
  exact (resume_parts options supply existing).2.2.2.1

end

variable {s t : Session}

/-- In an indexed session a trigger that is known has its row. -/
theorem Indexed.output?_of_known (indexed : s.Indexed) {output : String} {position : Nat}
    (known : s.network.triggerPosition? output = some position) :
    ∃ row, s.rows[position]? = some row ∧ Network.output? row = some output := by
  rw [indexed] at known
  exact Network.output?_of_triggerPosition? known

/-- Replacing the fields of a trigger row keeps the index, as its output is
the one that the row was found by. -/
theorem index_replaceFields (indexed : s.Indexed) {wanted : Trigger} {position : Nat} {row : Row}
    (known : s.network.triggerPosition? wanted.outputMetric = some position) :
    Network.empty.index (s.replaceFields position (wanted.fields row.key.toJson)).rows =
      Network.empty.index s.rows := by
  rcases indexed.output?_of_known known with ⟨held, place, writes⟩
  refine Network.indexFrom_modify _ _ s.rows 0 position fun other otherStands n there => ?_
  have same : other = held := Option.some.inj (otherStands.symm.trans place)
  subst same
  have trigger := Network.model_of_output? writes
  have still : ({ other with fields := wanted.fields row.key.toJson } : Row).model =
    Fixture.Model.trigger := trigger
  refine n.indexRow_trigger trigger still ?_ there
  rw [Network.textOf_of_output? writes]
  rfl

theorem Indexed.replaceFields (indexed : s.Indexed) {wanted : Trigger} {position : Nat} {row : Row}
    (known : s.network.triggerPosition? wanted.outputMetric = some position) :
    (s.replaceFields position (wanted.fields row.key.toJson)).Indexed := by
  unfold Indexed
  rw [index_replaceFields indexed known]
  exact indexed

/-- A row is entered the way an index would have it. -/
theorem Indexed.enter (indexed : s.Indexed) (registry : Fixture.Registry) (row : Row) :
    (s.enter registry row).Indexed := by
  have grown : Network.empty.index (s.rows ++ [row]) =
      (Network.empty.index s.rows).indexRow row s.rows.length :=
    Network.empty.index_concat s.rows row
  unfold Indexed
  rw [network_enter, rows_enter, grown, ← indexed]

/-- One move keeps the network the index of the rows. -/
theorem Indexed.move (indexed : s.Indexed) (move : Move s t) : t.Indexed := by
  cases move with
  | quiet same =>
    unfold Indexed
    rw [same.network, same.rows]
    exact indexed
  | enter issued new => exact indexed.enter _ _
  | rewrite complete known stands => exact indexed.replaceFields known

theorem Indexed.moves (indexed : s.Indexed) (run : Moves s t) : t.Indexed := by
  induction run with
  | refl => exact indexed
  | tail _ move ih => exact ih.move move

/-- After any calls, whatever rows they went on from, the network is the index
of the rows.  A position that it gives for an output is that of a trigger row
with this output. -/
theorem network_run_eq_index (options : Options) (supply : Nat) (existing : List Row)
    (calls : List Call) :
    let s := (resume options supply existing).run calls
    s.network = Network.empty.index s.rows ∧
      ∀ output position, s.network.triggerPosition? output = some position ->
        ∃ row, s.rows[position]? = some row ∧ row.model = Fixture.Model.trigger ∧
          row.text? "output_metric" = some output := by
  intro s
  have indexed : s.Indexed := (indexed_resume options supply existing).moves (moves_run _ calls)
  refine ⟨indexed, fun output position known => ?_⟩
  rcases indexed.output?_of_known known with ⟨row, stands, writes⟩
  exact ⟨row, stands, Network.model_of_output? writes, Network.text?_of_output? writes⟩

end Session
end Sensornet
