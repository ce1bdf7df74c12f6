import Sensornet.Proofs.Session.Lasting

namespace Sensornet
namespace Session

/-!
# One row for each output that is requested

Triggers are requested one after the other.  The first complete request for an
output issues the key of its row, unless the row stands already; each later one
replaces the fields of this row and is given the same key.  A request that is
not complete leaves rows, network and keys alone.

So after any requests there is one trigger row for each output, in the order in
which the outputs were first requested.  It has the key of the first request
and the fields of the last.
-/

open Fixture (Key Row)

/-- Put triggers, one after the other. -/
def putAll (s : Session) (wanted : List Trigger) : Session :=
  wanted.foldl (fun t trigger => (t.putTrigger trigger).2) s

/-- The complete requests for an output. -/
def requestsFor (output : String) (wanted : List Trigger) : List Trigger :=
  wanted.filter fun trigger => trigger.isComplete && trigger.outputMetric == output

/-- The outputs of the complete requests. -/
def requestedOutputs (wanted : List Trigger) : List String :=
  (wanted.filter Trigger.isComplete).map Trigger.outputMetric

/-- What becomes of a row with this output through some requests.  Its key is given for
each complete request of the output, and at any time the row with the output has this
key.  Its fields are those of the last request; without requests, the row stood
before. -/
structure Answers (s : Session) (wanted : List Trigger) (output : String) (row : Row) : Prop where
  key : ∀ before trigger, before ++ [trigger] <+: wanted -> trigger ∈ requestsFor output wanted ->
    ((s.putAll before).putTrigger trigger).1 = some row.key
  lasting : ∀ before, before <+: wanted -> ∀ earlier ∈ (s.putAll before).rows,
    Network.output? earlier = some output -> earlier.key = row.key
  fields : ∀ last, (requestsFor output wanted).getLast? = some last ->
    row.fields = last.fields row.key.toJson
  unasked : requestsFor output wanted = [] -> row ∈ s.rows

variable {s : Session} {wanted : List Trigger} {output : String}

theorem putAll_concat (s : Session) (before : List Trigger) (trigger : Trigger) :
    s.putAll (before ++ [trigger]) = ((s.putAll before).putTrigger trigger).2 :=
  List.foldl_append

theorem moves_putAll (s : Session) (wanted : List Trigger) : Moves s (s.putAll wanted) :=
  Moves.foldl s wanted fun t trigger _ => moves_putTrigger t trigger

theorem moves_putAll_onward (s : Session) {before : List Trigger} (front : before <+: wanted) :
    Moves (s.putAll before) (s.putAll wanted) := by
  rcases front with ⟨after, rfl⟩
  have onward : s.putAll (before ++ after) = (s.putAll before).putAll after := List.foldl_append
  rw [onward]
  exact moves_putAll _ after

/-! ## Which rows there are -/

/-- A complete request adds its output to those of the rows, unless it is there. -/
theorem outputs_putTrigger (indexed : s.Indexed) (trigger : Trigger) :
    (s.putTrigger trigger).2.rows.filterMap Network.output? =
      if trigger.isComplete = true then
        addNew (s.rows.filterMap Network.output?) trigger.outputMetric
      else s.rows.filterMap Network.output? := by
  cases complete : trigger.isComplete with
  | false =>
    rw [s.putTrigger_incomplete complete]
    rfl
  | true =>
    rw [if_pos rfl]
    rcases s.stands_or_unknown trigger.outputMetric with ⟨position, row, known, stands⟩ | unknown
    · rcases indexed.output?_of_known known with ⟨held, place, writes⟩
      have among : trigger.outputMetric ∈ s.rows.filterMap Network.output? :=
        List.mem_filterMap.mpr ⟨held, List.mem_of_getElem? place, writes⟩
      rw [s.putTrigger_known complete known stands, addNew_of_mem among]
      exact indexed.outputs_replaceFields known _
    · rw [s.putTrigger_new complete unknown,
        addNew_of_not_mem (indexed.output_not_mem unknown)]
      dsimp only [rows_enter]
      rw [List.filterMap_append]
      exact congrArg _ (List.filterMap_cons_some (Network.output?_triggerRow complete _))

theorem outputs_putAll (indexed : s.Indexed) (wanted : List Trigger) :
    (s.putAll wanted).rows.filterMap Network.output? =
      addAllNew (s.rows.filterMap Network.output?) (requestedOutputs wanted) := by
  induction wanted using List.reverseRecOn with
  | nil => rfl
  | append_singleton before trigger ih =>
    have now := indexed.moves (moves_putAll s before)
    rw [putAll_concat, outputs_putTrigger now, ih]
    have step : requestedOutputs (before ++ [trigger]) =
        requestedOutputs before ++ requestedOutputs [trigger] := by
      simp [requestedOutputs]
    rw [step, addAllNew_append]
    cases complete : trigger.isComplete with
    | false =>
      have nothing : requestedOutputs [trigger] = [] := by simp [requestedOutputs, complete]
      rw [nothing]
      rfl
    | true =>
      have one : requestedOutputs [trigger] = [trigger.outputMetric] := by
        simp [requestedOutputs, complete]
      rw [one]
      rfl

/-- Where every trigger row has an output, the trigger rows are those with one. -/
theorem map_output?_rowsOf {rows : List Row} (titled : Titled rows) :
    (rows.filter fun row => row.model == Fixture.Model.trigger).map Network.output? =
      (rows.filterMap Network.output?).map some := by
  induction rows with
  | nil => rfl
  | cons row rest ih =>
    have later := ih fun other member => titled other (List.mem_cons_of_mem row member)
    by_cases trigger : row.model = Fixture.Model.trigger
    · rcases titled row List.mem_cons_self trigger with ⟨output, writes⟩
      simp [trigger, writes, later]
    · simp [trigger, output?_eq_none trigger, later]

/-! ## What stands in a row -/

/-- The row of an output is that of its last request, or from before. -/
theorem triggerRow?_putAll (indexed : s.Indexed) (wanted : List Trigger) (output : String) :
    match (requestsFor output wanted).getLast? with
    | some last => ∃ key, (s.putAll wanted).triggerRow? output =
        some ⟨Fixture.Model.trigger, key, last.fields key.toJson⟩
    | none => (s.putAll wanted).triggerRow? output = s.triggerRow? output := by
  induction wanted using List.reverseRecOn with
  | nil => rfl
  | append_singleton before trigger ih =>
    have now := indexed.moves (moves_putAll s before)
    rw [putAll_concat]
    by_cases asked : trigger.isComplete = true ∧ trigger.outputMetric = output
    · rcases asked with ⟨complete, rfl⟩
      have last : (requestsFor trigger.outputMetric (before ++ [trigger])).getLast? =
          some trigger := by
        simp [requestsFor, List.filter_append, complete]
      rcases triggerRow?_putTrigger_self now complete with ⟨key, _, found⟩
      rw [last]
      exact ⟨key, found⟩
    · have same : requestsFor output (before ++ [trigger]) = requestsFor output before := by
        simp only [requestsFor, List.filter_append]
        simpa using asked
      rw [same, triggerRow?_putTrigger_of_ne now fun complete own => asked ⟨complete, own⟩]
      exact ih

theorem answers_putAll (indexed : s.Indexed) (unrepeated : Unrepeated s.rows) {row : Row}
    (member : row ∈ (s.putAll wanted).rows) (writes : Network.output? row = some output) :
    s.Answers wanted output row := by
  have whole := moves_putAll s wanted
  have found : (s.putAll wanted).triggerRow? output = some row :=
    triggerRow?_of_output? (indexed.moves whole) (unrepeated.moves indexed whole) member writes
  have standing := triggerRow?_putAll indexed wanted output
  -- whoever had the output earlier has the key that its row has in the end
  have keeps : ∀ {before : List Trigger}, before <+: wanted -> ∀ {earlier : Row},
      (s.putAll before).triggerRow? output = some earlier -> earlier.key = row.key := by
    intro before front earlier stood
    have now := indexed.moves (moves_putAll s before)
    rcases (moves_putAll_onward s front).triggerRow? now stood with ⟨later, there, key⟩
    cases Option.some.inj (found.symm.trans there)
    exact key.symm
  constructor
  case key =>
    intro before trigger call asked
    rcases List.mem_filter.mp asked with ⟨_, own⟩
    rw [Bool.and_eq_true, beq_iff_eq] at own
    rcases own with ⟨complete, rfl⟩
    have now := indexed.moves (moves_putAll s before)
    rcases triggerRow?_putTrigger_self now complete with ⟨key, given, stood⟩
    rw [← putAll_concat] at stood
    exact given.trans (congrArg some (keeps call stood))
  case lasting =>
    intro before front earlier among own
    have run := moves_putAll s before
    exact keeps front (triggerRow?_of_output? (indexed.moves run) (unrepeated.moves indexed run)
      among own)
  case fields =>
    intro last asked
    rw [asked] at standing
    rcases standing with ⟨key, there⟩
    cases Option.some.inj (found.symm.trans there)
    rfl
  case unasked =>
    intro unasked
    rw [unasked, List.getLast?_nil] at standing
    rcases Option.bind_eq_some_iff.mp (standing.symm.trans found) with ⟨_, _, stands⟩
    exact List.mem_of_getElem? stands

/-- Let triggers be requested in a session that went on from no rows.  Then there is one
trigger row for each output that had a row or was requested completely, in this order,
and each is as its requests make it.  At the very start no output has a row.  A request that is not complete is given no key, and
it changes neither the rows nor the network nor what keys were issued. -/
theorem triggers_putAll (options : Options) (supply : Nat) (calls : List Call)
    (wanted : List Trigger) :
    let s := (start options supply).run calls
    let t := s.putAll wanted
    (t.rowsOf Fixture.Model.trigger).map Network.output? =
        (addAllNew (s.rows.filterMap Network.output?) (requestedOutputs wanted)).map some ∧
      (∀ row ∈ t.rowsOf Fixture.Model.trigger, ∀ output, Network.output? row = some output ->
        s.Answers wanted output row) ∧
      ∀ before trigger, before ++ [trigger] <+: wanted -> trigger.isComplete = false ->
        let u := s.putAll before
        let result := u.putTrigger trigger
        result.1 = none ∧ result.2.rows = u.rows ∧ result.2.network = u.network ∧
          result.2.registry = u.registry := by
  intro s t
  have begun : Moves (start options supply) s := moves_run _ calls
  have started : (start options supply).Indexed := indexed_resume options supply []
  have nothing : Unrepeated [] := ⟨List.nodup_nil, List.nodup_nil, List.nodup_nil⟩
  have unrepeated : Unrepeated s.rows := unrepeated_run options supply nothing calls
  have indexed : s.Indexed := started.moves begun
  have untitled : Titled (start options supply).rows := fun _ member => nomatch member
  have titled : Titled t.rows := (untitled.moves begun).moves (moves_putAll s wanted)
  refine ⟨?_, fun row member output writes => ?_, fun before trigger _ incomplete => ?_⟩
  · exact (map_output?_rowsOf titled).trans
      (congrArg (List.map some) (outputs_putAll indexed wanted))
  · exact answers_putAll indexed unrepeated (List.mem_of_mem_filter member) writes
  · intro u result
    have skipped : result = _ := u.putTrigger_incomplete incomplete
    rw [skipped]
    exact ⟨rfl, rfl, rfl, rfl⟩

end Session
end Sensornet
