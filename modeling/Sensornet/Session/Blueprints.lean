import Sensornet.Session.Metrics
import Sensornet.Template.Item

namespace Sensornet

/-!
# Metrics and triggers of a template

A metric or trigger blueprint is resolved in each of its contexts.  A metric
that exists already is bound instead of written.  A trigger takes its inputs
from its calculators, after these have got what they lack.
-/

open Json (Value Fields)
open Template (Item)

namespace Calculator

/-- Whether a member counts as missing: null, false, zero or the empty
text. -/
def isVoid : Option Value -> Bool
  | none | some .null => true
  | some (.bool flag) => !flag
  | some (.text s) => s.isEmpty
  | some (.number n) => n.toFloat == 0.0
  | some _ => false

/-- The `inputs` of a calculator, with a list under `metrics`. -/
def completeInputs (inputs : Fields) : Fields :=
  match Entries.get? "metrics" inputs with
  | some (.array _) => inputs
  | _ => Entries.insert "metrics" (.array []) inputs

/-- The members of a member that is an object; none otherwise. -/
def membersOf (key : String) (fields : Fields) : Fields :=
  ((Entries.get? key fields).map Value.fields).getD []

/-- Whether the arguments of a calculator lack a token. -/
def lacksToken (calculator : Value) : Bool :=
  isVoid (Entries.get? "metric_id" (membersOf "calc_args" calculator.fields))

/-- A calculator with everything it needs: an object of inputs, the token if
it lacks one, and a time range. -/
def complete (calculator : Value) (token : String) : Value :=
  let fields := calculator.fields
  let args := membersOf "calc_args" fields
  let args := Entries.insert "inputs" (.object (completeInputs (membersOf "inputs" args))) args
  let args := if lacksToken calculator then Entries.insert "metric_id" (.text token) args else args
  let args :=
    if isVoid (Entries.get? "time_range_type" args) then
      Entries.insert "time_range_type" (.text "operation") args
    else args
  .object (Entries.insert "calc_args" (.object args) fields)

/-- The metrics that a complete calculator reads. -/
def inputs (calculator : Value) : List String :=
  (Value.itemsOf (((calculator.get? "calc_args").bind (Value.get? "inputs")).bind
    (Value.get? "metrics"))).filterMap fun item => item.text?.filter fun s => !s.isEmpty

end Calculator

namespace Session

/-- Complete a calculator, drawing a token if it lacks one. -/
def completeCalculator (s : Session) (seed : String) (calculator : Value) : Value × Session :=
  if Calculator.lacksToken calculator then
    let (token, s) := s.drawToken seed
    (Calculator.complete calculator token, s)
  else (Calculator.complete calculator "", s)

/-- Complete some calculators in order. -/
def completeCalculators (s : Session) (seed : String) : List Value -> List Value × Session
  | [] => ([], s)
  | calculator :: rest =>
    let (complete, s) := s.completeCalculator seed calculator
    let (others, s) := s.completeCalculators seed rest
    (complete :: others, s)

/-- Make a metric blueprint in a context. -/
def makeMetric (item : Item) (s : Session) (context : Context) : Session :=
  let (resolved, s) := s.resolve context (.object item.fields)
  let (id, s) := s.obtainMetric resolved.fields
  s.bind item.abstractionId? context.name (.text id)

/-- Make a metric blueprint in all its contexts. -/
def makeMetrics (s : Session) (item : Item) : Session :=
  let contexts := contextsOf s.network s.aliases item
  let s := if contexts.isEmpty then s.note (.metricWithoutTargets item.shownName) else s
  contexts.foldl (makeMetric item) s

/-- Make a trigger blueprint in a context. -/
def makeTrigger (item : Item) (s : Session) (context : Context) : Session :=
  let name := context.name
  let (resolved, s) := s.resolve context item.value
  let (calculators, s) :=
    s.completeCalculators name.text (Value.itemsOf (resolved.get? "calculators"))
  let textOf := fun key => ((resolved.get? key).bind Value.text?).getD ""
  let (key, s) := s.putTrigger
    { calculators
      description := textOf "description"
      scheduleJob := textOf "schedule_job"
      inputMetrics := distinct (calculators.flatMap Calculator.inputs)
      outputMetric := textOf "output_metric" }
  match key with
  | some key => s.bind item.abstractionId? name key
  | none => s.note (.triggerEmpty item.shownName name.text)

/-- Make a trigger blueprint in all its contexts. -/
def makeTriggers (s : Session) (item : Item) : Session :=
  (contextsOf s.network s.aliases item).foldl (makeTrigger item) s

end Session
end Sensornet
