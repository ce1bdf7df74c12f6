import Sensornet.Session.Basic

namespace Sensornet

/-!
# Metrics and triggers

A metric is the same metric when category, interval and target agree, after
synonyms are replaced.  It is written once, and asking for it again gives its
id.  A trigger is known by the metric it writes: the first request appends
its row, and later ones replace the fields of that row.
-/

open Json (Value Fields)

namespace Metric

/-- What every metric has before its own fields are written over it. -/
def defaults (storageTable : Int) : Fields :=
  [ ("factor", Value.integer 1)
  , ("offset", Value.integer 0)
  , ("source", .text "FORMULA")
  , ("data_type", .text "ANALOG")
  , ("value_range", .array [])
  , ("is_optimized", .bool false)
  , ("storage_table", Value.integer storageTable)
  , ("aggregation_type", .text "gauge")
  , ("pulse_round_down", .bool false)
  , ("histogram_interval", .object
      [ ("days", Value.integer 0)
      , ("hours", Value.integer 0)
      , ("minutes", Value.integer 0) ]) ]

/-- Put the canonical word in place of a text under a key. -/
def canonicalize (synonyms : List (String × String)) (key : String) (fields : Fields) : Fields :=
  match Entries.get? key fields with
  | some (.text word) =>
    match Entries.get? word synonyms with
    | some canonical => Entries.insert key (.text canonical) fields
    | none => fields
  | _ => fields

/-- The complete fields of a metric, its id excepted. -/
def complete (aliases : Aliases) (storageTable : Int) (fields : Fields) : Fields :=
  canonicalize aliases.intervals "interval"
    (canonicalize aliases.categories "category"
      (Entries.insertAll (defaults storageTable) fields))

/-- A text field, or the empty text. -/
def textOf (fields : Fields) (key : String) : String :=
  ((Entries.get? key fields).bind Value.text?).getD ""

/-- The identity that complete fields give a metric. -/
def Identity.ofFields (fields : Fields) : Identity :=
  ⟨textOf fields "category", textOf fields "interval", textOf fields "target_id"⟩

/-- What an identity is called when its key is made. -/
def Identity.seed (identity : Identity) : String :=
  "metric|" ++ identity.category ++ "|" ++ identity.interval ++ "|" ++ identity.target

end Metric

/-- What a trigger is to do. -/
structure Trigger where
  calculators : List Value
  description : String
  scheduleJob : String
  inputMetrics : List String
  outputMetric : String

namespace Trigger

/-- Whether there is anything to write and anything to read. -/
def isComplete (wanted : Trigger) : Bool :=
  !wanted.outputMetric.isEmpty && !wanted.inputMetrics.isEmpty

theorem isComplete_iff {wanted : Trigger} :
    wanted.isComplete = true ↔ wanted.outputMetric ≠ "" ∧ wanted.inputMetrics ≠ [] := by
  simp [isComplete]

/-- The fields of the row of a trigger. -/
def fields (wanted : Trigger) (id : Value) : Fields :=
  [ ("id", id)
  , ("caller", .text "REAL_TIME")
  , ("is_active", .bool true)
  , ("calculator", .text "")
  , ("calculators", .array wanted.calculators)
  , ("description", .text wanted.description)
  , ("schedule_job", .text wanted.scheduleJob)
  , ("input_metrics", .array (wanted.inputMetrics.map .text))
  , ("output_metric", .text wanted.outputMetric) ]

end Trigger

/-- A calculator without inputs of its own. -/
def calculator (name token : String) (more : Fields) : Value :=
  .object
    [ ("calc_args", .object
        ([ ("inputs", .object [])
         , ("metric_id", .text token)
         , ("time_range_type", .text "operation") ] ++ more))
    , ("calc_name", .text name) ]

namespace Session

open Fixture (Key Row)

/-- The id of the metric with these fields, which is written if it is new. -/
def obtainMetric (s : Session) (fields : Fields) : String × Session :=
  let complete := Metric.complete s.aliases s.options.storageTable fields
  let identity := Metric.Identity.ofFields complete
  match s.network.metric? identity with
  | some id =>
    (id, s.note (.metricExists identity.category identity.interval identity.target id))
  | none =>
    let (id, s) := s.makeId .metric identity.seed
    let row : Row := ⟨Fixture.Model.metric, .text id, Entries.insert "id" (.text id) complete⟩
    (id, { s.push row with network := s.network.insertMetric identity id })

/-- Replace the fields of the row at a position. -/
def replaceFields (s : Session) (position : Nat) (fields : Fields) : Session :=
  { s with rows := s.rows.modify position fun row => { row with fields } }

/-- Write a trigger, or replace the fields of the one with its output, and
give its key.  Without an output or without inputs nothing is written. -/
def putTrigger (s : Session) (wanted : Trigger) : Option Key × Session :=
  if !wanted.isComplete then
    (none, s.note (.triggerSkipped wanted.description wanted.outputMetric wanted.inputMetrics.length))
  else
    match (s.network.triggerPosition? wanted.outputMetric).bind fun position =>
        s.rows[position]?.map fun row => (position, row.key) with
    | some (position, key) =>
      (some key, (s.note (.triggerUpdated key.shown wanted.outputMetric)).replaceFields position
        (wanted.fields key.toJson))
    | none =>
      let (id, s) := s.makeId .trigger ("trigger|" ++ wanted.outputMetric)
      let position := s.rows.length
      let s := s.push ⟨Fixture.Model.trigger, .text id, wanted.fields (.text id)⟩
      (some (.text id), { s with network := s.network.insertTrigger wanted.outputMetric position })

end Session
end Sensornet
