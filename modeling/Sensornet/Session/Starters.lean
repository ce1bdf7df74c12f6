import Sensornet.Session.Links
import Sensornet.Session.Metrics

namespace Sensornet

/-!
# Metrics and triggers to start with

A zone gets a demand and an average pressure, a flow meter its raw reading
and the volume computed from it, and a pressure sensor its raw reading.
Triggers follow where their inputs exist: a zone's demand is computed from
the volumes of the meters that feed it, and its average pressure from the
pressure sensors inside it.
-/

open Json (Value Fields)

namespace Starter

def quarterHour : String := "QUARTER_HOUR"

/-- The fields of a computed metric at the standard interval. -/
def computed (unit label category tag target : String) : Fields :=
  [ ("unit", .text unit)
  , ("label", .text label)
  , ("category", .text category)
  , ("interval", .text quarterHour)
  , ("describes", .text quarterHour)
  , ("tags_list", .array [.text tag])
  , ("target_id", .text target) ]

def zoneDemand (target label : String) : Fields :=
  computed "m³/h" ("Zone Demand – " ++ label) "zone_demand" "sum_aggregated" target

def averagePressure (target label : String) : Fields :=
  computed "m" ("AZP – " ++ label) "average_zone_pressure" "avg_aggregated" target

def flowVolume (target label : String) : Fields :=
  computed "m³" ("Flow Volume – " ++ label) "flow_volume" "sum_aggregated" target

/-- The fields that end every raw reading, from the hints of its item. -/
def rawEnd (item : Domain.Item) (category target : String) (rawTable : Int) : Fields :=
  let interval := item.metricInterval.getD quarterHour
  [ ("category", .text (item.metricCategory.getD category))
  , ("interval", .text interval)
  , ("describes", .text interval)
  , ("tags_list", .array [.text "raw_data"])
  , ("target_id", .text target)
  , ("storage_table", Value.integer (item.metricStorageTable.getD rawTable)) ]

def flowReading (item : Domain.Item) (target : String) (rawTable : Int) : Fields :=
  [ ("unit", .text (item.metricUnit.getD "m³"))
  , ("label", .text ("Flow Reading – " ++ item.label))
  , ("source", .text "USER") ] ++ rawEnd item "flow_reading" target rawTable

def pressure (item : Domain.Item) (target : String) (rawTable : Int) : Fields :=
  [ ("unit", .text (item.metricUnit.getD "m"))
  , ("label", .text ("Pressure – " ++ item.label)) ] ++ rawEnd item "pressure" target rawTable

end Starter

namespace Session

/-- A metric of a target at the standard interval. -/
def starterMetric? (s : Session) (category target : String) : Option String :=
  s.network.metric? ⟨category, Starter.quarterHour, target⟩

/-- Write a trigger with one calculator. -/
def starterTrigger (s : Session) (calculatorName tokenSeed description : String)
    (more : Fields) (inputs : List String) (output : String) : Session :=
  let (token, s) := s.drawToken tokenSeed
  (s.putTrigger
    { calculators := [calculator calculatorName token more]
      description
      scheduleJob := ""
      inputMetrics := inputs
      outputMetric := output }).2

/-- The metrics of a target, and the trigger of a flow meter. -/
def metricsOfTarget (s : Session) (placed : Placement) : Session :=
  let item := placed.item
  let label := item.label
  let target := placed.id
  let rawTable := s.options.rawStorageTable
  if placed.kind = Domain.zoneKind then
    ((s.obtainMetric (Starter.zoneDemand target label)).2.obtainMetric
      (Starter.averagePressure target label)).2
  else if placed.kind = Domain.flowMeterKind then
    let (reading, s) := s.obtainMetric (Starter.flowReading item target rawTable)
    let (volume, s) := s.obtainMetric (Starter.flowVolume target label)
    s.starterTrigger "CALCULATE_DELTA" ("delta|" ++ target) ("Compute Flow Volume – " ++ label) []
      [reading] volume
  else if placed.kind = Domain.pressureSensorKind then
    (s.obtainMetric (Starter.pressure item target rawTable)).2
  else s

/-- The demand of a zone, from the volumes of some flow meters. -/
def demandTrigger (s : Session) (zone label : String) (meters : List String) : Session :=
  let volumes := meters.filterMap (s.starterMetric? "flow_volume")
  match s.starterMetric? "zone_demand" zone, volumes with
  | some demand, _ :: _ =>
    s.starterTrigger "CALCULATE_ZONE_DEMAND" ("demand|" ++ zone) ("Zone Demand – " ++ label) []
      volumes demand
  | _, _ => s

/-- The average pressure of a zone, from the pressure sensors inside it. -/
def pressureTrigger (s : Session) (zone label : String) : Session :=
  match s.network.zone? zone with
  | none => s
  | some found =>
    let pressures := s.network.sensorMetrics "pressure" none found
    match s.starterMetric? "average_zone_pressure" zone, pressures with
    | some average, _ :: _ =>
      s.starterTrigger "CALCULATE_AVG" ("azp|" ++ zone) ("AZP – " ++ label)
        [("aggregation_groups", .array [])] pressures average
    | _, _ => s

/-- The triggers of a zone. -/
def triggersOfZone (s : Session) (all : List Placement) (placed : Placement) : Session :=
  if placed.kind = Domain.zoneKind then
    (s.demandTrigger placed.id placed.item.label
      (Link.metersFeeding s.network all placed.id)).pressureTrigger placed.id placed.item.label
  else s

/-- All metrics and triggers to start with, for some items. -/
def starters (s : Session) (placed : List Placement) : Session :=
  placed.foldl (fun s p => s.triggersOfZone placed p) (placed.foldl metricsOfTarget s)

/-- Compile domain items: targets, links, and what they start with. -/
def addDomain (s : Session) (items : List Domain.Item) : Session :=
  let before := s.rows.length
  let (placed, s) := s.placeItems [] items
  let s := s.writeLinks placed
  let s := if s.options.starterMetrics then s.starters placed else s
  s.note (.domainCompiled items.length (s.rows.length - before))

end Session
end Sensornet
