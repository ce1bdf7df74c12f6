import Sensornet.Proofs.Network.Indexing
import Sensornet.Session.Compile

namespace Sensornet

/-!
# Entering a row

Rows are appended in six places: zones, points, links, metrics, triggers and
what is shown to users.  Each of them draws a key, appends a row and tells the
network about it by hand.  `Session.enter` does the last two the way an index
of the rows would, and the equations below say that every one of the six
places does just this.  They hold of every session, whatever its network.

A text key is made for a purpose, which can be read off the row again: the
label of a zone, category and label of a point, the identity of a metric and
the output of a trigger.
-/

open Fixture (Key Row Registry)
open Json (Value Fields)

/-! ## The rows that are entered -/

namespace Domain.Item

/-- What the row of a zone stores as its coordinates. -/
def zoneCoords (item : Item) : Value :=
  match item.polygon? with
  | some _ => item.coordinates
  | none => .array []

/-- What the row of a sensor stores as its coordinates. -/
def pointCoords (item : Item) : Value :=
  match item.position? with
  | some _ => item.coordinates
  | none => .null

def zoneRow (item : Item) (id : String) : Row :=
  ⟨Fixture.Model.polygon, .text id,
    item.fields id Domain.zoneKind item.zoneCoords item.zoneCoords.pretty⟩

def pointRow (item : Item) (kind id : String) : Row :=
  ⟨Fixture.Model.point, .text id,
    item.fields id kind item.pointCoords ((item.position?.map Geometry.Position.text).getD "")⟩

end Domain.Item

/-- The row of a metric whose fields are complete. -/
def Metric.row (complete : Fields) (id : String) : Row :=
  ⟨Fixture.Model.metric, .text id, Entries.insert "id" (.text id) complete⟩

def Trigger.row (wanted : Trigger) (id : String) : Row :=
  ⟨Fixture.Model.trigger, .text id, wanted.fields (.text id)⟩

def Link.row (link : Link) (id : Int) : Row :=
  ⟨Fixture.Model.link, .integer id, link.fields id⟩

def Widget.row (model : String) (key : Int) (fields : Fields) : Row :=
  ⟨model, .integer key, Widget.rowFields key fields⟩

/-! ## What an index makes of them -/

namespace Network

variable (n : Network)

theorem indexRow_zoneRow (item : Domain.Item) (id : String) (position : Nat) :
    n.indexRow (item.zoneRow id) position = n.addZone ⟨id, item.label, item.polygon?.getD []⟩ := by
  have shape : polygonOf (item.zoneRow id) = item.polygon?.getD [] := by
    have coord : (item.zoneRow id).field? "coord" = some item.zoneCoords := rfl
    unfold polygonOf
    rw [coord, Option.bind_some]
    unfold Domain.Item.zoneCoords
    cases drawn : item.polygon? with
    | some polygon =>
      have read : Geometry.Polygon.ofJson? item.coordinates = some polygon := drawn
      simp only [read]
      rfl
    | none => rfl
  rw [n.indexRow_polygon rfl]
  exact congrArg (fun polygon => n.addZone ⟨id, item.label, polygon⟩) shape

theorem indexRow_pointRow (item : Domain.Item) (kind id : String) (position : Nat) :
    n.indexRow (item.pointRow kind id) position =
      match item.position? with
      | some place => n.addPoint ⟨id, item.label, kind, place⟩
      | none => n.noteTarget kind item.label id := by
  have place : positionOf? (item.pointRow kind id) = item.position? := by
    have coord : (item.pointRow kind id).field? "coord" = some item.pointCoords := rfl
    unfold positionOf?
    rw [coord, Option.bind_some]
    unfold Domain.Item.pointCoords
    cases stands : item.position? with
    | some place => exact stands
    | none => rfl
  rw [n.indexRow_point rfl, place]
  rfl

theorem identity?_metricRow (complete : Fields) (id : String) :
    identity? (Metric.row complete id) = some (Metric.Identity.ofFields complete) := by
  have kept : ∀ key, key ≠ "id" ->
      (Metric.row complete id).textOf key = Metric.textOf complete key := by
    intro key different
    unfold Row.textOf Row.text? Row.field? Metric.textOf Metric.row
    rw [Entries.get?_insert_of_ne different]
  have same : identityOf (Metric.row complete id) = Metric.Identity.ofFields complete := by
    unfold identityOf Metric.Identity.ofFields
    rw [kept "category" (by decide), kept "interval" (by decide), kept "target_id" (by decide)]
  exact (if_pos rfl).trans (congrArg some same)

theorem indexRow_metricRow {complete : Fields}
    (unknown : n.metric? (Metric.Identity.ofFields complete) = none) (id : String)
    (position : Nat) :
    n.indexRow (Metric.row complete id) position =
      n.insertMetric (Metric.Identity.ofFields complete) id := by
  have own := Option.some.inj ((if_pos rfl).symm.trans (identity?_metricRow complete id))
  rw [n.indexRow_metric rfl, own, unknown]
  rfl

theorem output?_triggerRow {wanted : Trigger} (complete : wanted.isComplete = true) (id : String) :
    output? (wanted.row id) = some wanted.outputMetric :=
  if_pos ⟨rfl, (Trigger.isComplete_iff.mp complete).1⟩

theorem indexRow_triggerRow {wanted : Trigger} (complete : wanted.isComplete = true) (id : String)
    (position : Nat) :
    n.indexRow (wanted.row id) position = n.insertTrigger wanted.outputMetric position :=
  n.indexRow_output (output?_triggerRow complete id) position

theorem not_reads_link : ¬ Reads Fixture.Model.link := by
  unfold Reads
  decide

theorem not_reads_shown {kind : Template.Kind} {model : String} (shown : kind.isShown = true)
    (named : kind.model? = some model) : ¬ Reads model := by
  unfold Reads
  cases kind <;> cases shown <;> cases named <;> decide

theorem indexRow_linkRow (link : Link) (id : Int) (position : Nat) :
    n.indexRow (link.row id) position = n :=
  n.indexRow_other not_reads_link position

/-- What is shown to users means nothing to the network. -/
theorem indexRow_widgetRow {kind : Template.Kind} {model : String} (shown : kind.isShown = true)
    (named : kind.model? = some model) (key : Int) (fields : Fields) (position : Nat) :
    n.indexRow (Widget.row model key fields) position = n :=
  n.indexRow_other (not_reads_shown shown named) position

end Network

/-! ## What keys are made for -/

namespace Fixture.Row

/-- What the text key of a row is made for. -/
def purpose? (row : Row) : Option (Fixture.Record × String) :=
  if row.model = Fixture.Model.polygon then some (.polygon, "zone|" ++ row.textOf "label")
  else if row.model = Fixture.Model.point then
    some (.point, "point|" ++ row.textOf "category" ++ "|" ++ row.textOf "label")
  else
    match Network.identity? row with
    | some identity => some (.metric, identity.seed)
    | none => (Network.output? row).map fun output => (.trigger, "trigger|" ++ output)

/-- The text key of a row, if it has one, was made for what the row is. -/
def IsNamed (row : Row) (r after : Registry) : Prop :=
  ∀ id, row.key = .text id -> ∃ kind seed, row.purpose? = some (kind, seed) ∧
    r.make kind seed = (id, after)

namespace IsNamed

variable {row : Row} {r : Registry}

theorem of_purpose {kind : Fixture.Record} {seed : String}
    (purpose : row.purpose? = some (kind, seed)) (key : row.key = .text (r.make kind seed).1) :
    row.IsNamed r (r.make kind seed).2 := by
  intro id own
  cases Key.text.inj (key.symm.trans own)
  exact ⟨kind, seed, purpose, rfl⟩

theorem of_integer {after : Registry} {n : Int} (key : row.key = .integer n) :
    row.IsNamed r after := by
  intro id own
  cases key.symm.trans own

end IsNamed
end Fixture.Row

theorem purpose?_zoneRow (item : Domain.Item) (id : String) :
    (item.zoneRow id).purpose? = some (.polygon, "zone|" ++ item.label) :=
  rfl

theorem purpose?_pointRow (item : Domain.Item) (kind id : String) :
    (item.pointRow kind id).purpose? =
      some (.point, "point|" ++ kind ++ "|" ++ item.label) :=
  rfl

theorem purpose?_metricRow (complete : Fields) (id : String) :
    (Metric.row complete id).purpose? =
      some (.metric, (Metric.Identity.ofFields complete).seed) := by
  have polygon : Fixture.Model.metric ≠ Fixture.Model.polygon := by decide
  have point : Fixture.Model.metric ≠ Fixture.Model.point := by decide
  have model : (Metric.row complete id).model = Fixture.Model.metric := rfl
  unfold Row.purpose?
  rw [model, if_neg polygon, if_neg point, Network.identity?_metricRow complete id]

theorem purpose?_of_output? {row : Row} {output : String}
    (writes : Network.output? row = some output) :
    row.purpose? = some (.trigger, "trigger|" ++ output) := by
  have polygon : Fixture.Model.trigger ≠ Fixture.Model.polygon := by decide
  have point : Fixture.Model.trigger ≠ Fixture.Model.point := by decide
  have metric : Fixture.Model.trigger ≠ Fixture.Model.metric := by decide
  unfold Row.purpose? Network.identity?
  rw [Network.model_of_output? writes, if_neg polygon, if_neg point, if_neg metric, writes]
  rfl

theorem purpose?_triggerRow {wanted : Trigger} (complete : wanted.isComplete = true)
    (id : String) :
    (wanted.row id).purpose? = some (.trigger, "trigger|" ++ wanted.outputMetric) :=
  purpose?_of_output? (Network.output?_triggerRow complete id)

/-! ## The six places -/

namespace Session

/-- Append a row under a key just issued, and index it. -/
def enter (s : Session) (registry : Registry) (row : Row) : Session :=
  { s with
    registry
    rows := s.rows ++ [row]
    network := s.network.indexRow row s.rows.length }

variable (s : Session)

@[simp]
theorem rows_enter (registry : Registry) (row : Row) :
    (s.enter registry row).rows = s.rows ++ [row] :=
  rfl

@[simp]
theorem network_enter (registry : Registry) (row : Row) :
    (s.enter registry row).network = s.network.indexRow row s.rows.length :=
  rfl

@[simp]
theorem rows_replaceFields (position : Nat) (fields : Fields) :
    (s.replaceFields position fields).rows =
      s.rows.modify position fun row => { row with fields } :=
  rfl

@[simp]
theorem network_replaceFields (position : Nat) (fields : Fields) :
    (s.replaceFields position fields).network = s.network :=
  rfl

@[simp]
theorem rows_note (notice : Notice) : (s.note notice).rows = s.rows :=
  rfl

@[simp]
theorem network_note (notice : Notice) : (s.note notice).network = s.network :=
  rfl

/-- The session after what is remarked about the coordinates of a zone. -/
def noteZone (item : Domain.Item) : Session :=
  match item.polygon? with
  | some _ => s
  | none => s.note (.zoneWithoutCoords item.label)

theorem placeAsZone_eq (item : Domain.Item) :
    s.placeAsZone item =
      let (id, registry) := s.registry.make .polygon ("zone|" ++ item.label)
      (id, (s.enter registry (item.zoneRow id)).noteZone item) := by
  unfold placeAsZone noteZone enter
  simp only [Network.indexRow_zoneRow]
  unfold Domain.Item.zoneRow Domain.Item.zoneCoords
  cases item.polygon? <;> rfl

/-- The session after what is remarked about the coordinates and the category
of a sensor. -/
def notePoint (item : Domain.Item) (kind : String) : Session :=
  let s := if item.position?.isSome then s else s.note (.pointWithoutCoords item.label)
  if kind = Domain.flowMeterKind ∨ kind = Domain.pressureSensorKind then s
  else s.note (.unknownCategory item.category item.label)

theorem placeAsPoint_eq (item : Domain.Item) (kind : String) :
    s.placeAsPoint item kind =
      let (id, registry) := s.registry.make .point ("point|" ++ kind ++ "|" ++ item.label)
      (id, (s.enter registry (item.pointRow kind id)).notePoint item kind) := by
  unfold placeAsPoint notePoint enter
  simp only [Network.indexRow_pointRow]
  unfold Domain.Item.pointRow Domain.Item.pointCoords
  cases item.position? <;> by_cases known :
    kind = Domain.flowMeterKind ∨ kind = Domain.pressureSensorKind <;>
    simp only [known, if_true, if_false] <;> rfl

/-- How many items with the category and label of an item were placed before. -/
def earlier (placed : List Placement) (item : Domain.Item) : Nat :=
  placed.countP fun p => p.kind == item.kind && p.item.label == item.label

/-- The session after what is remarked about a shared label. -/
def noteShared (placed : List Placement) (item : Domain.Item) : Session :=
  if 0 < earlier placed item then s.note (.labelShared item.kind item.label) else s

theorem placeItem_known {placed : List Placement} {item : Domain.Item} {id : String}
    (known : (s.network.targetsNamed item.kind item.label)[earlier placed item]? = some id) :
    s.placeItem placed item =
      (⟨item, item.kind, id⟩, s.note (.targetExists item.kind item.label id)) := by
  unfold earlier at known
  unfold placeItem
  simp only [known]

theorem placeItem_zone {placed : List Placement} {item : Domain.Item}
    (unknown : (s.network.targetsNamed item.kind item.label)[earlier placed item]? = none)
    (zone : item.kind = Domain.zoneKind) :
    s.placeItem placed item =
      let (id, t) := (s.noteShared placed item).placeAsZone item
      (⟨item, item.kind, id⟩, t) := by
  unfold earlier at unknown
  unfold placeItem noteShared earlier
  simp only [unknown, if_pos zone]

theorem placeItem_point {placed : List Placement} {item : Domain.Item}
    (unknown : (s.network.targetsNamed item.kind item.label)[earlier placed item]? = none)
    (sensor : item.kind ≠ Domain.zoneKind) :
    s.placeItem placed item =
      let (id, t) := (s.noteShared placed item).placeAsPoint item item.kind
      (⟨item, item.kind, id⟩, t) := by
  unfold earlier at unknown
  unfold placeItem noteShared earlier
  simp only [unknown, if_neg sensor]

theorem obtainMetric_known {fields : Fields} {id : String}
    (known : s.network.metric?
      (.ofFields (Metric.complete s.aliases s.options.storageTable fields)) = some id) :
    ∃ notice, s.obtainMetric fields = (id, s.note notice) := by
  unfold obtainMetric
  simp only [known]
  exact ⟨.metricExists _ _ _ id, rfl⟩

theorem obtainMetric_new {fields : Fields}
    (unknown : s.network.metric?
      (.ofFields (Metric.complete s.aliases s.options.storageTable fields)) = none) :
    s.obtainMetric fields =
      let complete := Metric.complete s.aliases s.options.storageTable fields
      let (id, registry) := s.registry.make .metric (Metric.Identity.ofFields complete).seed
      (id, s.enter registry (Metric.row complete id)) := by
  unfold obtainMetric enter
  simp only [unknown, Network.indexRow_metricRow s.network unknown]
  rfl

/-- The row of a new metric has its complete fields and the id that is given. -/
theorem rows_obtainMetric_of_unknown {fields : Fields}
    (unknown : s.network.metric?
      (.ofFields (Metric.complete s.aliases s.options.storageTable fields)) = none) :
    (s.obtainMetric fields).2.rows = s.rows ++
      [Metric.row (Metric.complete s.aliases s.options.storageTable fields)
        (s.obtainMetric fields).1] := by
  rw [s.obtainMetric_new unknown]
  rfl

/-- Some row holds the trigger of an output, or no row that is known does. -/
theorem stands_or_unknown (output : String) :
    (∃ position row, s.network.triggerPosition? output = some position ∧
      s.rows[position]? = some row) ∨
    ∀ position, s.network.triggerPosition? output = some position ->
      s.rows[position]? = none := by
  cases s.network.triggerPosition? output with
  | none => exact Or.inr fun _ known => nomatch known
  | some position =>
    cases stands : s.rows[position]? with
    | none =>
      right
      intro place same
      cases same
      exact stands
    | some row => exact Or.inl ⟨position, row, rfl, stands⟩

theorem putTrigger_incomplete {wanted : Trigger} (incomplete : wanted.isComplete = false) :
    s.putTrigger wanted = (none, s.note (.triggerSkipped wanted.description wanted.outputMetric
      wanted.inputMetrics.length)) := by
  unfold putTrigger
  rw [incomplete]
  rfl

/-- A trigger whose output stands in some row replaces the fields of that row. -/
theorem putTrigger_known {wanted : Trigger} (complete : wanted.isComplete = true) {position : Nat}
    {row : Row} (known : s.network.triggerPosition? wanted.outputMetric = some position)
    (stands : s.rows[position]? = some row) :
    s.putTrigger wanted =
      (some row.key, (s.note (.triggerUpdated row.key.shown wanted.outputMetric)).replaceFields
        position (wanted.fields row.key.toJson)) := by
  have found : ((s.network.triggerPosition? wanted.outputMetric).bind fun position =>
      s.rows[position]?.map fun row => (position, row.key)) = some (position, row.key) := by
    rw [known, Option.bind_some, stands, Option.map_some]
  unfold putTrigger
  simp only [complete, found]
  rfl

theorem putTrigger_new {wanted : Trigger} (complete : wanted.isComplete = true)
    (unknown : ∀ position, s.network.triggerPosition? wanted.outputMetric = some position ->
      s.rows[position]? = none) :
    s.putTrigger wanted =
      let (id, registry) := s.registry.make .trigger ("trigger|" ++ wanted.outputMetric)
      (some (.text id), s.enter registry (wanted.row id)) := by
  have nowhere : ((s.network.triggerPosition? wanted.outputMetric).bind fun position =>
      s.rows[position]?.map fun row => (position, row.key)) = none := by
    cases known : s.network.triggerPosition? wanted.outputMetric with
    | none => rfl
    | some position => rw [Option.bind_some, unknown position known, Option.map_none]
  unfold putTrigger enter
  simp only [complete, nowhere, Network.indexRow_triggerRow s.network complete]
  rfl

theorem writeLink_new {link : Link} {written : List Link} (unwritten : link ∉ written) :
    writeLink (written, s) link =
      let (id, registry) := s.registry.nextInteger
      (written ++ [link], s.enter registry (link.row id)) := by
  unfold writeLink enter
  simp only [unwritten, if_false, Network.indexRow_linkRow]
  rfl

end Session
end Sensornet
