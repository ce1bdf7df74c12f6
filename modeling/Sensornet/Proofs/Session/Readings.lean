import Sensornet.Proofs.Session.Catalogue
import Sensornet.Proofs.Session.Tokens

namespace Sensornet

/-!
# What a trigger reads

`Session.reads` looks up what the trigger row with some output lists as its
inputs.  It changes only when a trigger with this very output is put, and then
it is what that trigger reads.  In rows without repeats there is one such row,
so this is a statement about all trigger rows.
-/

open Fixture (Key Row Registry)
open Json (Value Fields)
open Relation (ReflTransGen)

/-- What a trigger row lists as its inputs. -/
def Fixture.Row.inputs (row : Row) : List String :=
  (Value.itemsOf (row.field? "input_metrics")).filterMap Value.text?

/-- The row of a trigger lists what the trigger reads. -/
theorem inputs_of_fields {row : Row} {wanted : Trigger} {id : Value}
    (fields : row.fields = wanted.fields id) : row.inputs = wanted.inputMetrics := by
  have listed : row.field? "input_metrics" = some (.array (wanted.inputMetrics.map .text)) := by
    unfold Row.field?
    rw [fields]
    rfl
  unfold Row.inputs
  rw [listed]
  have all : (wanted.inputMetrics.map Value.text).filterMap Value.text? = wanted.inputMetrics := by
    rw [List.filterMap_map]
    exact List.filterMap_some
  exact all

namespace Session

/-- The place of an item is known by what is read from it, if that is never
read twice. -/
theorem place_of_nodup_filterMap {A B : Type} {read : A -> Option B} {items : List A}
    (unique : (items.filterMap read).Nodup) {i j : Nat} {a b : A} {c : B}
    (first : items[i]? = some a) (second : items[j]? = some b) (own : read a = some c)
    (other : read b = some c) : i = j := by
  have apart := List.pairwise_iff_getElem.mp (List.pairwise_filterMap.mp unique)
  rcases List.getElem?_eq_some_iff.mp first with ⟨below, rfl⟩
  rcases List.getElem?_eq_some_iff.mp second with ⟨belowToo, rfl⟩
  rcases lt_trichotomy i j with before | same | after
  · exact absurd rfl (apart i j below belowToo before c own c other)
  · exact same
  · exact absurd rfl (apart j i belowToo below after c other c own)

/-- So is the item. -/
theorem eq_of_nodup_filterMap {A B : Type} {read : A -> Option B} {items : List A}
    (unique : (items.filterMap read).Nodup) {a b : A} (member : a ∈ items) (memberToo : b ∈ items)
    {c : B} (own : read a = some c) (other : read b = some c) : a = b := by
  rcases List.getElem?_of_mem member with ⟨i, first⟩
  rcases List.getElem?_of_mem memberToo with ⟨j, second⟩
  cases place_of_nodup_filterMap unique first second own other
  exact Option.some.inj (first.symm.trans second)

/-- The inputs of the trigger with an output. -/
def reads (s : Session) (output : String) : Option (List String) :=
  (s.triggerRow? output).map Row.inputs

variable {models : List String} {asks : Session -> Trigger -> Prop} {s t : Session}
  {output : String}

theorem Quiet.triggerRow? (same : Quiet s t) : t.triggerRow? output = s.triggerRow? output := by
  unfold Session.triggerRow?
  rw [same.network, same.rows]

/-- A row of anything but a trigger is not in the way. -/
theorem triggerRow?_enter (indexed : s.Indexed) (registry : Registry) {row : Row}
    (passive : row.model ≠ Fixture.Model.trigger) :
    (s.enter registry row).triggerRow? output = s.triggerRow? output := by
  unfold triggerRow?
  rw [network_enter, rows_enter, Network.triggerPosition?_indexRow, output?_eq_none passive, if_neg (by simp)]
  cases known : s.network.triggerPosition? output with
  | none => rfl
  | some position =>
    rcases indexed.output?_of_known known with ⟨held, place, _⟩
    have below : position < s.rows.length := (List.getElem?_eq_some_iff.mp place).1
    exact List.getElem?_append_left below

/-- A position holds one output. -/
theorem Indexed.eq_of_triggerPosition? (indexed : s.Indexed) {other : String} {position : Nat}
    (known : s.network.triggerPosition? output = some position)
    (knownToo : s.network.triggerPosition? other = some position) : output = other := by
  rcases indexed.output?_of_known known with ⟨row, stands, writes⟩
  rcases indexed.output?_of_known knownToo with ⟨again, there, writesToo⟩
  cases Option.some.inj (stands.symm.trans there)
  exact Option.some.inj (writes.symm.trans writesToo)

/-- A complete trigger stands at one place afterwards, under the key that is given for
it, and no other row is touched. -/
theorem rows_putTrigger (indexed : s.Indexed) {wanted : Trigger}
    (complete : wanted.isComplete = true) :
    ∃ position key, (s.putTrigger wanted).1 = some key ∧
      (s.putTrigger wanted).2.network.triggerPosition? wanted.outputMetric = some position ∧
      (s.putTrigger wanted).2.rows[position]? =
        some ⟨Fixture.Model.trigger, key, wanted.fields key.toJson⟩ ∧
      ∀ place, place ≠ position -> (s.putTrigger wanted).2.rows[place]? = s.rows[place]? := by
  rcases s.stands_or_unknown wanted.outputMetric with ⟨position, row, known, stands⟩ | unknown
  · rcases indexed.output?_of_known known with ⟨held, there, writes⟩
    cases Option.some.inj (stands.symm.trans there)
    have trigger : row.model = Fixture.Model.trigger := Network.model_of_output? writes
    rw [s.putTrigger_known complete known stands]
    refine ⟨position, row.key, rfl, known, ?_, fun place apart => ?_⟩
    · rw [rows_replaceFields, rows_note, List.getElem?_modify_eq, stands, ← trigger]
      rfl
    · rw [rows_replaceFields, rows_note, List.getElem?_modify_ne _ _ (Ne.symm apart)]
  · rw [s.putTrigger_new complete unknown]
    dsimp only [network_enter, rows_enter]
    refine ⟨s.rows.length, _, rfl, ?_, List.getElem?_concat_length, fun place apart => ?_⟩
    · rw [Network.triggerPosition?_indexRow, Network.output?_triggerRow complete, if_pos rfl]
    · rcases Nat.lt_or_gt_of_ne apart with below | beyond
      · exact List.getElem?_append_left below
      · rw [List.getElem?_eq_none beyond.le]
        exact List.getElem?_eq_none (by simpa using Nat.succ_le_of_lt beyond)

/-- The network knows the places of other outputs as before. -/
theorem triggerPosition?_putTrigger_of_ne (s : Session) {wanted : Trigger}
    (other : wanted.isComplete = true -> wanted.outputMetric ≠ output) :
    (s.putTrigger wanted).2.network.triggerPosition? output =
      s.network.triggerPosition? output := by
  cases complete : wanted.isComplete with
  | false =>
    rw [s.putTrigger_incomplete complete]
    rfl
  | true =>
    rcases s.stands_or_unknown wanted.outputMetric with ⟨position, row, known, stands⟩ | unknown
    · rw [s.putTrigger_known complete known stands]
      rfl
    · rw [s.putTrigger_new complete unknown]
      dsimp only [network_enter]
      rw [Network.triggerPosition?_indexRow, Network.output?_triggerRow complete,
        if_neg fun same => other complete (Option.some.inj same)]

/-- A complete trigger that is put stands in the row of its output, under the key that
is given for it. -/
theorem triggerRow?_putTrigger_self (indexed : s.Indexed) {wanted : Trigger}
    (complete : wanted.isComplete = true) :
    ∃ key, (s.putTrigger wanted).1 = some key ∧
      (s.putTrigger wanted).2.triggerRow? wanted.outputMetric =
        some ⟨Fixture.Model.trigger, key, wanted.fields key.toJson⟩ := by
  rcases rows_putTrigger indexed complete with ⟨position, key, given, known, stands, _⟩
  exact ⟨key, given, Option.bind_eq_some_iff.mpr ⟨position, known, stands⟩⟩

/-- A trigger that is put does not touch the rows of other outputs. -/
theorem triggerRow?_putTrigger_of_ne (indexed : s.Indexed) {wanted : Trigger}
    (other : wanted.isComplete = true -> wanted.outputMetric ≠ output) :
    (s.putTrigger wanted).2.triggerRow? output = s.triggerRow? output := by
  have same := s.triggerPosition?_putTrigger_of_ne other
  unfold triggerRow?
  rw [same]
  cases complete : wanted.isComplete with
  | false => rw [s.putTrigger_incomplete complete, rows_note]
  | true =>
    rcases rows_putTrigger indexed complete with ⟨position, key, _, known, _, others⟩
    cases place : s.network.triggerPosition? output with
    | none => rfl
    | some elsewhere =>
      refine others elsewhere ?_
      rintro rfl
      have then' := indexed.moves (moves_putTrigger s wanted)
      exact other complete (then'.eq_of_triggerPosition? known (same.trans place))

/-- A trigger that is put is read from then on, and no other trigger is read
differently. -/
theorem reads_putTrigger (indexed : s.Indexed) (wanted : Trigger) :
    (s.putTrigger wanted).2.reads output =
      if wanted.isComplete = true ∧ wanted.outputMetric = output then some wanted.inputMetrics
      else s.reads output := by
  unfold reads
  split
  · next both =>
    rcases both with ⟨complete, rfl⟩
    rcases triggerRow?_putTrigger_self indexed complete with ⟨key, _, found⟩
    rw [found]
    exact congrArg some (inputs_of_fields rfl)
  · next away =>
    rw [triggerRow?_putTrigger_of_ne indexed fun complete same => away ⟨complete, same⟩]

/-- Deeds that ask for no trigger with an output leave it alone. -/
theorem Deeds.reads (run : Deeds models asks s t) (indexed : s.Indexed)
    (away : ∀ u wanted, asks u wanted -> wanted.outputMetric ≠ output) :
    t.reads output = s.reads output := by
  induction run with
  | refl => rfl
  | @tail u v before deed ih =>
    have then' := indexed.moves (Deeds.moves before)
    refine .trans ?_ ih
    cases deed with
    | still same => exact congrArg (Option.map Row.inputs) same.toQuiet.triggerRow?
    | bind id named => exact congrArg (Option.map Row.inputs) (Quiet.bind _ _ _ _).triggerRow?
    | enter model issued new named own among passive =>
      exact congrArg (Option.map Row.inputs) (triggerRow?_enter then' _ (own ▸ passive))
    | @ask wanted asked =>
      rw [reads_putTrigger then']
      exact if_neg fun both => away u wanted asked both.2

/-- Nothing is asked for. -/
def Silent (_ : Session) (_ : Trigger) : Prop :=
  False

theorem Deeds.reads_of_silent (run : Deeds models Silent s t) (indexed : s.Indexed) :
    t.reads output = s.reads output :=
  run.reads indexed fun _ _ asked => asked.elim

/-- Where rows repeat no output, the network knows the place of each. -/
theorem triggerPosition?_of_output? (indexed : s.Indexed) (unrepeated : Unrepeated s.rows)
    {position : Nat} {row : Row} (stands : s.rows[position]? = some row)
    (writes : Network.output? row = some output) :
    s.network.triggerPosition? output = some position := by
  have known : s.network.triggerPosition? output ≠ none := by
    intro unknown
    rw [indexed] at unknown
    exact (Network.triggerPosition?_index_eq_none_iff s.rows output).mp unknown
      (List.mem_filterMap.mpr ⟨row, List.mem_of_getElem? stands, writes⟩)
  rcases Option.ne_none_iff_exists'.mp known with ⟨other, found⟩
  rcases indexed.output?_of_known found with ⟨held, place, writesHeld⟩
  rw [found, place_of_nodup_filterMap unrepeated.triggers place stands writesHeld writes]

theorem triggerRow?_of_output? (indexed : s.Indexed) (unrepeated : Unrepeated s.rows) {row : Row}
    (member : row ∈ s.rows) (writes : Network.output? row = some output) :
    s.triggerRow? output = some row := by
  rcases List.getElem?_of_mem member with ⟨position, stands⟩
  exact Option.bind_eq_some_iff.mpr
    ⟨position, triggerPosition?_of_output? indexed unrepeated stands writes, stands⟩

/-- The trigger row with an output is the one that the network knows. -/
theorem triggerRow?_eq_some_iff (indexed : s.Indexed) (unrepeated : Unrepeated s.rows)
    {row : Row} (filled : output ≠ "") :
    s.triggerRow? output = some row ↔ row ∈ s.rows ∧ row.model = Fixture.Model.trigger ∧
      row.text? "output_metric" = some output := by
  constructor
  · intro found
    rcases Option.bind_eq_some_iff.mp found with ⟨position, known, stands⟩
    rcases indexed.output?_of_known known with ⟨held, place, writes⟩
    cases Option.some.inj (stands.symm.trans place)
    exact ⟨List.mem_of_getElem? stands, Network.model_of_output? writes,
      Network.text?_of_output? writes⟩
  · rintro ⟨member, trigger, text⟩
    have textOf : row.textOf "output_metric" = output := by
      unfold Row.textOf
      rw [text]
      rfl
    have writes : Network.output? row = some output := by
      unfold Network.output?
      rw [textOf]
      exact if_pos ⟨trigger, filled⟩
    exact triggerRow?_of_output? indexed unrepeated member writes

/-! ## The triggers of a domain -/

theorem reads_drawToken (s : Session) (seed output : String) :
    (s.drawToken seed).2.reads output = s.reads output :=
  congrArg (Option.map Row.inputs) (Quiet.drawToken s seed).triggerRow?

theorem reads_starterTrigger (indexed : s.Indexed) (name seed description : String) (more : Fields)
    {inputs : List String} (some' : inputs ≠ []) {written output : String}
    (filled : output ≠ "") :
    (s.starterTrigger name seed description more inputs written).reads output =
      if written = output then some inputs else s.reads output := by
  have drawn : (s.drawToken seed).2.Indexed := indexed
  unfold starterTrigger
  dsimp only
  rw [reads_putTrigger drawn, reads_drawToken]
  by_cases same : written = output
  · have complete := Trigger.isComplete_starter (same ▸ filled) some' name description more
      (s.drawToken seed).1
    rw [if_pos same, if_pos ⟨complete, same⟩]
  · rw [if_neg same, if_neg fun both => same both.2]

/-- The volumes of some flow meters, as far as they are known. -/
def volumes (s : Session) (meters : List String) : List String :=
  meters.filterMap (s.starterMetric? "flow_volume")

/-- Which meters feed a zone depends on zones and points only. -/
theorem metersFeeding_congr {n m : Network} (zones : m.zones = n.zones)
    (points : m.points = n.points) (placed : List Placement) (zone : String) :
    Link.metersFeeding m placed zone = Link.metersFeeding n placed zone := by
  unfold Link.metersFeeding
  rw [wantedBy_congr zones points]

/-- The volumes of the meters that feed a zone, of those among some items. -/
def feedOf (s : Session) (placed : List Placement) (zone : String) : List String :=
  s.volumes (Link.metersFeeding s.network placed zone)

theorem starterMetric?_congr (metrics : t.network.metrics = s.network.metrics) :
    t.starterMetric? = s.starterMetric? := by
  funext category target
  unfold starterMetric? Network.metric?
  rw [metrics]

theorem feedOf_congr (zones : t.network.zones = s.network.zones)
    (points : t.network.points = s.network.points)
    (metrics : t.network.metrics = s.network.metrics) (placed : List Placement) (zone : String) :
    t.feedOf placed zone = s.feedOf placed zone := by
  unfold feedOf volumes
  rw [metersFeeding_congr zones points, starterMetric?_congr metrics]

/-- What is known of the pressure in a zone. -/
def pressures (s : Session) (zone : String) : List String :=
  ((s.network.zone? zone).map (s.network.sensorMetrics "pressure" none)).getD []

theorem pressures_congr (zones : t.network.zones = s.network.zones)
    (points : t.network.points = s.network.points)
    (metrics : t.network.metrics = s.network.metrics) (zone : String) :
    t.pressures zone = s.pressures zone := by
  unfold pressures Network.zone? Network.sensorMetrics Network.point?
  rw [zones, points, metrics]

/-- The demand of a zone is put if it is known and some volume is. -/
theorem demandTrigger_of_known {zone demand : String} {meters : List String}
    (found : s.starterMetric? "zone_demand" zone = some demand) (some' : s.volumes meters ≠ [])
    (label : String) : s.demandTrigger zone label meters =
      s.starterTrigger "CALCULATE_ZONE_DEMAND" ("demand|" ++ zone) ("Zone Demand – " ++ label) []
        (s.volumes meters) demand := by
  rcases List.exists_cons_of_ne_nil some' with ⟨first, rest, listed⟩
  unfold volumes at listed ⊢
  unfold demandTrigger
  simp only [found, listed]

theorem demandTrigger_of_unknown {zone : String} {meters : List String}
    (missing : s.starterMetric? "zone_demand" zone = none ∨ s.volumes meters = [])
    (label : String) : s.demandTrigger zone label meters = s := by
  unfold volumes at missing
  unfold demandTrigger
  dsimp only
  split
  · next found listed =>
    rcases missing with unknown | empty
    · cases unknown.symm.trans found
    · cases empty.symm.trans listed
  · rfl

/-- The average pressure of a zone is put if it is known and some pressure is. -/
theorem pressureTrigger_of_known {zone average : String}
    (found : s.starterMetric? "average_zone_pressure" zone = some average)
    (some' : s.pressures zone ≠ []) (label : String) : s.pressureTrigger zone label =
      s.starterTrigger "CALCULATE_AVG" ("azp|" ++ zone) ("AZP – " ++ label)
        [("aggregation_groups", .array [])] (s.pressures zone) average := by
  rcases List.exists_cons_of_ne_nil some' with ⟨first, rest, listed⟩
  unfold pressures at listed ⊢
  unfold pressureTrigger
  cases around : s.network.zone? zone with
  | none =>
    rw [around] at listed
    cases listed
  | some around' =>
    rw [around, Option.map_some, Option.getD_some] at listed
    simp only [found, listed, Option.map_some, Option.getD_some]

theorem pressureTrigger_of_unknown {zone : String}
    (missing : s.starterMetric? "average_zone_pressure" zone = none ∨ s.pressures zone = [])
    (label : String) : s.pressureTrigger zone label = s := by
  unfold pressures at missing
  unfold pressureTrigger
  cases around : s.network.zone? zone with
  | none => rfl
  | some found =>
    rw [around, Option.map_some, Option.getD_some] at missing
    dsimp only
    split
    · next known listed =>
      rcases missing with unknown | empty
      · cases unknown.symm.trans known
      · cases empty.symm.trans listed
    · rfl

theorem reads_demandTrigger (indexed : s.Indexed) (zone label : String) (meters : List String)
    {output : String} (filled : output ≠ "") :
    (s.demandTrigger zone label meters).reads output =
      if s.starterMetric? "zone_demand" zone = some output ∧ s.volumes meters ≠ [] then
        some (s.volumes meters)
      else s.reads output := by
  cases found : s.starterMetric? "zone_demand" zone with
  | none =>
    rw [demandTrigger_of_unknown (Or.inl found)]
    exact (if_neg fun both => nomatch both.1).symm
  | some demand =>
    by_cases listed : s.volumes meters = []
    · rw [demandTrigger_of_unknown (Or.inr listed)]
      exact (if_neg fun both => both.2 listed).symm
    · rw [demandTrigger_of_known found listed, reads_starterTrigger indexed _ _ _ _ listed filled]
      exact if_congr (by simp [listed]) rfl rfl

theorem reads_pressureTrigger (indexed : s.Indexed) (zone label : String) {output : String}
    (filled : output ≠ "") :
    (s.pressureTrigger zone label).reads output =
      if s.starterMetric? "average_zone_pressure" zone = some output ∧ s.pressures zone ≠ [] then
        some (s.pressures zone)
      else s.reads output := by
  cases found : s.starterMetric? "average_zone_pressure" zone with
  | none =>
    rw [pressureTrigger_of_unknown (Or.inl found)]
    exact (if_neg fun both => nomatch both.1).symm
  | some average =>
    by_cases listed : s.pressures zone = []
    · rw [pressureTrigger_of_unknown (Or.inr listed)]
      exact (if_neg fun both => both.2 listed).symm
    · rw [pressureTrigger_of_known found listed, reads_starterTrigger indexed _ _ _ _ listed filled]
      exact if_congr (by simp [listed]) rfl rfl

end Session
end Sensornet
