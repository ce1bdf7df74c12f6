import Sensornet.Proofs.Session.Placing

namespace Sensornet

/-!
# Where targets are

In a session without a past every item of a call is given a target of its own.
Zones and points of the network are then those of the items, in their order,
and what the network says about a sensor can be said about its item: which
zone is around it, which zone it names, and which meters feed a zone.
-/

open Fixture (Key Row Registry)
open Relation (ReflTransGen)

/-! ## Lists without repeats -/

/-- Items that each stand for one value, perhaps several times or not at all,
give the values of those that stand for one. -/
theorem addAllNew_flatMap {A B : Type} [DecidableEq B] {items : List A} {read : A -> List B}
    {keep : A -> Bool} {name : A -> B} (only : ∀ a ∈ items, ∀ b ∈ read a, b = name a)
    (kept : ∀ a ∈ items, read a = [] ↔ keep a = false) (unique : (items.map name).Nodup)
    {seen : List B} (apart : ∀ a ∈ items, name a ∉ seen) :
    addAllNew seen (items.flatMap read) = seen ++ (items.filter keep).map name := by
  induction items generalizing seen with
  | nil => exact (List.append_nil seen).symm
  | cons a rest ih =>
    rw [List.map_cons, List.nodup_cons] at unique
    have later : ∀ {seen : List B}, (∀ b ∈ rest, name b ∉ seen) ->
        addAllNew seen (rest.flatMap read) = seen ++ (rest.filter keep).map name :=
      ih (fun b member => only b (List.mem_cons_of_mem a member))
        (fun b member => kept b (List.mem_cons_of_mem a member)) unique.2
    have own := kept a List.mem_cons_self
    rw [List.flatMap_cons, addAllNew_append]
    cases listed : read a with
    | nil =>
      rw [List.filter_cons_of_neg (by rw [own.mp listed]; simp)]
      exact later fun b member => apart b (List.mem_cons_of_mem a member)
    | cons value others =>
      have among := only a List.mem_cons_self
      rw [listed] at among
      have first : value = name a := among value List.mem_cons_self
      have all : addAllNew seen (value :: others) = seen ++ [name a] := by
        rw [addAllNew_cons, first, addNew_of_not_mem (apart a List.mem_cons_self)]
        apply addAllNew_eq_self
        intro other member
        rw [among other (List.mem_cons_of_mem value member)]
        exact List.mem_append_right _ List.mem_cons_self
      have keeps : keep a = true := by
        apply Bool.eq_true_of_not_eq_false
        intro out
        rw [own.mpr out] at listed
        cases listed
      rw [all, List.filter_cons_of_pos keeps, List.map_cons, later, List.append_assoc]
      · rfl
      · intro b member listed'
        rcases List.mem_append.mp listed' with old | same
        · exact apart b (List.mem_cons_of_mem a member) old
        · rw [List.mem_singleton] at same
          exact unique.1 (same ▸ List.mem_map_of_mem member)

theorem distinct_flatMap {A B : Type} [DecidableEq B] {items : List A} {read : A -> List B}
    {keep : A -> Bool} {name : A -> B} (only : ∀ a ∈ items, ∀ b ∈ read a, b = name a)
    (kept : ∀ a ∈ items, read a = [] ↔ keep a = false) (unique : (items.map name).Nodup) :
    distinct (items.flatMap read) = (items.filter keep).map name :=
  addAllNew_flatMap only kept unique fun _ _ => List.not_mem_nil

/-- What is found is the only one of its kind. -/
theorem find?_eq_of_unique {A : Type} {items : List A} {chosen : A -> Bool} {outcome : Option A}
    (only : ∀ a ∈ items, chosen a = true -> outcome = some a)
    (there : ∀ a, outcome = some a -> a ∈ items ∧ chosen a = true) :
    items.find? chosen = outcome := by
  cases found : items.find? chosen with
  | some a => exact (only a (List.mem_of_find?_eq_some found) (List.find?_some found)).symm
  | none =>
    cases own : outcome with
    | none => rfl
    | some a =>
      rcases there a own with ⟨member, right⟩
      exact absurd right (List.find?_eq_none.mp found a member)

/-! ## What items became -/

namespace Placement

def isZone (p : Placement) : Bool :=
  p.kind == Domain.zoneKind

def isMeter (p : Placement) : Bool :=
  p.kind == Domain.flowMeterKind

def isPressureSensor (p : Placement) : Bool :=
  p.kind == Domain.pressureSensorKind

theorem not_isZone_of_isMeter (p : Placement) (meter : p.isMeter = true) :
    ¬ p.isZone = true := by
  unfold isZone
  rw [beq_iff_eq.mp meter]
  decide

theorem not_isZone_of_isPressureSensor (p : Placement) (sensor : p.isPressureSensor = true) :
    ¬ p.isZone = true := by
  unfold isZone
  rw [beq_iff_eq.mp sensor]
  decide

theorem not_isMeter_of_isPressureSensor (p : Placement) (sensor : p.isPressureSensor = true) :
    ¬ p.isMeter = true := by
  unfold isMeter
  rw [beq_iff_eq.mp sensor]
  decide

/-- The row of the target. -/
def row (p : Placement) : Row :=
  p.item.targetRow p.id

theorem key_row (p : Placement) : p.row.key = .text p.id := by
  unfold row Domain.Item.targetRow
  split <;> rfl

theorem row_passive (p : Placement) : p.row.model ≠ Fixture.Model.trigger := by
  have polygon : Fixture.Model.polygon ≠ Fixture.Model.trigger := by decide
  have point : Fixture.Model.point ≠ Fixture.Model.trigger := by decide
  unfold row Domain.Item.targetRow
  split
  · exact polygon
  · exact point

/-- The outline of a zone; no ring at all when its coordinates are unusable. -/
def polygon (p : Placement) : Geometry.Polygon :=
  p.item.polygon?.getD []

def zone (p : Placement) : Zone :=
  ⟨p.id, p.item.label, p.polygon⟩

/-- The point of a sensor that has a position. -/
def point? (p : Placement) : Option Point :=
  if p.isZone then none
  else p.item.position?.map fun place => ⟨p.id, p.item.label, p.kind, place⟩

theorem point?_of_sensor {p : Placement} (sensor : ¬ p.isZone = true) :
    p.point? = p.item.position?.map fun place => ⟨p.id, p.item.label, p.kind, place⟩ :=
  if_neg sensor

theorem id_of_point? {p : Placement} {point : Point} (own : p.point? = some point) :
    point.id = p.id := by
  unfold point? at own
  split at own
  · cases own
  · rcases Option.map_eq_some_iff.mp own with ⟨place, _, rfl⟩
    rfl

/-- The first zone whose outline contains the position of an item. -/
def zoneAround? (placed : List Placement) (p : Placement) : Option Placement :=
  p.item.position?.bind fun place =>
    (placed.filter isZone).find? fun z => z.polygon.contains place

/-- The first zone with a label. -/
def zoneLabelled? (placed : List Placement) (label : String) : Option Placement :=
  (placed.filter isZone).find? fun z => z.item.label == label

/-- Whether an item is a flow meter that feeds a zone: the first zone around
it, or the first one with the label that it names. -/
def feeds (placed : List Placement) (zone : String) (p : Placement) : Bool :=
  p.isMeter && ((zoneAround? placed p).any (fun z => z.id == zone) ||
    (p.item.inletFor.bind (zoneLabelled? placed)).any (fun z => z.id == zone))

end Placement

/-! ## What the network says -/

/-- A network whose zones and points are those of some items, each with an id
of its own. -/
structure Network.Shows (n : Network) (placed : List Placement) : Prop where
  zones : n.zones = (placed.filter Placement.isZone).map Placement.zone
  points : n.points = placed.filterMap Placement.point?
  unique : (placed.map Placement.id).Nodup

namespace Network.Shows

variable {n : Network} {placed : List Placement} (shows : n.Shows placed)
include shows

theorem eq_of_id {p q : Placement} (member : p ∈ placed) (memberToo : q ∈ placed)
    (same : p.id = q.id) : p = q :=
  List.inj_on_of_nodup_map shows.unique member memberToo same

theorem point?_eq {p : Placement} (member : p ∈ placed) : n.point? p.id = p.point? := by
  unfold Network.point?
  rw [shows.points]
  apply find?_eq_of_unique
  · intro point among same
    rcases List.mem_filterMap.mp (List.mem_reverse.mp among) with ⟨q, memberToo, own⟩
    have id : q.id = p.id := (Placement.id_of_point? own).symm.trans (beq_iff_eq.mp same)
    exact shows.eq_of_id memberToo member id ▸ own
  · intro point own
    refine ⟨List.mem_reverse.mpr (List.mem_filterMap.mpr ⟨p, member, own⟩), ?_⟩
    exact beq_iff_eq.mpr (Placement.id_of_point? own)

theorem zone?_eq {p : Placement} (member : p ∈ placed) (zone : p.isZone = true) :
    n.zone? p.id = some p.zone := by
  unfold Network.zone?
  rw [shows.zones]
  apply find?_eq_of_unique
  · intro found among same
    rcases List.mem_map.mp among with ⟨q, memberToo, rfl⟩
    have id : q.id = p.id := beq_iff_eq.mp same
    rw [shows.eq_of_id (List.mem_filter.mp memberToo).1 member id]
  · intro found own
    cases own
    exact ⟨List.mem_map_of_mem (List.mem_filter.mpr ⟨member, zone⟩), beq_self_eq_true _⟩

/-- The first zone of some sort is that of the first item of the sort. -/
theorem find?_zones (chosen : Zone -> Bool) : n.zones.find? chosen =
    ((placed.filter Placement.isZone).find? fun z => chosen z.zone).map Placement.zone := by
  rw [shows.zones, List.find?_map]
  rfl

theorem links_around {p : Placement} (member : p ∈ placed) (meter : p.isMeter = true) :
    Link.links (Link.around n p) =
      (p.zoneAround? placed).toList.map fun z => ⟨p.id, z.id, Link.inlet⟩ := by
  have kind : p.kind = Domain.flowMeterKind := beq_iff_eq.mp meter
  have point := Placement.point?_of_sensor (p.not_isZone_of_isMeter meter)
  unfold Link.around Placement.zoneAround?
  rw [if_pos kind, shows.point?_eq member, point]
  cases p.item.position? with
  | none => rfl
  | some place =>
    rw [Option.map_some, Option.bind_some, Option.bind_some]
    unfold Network.zonesAround
    rw [List.head?_filter, shows.find?_zones]
    cases found : (placed.filter Placement.isZone).find? fun z => z.polygon.contains place with
    | none =>
      have same : ((placed.filter Placement.isZone).find? fun z =>
          z.zone.polygon.contains place) = none := found
      rw [same]
      rfl
    | some z =>
      have same : ((placed.filter Placement.isZone).find? fun z =>
          z.zone.polygon.contains place) = some z := found
      rw [same]
      rfl

theorem links_named (p : Placement) (role : String) (label : Option String) :
    Link.links (Link.named n p role label) =
      (label.bind (Placement.zoneLabelled? placed)).toList.map fun z => ⟨p.id, z.id, role⟩ := by
  unfold Link.named Placement.zoneLabelled?
  cases label with
  | none => rfl
  | some label =>
    rw [Option.bind_some]
    unfold Network.zoneLabelled?
    dsimp only
    rw [shows.find?_zones]
    cases found : (placed.filter Placement.isZone).find? fun z => z.item.label == label with
    | none =>
      have same : ((placed.filter Placement.isZone).find? fun z => z.zone.label == label) =
          none := found
      rw [same]
      rfl
    | some z =>
      have same : ((placed.filter Placement.isZone).find? fun z => z.zone.label == label) =
          some z := found
      rw [same]
      rfl

omit shows in
/-- The sensor of a link, if the link is an inlet of a zone. -/
theorem sensors_inlet (sensor role zone : String) (target : Option Placement) :
    ((target.toList.map fun z => (⟨sensor, z.id, role⟩ : Link)).filter fun link =>
      link.role == Link.inlet && link.zone == zone).map Link.sensor =
      if role == Link.inlet && target.any (fun z => z.id == zone) then [sensor] else [] := by
  cases target with
  | none => simp
  | some z =>
    have both : (role == Link.inlet && (some z).any fun z => z.id == zone) =
        (role == Link.inlet && z.id == zone) := rfl
    rw [both]
    cases chosen : role == Link.inlet && z.id == zone with
    | false => simp [chosen]
    | true => simp [chosen]

/-- The meters that feed a zone are the items that do, in their order. -/
theorem metersFeeding_eq (zone : String) : Link.metersFeeding n placed zone =
    (placed.filter (Placement.feeds placed zone)).map Placement.id := by
  have sensors : ∀ p ∈ placed.filter Placement.isMeter,
      ((Link.links (Link.wantedBy n p)).filter fun link =>
        link.role == Link.inlet && link.zone == zone).map Link.sensor =
      (if (p.zoneAround? placed).any (fun z => z.id == zone) then [p.id] else []) ++
        if (p.item.inletFor.bind (Placement.zoneLabelled? placed)).any (fun z => z.id == zone)
        then [p.id] else [] := by
    intro p member
    rcases List.mem_filter.mp member with ⟨among, meter⟩
    have sensor : p.kind ≠ Domain.zoneKind := by
      rw [beq_iff_eq.mp meter]
      decide
    have outlet : (Link.outlet == Link.inlet) = false := by decide
    have inlet : (Link.inlet == Link.inlet) = true := by decide
    unfold Link.wantedBy
    rw [if_neg sensor]
    unfold Link.links
    rw [List.filterMap_append, List.filterMap_append]
    have around := shows.links_around among meter
    have named := shows.links_named p
    unfold Link.links at around named
    rw [around, named, named, List.filter_append, List.filter_append, List.map_append,
      List.map_append, sensors_inlet, sensors_inlet, sensors_inlet, outlet, inlet]
    simp
  have meters : (placed.filter Placement.isMeter).filter (Placement.feeds placed zone) =
      placed.filter (Placement.feeds placed zone) := by
    rw [List.filter_filter]
    apply List.filter_congr
    intro p _
    unfold Placement.feeds
    cases p.isMeter <;> simp
  rw [← meters]
  unfold Link.metersFeeding
  apply distinct_flatMap
  · intro p member id listed
    rw [sensors p member] at listed
    split at listed <;> split at listed <;> simp at listed <;> exact listed
  · intro p member
    have meter : p.isMeter = true := (List.mem_filter.mp member).2
    rw [sensors p member]
    unfold Placement.feeds
    rw [meter]
    split <;> split <;> simp_all
  · exact shows.unique.sublist (List.filter_sublist.map Placement.id)

end Network.Shows

/-! ## Placing from nothing -/

namespace Network

variable (n : Network) {p : Placement} (own : p.kind = p.item.kind) (position : Nat)
include own

/-- The row of a zone adds the zone, and other rows add none. -/
theorem zones_row : (n.indexRow p.row position).zones =
    n.zones ++ ([p].filter Placement.isZone).map Placement.zone := by
  unfold Placement.row
  by_cases zone : p.kind = Domain.zoneKind
  · have isZone : p.isZone = true := beq_iff_eq.mpr zone
    rw [p.item.targetRow_zone (own ▸ zone), indexRow_zoneRow, List.filter_cons_of_pos isZone]
    rfl
  · have other : p.isZone = false := beq_eq_false_iff_ne.mpr zone
    rw [p.item.targetRow_point (own ▸ zone), indexRow_pointRow,
      List.filter_cons_of_neg (by rw [other]; simp)]
    cases p.item.position? <;> exact (List.append_nil _).symm

/-- The row of a sensor with a position adds its point, and other rows add
none. -/
theorem points_row : (n.indexRow p.row position).points =
    n.points ++ [p].filterMap Placement.point? := by
  unfold Placement.row
  by_cases zone : p.kind = Domain.zoneKind
  · have none : p.point? = none := if_pos (beq_iff_eq.mpr zone)
    rw [p.item.targetRow_zone (own ▸ zone), indexRow_zoneRow, List.filterMap_cons_none none]
    exact (List.append_nil _).symm
  · have other : ¬ p.isZone = true := fun same => zone (beq_iff_eq.mp same)
    have point := Placement.point?_of_sensor other
    rw [p.item.targetRow_point (own ▸ zone), indexRow_pointRow]
    cases stands : p.item.position? with
    | none =>
      rw [stands] at point
      rw [List.filterMap_cons_none point]
      exact (List.append_nil _).symm
    | some place =>
      rw [stands] at point
      rw [List.filterMap_cons_some point, own]
      rfl

end Network

namespace Session

variable {s : Session} {placed : List Placement}

/-- A session whose targets are some items, and which has no other rows. -/
structure Laid (s : Session) (placed : List Placement) : Prop where
  named : ∀ kind label, s.network.targetsNamed kind label = given placed kind label
  zones : s.network.zones = (placed.filter Placement.isZone).map Placement.zone
  points : s.network.points = placed.filterMap Placement.point?
  rows : s.rows = placed.map Placement.row

theorem laid_start (options : Options) (supply : Nat) : (start options supply).Laid [] :=
  ⟨fun _ _ => rfl, rfl, rfl, rfl⟩

/-- The next item is given a target of its own. -/
theorem Laid.placeItem (laid : s.Laid placed) (booked : s.Booked) (item : Domain.Item)
    (fresh : FreshSince s (s.placeItem placed item).2) :
    ∃ id, (s.placeItem placed item).1 = ⟨item, item.kind, id⟩ ∧
      (s.placeItem placed item).2.Laid (placed ++ [⟨item, item.kind, id⟩]) := by
  have unknown : (s.network.targetsNamed item.kind item.label)[earlier placed item]? = none := by
    rw [laid.named, List.getElem?_eq_none_iff, length_given]
  rcases placeItem_new unknown with ⟨record, seed, whole, entered⟩
  have free : (s.registry.make record seed).1 ∉ s.registry.taken :=
    fresh _ _ (List.suffix_refl _) (entered.keys.taken ▸ List.suffix_refl _)
  generalize (s.registry.make record seed).2 = registry at entered
  generalize made : (s.registry.make record seed).1 = id at *
  let p : Placement := ⟨item, item.kind, id⟩
  refine ⟨id, whole, fun kind label => ?_, ?_, ?_, ?_⟩
  · rw [entered.network, network_enter, Network.targetsNamed_targetRow]
    by_cases same : (kind, label) = (item.kind, item.label)
    · cases same
      have absent := made ▸ booked.not_listed (made.symm ▸ free) item.kind item.label
      rw [given_concat_self, s.network.targetsNamed_noteTarget_self, ← laid.named,
        addNew_of_not_mem absent]
    · rw [given_concat_of_ne placed same, s.network.targetsNamed_noteTarget_of_ne same]
      exact laid.named kind label
  · rw [entered.network, network_enter, List.filter_append, List.map_append, ← laid.zones]
    exact s.network.zones_row (p := p) rfl _
  · rw [entered.network, network_enter, List.filterMap_append, ← laid.points]
    exact s.network.points_row (p := p) rfl _
  · rw [entered.rows, rows_enter, List.map_append, ← laid.rows]
    rfl

/-- All items are given targets of their own. -/
theorem Laid.placeItems (laid : s.Laid placed) (booked : s.Booked) (items : List Domain.Item)
    (fresh : FreshSince s (s.placeItems placed items).2) :
    (s.placeItems placed items).2.Laid (s.placeItems placed items).1 ∧
      ∃ more, (s.placeItems placed items).1 = placed ++ more ∧
        more.map Placement.item = items ∧ ∀ p ∈ more, p.kind = p.item.kind := by
  induction items generalizing s placed with
  | nil =>
    refine ⟨laid, [], (List.append_nil placed).symm, rfl, ?_⟩
    exact fun p member => absurd member List.not_mem_nil
  | cons item rest ih =>
    have one : Moves s (s.placeItem placed item).2 := moves_placeItem s placed item
    have others : Moves (s.placeItem placed item).2 (s.placeItems placed (item :: rest)).2 :=
      moves_placeItems _ _ rest
    rcases laid.placeItem booked item (fresh.within .refl others) with ⟨id, whole, next⟩
    rw [← whole] at next
    rcases ih next (booked.moves one) (fresh.within one .refl) with ⟨later, more, same, own, kinds⟩
    refine ⟨later, (s.placeItem placed item).1 :: more, ?_, ?_, ?_⟩
    · have step : (s.placeItems placed (item :: rest)).1 = ((s.placeItem placed item).2.placeItems
          (placed ++ [(s.placeItem placed item).1]) rest).1 := rfl
      rw [step, same, List.append_assoc]
      rfl
    · rw [List.map_cons, own, whole]
    · intro p member
      rcases List.mem_cons.mp member with rfl | among
      · rw [whole]
      · exact kinds p among

/-- The ids of targets are distinct, as they are keys that were free. -/
theorem Laid.shows {options : Options} {supply : Nat} (laid : s.Laid placed)
    (run : Moves (start options supply) s) (fresh : FreshSince (start options supply) s) :
    s.network.Shows placed := by
  refine ⟨laid.zones, laid.points, ?_⟩
  have keys : keysSince (start options supply) s = s.rows.map Row.key := rfl
  have own : placed.map (Row.key ∘ Placement.row) = (placed.map Placement.id).map Key.text := by
    rw [List.map_map]
    exact List.map_congr_left fun p _ => p.key_row
  have unique := fresh.nodup run.keysGrow
  rw [keys, laid.rows, List.map_map, own] at unique
  exact unique.of_map Key.text

end Session

/-- What the network says of targets stays as long as no other ones come. -/
theorem Network.Shows.deeds {models : List String} {asks : Session -> Trigger -> Prop}
    {s t : Session} {placed : List Placement} (shows : s.network.Shows placed)
    (run : Session.Deeds models asks s t) (noZones : Fixture.Model.polygon ∉ models)
    (noPoints : Fixture.Model.point ∉ models) : t.network.Shows placed := by
  rcases run.targets noZones noPoints with ⟨zones, points, _⟩
  exact ⟨zones.trans shows.zones, points.trans shows.points, shows.unique⟩

end Sensornet
