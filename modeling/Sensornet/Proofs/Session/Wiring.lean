import Sensornet.Proofs.Session.Longer

namespace Sensornet

/-!
# Which links are written

Which links a call is after can be told from the network once all items of the
call have their targets: zones that come later in the call count as well.
Three sources name the same link often, and so do items that are repeated and
rows of earlier calls.  What is written is what is sought less what some row
carries already, each link at its first place, and the rows are numbered on
from the integers before them.

An earlier link may stand in a row that was read.  Such a row carries a link
if it has both targets and a role as texts, whatever else it holds.
-/

open Fixture (Key Row)

namespace Link

/-- The links that an item seeks, in order: from a flow meter whose position is
known to the first zone around it, and from any sensor to the first zone with
the label that it feeds and to the first one with the label that it drains. -/
def soughtBy (n : Network) (p : Placement) : List Link :=
  if p.isZone then []
  else
    (if p.isMeter then
      (((n.point? p.id).bind fun point => (n.zonesAround point.position).head?).map fun zone =>
        ⟨p.id, zone.id, inlet⟩).toList
    else []) ++
    ((p.item.inletFor.bind n.zoneLabelled?).map fun zone => ⟨p.id, zone.id, inlet⟩).toList ++
    ((p.item.outletFor.bind n.zoneLabelled?).map fun zone => ⟨p.id, zone.id, outlet⟩).toList

theorem links_named (n : Network) (p : Placement) (role : String) (label : Option String) :
    links (named n p role label) =
      ((label.bind n.zoneLabelled?).map fun zone => ⟨p.id, zone.id, role⟩).toList := by
  cases label with
  | none => rfl
  | some label =>
    unfold named
    dsimp only
    rw [Option.bind_some]
    cases n.zoneLabelled? label <;> rfl

/-- What an item seeks is what it is wanted to have, notices aside. -/
theorem links_wantedBy (n : Network) (p : Placement) : links (wantedBy n p) = soughtBy n p := by
  by_cases zone : p.kind = Domain.zoneKind
  · have isZone : p.isZone = true := beq_iff_eq.mpr zone
    unfold wantedBy soughtBy
    rw [if_pos zone, if_pos isZone]
    rfl
  · have isZone : ¬ p.isZone = true := fun same => zone (beq_iff_eq.mp same)
    have spatial : links (around n p) = if p.isMeter then
        (((n.point? p.id).bind fun point => (n.zonesAround point.position).head?).map fun zone =>
          ⟨p.id, zone.id, inlet⟩).toList else [] := by
      unfold around
      by_cases meter : p.kind = Domain.flowMeterKind
      · have isMeter : p.isMeter = true := beq_iff_eq.mpr meter
        rw [if_pos meter, if_pos isMeter]
        cases (n.point? p.id).bind fun point => (n.zonesAround point.position).head? <;> rfl
      · have isMeter : ¬ p.isMeter = true := fun same => meter (beq_iff_eq.mp same)
        rw [if_neg meter, if_neg isMeter]
        rfl
    have split : ∀ first second : List Wanted, links (first ++ second) =
        links first ++ links second := fun _ _ => List.filterMap_append
    unfold wantedBy soughtBy
    rw [if_neg zone, if_neg isZone, split, split, spatial, links_named, links_named]

theorem links_flatMap_wantedBy (n : Network) (placed : List Placement) :
    links (placed.flatMap (wantedBy n)) = placed.flatMap (soughtBy n) := by
  unfold links
  rw [List.filterMap_flatMap]
  exact congrArg (List.flatMap · placed) (funext (links_wantedBy n))

/-- The rows of links are rows of their model. -/
theorem filter_rowsFrom (first : Int) (links : List Link) :
    ((rowsFrom first links).filter fun row => [Fixture.Model.link].contains row.model) =
      rowsFrom first links := by
  induction links generalizing first with
  | nil => rfl
  | cons link rest ih =>
    have own : [Fixture.Model.link].contains (link.row first).model = true := rfl
    rw [rowsFrom, List.filter_cons, if_pos own, ih]

/-- The rows carry the links that they were written for. -/
theorem filterMap_rowsFrom (first : Int) (links : List Link) :
    (rowsFrom first links).filterMap ofRow? = links := by
  induction links generalizing first with
  | nil => rfl
  | cons link rest ih =>
    rw [rowsFrom, List.filterMap_cons_some (Session.ofRow?_linkRow link first), ih]

end Link

namespace Session

variable {s : Session}

/-- Placing issues no integers. -/
theorem lastInteger_placeItem (s : Session) (placed : List Placement) (item : Domain.Item) :
    (s.placeItem placed item).2.registry.lastInteger = s.registry.lastInteger := by
  cases known : (s.network.targetsNamed item.kind item.label)[earlier placed item]? with
  | some id =>
    rw [s.placeItem_known known]
    rfl
  | none =>
    rcases placeItem_new known with ⟨record, seed, _, entered⟩
    exact entered.keys.lastInteger

theorem lastInteger_placeItems (s : Session) (placed : List Placement)
    (items : List Domain.Item) :
    (s.placeItems placed items).2.registry.lastInteger = s.registry.lastInteger := by
  induction items generalizing s placed with
  | nil => rfl
  | cons item rest ih => exact (ih _ _).trans (s.lastInteger_placeItem placed item)

/-- Of all stages of a domain only linking writes links. -/
theorem rowsSince_links_addDomain (indexed : s.Indexed) (items : List Domain.Item) :
    rowsSince [Fixture.Model.link] s (s.addDomain items) =
      rowsSince [Fixture.Model.link] (s.placeItems [] items).2 (s.linked items) := by
  have passive : Fixture.Model.trigger ∉ [Fixture.Model.link] := by decide
  have placing : Deeds targetModels Silent s (s.placeItems [] items).2 :=
    deeds_placeItems s [] items
  have linking : Moves (s.placeItems [] items).2 (s.linked items) := moves_writeLinks _ _
  have equipping := deeds_addDomain_of_linked s items
  have placedThen := indexed.moves placing.moves
  rw [rowsSince_trans (placing.moves.trans linking) equipping.moves (placedThen.moves linking)
      passive,
    equipping.rowsSince_eq_nil (by decide) passive, List.append_nil,
    rowsSince_trans placing.moves linking placedThen passive,
    placing.rowsSince_eq_nil (by decide) passive, List.nil_append]

/-- What the rows of a later session carry is what the earlier rows do and then
what the new rows of links do. -/
theorem Moves.carried_eq {t : Session} (run : Moves s t) (indexed : s.Indexed) :
    t.rows.filterMap Link.ofRow? =
      s.rows.filterMap Link.ofRow? ++
        (rowsSince [Fixture.Model.link] s t).filterMap Link.ofRow? := by
  have unread : ∀ row : Row, row.model = Fixture.Model.trigger -> Link.ofRow? row = none :=
    fun row trigger => ofRow?_eq_none (trigger ▸ by decide)
  have others : ∀ rows : List Row,
      (rows.filter fun row => [Fixture.Model.link].contains row.model).filterMap Link.ofRow? =
        rows.filterMap Link.ofRow? := by
    intro rows
    rw [List.filterMap_filter]
    refine List.filterMap_congr fun row _ => ?_
    split
    · rfl
    · next other =>
      exact (ofRow?_eq_none fun link => other (List.contains_iff_mem.mpr
        (List.mem_singleton.mpr link))).symm
  unfold rowsSince
  rw [others, ← run.filterMap_take indexed unread, ← List.filterMap_append]
  exact congrArg _ (List.take_append_drop _ _).symm

end Session
end Sensornet
