import Sensornet.Session.Placement

namespace Sensornet

/-!
# Links between sensors and zones

A flow meter feeds the first zone that contains it.  Any sensor may also name
a zone that it feeds and a zone that it drains.  Each of these is one link,
and a link that some row carries already is not written again.
-/

/-- A link: from a sensor to a zone, in a role. -/
structure Link where
  sensor : String
  zone : String
  role : String
  deriving DecidableEq, Repr

namespace Link

open Json (Value Fields)

def inlet : String := "inlet"
def outlet : String := "outlet"

/-- The first item of a list. -/
def firstItem? (value : Value) : Option Value :=
  value.array?.bind List.head?

/-- The link that a row carries, if it is the row of one. -/
def ofRow? (row : Fixture.Row) : Option Link :=
  if row.model = Fixture.Model.link then do
    let args ← row.field? "args"
    let role ← (← firstItem? (← args.get? "role")).text?
    return ⟨← row.text? "target_id1", ← row.text? "target_id2", role⟩
  else none

/-- The fields of the row of a link. -/
def fields (link : Link) (id : Int) : Fields :=
  [ ("id", Value.integer id)
  , ("args", .object [("role", .array [.text link.role]), ("order", .null)])
  , ("notes", .text "")
  , ("target_id1", .text link.sensor)
  , ("target_id2", .text link.zone)
  , ("relation_type", .text "flow_meter_in_zone") ]

/-- A link that a sensor calls for, or the notice that its zone is missing. -/
abbrev Wanted := Except Notice Link

/-- The link to the zone around a flow meter. -/
def around (network : Network) (placed : Placement) : List Wanted :=
  if placed.kind = Domain.flowMeterKind then
    match (network.point? placed.id).bind fun point =>
        (network.zonesAround point.position).head? with
    | some zone => [.ok ⟨placed.id, zone.id, inlet⟩]
    | none => [.error (.meterOutsideZones placed.item.label)]
  else []

/-- The link to a zone that a sensor names. -/
def named (network : Network) (placed : Placement) (role : String) : Option String -> List Wanted
  | none => []
  | some label =>
    match network.zoneLabelled? label with
    | some zone => [.ok ⟨placed.id, zone.id, role⟩]
    | none => [.error (.unknownZone placed.item.label label role)]

/-- The links that an item calls for, in order.  Zones call for none. -/
def wantedBy (network : Network) (placed : Placement) : List Wanted :=
  if placed.kind = Domain.zoneKind then []
  else
    around network placed ++ named network placed inlet placed.item.inletFor ++
      named network placed outlet placed.item.outletFor

/-- The links among what is wanted. -/
def links (wanted : List Wanted) : List Link :=
  wanted.filterMap Except.toOption

/-- The notices among what is wanted. -/
def notices (wanted : List Wanted) : List Notice :=
  wanted.filterMap fun
    | .error notice => some notice
    | .ok _ => none

/-- The flow meters among some items that feed a zone, each once, in order. -/
def metersFeeding (network : Network) (placed : List Placement) (zone : String) : List String :=
  distinct ((placed.filter fun p => p.kind == Domain.flowMeterKind).flatMap fun p =>
    ((links (wantedBy network p)).filter fun link =>
      link.role == inlet && link.zone == zone).map Link.sensor)

end Link

namespace Session

/-- Write a link unless it is among those written already. -/
def writeLink (state : List Link × Session) (link : Link) : List Link × Session :=
  let (written, s) := state
  if link ∈ written then (written, s)
  else
    let (id, s) := s.nextInteger
    (written ++ [link], s.push ⟨Fixture.Model.link, .integer id, link.fields id⟩)

/-- Write the links that some items call for. -/
def writeLinks (s : Session) (placed : List Placement) : Session :=
  let wanted := placed.flatMap (Link.wantedBy s.network)
  let noted := s.noteAll (Link.notices wanted)
  ((Link.links wanted).foldl writeLink (s.rows.filterMap Link.ofRow?, noted)).2

end Session
end Sensornet
