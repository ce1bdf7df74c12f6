import Sensornet.Bindings
import Sensornet.Network.Index
import Sensornet.Options
import Sensornet.Resolution.Tree

namespace Sensornet

/-!
# Sessions

A session holds the rows written so far and what is needed to write more: the
registry of keys, the network that the rows describe, and the rows that
blueprints became.  Rows are only appended, apart from triggers, whose fields
are replaced where they stand.
-/

open Fixture (Key Row)

/-- A compile under way. -/
structure Session where
  options : Options
  aliases : Metric.Aliases
  registry : Fixture.Registry
  network : Network
  bindings : Bindings
  rows : List Row
  notices : List Notice

namespace Session

/-- A session without rows.  `supply` is where random keys start. -/
def start (options : Options) (supply : Nat) : Session where
  options := options
  aliases := options.allAliases
  registry := .start options.policy supply
  network := .empty
  bindings := .empty
  rows := []
  notices := []

def note (s : Session) (notice : Notice) : Session :=
  { s with notices := s.notices ++ [notice] }

def noteAll (s : Session) (notices : List Notice) : Session :=
  { s with notices := s.notices ++ notices }

/-- A session that goes on from the rows of an earlier one.  Their keys are
taken, and their targets, metrics and triggers are used again. -/
def resume (options : Options) (supply : Nat) (existing : List Row) : Session :=
  let fresh := start options supply
  let indexed := { fresh with
    registry := fresh.registry.seed existing
    network := fresh.network.index existing
    rows := existing
    notices := Network.indexNotices existing }
  if existing.isEmpty then indexed else indexed.note (.continuing existing.length)

/-- Append a row. -/
def push (s : Session) (row : Row) : Session :=
  { s with rows := s.rows ++ [row] }

/-- Issue an identifier. -/
def makeId (s : Session) (kind : Fixture.Record) (seed : String) : String × Session :=
  let (id, registry) := s.registry.make kind seed
  (id, { s with registry })

/-- Issue an integer key. -/
def nextInteger (s : Session) : Int × Session :=
  let (n, registry) := s.registry.nextInteger
  (n, { s with registry })

/-- Issue a correlation token. -/
def drawToken (s : Session) (seed : String) : String × Session :=
  let (token, registry) := s.registry.token seed
  (token, { s with registry })

/-- Bind a blueprint that has an id. -/
def bind (s : Session) (id : Option String) (context : Context.Name) (key : Key) : Session :=
  match id with
  | some id => { s with bindings := s.bindings.bind id context key }
  | none => s

/-- What a context sees of the session. -/
def scene (s : Session) (context : Context) : Resolution.Scene :=
  ⟨s.network, s.bindings, s.aliases, context⟩

/-- Resolve a value in a context. -/
def resolve (s : Session) (context : Context) (value : Json.Value) : Json.Value × Session :=
  let (resolved, progress) := ((s.scene context).resolve value).run ⟨s.registry, s.notices⟩
  (resolved, { s with registry := progress.registry, notices := progress.notices })

/-- The rows of a model. -/
def rowsOf (s : Session) (model : String) : List Row :=
  s.rows.filter fun row => row.model == model

end Session
end Sensornet
