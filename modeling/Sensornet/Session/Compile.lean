import Sensornet.Session.Blueprints
import Sensornet.Session.Starters
import Sensornet.Session.Widgets
import Sensornet.Template.Slice

namespace Sensornet

/-!
# Compiling

A template is compiled in stages, each of which refers to what the ones
before it made: metrics, triggers, cards, charts, maps, and pages.  A whole
compile places the domain first.
-/

open Template (Item Kind)

namespace Session

/-- Make the items of a kind. -/
def makeKind (make : Session -> Item -> Session) (kept : List Item) (s : Session) (kind : Kind) :
    Session :=
  (kept.filter fun item => item.kind = kind).foldl make s

/-- Make all kept items, stage by stage. -/
def make (s : Session) (kept : List Item) : Session :=
  let s := makeKind makeMetrics kept s .metric
  let s := makeKind makeTriggers kept s .trigger
  [Kind.card, .chart, .map, .page].foldl (makeKind makeShown kept) s

/-- Compile what some sections need of a template. -/
def addTemplate (s : Session) (template : List Item) (sections : List String) : Session :=
  let before := s.rows.length
  let slice := Template.slice template sections s.aliases
  let s := s.noteAll (Template.sliceNotices template sections s.aliases)
  if slice.isEmpty then s.note .nothingSelected
  else
    let s := s.make (slice.items template)
    s.note (.templateCompiled (s.rows.length - before))

end Session

/-- Everything that one compile reads. -/
structure Job where
  domain : Json.Value
  template : Json.Value
  sections : List String
  existing : List Fixture.Row

namespace Job

/-- Read an input that may be null, which stands for nothing. -/
def orEmpty {A : Type} (read : Json.Value -> Except Failure (List A)) :
    Json.Value -> Except Failure (List A)
  | .null => .ok []
  | value => read value

/-- Compile an input.  The domain is read before the template, and both
before anything is written. -/
def compile (input : Job) (options : Options) (supply : Nat) :
    Except Failure Session := do
  let domain ← orEmpty Domain.ofJson input.domain
  let template ← orEmpty Template.ofJson input.template
  return ((Session.resume options supply input.existing).addDomain domain).addTemplate
    template input.sections

end Job
end Sensornet
