import Sensornet.Proofs.Session.Moves

namespace Sensornet
namespace Session

/-!
# Every stage is a run of moves

From placing one item to compiling a whole template, each function that takes
a session to another makes only moves.  Nothing is assumed of the session a
stage begins with.  A history is a list of calls, each of which compiles a
domain or a part of a template.
-/

open Fixture (Key Row)
open Json (Value Fields)
open Template (Item Kind)
open Relation (ReflTransGen)

variable (s : Session)

/-! ## Placing and linking -/

theorem moves_placeAsZone (item : Domain.Item) : Moves s (s.placeAsZone item).2 := by
  rw [placeAsZone_eq]
  exact .trans (.single (.enter (.text .polygon _) (.zone item _)
    (.of_purpose (purpose?_zoneRow item _) rfl))) (Quiet.noteZone _ item).moves

theorem moves_placeAsPoint (item : Domain.Item) {kind : String} (sensor : kind ≠ Domain.zoneKind) :
    Moves s (s.placeAsPoint item kind).2 := by
  rw [placeAsPoint_eq]
  exact .trans (.single (.enter (.text .point _) (.point item _ sensor)
    (.of_purpose (purpose?_pointRow item kind _) rfl)))
    (Quiet.notePoint _ item kind).moves

theorem moves_placeItem (placed : List Placement) (item : Domain.Item) :
    Moves s (s.placeItem placed item).2 := by
  cases known : (s.network.targetsNamed item.kind item.label)[earlier placed item]? with
  | some id =>
    rw [s.placeItem_known known]
    exact (Quiet.note s _).moves
  | none =>
    have noted := (Quiet.noteShared s placed item).moves
    by_cases zone : item.kind = Domain.zoneKind
    · rw [s.placeItem_zone known zone]
      exact noted.trans (moves_placeAsZone _ item)
    · rw [s.placeItem_point known zone]
      exact noted.trans (moves_placeAsPoint _ item zone)

theorem moves_placeItems (placed : List Placement) (items : List Domain.Item) :
    Moves s (s.placeItems placed items).2 := by
  induction items generalizing s placed with
  | nil => exact .refl
  | cons item rest ih => exact (moves_placeItem s placed item).trans (ih _ _)

theorem ofRow?_linkRow (link : Link) (id : Int) : Link.ofRow? (link.row id) = some link := rfl

/-- What is written already stays what the link rows carry, so that the list
kept by the fold answers for the rows. -/
theorem written_writeLink {written : List Link} (carried : written = s.rows.filterMap Link.ofRow?)
    (link : Link) :
    (writeLink (written, s) link).1 =
      (writeLink (written, s) link).2.rows.filterMap Link.ofRow? := by
  by_cases known : link ∈ written
  · have same : writeLink (written, s) link = (written, s) := if_pos known
    rw [same]
    exact carried
  · rw [writeLink_new s known]
    dsimp only [rows_enter]
    rw [List.filterMap_append, ← carried]
    rfl

theorem moves_writeLink {written : List Link} (carried : written = s.rows.filterMap Link.ofRow?)
    (link : Link) : Moves s (writeLink (written, s) link).2 := by
  by_cases known : link ∈ written
  · have same : writeLink (written, s) link = (written, s) := if_pos known
    rw [same]
  · rw [writeLink_new s known]
    exact .single (.enter .integer (.link _ (carried ▸ known)) (.of_integer rfl))

theorem moves_foldl_writeLink {written : List Link}
    (carried : written = s.rows.filterMap Link.ofRow?) (links : List Link) :
    Moves s (links.foldl writeLink (written, s)).2 := by
  induction links generalizing s written with
  | nil => exact .refl
  | cons link rest ih =>
    exact (moves_writeLink s carried link).trans (ih _ (written_writeLink s carried link))

theorem moves_writeLinks (placed : List Placement) : Moves s (s.writeLinks placed) :=
  (Quiet.noteAll s _).moves.trans (moves_foldl_writeLink _ rfl _)

/-! ## Metrics and triggers -/

theorem moves_obtainMetric (fields : Fields) : Moves s (s.obtainMetric fields).2 := by
  cases known : s.network.metric?
      (.ofFields (Metric.complete s.aliases s.options.storageTable fields)) with
  | some id =>
    rcases s.obtainMetric_known known with ⟨notice, found⟩
    rw [found]
    exact (Quiet.note s notice).moves
  | none =>
    rw [s.obtainMetric_new known]
    exact .single (.enter (.text .metric _) (.metric _ known)
      (.of_purpose (purpose?_metricRow _ _) rfl))

theorem moves_putTrigger (wanted : Trigger) : Moves s (s.putTrigger wanted).2 := by
  cases complete : wanted.isComplete with
  | false =>
    rw [s.putTrigger_incomplete complete]
    exact (Quiet.note s _).moves
  | true =>
    rcases s.stands_or_unknown wanted.outputMetric with ⟨position, row, known, stands⟩ | unknown
    · rw [s.putTrigger_known complete known stands]
      exact (Quiet.note s _).moves.tail (.rewrite complete known stands)
    · rw [s.putTrigger_new complete unknown]
      exact .single (.enter (.text .trigger _) (.trigger _ complete unknown)
        (.of_purpose (purpose?_triggerRow complete _) rfl))

theorem moves_starterTrigger (name seed description : String) (more : Fields)
    (inputs : List String) (output : String) :
    Moves s (s.starterTrigger name seed description more inputs output) :=
  (Quiet.drawToken s seed).moves.trans (moves_putTrigger _ _)

theorem moves_metricsOfTarget (placed : Placement) : Moves s (s.metricsOfTarget placed) := by
  unfold metricsOfTarget
  dsimp only
  split
  · exact (moves_obtainMetric s _).trans (moves_obtainMetric _ _)
  · split
    · exact ((moves_obtainMetric s _).trans (moves_obtainMetric _ _)).trans
        (moves_starterTrigger _ _ _ _ _ _ _)
    · split
      · exact moves_obtainMetric s _
      · exact .refl

theorem moves_demandTrigger (zone label : String) (meters : List String) :
    Moves s (s.demandTrigger zone label meters) := by
  unfold demandTrigger
  dsimp only
  split
  · exact moves_starterTrigger s _ _ _ _ _ _
  · exact .refl

theorem moves_pressureTrigger (zone label : String) : Moves s (s.pressureTrigger zone label) := by
  unfold pressureTrigger
  split
  · exact .refl
  · dsimp only
    split
    · exact moves_starterTrigger s _ _ _ _ _ _
    · exact .refl

theorem moves_triggersOfZone (all : List Placement) (placed : Placement) :
    Moves s (s.triggersOfZone all placed) := by
  unfold triggersOfZone
  split
  · exact (moves_demandTrigger s _ _ _).trans (moves_pressureTrigger _ _ _)
  · exact .refl

theorem moves_starters (placed : List Placement) : Moves s (s.starters placed) :=
  (Moves.foldl s placed fun t p _ => moves_metricsOfTarget t p).trans
    (Moves.foldl _ placed fun t p _ => moves_triggersOfZone t placed p)

/-- Compiling a domain. -/
theorem moves_addDomain (items : List Domain.Item) : Moves s (s.addDomain items) := by
  unfold addDomain
  have linked := (moves_placeItems s [] items).trans (moves_writeLinks _ (s.placeItems [] items).1)
  dsimp only
  split
  · exact (linked.trans (moves_starters _ _)).trans (Quiet.note _ _).moves
  · exact linked.trans (Quiet.note _ _).moves

/-! ## Templates -/

theorem moves_makeMetric (item : Item) (context : Context) :
    Moves s (makeMetric item s context) := by
  unfold makeMetric
  dsimp only
  refine .trans ?_ (Quiet.bind _ _ _ _).moves
  exact .trans (Quiet.resolve s context _).moves (moves_obtainMetric _ _)

theorem moves_makeMetrics (item : Item) : Moves s (s.makeMetrics item) := by
  unfold makeMetrics
  dsimp only
  split
  · exact (Quiet.note s _).moves.trans
      (Moves.foldl _ _ fun t context _ => moves_makeMetric t item context)
  · exact Moves.foldl s _ fun t context _ => moves_makeMetric t item context

theorem moves_makeTrigger (item : Item) (context : Context) :
    Moves s (makeTrigger item s context) := by
  unfold makeTrigger
  dsimp only
  have quiet := (Quiet.resolve s context item.value).trans
    (Quiet.completeCalculators _ context.name.text
      (Value.itemsOf ((s.resolve context item.value).1.get? "calculators")))
  split
  · exact (quiet.moves.trans (moves_putTrigger _ _)).trans (Quiet.bind _ _ _ _).moves
  · exact (quiet.moves.trans (moves_putTrigger _ _)).trans (Quiet.note _ _).moves

theorem moves_makeTriggers (item : Item) : Moves s (s.makeTriggers item) :=
  Moves.foldl s _ fun t context _ => moves_makeTrigger t item context

/-- What is shown to users is resolved after its key is drawn.  The tokens
drawn meanwhile are quiet, so they may as well come after the row. -/
theorem quiet_enter_shown {kind : Kind} {model : String} (shown : kind.isShown = true)
    (named : kind.model? = some model) (value : Value) (notices : List Notice) (fields : Fields) :
    Quiet (s.enter s.registry.nextInteger.2 (Widget.row model s.registry.nextInteger.1 fields))
      (((s.nextInteger.2.resolve .global value).2.noteAll notices).push
        (Widget.row model s.registry.nextInteger.1 fields)) where
  options := rfl
  aliases := rfl
  rows := rfl
  network := (s.network.indexRow_widgetRow shown named _ fields _).symm
  keys := (Quiet.resolve s.nextInteger.2 .global value).keys

theorem moves_makeShown {item : Item} (shown : item.kind.isShown = true) :
    Moves s (s.makeShown item) := by
  unfold makeShown
  split
  · exact .refl
  · next model named =>
    dsimp only
    have entered := fun value notices fields =>
      ReflTransGen.tail
        (.single (Move.enter .integer (.shown s.registry.nextInteger.1 fields shown named)
          (.of_integer rfl)))
        (.quiet (s.quiet_enter_shown shown named value notices fields))
    split
    · exact (entered _ _ _).trans (Quiet.bind _ _ _ _).moves
    · exact (entered _ _ _).trans (Quiet.note _ _).moves

theorem moves_makeKind {make : Session -> Item -> Session} (kept : List Item) (kind : Kind)
    (each : ∀ (t : Session) (item : Item), item.kind = kind -> Moves t (make t item)) :
    Moves s (makeKind make kept s kind) :=
  Moves.foldl s _ fun t item member =>
    each t item (of_decide_eq_true (List.mem_filter.mp member).2)

theorem moves_make (kept : List Item) : Moves s (s.make kept) := by
  unfold make
  refine ((moves_makeKind s kept .metric fun t item _ => moves_makeMetrics t item).trans
    (moves_makeKind _ kept .trigger fun t item _ => moves_makeTriggers t item)).trans ?_
  refine Moves.foldl _ _ fun t kind member => ?_
  refine moves_makeKind t kept kind fun u item same => moves_makeShown u ?_
  have shown : ∀ kind ∈ [Kind.card, .chart, .map, .page], kind.isShown = true := by decide
  exact same ▸ shown kind member

/-- Compiling what some sections need of a template. -/
theorem moves_addTemplate (template : List Item) (sections : List String) :
    Moves s (s.addTemplate template sections) := by
  unfold addTemplate
  dsimp only
  have noted := (Quiet.noteAll s (Template.sliceNotices template sections s.aliases)).moves
  split
  · exact noted.trans (Quiet.note _ _).moves
  · exact (noted.trans (moves_make _ _)).trans (Quiet.note _ _).moves

end Session

/-! ## Histories -/

/-- A call on a session. -/
inductive Call where
  | domain (items : List Domain.Item)
  | template (items : List Template.Item) (sections : List String)

namespace Session

/-- Carry out a call. -/
def perform (s : Session) : Call -> Session
  | .domain items => s.addDomain items
  | .template items sections => s.addTemplate items sections

/-- Carry out some calls in order. -/
def run (s : Session) (calls : List Call) : Session :=
  calls.foldl perform s

theorem moves_perform (s : Session) (call : Call) : Moves s (s.perform call) := by
  cases call with
  | domain items => exact moves_addDomain s items
  | template items sections => exact moves_addTemplate s items sections

theorem moves_run (s : Session) (calls : List Call) : Moves s (s.run calls) :=
  Moves.foldl s calls fun t call _ => moves_perform t call

end Session

/-! ## A whole compile -/

/-- A compile that gives rows has read its domain and template, and carries
out two calls. -/
theorem Job.compile_eq {input : Job} {options : Options} {supply : Nat} {s : Session}
    (compiled : input.compile options supply = .ok s) :
    ∃ domain template, Job.orEmpty Domain.ofJson input.domain = .ok domain ∧
      Job.orEmpty Template.ofJson input.template = .ok template ∧
      s = ((Session.resume options supply input.existing).addDomain domain).addTemplate template
        input.sections := by
  unfold Job.compile at compiled
  cases domain : Job.orEmpty Domain.ofJson input.domain with
  | error failure =>
    rw [domain] at compiled
    cases compiled
  | ok items =>
    cases template : Job.orEmpty Template.ofJson input.template with
    | error failure =>
      rw [domain, template] at compiled
      cases compiled
    | ok blueprints =>
      rw [domain, template] at compiled
      exact ⟨items, blueprints, rfl, rfl, (Except.ok.inj compiled).symm⟩

/-- What can be read is compiled. -/
theorem Job.compile_of_read {input : Job} {domain : List Domain.Item}
    {template : List Template.Item}
    (readDomain : Job.orEmpty Domain.ofJson input.domain = .ok domain)
    (readTemplate : Job.orEmpty Template.ofJson input.template = .ok template) (options : Options)
    (supply : Nat) : input.compile options supply =
      .ok (((Session.resume options supply input.existing).addDomain domain).addTemplate template
        input.sections) := by
  unfold Job.compile
  rw [readDomain, readTemplate]
  rfl

end Sensornet
