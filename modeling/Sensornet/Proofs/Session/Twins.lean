import Sensornet.Proofs.Resolution.Members
import Sensornet.Proofs.Session.Indexed
import Sensornet.Proofs.Session.Tokens

namespace Sensornet
namespace Session

/-!
# Two sessions side by side

Two sessions are twins when they have the same settings and network, issue the
same keys, and have rows that differ in new tokens only.  Notices and bindings
may be entirely different, and so may the number of tokens drawn.  Compiling a
domain never looks at these, so twins stay twins when both compile the same
domain.

Templates do look at bindings, and nothing is said of them here.
-/

open Fixture (Key Row Registry)
open Json (Value Fields)
open List (Forall₂)

section

variable {A B : Type} {R : A -> B -> Prop} {xs : List A} {ys : List B}

theorem forall₂_modify (alike : Forall₂ R xs ys) {f : A -> A} {g : B -> B} {position : Nat}
    (each : ∀ x y, xs[position]? = some x -> R x y -> R (f x) (g y)) :
    Forall₂ R (xs.modify position f) (ys.modify position g) := by
  induction alike generalizing position with
  | nil =>
    rw [List.modify_nil, List.modify_nil]
    exact .nil
  | cons head tail ih =>
    cases position with
    | zero =>
      rw [List.modify_zero_cons, List.modify_zero_cons]
      exact .cons (each _ _ rfl head) tail
    | succ position =>
      rw [List.modify_succ_cons, List.modify_succ_cons]
      exact .cons head (ih each)

theorem filterMap_of_forall₂ {C : Type} {left : A -> Option C} {right : B -> Option C}
    (alike : Forall₂ R xs ys) (same : ∀ x y, R x y -> right y = left x) :
    ys.filterMap right = xs.filterMap left := by
  induction alike with
  | nil => rfl
  | cons head _ ih => rw [List.filterMap_cons, List.filterMap_cons, same _ _ head, ih]

end

/-- A registry that the deterministic policy went on from. -/
structure Since (first now : Registry) : Prop where
  policy : first.policy = .deterministic
  tokens : first.tokens ≤ now.tokens

theorem Since.drawn {first now : Registry} (since : Since first now)
    (policy : now.policy = .deterministic) (seed : String) : first.Drawn (now.token seed).1 := by
  refine ⟨now.tokens, seed, since.tokens, ?_⟩
  unfold Registry.token
  dsimp only
  rw [since.policy, policy]

theorem Since.token {first now : Registry} (since : Since first now) (seed : String) :
    Since first (now.token seed).2 := by
  have count : (now.token seed).2.tokens = now.tokens + 1 := by
    unfold Registry.token
    split <;> rfl
  exact ⟨since.policy, by rw [count]; exact Nat.le_succ_of_le since.tokens⟩

/-- Two sessions that a domain cannot tell apart, with where their tokens
began. -/
structure Twins (first again : Registry) (s t : Session) : Prop where
  indexed : s.Indexed
  options : t.options = s.options
  aliases : t.aliases = s.aliases
  network : t.network = s.network
  keys : s.registry.Agrees t.registry
  since : Since first s.registry
  sinceAgain : Since again t.registry
  rows : Forall₂ (SameButTokens first again) s.rows t.rows

namespace Twins

variable {first again : Registry} {s t : Session} (twins : Twins first again s t)
include twins

/-! ## Single steps -/

theorem note (notice other : Notice) : Twins first again (s.note notice) (t.note other) :=
  { twins with }

theorem noteAll (notices others : List Notice) :
    Twins first again (s.noteAll notices) (t.noteAll others) :=
  { twins with }

theorem drawToken (seed : String) :
    Twins first again (s.drawToken seed).2 (t.drawToken seed).2 where
  indexed := twins.indexed
  options := twins.options
  aliases := twins.aliases
  network := twins.network
  keys := twins.keys.same (.token s.registry seed) (.token t.registry seed)
  since := twins.since.token seed
  sinceAgain := twins.sinceAgain.token seed
  rows := twins.rows

/-- Both enter a row, and an index takes the two rows for the same. -/
theorem enter {registry other : Registry} {row copy : Row} (keys : registry.Agrees other)
    (since : Since first registry) (sinceAgain : Since again other)
    (same : SameButTokens first again row copy)
    (alike : ∀ (n : Network) (position : Nat), n.indexRow copy position = n.indexRow row position) :
    Twins first again (s.enter registry row) (t.enter other copy) where
  indexed := twins.indexed.enter registry row
  options := twins.options
  aliases := twins.aliases
  network := by
    rw [network_enter, network_enter, twins.network, twins.rows.length_eq, alike]
  keys := keys
  since := since
  sinceAgain := sinceAgain
  rows := List.rel_append twins.rows (.cons same .nil)

theorem enterMade (kind : Fixture.Record) (seed : String) {row copy : Row}
    (same : SameButTokens first again row copy)
    (alike : ∀ (n : Network) (position : Nat), n.indexRow copy position = n.indexRow row position) :
    Twins first again (s.enter (s.registry.make kind seed).2 row)
      (t.enter (t.registry.make kind seed).2 copy) :=
  twins.enter (twins.keys.make kind seed) ⟨twins.since.policy, twins.since.tokens⟩
    ⟨twins.sinceAgain.policy, twins.sinceAgain.tokens⟩ same alike

/-- Both enter the very same row. -/
theorem enterSame (kind : Fixture.Record) (seed : String) (row : Row) :
    Twins first again (s.enter (s.registry.make kind seed).2 row)
      (t.enter (t.registry.make kind seed).2 row) :=
  twins.enterMade kind seed (.refl row) fun _ _ => rfl

omit twins in
/-- A fold keeps twins when its steps do. -/
theorem foldl {A : Type} {step : Session -> A -> Session}
    (each : ∀ (s t : Session) (a : A), Twins first again s t ->
      Twins first again (step s a) (step t a))
    (items : List A) {s t : Session} (twins : Twins first again s t) :
    Twins first again (items.foldl step s) (items.foldl step t) := by
  induction items generalizing s t with
  | nil => exact twins
  | cons item rest ih => exact ih (each s t item twins)

/-! ## Placing and linking -/

theorem noteZone (item : Domain.Item) : Twins first again (s.noteZone item) (t.noteZone item) := by
  unfold Session.noteZone
  split
  · exact twins
  · exact twins.note _ _

theorem notePoint (item : Domain.Item) (kind : String) :
    Twins first again (s.notePoint item kind) (t.notePoint item kind) := by
  unfold Session.notePoint
  split <;> split
  · exact twins
  · exact twins.note _ _
  · exact twins.note _ _
  · exact (twins.note _ _).note _ _

theorem noteShared (placed : List Placement) (item : Domain.Item) :
    Twins first again (s.noteShared placed item) (t.noteShared placed item) := by
  unfold Session.noteShared
  split
  · exact twins.note _ _
  · exact twins

theorem placeAsZone (item : Domain.Item) :
    (t.placeAsZone item).1 = (s.placeAsZone item).1 ∧
      Twins first again (s.placeAsZone item).2 (t.placeAsZone item).2 := by
  have id := twins.keys.id_make .polygon ("zone|" ++ item.label)
  rw [placeAsZone_eq, placeAsZone_eq]
  refine ⟨id, ?_⟩
  dsimp only
  rw [id]
  exact (twins.enterSame _ _ _).noteZone item

theorem placeAsPoint (item : Domain.Item) (kind : String) :
    (t.placeAsPoint item kind).1 = (s.placeAsPoint item kind).1 ∧
      Twins first again (s.placeAsPoint item kind).2 (t.placeAsPoint item kind).2 := by
  have id := twins.keys.id_make .point ("point|" ++ kind ++ "|" ++ item.label)
  rw [placeAsPoint_eq, placeAsPoint_eq]
  refine ⟨id, ?_⟩
  dsimp only
  rw [id]
  exact (twins.enterSame _ _ _).notePoint item kind

/-- Twins give an item the same target. -/
theorem placeItem (placed : List Placement) (item : Domain.Item) :
    (t.placeItem placed item).1 = (s.placeItem placed item).1 ∧
      Twins first again (s.placeItem placed item).2 (t.placeItem placed item).2 := by
  have noted := twins.noteShared placed item
  cases known : (s.network.targetsNamed item.kind item.label)[earlier placed item]? with
  | some id =>
    have knownAgain := known
    rw [← twins.network] at knownAgain
    rw [s.placeItem_known known, t.placeItem_known knownAgain]
    exact ⟨rfl, twins.note _ _⟩
  | none =>
    have unknownAgain := known
    rw [← twins.network] at unknownAgain
    by_cases zone : item.kind = Domain.zoneKind
    · rw [s.placeItem_zone known zone, t.placeItem_zone unknownAgain zone]
      rcases noted.placeAsZone item with ⟨id, after⟩
      exact ⟨congrArg (Placement.mk item item.kind) id, after⟩
    · rw [s.placeItem_point known zone, t.placeItem_point unknownAgain zone]
      rcases noted.placeAsPoint item item.kind with ⟨id, after⟩
      exact ⟨congrArg (Placement.mk item item.kind) id, after⟩

theorem placeItems (placed : List Placement) (items : List Domain.Item) :
    (t.placeItems placed items).1 = (s.placeItems placed items).1 ∧
      Twins first again (s.placeItems placed items).2 (t.placeItems placed items).2 := by
  induction items generalizing s t placed with
  | nil => exact ⟨rfl, twins⟩
  | cons item rest ih =>
    rcases twins.placeItem placed item with ⟨next, after⟩
    unfold Session.placeItems
    dsimp only
    rw [next]
    exact ih after _

theorem foldl_writeLink (written links : List Link) :
    Twins first again (links.foldl writeLink (written, s)).2
      (links.foldl writeLink (written, t)).2 := by
  induction links generalizing s t written with
  | nil => exact twins
  | cons link rest ih =>
    rw [List.foldl_cons, List.foldl_cons]
    by_cases known : link ∈ written
    · have left : writeLink (written, s) link = (written, s) := if_pos known
      have right : writeLink (written, t) link = (written, t) := if_pos known
      rw [left, right]
      exact ih twins written
    · have id := twins.keys.integer_eq
      rw [writeLink_new s known, writeLink_new t known]
      dsimp only
      rw [id]
      exact ih (twins.enter twins.keys.nextInteger ⟨twins.since.policy, twins.since.tokens⟩
        ⟨twins.sinceAgain.policy, twins.sinceAgain.tokens⟩ (.refl _) fun _ _ => rfl) _

/-- Twins have the same links already, and call for the same. -/
theorem writeLinks (placed : List Placement) :
    Twins first again (s.writeLinks placed) (t.writeLinks placed) := by
  have written : t.rows.filterMap Link.ofRow? = s.rows.filterMap Link.ofRow? :=
    filterMap_of_forall₂ twins.rows fun _ _ same => same.ofRow?
  unfold Session.writeLinks
  dsimp only
  rw [twins.network, written]
  exact (twins.noteAll _ _).foldl_writeLink _ _

/-! ## Metrics and triggers -/

theorem obtainMetric (fields : Fields) :
    (t.obtainMetric fields).1 = (s.obtainMetric fields).1 ∧
      Twins first again (s.obtainMetric fields).2 (t.obtainMetric fields).2 := by
  cases known : s.network.metric?
      (.ofFields (Metric.complete s.aliases s.options.storageTable fields)) with
  | some id =>
    have knownAgain := known
    rw [← twins.network, ← twins.aliases, ← twins.options] at knownAgain
    rcases s.obtainMetric_known known with ⟨notice, found⟩
    rcases t.obtainMetric_known knownAgain with ⟨other, foundAgain⟩
    rw [found, foundAgain]
    exact ⟨rfl, twins.note _ _⟩
  | none =>
    have unknownAgain := known
    rw [← twins.network, ← twins.aliases, ← twins.options] at unknownAgain
    rw [s.obtainMetric_new known, t.obtainMetric_new unknownAgain]
    dsimp only
    rw [twins.aliases, twins.options, twins.keys.id_make]
    exact ⟨rfl, twins.enterSame _ _ _⟩

/-- Twins write one trigger in the same place, each with a token of its own. -/
theorem putStarter {token other : String} (drawn : first.Drawn token)
    (drawnAgain : again.Drawn other) (name description : String) (more : Fields)
    (inputs : List String) (output : String) :
    Twins first again (s.putTrigger (.starter name description more inputs output token)).2
      (t.putTrigger (.starter name description more inputs output other)).2 := by
  have pair := fun key =>
    sameButTokens_starter drawn drawnAgain key name description more inputs output
  have like : (Trigger.starter name description more inputs output other).isComplete =
    (Trigger.starter name description more inputs output token).isComplete := rfl
  cases complete : (Trigger.starter name description more inputs output token).isComplete with
  | false =>
    rw [s.putTrigger_incomplete complete, t.putTrigger_incomplete (like.trans complete)]
    exact twins.note _ _
  | true =>
    rcases s.stands_or_unknown output with ⟨position, row, known, stands⟩ | unknown
    · rcases getElem?_of_forall₂ twins.rows stands with ⟨copy, standsAgain, same⟩
      have knownAgain : t.network.triggerPosition? output = some position := twins.network ▸ known
      rw [s.putTrigger_known complete known stands,
        t.putTrigger_known (like.trans complete) knownAgain standsAgain]
      have noted := twins.note (.triggerUpdated row.key.shown output)
        (.triggerUpdated copy.key.shown output)
      -- the row was found as that of a trigger, which is what tokens may differ in
      rcases twins.indexed.output?_of_known known with ⟨found, place, writes⟩
      have trigger : row.model = Fixture.Model.trigger :=
        Option.some.inj (place.symm.trans stands) ▸ Network.model_of_output? writes
      refine { noted with indexed := noted.indexed.replaceFields known, rows := ?_ }
      refine forall₂_modify twins.rows fun old twin here alike => ?_
      have only : old = row := Option.some.inj (here.symm.trans stands)
      have written := pair row.key
      rw [alike.key, alike.model, same.key, only, trigger]
      exact written
    · have unknownAgain : ∀ position, t.network.triggerPosition? output = some position ->
          t.rows[position]? = none := by
        intro position known
        rw [twins.network] at known
        have beyond := List.getElem?_eq_none_iff.mp (unknown position known)
        rw [twins.rows.length_eq] at beyond
        exact List.getElem?_eq_none beyond
      rw [s.putTrigger_new complete unknown, t.putTrigger_new (like.trans complete) unknownAgain]
      have id := twins.keys.id_make .trigger ("trigger|" ++ output)
      refine twins.enterMade .trigger ("trigger|" ++ output) ?_ fun n position => ?_
      · have written := pair (.text (s.registry.make .trigger ("trigger|" ++ output)).1)
        have there : (t.registry.make .trigger ("trigger|" ++
            (Trigger.starter name description more inputs output other).outputMetric)).1 =
          (s.registry.make .trigger ("trigger|" ++ output)).1 := id
        rw [there]
        exact written
      · rw [n.indexRow_triggerRow complete, n.indexRow_triggerRow (like.trans complete)]
        rfl

theorem starterTrigger (name seed description : String) (more : Fields) (inputs : List String)
    (output : String) :
    Twins first again (s.starterTrigger name seed description more inputs output)
      (t.starterTrigger name seed description more inputs output) :=
  (twins.drawToken seed).putStarter (twins.since.drawn twins.keys.policy seed)
    (twins.sinceAgain.drawn twins.keys.otherPolicy seed) name description more inputs output

/-! ## What targets start with -/

theorem metricsOfTarget (placed : Placement) :
    Twins first again (s.metricsOfTarget placed) (t.metricsOfTarget placed) := by
  unfold Session.metricsOfTarget
  dsimp only
  rw [twins.options]
  split
  · exact ((twins.obtainMetric _).2.obtainMetric _).2
  · split
    · rcases twins.obtainMetric
        (Starter.flowReading placed.item placed.id s.options.rawStorageTable)
        with ⟨reading, between⟩
      rcases between.obtainMetric (Starter.flowVolume placed.id placed.item.label)
        with ⟨volume, after⟩
      rw [reading, volume]
      exact after.starterTrigger _ _ _ _ _ _
    · split
      · exact (twins.obtainMetric _).2
      · exact twins

theorem starterMetric? (category target : String) :
    t.starterMetric? category target = s.starterMetric? category target := by
  unfold Session.starterMetric?
  rw [twins.network]

theorem demandTrigger (zone label : String) (meters : List String) :
    Twins first again (s.demandTrigger zone label meters) (t.demandTrigger zone label meters) := by
  have volumes : meters.filterMap (t.starterMetric? "flow_volume") =
      meters.filterMap (s.starterMetric? "flow_volume") :=
    congrArg (meters.filterMap ·) (funext (twins.starterMetric? "flow_volume"))
  unfold Session.demandTrigger
  dsimp only
  rw [twins.starterMetric?, volumes]
  split
  · exact twins.starterTrigger _ _ _ _ _ _
  · exact twins

theorem pressureTrigger (zone label : String) :
    Twins first again (s.pressureTrigger zone label) (t.pressureTrigger zone label) := by
  unfold Session.pressureTrigger
  rw [twins.network]
  split
  · exact twins
  · dsimp only
    rw [twins.starterMetric?]
    split
    · exact twins.starterTrigger _ _ _ _ _ _
    · exact twins

theorem triggersOfZone (all : List Placement) (placed : Placement) :
    Twins first again (s.triggersOfZone all placed) (t.triggersOfZone all placed) := by
  unfold Session.triggersOfZone
  rw [twins.network]
  split
  · exact (twins.demandTrigger _ _ _).pressureTrigger _ _
  · exact twins

theorem starters (placed : List Placement) :
    Twins first again (s.starters placed) (t.starters placed) :=
  foldl (fun _ _ p twins => twins.triggersOfZone placed p) placed
    (foldl (fun _ _ p twins => twins.metricsOfTarget p) placed twins)

/-- Twins stay twins when both compile a domain. -/
theorem addDomain (items : List Domain.Item) :
    Twins first again (s.addDomain items) (t.addDomain items) := by
  rcases twins.placeItems [] items with ⟨placed, after⟩
  have linked := after.writeLinks (s.placeItems [] items).1
  unfold Session.addDomain
  dsimp only
  rw [placed, linked.options]
  split
  · exact (linked.starters _).note _ _
  · exact linked.note _ _

end Twins
end Session
end Sensornet
