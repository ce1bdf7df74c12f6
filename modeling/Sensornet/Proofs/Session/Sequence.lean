import Sensornet.Proofs.Session.Again
import Sensornet.Proofs.Session.Newcomers
import Sensornet.Proofs.Session.Standing
import Sensornet.Proofs.Session.Twice
import Sensornet.Proofs.Template.Unreached

namespace Sensornet

/-!
# The order of rows

A compile writes its rows part by part: targets in the order of the items, links,
what targets start with, the metrics of the template, its triggers, and what is
shown, one row for every kept item under consecutive integers.  What refers to a
target stands behind it.

A later part may rewrite triggers of the earlier ones, but where they stand.  So
the rows of a compile are those of the parts, in this order, once it is granted
that a trigger need not be what it was when it was written.
-/

open Fixture (Key Row Registry)
open List (Forall₂)
open Template (Item Kind)

/-! ## Rows that stay -/

namespace Fixture.Row.Stays

theorem refl (row : Row) : row.Stays row :=
  ⟨rfl, rfl, rfl, fun _ => rfl⟩

theorem trans {row then' later : Row} (first : row.Stays then') (second : then'.Stays later) :
    row.Stays later where
  model := second.model.trans first.model
  key := second.key.trans first.key
  output := second.output.trans first.output
  other passive := by
    have same := first.other passive
    subst same
    exact second.other passive

end Fixture.Row.Stays

theorem Placement.model_row (p : Placement) : p.row.model ∈ Session.targetModels := by
  unfold row Domain.Item.targetRow
  split
  · exact List.mem_cons_self
  · exact List.mem_cons_of_mem _ List.mem_cons_self

/-- The rows of some links, under the integers from `first` on. -/
def Link.rowsFrom (first : Int) : List Link -> List Row
  | [] => []
  | link :: rest => link.row first :: rowsFrom (first + 1) rest

namespace Session

variable {models : List String} {asks : Session -> Trigger -> Prop} {s t : Session}

/-- The rows that a session has beyond those of another. -/
def appended (s t : Session) : List Row :=
  t.rows.drop s.rows.length

theorem appended_of_rows {rows : List Row} (added : t.rows = s.rows ++ rows) :
    appended s t = rows := by
  unfold appended
  rw [added, List.drop_left]

theorem forall₂_stays_refl (rows : List Row) : Forall₂ Row.Stays rows rows :=
  List.forall₂_same.mpr fun row _ => Row.Stays.refl row

theorem forall₂_stays_trans {rows then' later : List Row} (first : Forall₂ Row.Stays rows then')
    (second : Forall₂ Row.Stays then' later) : Forall₂ Row.Stays rows later := by
  induction first generalizing later with
  | nil => exact second
  | cons head _ ih =>
    cases second with
    | cons headToo rest => exact .cons (head.trans headToo) (ih rest)

/-- The rows of a session stay where they stand. -/
theorem Moves.forall₂_stays (run : Moves s t) (indexed : s.Indexed) :
    Forall₂ Row.Stays s.rows (t.rows.take s.rows.length) := by
  refine forall₂_of_getElem? Row.Stays.refl fun position => ?_
  cases stands : s.rows[position]? with
  | none =>
    have above := List.getElem?_eq_none_iff.mp stands
    exact Or.inl (List.getElem?_eq_none ((List.length_take_le _ _).trans above))
  | some row =>
    have below := (List.getElem?_eq_some_iff.mp stands).1
    rcases run.stays indexed stands with ⟨later, now, stays⟩
    exact Or.inr ⟨row, later, rfl, (List.getElem?_take_of_lt below).trans now, stays⟩

/-- What was written stays written, and the rows of a further stage follow. -/
theorem Moves.stays_append {rows : List Row} (written : Forall₂ Row.Stays rows s.rows)
    (run : Moves s t) (indexed : s.Indexed) :
    Forall₂ Row.Stays (rows ++ appended s t) t.rows := by
  have old := forall₂_stays_trans written (run.forall₂_stays indexed)
  exact List.take_append_drop s.rows.length t.rows ▸ List.rel_append old (forall₂_stays_refl _)

/-- What two stages add is what the first one adds and then the second one. -/
theorem Moves.appended_append {u : Session} (first : Moves s t) (second : Moves t u)
    (indexed : t.Indexed) : Forall₂ Row.Stays (appended s t ++ appended t u) (appended s u) := by
  have longer : s.rows.length ≤ t.rows.length := by
    simpa using first.heads.length_le
  have dropped := List.forall₂_drop s.rows.length
    (second.stays_append (forall₂_stays_refl t.rows) indexed)
  rwa [List.drop_append_of_le_length longer] at dropped

/-- Where no trigger is asked for, the new rows are of the models of the stage. -/
theorem Deeds.added_of_silent (run : Deeds models Silent s t) :
    ∀ row ∈ appended s t, row.model ∈ models := by
  have whole : ∃ rows, t.rows = s.rows ++ rows ∧ ∀ row ∈ rows, row.model ∈ models := by
    induction run with
    | refl => exact ⟨[], (List.append_nil _).symm, fun _ member => absurd member List.not_mem_nil⟩
    | @tail u v _ deed ih =>
      rcases ih with ⟨rows, added, each⟩
      cases deed with
      | still same => exact ⟨rows, same.rows.trans added, each⟩
      | bind id named => exact ⟨rows, (Quiet.bind _ _ _ _).rows.trans added, each⟩
      | @enter registry row model issued new named own among passive =>
        refine ⟨rows ++ [row], ?_, fun other member => ?_⟩
        · rw [rows_enter, added, List.append_assoc]
        · rcases List.mem_append.mp member with old | last
          · exact each other old
          · cases List.mem_singleton.mp last
            exact own ▸ among
      | ask asked => exact asked.elim
  rcases whole with ⟨rows, added, each⟩
  rw [appended_of_rows added]
  exact each

/-! ## Targets and links -/

/-- Placing writes the rows of the items that are new, in the order of the items. -/
theorem appended_placeItems (s : Session) (items : List Domain.Item) :
    (s.placeItems [] items).1.map Placement.item = items ∧
      appended s (s.placeItems [] items).2 =
        (newcomers s.network [] (s.placeItems [] items).1).map Placement.row := by
  rcases (extends_nil s).placeItems items with ⟨placed, all, each, _, rows, _⟩
  rw [List.nil_append] at all
  rw [all]
  exact ⟨each, appended_of_rows rows⟩

theorem forall₂_rowsFrom (first : Int) (links : List Link) :
    Forall₂ (fun link row => ∃ id, row = link.row id) links (Link.rowsFrom first links) := by
  induction links generalizing first with
  | nil => exact .nil
  | cons link rest ih => exact .cons ⟨first, rfl⟩ (ih (first + 1))

/-- Links that no row carries are written, each once and in order, under the
integers that come next. -/
theorem rows_foldl_writeLink (links written : List Link) (s : Session) :
    ∃ new, addAllNew written links = written ++ new ∧
      (links.foldl writeLink (written, s)).2.rows =
        s.rows ++ Link.rowsFrom (s.registry.lastInteger + 1) new := by
  induction links generalizing written s with
  | nil => exact ⟨[], (List.append_nil _).symm, (List.append_nil _).symm⟩
  | cons link rest ih =>
    rw [List.foldl_cons, addAllNew_cons]
    by_cases known : link ∈ written
    · have same : writeLink (written, s) link = (written, s) := if_pos known
      rw [same, addNew_of_mem known]
      exact ih written s
    · have next : writeLink (written, s) link = (written ++ [link],
          s.nextInteger.2.push (link.row s.nextInteger.1)) := if_neg known
      rw [next, addNew_of_not_mem known]
      rcases ih (written ++ [link]) (s.nextInteger.2.push (link.row s.nextInteger.1)) with
        ⟨new, all, added⟩
      refine ⟨link :: new, ?_, ?_⟩
      · rw [all, List.append_assoc]
        rfl
      · rw [added, Link.rowsFrom, List.append_cons]
        rfl

/-- The rows are those of the links that some items call for and that no row of
a session carries. -/
def NewLinks (s : Session) (placed : List Placement) (rows : List Row) : Prop :=
  ∃ new, addAllNew (s.rows.filterMap Link.ofRow?)
      (Link.links (placed.flatMap (Link.wantedBy s.network))) =
        s.rows.filterMap Link.ofRow? ++ new ∧
    Forall₂ (fun link row => ∃ id, row = link.row id) new rows

/-- The rows that linking writes. -/
theorem appended_writeLinks (s : Session) (placed : List Placement) :
    ∃ new, addAllNew (s.rows.filterMap Link.ofRow?)
        (Link.links (placed.flatMap (Link.wantedBy s.network))) =
          s.rows.filterMap Link.ofRow? ++ new ∧
      appended s (s.writeLinks placed) = Link.rowsFrom (s.registry.lastInteger + 1) new := by
  let wanted := placed.flatMap (Link.wantedBy s.network)
  rcases rows_foldl_writeLink (Link.links wanted) (s.rows.filterMap Link.ofRow?)
    (s.noteAll (Link.notices wanted)) with ⟨new, unwritten, added⟩
  exact ⟨new, unwritten, appended_of_rows added⟩

theorem newLinks_writeLinks (s : Session) (placed : List Placement) :
    s.NewLinks placed (appended s (s.writeLinks placed)) := by
  rcases s.appended_writeLinks placed with ⟨new, unwritten, added⟩
  exact ⟨new, unwritten, added ▸ forall₂_rowsFrom _ new⟩

/-! ## What is shown -/

/-- The item of a kind that is shown takes the next integer. -/
theorem key_makeShown (s : Session) {item : Item} (shown : item.kind.isShown = true) :
    (s.makeShown item).rows.map Row.key =
        s.rows.map Row.key ++ [.integer (s.registry.lastInteger + 1)] ∧
      (s.makeShown item).registry.lastInteger = s.registry.lastInteger + 1 := by
  rcases model?_of_isShown shown with ⟨model, named⟩
  have resolved := (Quiet.resolve s.nextInteger.2 .global (.object item.fields)).keys.lastInteger
  unfold makeShown
  rw [named]
  dsimp only
  cases item.abstractionId? with
  | none => exact ⟨List.map_append, resolved⟩
  | some id => exact ⟨List.map_append, resolved⟩

/-- Some integers in a row, as keys. -/
def integersFrom (first : Int) (count : Nat) : List Key :=
  (List.range count).map fun i : Nat => .integer (first + i)

theorem integersFrom_succ (first : Int) (count : Nat) :
    integersFrom first (count + 1) = .integer first :: integersFrom (first + 1) count := by
  unfold integersFrom
  rw [List.range_succ_eq_map, List.map_cons, List.map_map]
  refine congrArg₂ List.cons (congrArg Key.integer (Int.add_zero first)) ?_
  refine List.map_congr_left fun i _ => congrArg Key.integer ?_
  omega

theorem keys_foldl_makeShown (items : List Item)
    (shown : ∀ item ∈ items, item.kind.isShown = true) (s : Session) :
    (items.foldl makeShown s).rows.map Row.key =
      s.rows.map Row.key ++ integersFrom (s.registry.lastInteger + 1) items.length := by
  induction items generalizing s with
  | nil => exact (List.append_nil _).symm
  | cons item rest ih =>
    rcases key_makeShown s (shown item List.mem_cons_self) with ⟨keys, last⟩
    rw [List.foldl_cons, ih (fun other member => shown other (List.mem_cons_of_mem item member)),
      keys, last, List.length_cons, integersFrom_succ, List.append_assoc]
    rfl

/-- Kind after kind is item after item. -/
theorem afterKinds_eq_foldl (s : Session) (kept : List Item) (kinds : List Kind) :
    s.afterKinds kept kinds = (kinds.flatMap (ofKind kept)).foldl makeShown s :=
  (List.foldl_flatMap ..).symm

/-- After metrics and triggers there is one row for every item that is shown. -/
theorem rows_addTemplate (s : Session) (template : List Item) (sections : List String) :
    ∃ rows, (s.addTemplate template sections).rows = (s.prepared template sections).rows ++ rows ∧
      (s.prepared template sections).Lists
        (shownKinds.flatMap (ofKind (s.keptItems template sections))) rows ∧
      rows.map Row.key =
        integersFrom ((s.prepared template sections).registry.lastInteger + 1) rows.length := by
  have shown : ∀ item ∈ shownKinds.flatMap (ofKind (s.keptItems template sections)),
      item.kind.isShown = true := by
    intro item member
    rcases List.mem_flatMap.mp member with ⟨kind, among, own⟩
    exact shown_of_mem_ofKind (mem_shownKinds.mp among) own
  rcases lists_foldl_makeShown _ shown (s.prepared template sections) with ⟨rows, whole, lists⟩
  have numbered := keys_foldl_makeShown _ shown (s.prepared template sections)
  rw [whole, List.map_append, List.append_cancel_left_eq, ← lists.length] at numbered
  rcases s.addTemplate_eq template sections with ⟨notice, made⟩
  rw [afterKinds_eq_foldl] at made
  rw [made]
  exact ⟨rows, whole, lists, numbered⟩

end Session

/-! ## The order of a template -/

namespace Template

variable {aliases : Metric.Aliases} {template : List Item} {sections : List String}

/-- The kept items of a kind are the items at the positions of its part. -/
theorem filter_items_slice {kind : Kind} (keeps : kind ∈ keptKinds) :
    ((slice template sections aliases).items template).filter (fun item => item.kind = kind) =
      itemsAt template ((select template sections aliases).part kind) := by
  have own : ∀ part : Kind, (itemsAt template ((select template sections aliases).part part)).filter
      (fun item => item.kind = kind) =
        if part = kind then itemsAt template ((select template sections aliases).part part)
        else [] := by
    intro part
    rw [part_select]
    split
    · next same =>
      refine List.filter_eq_self.mpr fun item member => ?_
      exact decide_eq_true ((mem_itemsAt_positions.mp member).2.1.trans same)
    · next different =>
      refine List.filter_eq_nil_iff.mpr fun item member same => different ?_
      exact (mem_itemsAt_positions.mp member).2.1.symm.trans (of_decide_eq_true same)
  rw [items_slice_eq, List.filter_flatMap]
  simp only [own]
  cases kind with
  | other => exact absurd keeps (by decide)
  | page | chart | card | map | metric | trigger => simp [keptKinds]

end Template

namespace Session

/-- The items that are shown are kept in the order of the template. -/
theorem ofKind_keptItems_sublist (s : Session) (template : List Item) (sections : List String)
    {kind : Kind} (shown : kind.isShown = true) :
    (ofKind (s.keptItems template sections) kind).Sublist template := by
  have keeps : kind ∈ Template.keptKinds := by
    cases kind <;> cases shown <;> decide
  unfold ofKind keptItems
  rw [Template.filter_items_slice keeps, Template.part_select, Template.itemsAt_positions]
  exact List.filter_sublist

/-! ## Parts -/

variable {models : List String} {asks : Session -> Trigger -> Prop} {s t : Session}

/-- A domain enters targets and links before any metrics. -/
theorem deeds_linked (s : Session) (items : List Domain.Item) :
    Deeds (targetModels ++ [Fixture.Model.link]) asks s (s.linked items) :=
  ((deeds_placeItems s [] items).widen (List.subset_append_left _ _)).trans
    ((deeds_placeItems_linked s items).widen (List.subset_append_right _ _))

/-- A domain enters targets, then links, and then metrics. -/
theorem deeds_addDomain_of_linked (s : Session) (items : List Domain.Item) :
    Deeds [Fixture.Model.metric] Any (s.linked items) (s.addDomain items) := by
  rcases addDomain_eq s items with ⟨notice, whole⟩
  rw [whole]
  exact (deeds_equipped _ _).trans (Still.note _ notice).deeds

/-- The rows that a compile writes, part by part. -/
structure Parts where
  targets : List Row
  links : List Row
  starters : List Row
  metrics : List Row
  triggers : List Row
  shown : List Row

def Parts.rows (parts : Parts) : List Row :=
  parts.targets ++ parts.links ++ parts.starters ++ parts.metrics ++ parts.triggers ++ parts.shown

/-- What a session writes for a domain and then for sections of a template. -/
structure Writes (s : Session) (domain : List Domain.Item) (template : List Item)
    (sections : List String) (parts : Parts) : Prop where
  /-- every item of the domain has its place -/
  items : (s.placeItems [] domain).1.map Placement.item = domain
  /-- the rows of the items that are new, in the order of the items -/
  targets : parts.targets = (newcomers s.network [] (s.placeItems [] domain).1).map Placement.row
  targetRows : ∀ row ∈ parts.targets, row.model ∈ targetModels
  links : (s.placeItems [] domain).2.NewLinks (s.placeItems [] domain).1 parts.links
  /-- what the domain adds to targets and links -/
  starters : parts.starters = appended (s.linked domain) (s.addDomain domain)
  starterRows : ∀ row ∈ parts.starters,
    row.model = Fixture.Model.metric ∨ row.model = Fixture.Model.trigger
  /-- what the metric blueprints add to the domain -/
  metrics : parts.metrics =
    appended (s.addDomain domain) ((s.addDomain domain).withMetrics template sections)
  metricRows : ∀ row ∈ parts.metrics, row.model = Fixture.Model.metric
  /-- what the trigger blueprints add to the metrics -/
  triggers : parts.triggers =
    appended ((s.addDomain domain).withMetrics template sections)
      ((s.addDomain domain).prepared template sections)
  triggerRows : ∀ row ∈ parts.triggers, row.model = Fixture.Model.trigger
  /-- one row for every kept card, chart, map and page -/
  shown : ((s.addDomain domain).prepared template sections).Lists
    (shownKinds.flatMap (ofKind ((s.addDomain domain).keptItems template sections))) parts.shown
  /-- within a kind, these are in the order of the template -/
  ordered : ∀ kind ∈ shownKinds,
    (ofKind ((s.addDomain domain).keptItems template sections) kind).Sublist template
  /-- each under the integer after the one before it -/
  keys : parts.shown.map Row.key = integersFrom
    (((s.addDomain domain).prepared template sections).registry.lastInteger + 1)
    parts.shown.length

/-- The rows behind those of a session are the parts that it writes, in order. -/
theorem Indexed.exists_writes (indexed : s.Indexed) (domain : List Domain.Item)
    (template : List Item) (sections : List String) :
    ∃ parts, s.Writes domain template sections parts ∧
      Forall₂ Row.Stays (s.rows ++ parts.rows)
        ((s.addDomain domain).addTemplate template sections).rows := by
  let t := (s.placeItems [] domain).2
  let d := s.addDomain domain
  have placing : Moves s t := moves_placeItems s [] domain
  have linking : Moves t (s.linked domain) := moves_writeLinks _ _
  have equipping := deeds_addDomain_of_linked s domain
  have measuring : Deeds [Fixture.Model.metric] Silent d (d.withMetrics template sections) :=
    (Still.noteAll d _).deeds.trans (deeds_makeMetricKind _ _)
  have asking : Deeds [] Any (d.withMetrics template sections) (d.prepared template sections) := by
    rw [d.prepared_eq template sections]
    exact deeds_makeKind _ _ _ fun u item _ _ => deeds_makeTriggers_any u item
  rcases s.appended_placeItems domain with ⟨items, targets⟩
  rcases d.rows_addTemplate template sections with ⟨rows, whole, lists, numbered⟩
  let parts : Parts :=
    { targets := appended s t
      links := appended t (s.linked domain)
      starters := appended (s.linked domain) d
      metrics := appended d (d.withMetrics template sections)
      triggers := appended (d.withMetrics template sections) (d.prepared template sections)
      shown := rows }
  refine ⟨parts, ?_, ?_⟩
  · exact
      { items
        targets
        targetRows := by
          change ∀ row ∈ appended s t, row.model ∈ targetModels
          rw [targets]
          exact List.forall_mem_map.mpr fun p _ => p.model_row
        links := newLinks_writeLinks t _
        starters := rfl
        starterRows := fun row member => (equipping.added member).imp_left List.mem_singleton.mp
        metrics := rfl
        metricRows := fun row member => List.mem_singleton.mp (measuring.added_of_silent row member)
        triggers := rfl
        triggerRows := fun row member => (asking.added member).resolve_left List.not_mem_nil
        shown := lists
        ordered := fun kind among => d.ofKind_keptItems_sublist template sections
          (mem_shownKinds.mp among)
        keys := numbered }
  · -- every stage leaves the rows of the earlier ones where they stand
    have linked := placing.trans linking
    have equipped := linked.trans equipping.moves
    have measured := equipped.trans measuring.moves
    have written := asking.moves.stays_append (measuring.moves.stays_append
      (equipping.moves.stays_append (linking.stays_append (placing.stays_append
        (forall₂_stays_refl s.rows) indexed) (indexed.moves placing)) (indexed.moves linked))
        (indexed.moves equipped)) (indexed.moves measured)
    rw [whole]
    simpa only [Parts.rows, List.append_assoc] using
      List.rel_append written (forall₂_stays_refl rows)

end Session

namespace Job

end Job
end Sensornet
