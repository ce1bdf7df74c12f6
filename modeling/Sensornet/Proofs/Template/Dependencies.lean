import Mathlib.Data.String.Basic
import Sensornet.Proofs.Template.Closure

namespace Sensornet

/-!
# What a slice needs

The descriptors of a slice are the least set that has every descriptor written
in a kept widget and that a trigger with its output in the set has its inputs
in.  The description does not mention passes, edges or positions, and since it
asks only which items a template has, the order of its items is irrelevant.

What a slice keeps besides widgets follows from the descriptors and is not
described here.
-/

namespace Metric
namespace Descriptor

/-! ## The order of descriptors -/

theorem le_iff (a b : Descriptor) :
    le a b = true ↔ a.target < b.target ∨ a.target = b.target ∧
      (a.category < b.category ∨ a.category = b.category ∧ a.interval ≤ b.interval) := by
  unfold le
  split
  · next same =>
    split
    · next alike => simp [same, alike]
    · next other => simp [same, other]
  · next other => simp [other]

theorem le_trans (a b c : Descriptor) (first : le a b = true) (second : le b c = true) :
    le a c = true := by
  rw [le_iff] at *
  grind

theorem le_total (a b : Descriptor) : (le a b || le b a) = true := by
  rw [Bool.or_eq_true, le_iff, le_iff]
  grind

theorem le_antisymm {a b : Descriptor} (first : le a b = true) (second : le b a = true) :
    a = b := by
  rw [le_iff] at *
  cases a
  cases b
  grind

theorem mem_sorted {ds : List Descriptor} {d : Descriptor} : d ∈ sorted ds ↔ d ∈ ds :=
  List.mem_mergeSort

theorem pairwise_sorted (ds : List Descriptor) : (sorted ds).Pairwise (fun a b => le a b = true) :=
  List.pairwise_mergeSort le_trans le_total ds

/-- Two lists of the same descriptors, each written once, are the same when
sorted. -/
theorem sorted_eq_of_mem_iff {ds others : List Descriptor} (unique : ds.Nodup)
    (uniqueOthers : others.Nodup) (same : ∀ d, d ∈ ds ↔ d ∈ others) :
    sorted ds = sorted others := by
  have alike : ds.Perm others := (List.perm_ext_iff_of_nodup unique uniqueOthers).mpr same
  have rearranged : (sorted ds).Perm (sorted others) :=
    ((List.mergeSort_perm ds le).trans alike).trans (List.mergeSort_perm others le).symm
  exact rearranged.eq_of_pairwise (fun _ _ _ _ => le_antisymm) (pairwise_sorted ds)
    (pairwise_sorted others)

end Descriptor
end Metric

namespace Template

open Sensornet.Metric (Aliases Descriptor)

variable (aliases : Aliases) (template : List Item) (sections : List String)

/-- What a set of descriptors must contain for a template of which some items
are kept. -/
structure Closes (kept : List Item) (set : Descriptor -> Prop) : Prop where
  /-- whatever the kept widgets mention -/
  mentioned : ∀ item ∈ kept, item.kind.isWidget = true -> ∀ text ∈ item.value.texts,
    ∀ d, Descriptor.ofText? aliases text = some d -> set d
  /-- whatever a trigger reads that writes something in the set -/
  inputs : ∀ item ∈ template, item.kind = .trigger ->
    ∀ output, item.output? aliases = some output -> set output ->
      ∀ text ∈ item.inputMetrics, ∀ d, Descriptor.ofText? aliases text = some d -> set d

/-! ## Positions and edges -/

variable {aliases template sections}

/-- A position holds an item of the kind that passes the test. -/
theorem mem_positions {kind : Kind} {test : Item -> Bool} {index : Nat} :
    index ∈ positions template kind test ↔
      ∃ item, template[index]? = some item ∧ item.kind = kind ∧ test item = true := by
  unfold positions
  rw [List.mem_filterMap]
  constructor
  · rintro ⟨⟨item, own⟩, member, kept⟩
    dsimp only at kept
    split at kept
    · next passes =>
      cases kept
      exact ⟨item, List.mem_zipIdx_iff_getElem?.mp member, passes⟩
    · cases kept
  · rintro ⟨item, stands, passes⟩
    exact ⟨(item, index), List.mem_zipIdx_iff_getElem?.mpr stands, if_pos passes⟩

/-- The items at the positions of a kind and a test are the items of this kind
that pass the test. -/
theorem mem_itemsAt_positions {kind : Kind} {test : Item -> Bool} {item : Item} :
    item ∈ itemsAt template (positions template kind test) ↔
      item ∈ template ∧ item.kind = kind ∧ test item = true := by
  unfold itemsAt
  rw [List.mem_filterMap]
  constructor
  · rintro ⟨index, member, stands⟩
    rcases mem_positions.mp member with ⟨held, holds, passes⟩
    have same : held = item := Option.some.inj (holds.symm.trans stands)
    exact ⟨List.mem_of_getElem? stands, same ▸ passes⟩
  · rintro ⟨member, passes⟩
    rcases List.getElem?_of_mem member with ⟨index, stands⟩
    exact ⟨index, mem_positions.mpr ⟨item, stands, passes⟩, stands⟩

variable (aliases template) in
/-- The triggers of a template that write something, as the closure sees
them. -/
def edges : List Edge :=
  template.zipIdx.filterMap fun (item, index) =>
    if item.kind = .trigger then Edge.ofItem? aliases index item else none

theorem mem_edges {edge : Edge} :
    edge ∈ edges aliases template ↔ ∃ item, template[edge.index]? = some item ∧
      item.kind = .trigger ∧ Edge.ofItem? aliases edge.index item = some edge := by
  unfold edges
  rw [List.mem_filterMap]
  constructor
  · rintro ⟨⟨item, index⟩, member, made⟩
    dsimp only at made
    split at made
    · next trigger =>
      rcases Option.map_eq_some_iff.mp made with ⟨output, writes, same⟩
      subst same
      exact ⟨item, List.mem_zipIdx_iff_getElem?.mp member, trigger, made⟩
    · cases made
  · rintro ⟨item, stands, trigger, made⟩
    exact ⟨(item, edge.index), List.mem_zipIdx_iff_getElem?.mpr stands, (if_pos trigger).trans made⟩

/-- A position holds one item. -/
theorem unambiguous_edges : Unambiguous (edges aliases template) := by
  intro edge member other otherMember same
  rcases mem_edges.mp member with ⟨item, stands, _, made⟩
  rcases mem_edges.mp otherMember with ⟨held, holds, _, makes⟩
  rw [same] at stands made
  have alike : item = held := Option.some.inj (stands.symm.trans holds)
  subst alike
  exact Option.some.inj (made.symm.trans makes)

theorem ofItem?_eq_some {index : Nat} {item : Item} {edge : Edge}
    (made : Edge.ofItem? aliases index item = some edge) :
    item.output? aliases = some edge.output ∧
      ∀ d, d ∈ edge.needs ↔
        ∃ text ∈ item.inputMetrics, Descriptor.ofText? aliases text = some d := by
  rcases Option.map_eq_some_iff.mp made with ⟨output, writes, same⟩
  subst same
  refine ⟨writes, fun d => ?_⟩
  unfold Edge.needs
  rw [List.mem_filterMap]
  constructor
  · rintro ⟨input, member, read⟩
    rcases List.mem_map.mp member with ⟨text, marked, parsed⟩
    exact ⟨text, List.mem_of_mem_filter marked, parsed.trans read⟩
  · rintro ⟨text, member, parsed⟩
    -- only marked texts are kept as inputs, and only these are descriptors
    have marked : Metric.isMarked text = true := by
      unfold Descriptor.ofText? at parsed
      split at parsed
      · next marked => exact marked
      · cases parsed
    exact ⟨some d, List.mem_map.mpr ⟨text, List.mem_filter.mpr ⟨member, marked⟩, parsed⟩, rfl⟩

/-- The edges have the set closed exactly when the triggers do. -/
theorem closedUnder_edges_iff {set : Descriptor -> Prop} :
    ClosedUnder (edges aliases template) set ↔ ∀ item ∈ template, item.kind = .trigger ->
      ∀ output, item.output? aliases = some output -> set output ->
        ∀ text ∈ item.inputMetrics, ∀ d, Descriptor.ofText? aliases text = some d -> set d := by
  constructor
  · intro closed item member trigger output writes inside text listed d parsed
    rcases List.getElem?_of_mem member with ⟨index, stands⟩
    have given : ∃ edge, Edge.ofItem? aliases index item = some edge :=
      ⟨_, Option.map_eq_some_iff.mpr ⟨output, writes, rfl⟩⟩
    rcases given with ⟨edge, made⟩
    have place : edge.index = index := by
      rcases Option.map_eq_some_iff.mp made with ⟨_, _, same⟩
      rw [← same]
    rcases ofItem?_eq_some made with ⟨own, needs⟩
    have same : edge.output = output := Option.some.inj (own.symm.trans writes)
    subst place
    exact closed edge (mem_edges.mpr ⟨item, stands, trigger, made⟩) (same ▸ inside) d
      ((needs d).mpr ⟨text, listed, parsed⟩)
  · intro closed edge member inside d need
    rcases mem_edges.mp member with ⟨item, stands, trigger, made⟩
    rcases ofItem?_eq_some made with ⟨writes, needs⟩
    rcases (needs d).mp need with ⟨text, listed, parsed⟩
    exact closed item (List.mem_of_getElem? stands) trigger edge.output writes inside text listed d
      parsed

/-! ## The kept widgets -/

variable (template sections) in
/-- The ids that the pages of some sections mention. -/
def mentionedIds : List String :=
  distinct ((itemsAt template (positions template .page fun item =>
    item.sectionCode?.any sections.contains)).flatMap Item.mentionedWidgets)

variable (template sections aliases) in
/-- The positions of the widgets that these pages mention. -/
def widgetPositions : List Nat :=
  let selection := select template sections aliases
  selection.charts ++ selection.cards ++ selection.maps

theorem mem_mentionedIds {id : String} :
    id ∈ mentionedIds template sections ↔ ∃ page ∈ template, page.kind = .page ∧
      page.sectionCode?.any sections.contains = true ∧ id ∈ page.mentionedWidgets := by
  unfold mentionedIds
  rw [mem_distinct, List.mem_flatMap]
  simp only [mem_itemsAt_positions, and_assoc]

theorem mentionedIds_nil : mentionedIds template [] = [] := by
  refine List.eq_nil_iff_forall_not_mem.mpr fun id mentioned => ?_
  rcases mem_mentionedIds.mp mentioned with ⟨page, _, _, selected, _⟩
  cases code : page.sectionCode? <;> simp [code] at selected

theorem itemsAt_append (first second : List Nat) :
    itemsAt template (first ++ second) = itemsAt template first ++ itemsAt template second :=
  List.filterMap_append

theorem widgetPositions_eq : widgetPositions aliases template sections =
    positions template .chart (fun item =>
      item.abstractionId?.any (mentionedIds template sections).contains) ++
    positions template .card (fun item =>
      item.abstractionId?.any (mentionedIds template sections).contains) ++
    positions template .map (fun item =>
      item.abstractionId?.any (mentionedIds template sections).contains) := rfl

/-- Which widgets these are, in terms of the items alone. -/
theorem mem_itemsAt_widgetPositions {item : Item} :
    item ∈ itemsAt template (widgetPositions aliases template sections) ↔
      item ∈ template ∧ item.kind.isWidget = true ∧
        item.abstractionId?.any (mentionedIds template sections).contains = true := by
  have kinds : item.kind.isWidget = true ↔
      item.kind = .chart ∨ item.kind = .card ∨ item.kind = .map := by
    cases item.kind <;> decide
  rw [widgetPositions_eq, itemsAt_append, itemsAt_append, List.mem_append, List.mem_append,
    mem_itemsAt_positions, mem_itemsAt_positions, mem_itemsAt_positions, kinds]
  tauto

/-- The positions of kept triggers hold triggers. -/
theorem kind_of_mem_triggers {item : Item}
    (kept : item ∈ itemsAt template (select template sections aliases).triggers) :
    item.kind = .trigger := by
  rcases List.mem_filterMap.mp kept with ⟨index, member, stands⟩
  rcases List.mem_map.mp member with ⟨edge, reached, place⟩
  have among : edge ∈ edges aliases template :=
    List.mem_of_mem_filter (List.mem_of_mem_filter reached)
  rcases mem_edges.mp among with ⟨held, holds, trigger, _⟩
  rw [place] at holds
  exact Option.some.inj (holds.symm.trans stands) ▸ trigger

theorem mem_of_mem_items {slice : Slice} {item : Item} (kept : item ∈ slice.items template) :
    item ∈ template := by
  rcases List.mem_filterMap.mp kept with ⟨index, _, stands⟩
  exact List.mem_of_getElem? stands

/-- What a slice keeps, stage by stage. -/
theorem items_slice (chosen : sections ≠ []) :
    (slice template sections aliases).items template =
      itemsAt template (select template sections aliases).pages ++
        itemsAt template (widgetPositions aliases template sections) ++
        itemsAt template (select template sections aliases).metrics ++
        itemsAt template (select template sections aliases).triggers := by
  have kept : slice template sections aliases =
      Slice.ofSelection (select template sections aliases) :=
    if_neg (fun empty => chosen (List.isEmpty_iff.mp empty))
  rw [kept, ← itemsAt_append, ← itemsAt_append, ← itemsAt_append]
  unfold Slice.items Slice.ofSelection widgetPositions
  simp only [List.append_assoc]

/-- The pages that a slice keeps are those of its sections. -/
theorem mem_items_slice_of_page {item : Item} (page : item.kind = .page) :
    item ∈ (slice template sections aliases).items template ↔
      item ∈ template ∧ item.sectionCode?.any sections.contains = true := by
  cases sections with
  | nil =>
    constructor
    · intro kept
      cases kept
    · rintro ⟨_, selected⟩
      cases code : item.sectionCode? <;> simp [code] at selected
  | cons code rest =>
    have pages : (select template (code :: rest) aliases).pages =
        positions template .page fun item => item.sectionCode?.any (code :: rest).contains := rfl
    rw [items_slice (List.cons_ne_nil code rest), pages]
    simp only [List.mem_append]
    constructor
    · rintro (((own | widget) | metric) | trigger)
      · exact ⟨(mem_itemsAt_positions.mp own).1, (mem_itemsAt_positions.mp own).2.2⟩
      · have shown := (mem_itemsAt_widgetPositions.mp widget).2.1
        rw [page] at shown
        cases shown
      · exact absurd (page.symm.trans (mem_itemsAt_positions.mp metric).2.1) (by decide)
      · exact absurd (page.symm.trans (kind_of_mem_triggers trigger)) (by decide)
    · rintro ⟨member, selected⟩
      exact Or.inl (Or.inl (Or.inl (mem_itemsAt_positions.mpr ⟨member, page, selected⟩)))

/-- The widgets that a slice keeps are those that its pages mention. -/
theorem mem_items_slice_of_widget {item : Item} (widget : item.kind.isWidget = true) :
    item ∈ (slice template sections aliases).items template ↔
      item ∈ itemsAt template (widgetPositions aliases template sections) := by
  cases sections with
  | nil =>
    rw [mem_itemsAt_widgetPositions, mentionedIds_nil]
    constructor
    · intro kept
      cases kept
    · rintro ⟨_, _, named⟩
      cases id : item.abstractionId? <;> simp [id] at named
  | cons code rest =>
    have pages : (select template (code :: rest) aliases).pages =
        positions template .page fun item => item.sectionCode?.any (code :: rest).contains := rfl
    have other : ∀ kind : Kind, kind.isWidget = false -> item.kind ≠ kind := by
      intro kind hidden same
      rw [same, hidden] at widget
      cases widget
    rw [items_slice (List.cons_ne_nil code rest), pages]
    simp only [List.mem_append]
    constructor
    · rintro (((page | widget) | metric) | trigger)
      · exact absurd (mem_itemsAt_positions.mp page).2.1 (other .page rfl)
      · exact widget
      · exact absurd (mem_itemsAt_positions.mp metric).2.1 (other .metric rfl)
      · exact absurd (kind_of_mem_triggers trigger) (other .trigger rfl)
    · exact fun widget => Or.inl (Or.inl (Or.inr widget))

/-! ## The descriptors of a slice -/

theorem seeds_select : (select template sections aliases).seeds =
    distinct ((itemsAt template (widgetPositions aliases template sections)).flatMap fun item =>
      item.value.texts.filterMap (Descriptor.ofText? aliases)) := rfl

theorem mem_seeds {d : Descriptor} :
    d ∈ (select template sections aliases).seeds ↔
      ∃ item ∈ itemsAt template (widgetPositions aliases template sections),
        ∃ text ∈ item.value.texts, Descriptor.ofText? aliases text = some d := by
  rw [seeds_select, mem_distinct, List.mem_flatMap]
  simp only [List.mem_filterMap]

/-- What a set must contain is what the closure must: the seeds, and whatever
the edges ask for. -/
theorem closes_iff {set : Descriptor -> Prop} :
    Closes aliases template ((slice template sections aliases).items template) set ↔
      ClosedUnder (edges aliases template) set ∧
        ∀ d ∈ (select template sections aliases).seeds, set d := by
  constructor
  · intro closes
    refine ⟨closedUnder_edges_iff.mpr closes.inputs, fun d seed => ?_⟩
    rcases mem_seeds.mp seed with ⟨item, kept, text, mentioned, parsed⟩
    have widget := (mem_itemsAt_widgetPositions.mp kept).2.1
    have selected := (mem_items_slice_of_widget widget).mpr kept
    exact closes.mentioned item selected widget text mentioned d parsed
  · rintro ⟨closed, around⟩
    refine ⟨fun item kept widget text mentioned d parsed => ?_, closedUnder_edges_iff.mp closed⟩
    exact around d (mem_seeds.mpr
      ⟨item, (mem_items_slice_of_widget widget).mp kept, text, mentioned, parsed⟩)

/-- The descriptors of a slice, in their order, are those of the closure. -/
theorem descriptors_slice {code : String} {rest : List String} :
    (slice template (code :: rest) aliases).descriptors =
      Descriptor.sorted (closeOver (edges aliases template)
        (select template (code :: rest) aliases).seeds).needed := rfl

theorem nodup_seeds : (select template sections aliases).seeds.Nodup :=
  nodup_distinct _

theorem closes_descriptors :
    Closes aliases template ((slice template sections aliases).items template)
      (· ∈ (slice template sections aliases).descriptors) := by
  cases sections with
  | nil => exact ⟨fun _ kept => absurd kept List.not_mem_nil,
      fun _ _ _ _ _ inside => absurd inside List.not_mem_nil⟩
  | cons code rest =>
    simp only [descriptors_slice, Descriptor.mem_sorted]
    exact closes_iff.mpr ⟨closedUnder_closeOver unambiguous_edges nodup_seeds,
      (faithful_closeOver unambiguous_edges nodup_seeds).seeds⟩

theorem descriptors_least {set : Descriptor -> Prop}
    (closes : Closes aliases template ((slice template sections aliases).items template) set) :
    ∀ d ∈ (slice template sections aliases).descriptors, set d := by
  cases sections with
  | nil => exact fun _ inside => absurd inside List.not_mem_nil
  | cons code rest =>
    rcases closes_iff.mp closes with ⟨closed, around⟩
    simp only [descriptors_slice, Descriptor.mem_sorted]
    exact closeOver_least closed around

/-- The order of a template does not change which sets it closes over. -/
theorem closes_perm {other : List Item} (rearranged : other.Perm template)
    {set : Descriptor -> Prop} :
    Closes aliases other ((slice other sections aliases).items other) set ↔
      Closes aliases template ((slice template sections aliases).items template) set := by
  have ids : ∀ id, id ∈ mentionedIds other sections ↔ id ∈ mentionedIds template sections := by
    intro id
    rw [mem_mentionedIds, mem_mentionedIds]
    simp only [rearranged.mem_iff]
  have named : ∀ item : Item, item.abstractionId?.any (mentionedIds other sections).contains =
      item.abstractionId?.any (mentionedIds template sections).contains := by
    intro item
    cases item.abstractionId? with
    | none => rfl
    | some id => simp [ids]
  have kept : ∀ item : Item, item.kind.isWidget = true ->
      (item ∈ (slice other sections aliases).items other ↔
        item ∈ (slice template sections aliases).items template) := by
    intro item widget
    rw [mem_items_slice_of_widget widget, mem_items_slice_of_widget widget,
      mem_itemsAt_widgetPositions, mem_itemsAt_widgetPositions, named, rearranged.mem_iff]
  constructor
  · intro closes
    exact ⟨fun item member widget => closes.mentioned item ((kept item widget).mpr member) widget,
      fun item member => closes.inputs item (rearranged.mem_iff.mpr member)⟩
  · intro closes
    exact ⟨fun item member widget => closes.mentioned item ((kept item widget).mp member) widget,
      fun item member => closes.inputs item (rearranged.mem_iff.mp member)⟩

theorem descriptors_perm {other : List Item} (rearranged : other.Perm template) :
    (slice other sections aliases).descriptors = (slice template sections aliases).descriptors := by
  have same : ∀ d, d ∈ (slice other sections aliases).descriptors ↔
      d ∈ (slice template sections aliases).descriptors := fun d =>
    ⟨descriptors_least ((closes_perm rearranged).mpr closes_descriptors) d,
      descriptors_least ((closes_perm rearranged).mp closes_descriptors) d⟩
  cases sections with
  | nil => rfl
  | cons code rest =>
    simp only [descriptors_slice, Descriptor.mem_sorted] at same ⊢
    exact Descriptor.sorted_eq_of_mem_iff (faithful_closeOver unambiguous_edges nodup_seeds).needed
      (faithful_closeOver unambiguous_edges nodup_seeds).needed same

variable (template sections aliases) in
/-- The descriptors of a slice are the least set that its kept widgets and the
triggers of the template ask for, each listed once, whatever the order of the
template. -/
theorem slice_descriptors_exact :
    let slice := slice template sections aliases
    Closes aliases template (slice.items template) (· ∈ slice.descriptors) ∧
      (∀ set, Closes aliases template (slice.items template) set ->
        ∀ d ∈ slice.descriptors, set d) ∧
      slice.descriptors.Nodup ∧
      ∀ other : List Item, other.Perm template ->
        (Template.slice other sections aliases).descriptors = slice.descriptors := by
  refine ⟨closes_descriptors, fun set closes => descriptors_least closes, ?_,
    fun other rearranged => descriptors_perm rearranged⟩
  cases sections with
  | nil => exact List.nodup_nil
  | cons code rest =>
    rw [descriptors_slice]
    exact (List.mergeSort_perm _ _).nodup_iff.mpr
      (faithful_closeOver unambiguous_edges nodup_seeds).needed

end Template
end Sensornet
