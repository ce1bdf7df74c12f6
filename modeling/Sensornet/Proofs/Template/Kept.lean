import Mathlib.Data.List.Nodup
import Sensornet.Proofs.Template.Dependencies

namespace Sensornet
namespace Template

/-!
# What a slice keeps

A slice keeps six kinds of items, one kind after the other and each in the
order of the template: the pages of its sections, the charts, cards and maps
that one of these mentions, the metrics whose category and interval some needed
descriptor has, and the triggers that write a needed descriptor.  Of these
triggers only those with a malformed input are left out.  An input that is a
descriptor is never missing, since it is needed as soon as the output is.

No section needs nothing, and the same description says so: the empty selection
is no case of its own.
-/

open Sensornet.Metric (Aliases Descriptor)

variable {aliases : Aliases} {template : List Item} {sections : List String}

/-! ## Positions of wanted items -/

/-- Some positions are those of the wanted items of a template, in its order. -/
structure Locates (template : List Item) (wanted : Item -> Prop) (indices : List Nat) : Prop where
  ordered : indices.Pairwise (· < ·)
  mem : ∀ index, index ∈ indices ↔ ∃ item, template[index]? = some item ∧ wanted item

theorem ordered_positions (kind : Kind) (test : Item -> Bool) :
    (positions template kind test).Pairwise (· < ·) := by
  have numbered : (template.zipIdx.map Prod.snd).Pairwise (· < ·) := by
    rw [List.zipIdx_map_snd]
    exact List.pairwise_lt_range'
  refine List.pairwise_filterMap.mpr ((List.pairwise_map.mp numbered).imp ?_)
  intro first second less i own j ownToo
  rw [Option.ite_none_right_eq_some] at own ownToo
  exact Option.some.inj own.2 ▸ Option.some.inj ownToo.2 ▸ less

theorem locates_positions (kind : Kind) (test : Item -> Bool) :
    Locates template (fun item => item.kind = kind ∧ test item = true)
      (positions template kind test) :=
  ⟨ordered_positions kind test, fun _ => mem_positions⟩

/-- A test matters only for items of the kind. -/
theorem positions_congr {kind : Kind} {test other : Item -> Bool}
    (agree : ∀ item : Item, item.kind = kind -> test item = other item) :
    positions template kind test = positions template kind other := by
  unfold positions
  refine List.filterMap_congr fun place _ => ?_
  by_cases same : place.1.kind = kind
  · simp only [agree place.1 same]
  · simp only [same, false_and, if_false]

/-! ## Triggers -/

namespace Item

/-- Whether an item writes one of some descriptors. -/
def writesOneOf (item : Item) (aliases : Aliases) (needed : List Descriptor) : Bool :=
  (item.output? aliases).any needed.contains

/-- Whether each marked input of an item is a descriptor. -/
def readsDescriptors (item : Item) (aliases : Aliases) : Bool :=
  (item.inputMetrics.filter Metric.isMarked).all fun text =>
    (Descriptor.ofText? aliases text).isSome

variable {item : Item} {needed : List Descriptor}

theorem writesOneOf_iff :
    item.writesOneOf aliases needed = true ↔ ∃ d ∈ needed, item.output? aliases = some d := by
  unfold writesOneOf
  cases item.output? aliases <;> simp

theorem readsDescriptors_iff : item.readsDescriptors aliases = true ↔
    ∀ text ∈ item.inputMetrics, Metric.isMarked text = true ->
      ∃ d, Descriptor.ofText? aliases text = some d := by
  unfold readsDescriptors
  simp only [List.all_eq_true, List.mem_filter, Option.isSome_iff_exists, and_imp]

end Item

/-- A closure reaches the triggers that write what it needs, and no others. -/
theorem reached_closeOver {edges : List Edge} {seeds : List Descriptor}
    (distinct : Unambiguous edges) (unique : seeds.Nodup) {edge : Edge} (member : edge ∈ edges) :
    (closeOver edges seeds).reached.contains edge.index =
      decide (edge.output ∈ (closeOver edges seeds).needed) := by
  rw [Bool.eq_iff_iff, List.contains_iff_mem, decide_eq_true_iff]
  constructor
  · intro reached
    rcases (faithful_closeOver distinct unique).called edge.index reached with
      ⟨other, otherMember, place, called⟩
    exact distinct other otherMember edge member place ▸ called
  · exact settled_closeOver distinct unique edge member

/-- A reached trigger lacks no input but a malformed one. -/
theorem complete_closeOver {edges : List Edge} {seeds : List Descriptor}
    (distinct : Unambiguous edges) (unique : seeds.Nodup) {edge : Edge} (member : edge ∈ edges)
    (called : edge.output ∈ (closeOver edges seeds).needed) :
    (edge.inputs.all fun input => input.any (closeOver edges seeds).needed.contains) =
      edge.inputs.all Option.isSome := by
  rw [Bool.eq_iff_iff, List.all_eq_true, List.all_eq_true]
  refine forall₂_congr fun input among => ?_
  cases input with
  | none => rfl
  | some d =>
    have need : d ∈ edge.needs := List.mem_filterMap.mpr ⟨some d, among, rfl⟩
    have served := closedUnder_closeOver distinct unique edge member called d need
    simpa using served

/-- The positions of the edges that pass a test are those of the triggers that
do. -/
theorem positions_of_edges {pass : Edge -> Bool} {test : Item -> Bool}
    (agree : ∀ edge ∈ edges aliases template, ∀ item,
      Edge.ofItem? aliases edge.index item = some edge -> pass edge = test item)
    (silent : ∀ item : Item, item.output? aliases = none -> test item = false) :
    ((edges aliases template).filter pass).map Edge.index = positions template .trigger test := by
  have among : ∀ place ∈ template.zipIdx, place.1.kind = .trigger -> ∀ edge,
      Edge.ofItem? aliases place.2 place.1 = some edge -> edge ∈ edges aliases template :=
    fun place member trigger edge made =>
      List.mem_filterMap.mpr ⟨place, member, (if_pos trigger).trans made⟩
  unfold edges at agree among ⊢
  unfold positions
  rw [List.filter_filterMap, List.map_filterMap]
  refine List.filterMap_congr fun place member => ?_
  by_cases trigger : place.1.kind = .trigger
  · simp only [trigger, if_true, true_and]
    cases made : Edge.ofItem? aliases place.2 place.1 with
    | none =>
      have unwritten : place.1.output? aliases = none := Option.map_eq_none_iff.mp made
      simp [silent _ unwritten]
    | some edge =>
      have index : edge.index = place.2 := by
        rcases Option.map_eq_some_iff.mp made with ⟨_, _, same⟩
        rw [← same]
      have same := agree edge (among place member trigger edge made) place.1 (index ▸ made)
      by_cases passes : test place.1 = true
      · simp [Option.filter, same, passes, index]
      · simp [Option.filter, same, passes]
  · simp [trigger]

/-! ## The parts of a slice -/

/-- The kinds of items that are kept, in the order in which they are. -/
def keptKinds : List Kind :=
  [.page, .chart, .card, .map, .metric, .trigger]

/-- The positions of a kind in a selection. -/
def Selection.part (selection : Selection) : Kind -> List Nat
  | .page => selection.pages
  | .chart => selection.charts
  | .card => selection.cards
  | .map => selection.maps
  | .metric => selection.metrics
  | .trigger => selection.triggers
  | .other => []

/-- Whether an item is kept, given the ids that pages mention and the needed
descriptors. -/
def isKept (aliases : Aliases) (sections mentioned : List String) (needed : List Descriptor)
    (item : Item) : Bool :=
  match item.kind with
  | .page => item.sectionCode?.any sections.contains
  | .chart | .card | .map => item.abstractionId?.any mentioned.contains
  | .metric => metricNeeded aliases needed item
  | .trigger => item.writesOneOf aliases needed && item.readsDescriptors aliases
  | .other => false

theorem kept_ofSelection (selection : Selection) :
    (Slice.ofSelection selection).kept = keptKinds.flatMap selection.part := by
  simp [Slice.ofSelection, keptKinds, Selection.part]

variable (aliases template sections) in
/-- The closure of a selection. -/
theorem needed_select : (select template sections aliases).needed =
    (closeOver (edges aliases template) (select template sections aliases).seeds).needed := rfl

/-- The edges of a selection that pass a test beside being reached. -/
theorem positions_reached {pass : Edge -> Bool} {test : Item -> Bool}
    (agree : ∀ edge ∈ edges aliases template, ∀ item,
      Edge.ofItem? aliases edge.index item = some edge ->
        edge.output ∈ (select template sections aliases).needed -> pass edge = test item) :
    ((((edges aliases template).filter fun edge => (closeOver (edges aliases template)
      (select template sections aliases).seeds).reached.contains edge.index).filter pass).map
        Edge.index) = positions template .trigger fun item =>
          item.writesOneOf aliases (select template sections aliases).needed && test item := by
  rw [List.filter_filter]
  apply positions_of_edges
  · intro edge member item made
    have output := (ofItem?_eq_some made).1
    rw [reached_closeOver unambiguous_edges nodup_seeds member, ← needed_select]
    by_cases called : edge.output ∈ (select template sections aliases).needed
    · have writes := Item.writesOneOf_iff.mpr ⟨edge.output, called, output⟩
      rw [decide_eq_true called, writes, agree edge member item made called, Bool.and_true,
        Bool.true_and]
    · have silent : item.writesOneOf aliases (select template sections aliases).needed = false := by
        rw [Bool.eq_false_iff]
        intro writes
        rcases Item.writesOneOf_iff.mp writes with ⟨d, need, own⟩
        exact called (Option.some.inj (output.symm.trans own) ▸ need)
      rw [decide_eq_false called, silent, Bool.and_false, Bool.false_and]
  · intro item unwritten
    unfold Item.writesOneOf
    rw [unwritten]
    rfl

theorem all_isSome_inputs {index : Nat} {item : Item} {edge : Edge}
    (made : Edge.ofItem? aliases index item = some edge) :
    edge.inputs.all Option.isSome = item.readsDescriptors aliases := by
  rcases Option.map_eq_some_iff.mp made with ⟨_, _, rfl⟩
  exact List.all_map

/-- The kept triggers write a needed descriptor and read descriptors. -/
theorem triggers_select : (select template sections aliases).triggers =
    positions template .trigger fun item =>
      item.writesOneOf aliases (select template sections aliases).needed &&
        item.readsDescriptors aliases :=
  positions_reached fun _ member _ made called =>
    (complete_closeOver unambiguous_edges nodup_seeds member called).trans (all_isSome_inputs made)

/-- The triggers left out for a malformed input write a needed descriptor as
well. -/
theorem malformed_select : (select template sections aliases).malformed =
    positions template .trigger fun item =>
      item.writesOneOf aliases (select template sections aliases).needed &&
        !item.readsDescriptors aliases :=
  positions_reached fun _ member _ made called => congrArg (!·)
    ((complete_closeOver unambiguous_edges nodup_seeds member called).trans (all_isSome_inputs made))

/-- Every part of a selection holds the items of its kind that are kept. -/
theorem part_select (kind : Kind) : (select template sections aliases).part kind =
    positions template kind (isKept aliases sections (mentionedIds template sections)
      (select template sections aliases).needed) := by
  have own : ∀ {kind : Kind} {test : Item -> Bool}, (∀ item : Item, item.kind = kind ->
      test item = isKept aliases sections (mentionedIds template sections)
        (select template sections aliases).needed item) ->
      positions template kind test = positions template kind (isKept aliases sections
        (mentionedIds template sections) (select template sections aliases).needed) :=
    positions_congr
  cases kind with
  | page => exact own fun item same => by unfold isKept; rw [same]
  | chart => exact own fun item same => by unfold isKept; rw [same]
  | card => exact own fun item same => by unfold isKept; rw [same]
  | map => exact own fun item same => by unfold isKept; rw [same]
  | metric => exact own fun item same => by unfold isKept; rw [same]; rfl
  | trigger => exact triggers_select.trans (own fun item same => by unfold isKept; rw [same])
  | other =>
    refine (List.eq_nil_iff_forall_not_mem.mpr fun index member => ?_).symm
    rcases mem_positions.mp member with ⟨item, _, same, kept⟩
    unfold isKept at kept
    rw [same] at kept
    cases kept

theorem isKept_nil (item : Item) : isKept aliases [] [] [] item = false := by
  unfold isKept metricNeeded Item.writesOneOf
  split
  · cases item.sectionCode? <;> rfl
  · cases item.abstractionId? <;> rfl
  · cases item.abstractionId? <;> rfl
  · cases item.abstractionId? <;> rfl
  · split
    · exact Bool.and_false _
    · rfl
  · cases item.output? aliases <;> rfl
  · rfl

/-- The slice of no sections is that of a selection too, which has nothing. -/
theorem slice_eq_ofSelection : slice template sections aliases =
    Slice.ofSelection (select template sections aliases) := by
  cases sections with
  | cons code rest => rfl
  | nil =>
    have seeds : ∀ d ∈ (select template [] aliases).seeds, False := by
      intro d seed
      rcases mem_seeds.mp seed with ⟨item, kept, _⟩
      have named := (mem_itemsAt_widgetPositions.mp kept).2.2
      rw [mentionedIds_nil] at named
      cases id : item.abstractionId? <;> simp [id] at named
    have needed : (select template [] aliases).needed = [] :=
      List.eq_nil_iff_forall_not_mem.mpr
        (closeOver_least (fun _ _ none' => none'.elim) seeds)
    have parts : ∀ kind, (select template [] aliases).part kind = [] := by
      intro kind
      refine List.eq_nil_iff_forall_not_mem.mpr fun index member => ?_
      rw [part_select, mem_positions, mentionedIds_nil, needed] at member
      rcases member with ⟨item, _, _, kept⟩
      rw [isKept_nil] at kept
      cases kept
    have kept : (Slice.ofSelection (select template [] aliases)).kept = [] := by
      rw [kept_ofSelection, List.flatMap_eq_nil_iff]
      exact fun kind _ => parts kind
    have descriptors : (Slice.ofSelection (select template [] aliases)).descriptors = [] := by
      unfold Slice.ofSelection Descriptor.sorted
      rw [needed, List.mergeSort_nil]
    have empty : ∀ s : Slice, s.kept = [] -> s.descriptors = [] -> Slice.empty = s := by
      rintro ⟨_, _⟩ rfl rfl
      rfl
    exact empty _ kept descriptors

theorem kept_slice : (slice template sections aliases).kept =
    keptKinds.flatMap (select template sections aliases).part := by
  rw [slice_eq_ofSelection, kept_ofSelection]

theorem mem_descriptors {d : Descriptor} : d ∈ (slice template sections aliases).descriptors ↔
    d ∈ (select template sections aliases).needed := by
  rw [slice_eq_ofSelection]
  exact Descriptor.mem_sorted

/-! ## What justifies an item -/

variable (aliases template sections) in
/-- What must hold of an item to be kept. -/
def Justified (item : Item) : Prop :=
  let slice := slice template sections aliases
  match item.kind with
  | .page => ∃ code ∈ sections, item.sectionCode? = some code
  | .chart | .card | .map => ∃ id, item.abstractionId? = some id ∧
      ∃ page ∈ slice.items template, page.kind = .page ∧ id ∈ page.mentionedWidgets
  | .metric => ∃ category interval,
      (item.fieldText? "category" = some category ∧ category ≠ "") ∧
      (item.fieldText? "interval" = some interval ∧ interval ≠ "") ∧
      ∃ d ∈ slice.descriptors,
        d.category = aliases.category category ∧ d.interval = aliases.interval interval
  | .trigger => (∃ d ∈ slice.descriptors, item.output? aliases = some d) ∧
      ∀ text ∈ item.inputMetrics, Metric.isMarked text = true ->
        ∃ d, Descriptor.ofText? aliases text = some d
  | .other => False

theorem any_mentionedIds_iff {item : Item} :
    item.abstractionId?.any (mentionedIds template sections).contains = true ↔
      ∃ id, item.abstractionId? = some id ∧
        ∃ page ∈ (slice template sections aliases).items template,
          page.kind = .page ∧ id ∈ page.mentionedWidgets := by
  rw [Option.any_eq_true]
  refine exists_congr fun id => and_congr_right fun _ => ?_
  rw [List.contains_iff_mem, mem_mentionedIds]
  constructor
  · rintro ⟨page, member, kind, selected, mentions⟩
    exact ⟨page, (mem_items_slice_of_page kind).mpr ⟨member, selected⟩, kind, mentions⟩
  · rintro ⟨page, kept, kind, mentions⟩
    have own := (mem_items_slice_of_page kind).mp kept
    exact ⟨page, own.1, kind, own.2, mentions⟩

theorem metricNeeded_iff {needed : List Descriptor} {item : Item} :
    metricNeeded aliases needed item = true ↔ ∃ category interval,
      (item.fieldText? "category" = some category ∧ category ≠ "") ∧
      (item.fieldText? "interval" = some interval ∧ interval ≠ "") ∧
      ∃ d ∈ needed,
        d.category = aliases.category category ∧ d.interval = aliases.interval interval := by
  unfold metricNeeded
  split
  · next category interval ofCategory ofInterval =>
    simp only [ofCategory, ofInterval, Bool.and_eq_true, Bool.not_eq_true', List.any_eq_true,
      beq_iff_eq, String.isEmpty_eq_false_iff, Option.some.injEq]
    constructor
    · rintro ⟨⟨some', some''⟩, need⟩
      exact ⟨category, interval, ⟨rfl, some'⟩, ⟨rfl, some''⟩, need⟩
    · rintro ⟨_, _, ⟨rfl, some'⟩, ⟨rfl, some''⟩, need⟩
      exact ⟨⟨some', some''⟩, need⟩
  · next silent =>
    constructor
    · intro none'
      cases none'
    · rintro ⟨category, interval, ⟨ofCategory, _⟩, ⟨ofInterval, _⟩, _⟩
      exact (silent category interval ofCategory ofInterval).elim

theorem isKept_iff {item : Item} :
    isKept aliases sections (mentionedIds template sections)
      (select template sections aliases).needed item = true ↔
        Justified aliases template sections item := by
  unfold isKept Justified
  cases item.kind with
  | page =>
    simp only [Option.any_eq_true, List.contains_iff_mem]
    exact exists_congr fun code => and_comm
  | chart | card | map => exact any_mentionedIds_iff
  | metric =>
    simp only [mem_descriptors]
    exact metricNeeded_iff
  | trigger =>
    simp only [mem_descriptors, Bool.and_eq_true]
    exact and_congr Item.writesOneOf_iff Item.readsDescriptors_iff
  | other => exact iff_of_false Bool.false_ne_true id

/-- The positions of a kind that a slice keeps are those of its justified
items. -/
theorem locates_part (kind : Kind) :
    Locates template (fun item => item.kind = kind ∧ Justified aliases template sections item)
      ((select template sections aliases).part kind) := by
  have located : Locates template (fun item => item.kind = kind ∧ isKept aliases sections
      (mentionedIds template sections) (select template sections aliases).needed item = true)
      ((select template sections aliases).part kind) := by
    rw [part_select]
    exact locates_positions kind _
  simpa only [isKept_iff] using located

theorem mem_keptKinds_of_justified {item : Item}
    (justified : Justified aliases template sections item) : item.kind ∈ keptKinds := by
  unfold Justified at justified
  cases kind : item.kind with
  | other =>
    rw [kind] at justified
    exact justified.elim
  | page | chart | card | map | metric | trigger => decide

theorem mem_kept {index : Nat} : index ∈ (slice template sections aliases).kept ↔
    ∃ item, template[index]? = some item ∧ Justified aliases template sections item := by
  rw [kept_slice, List.mem_flatMap]
  constructor
  · rintro ⟨kind, _, member⟩
    rcases ((locates_part kind).mem index).mp member with ⟨item, stands, _, justified⟩
    exact ⟨item, stands, justified⟩
  · rintro ⟨item, stands, justified⟩
    exact ⟨item.kind, mem_keptKinds_of_justified justified,
      ((locates_part item.kind).mem index).mpr ⟨item, stands, rfl, justified⟩⟩

theorem mem_items_slice {item : Item} : item ∈ (slice template sections aliases).items template ↔
    item ∈ template ∧ Justified aliases template sections item := by
  unfold Slice.items itemsAt
  rw [List.mem_filterMap]
  constructor
  · rintro ⟨index, kept, stands⟩
    rcases mem_kept.mp kept with ⟨held, holds, justified⟩
    cases Option.some.inj (holds.symm.trans stands)
    exact ⟨List.mem_of_getElem? stands, justified⟩
  · rintro ⟨member, justified⟩
    rcases List.getElem?_of_mem member with ⟨index, stands⟩
    exact ⟨index, mem_kept.mpr ⟨item, stands, justified⟩, stands⟩

variable (template sections aliases) in
/-- A slice keeps the justified items and no others, each once: one kind after
the other, and those of a kind in the order of the template. -/
theorem kept_slice_exact :
    let slice := slice template sections aliases
    slice.kept.Nodup ∧ ∃ part : Kind -> List Nat,
      slice.kept = part .page ++ part .chart ++ part .card ++ part .map ++ part .metric ++
        part .trigger ∧
      ∀ kind, Locates template
        (fun item => item.kind = kind ∧ Justified aliases template sections item) (part kind) := by
  have apart : keptKinds.Pairwise fun first second =>
      ((select template sections aliases).part first).Disjoint
        ((select template sections aliases).part second) := by
    have distinct : keptKinds.Pairwise (· ≠ ·) := by decide
    refine distinct.imp fun different index member memberToo => ?_
    rcases ((locates_part _).mem index).mp member with ⟨item, stands, own, _⟩
    rcases ((locates_part _).mem index).mp memberToo with ⟨held, holds, ownToo, _⟩
    cases Option.some.inj (stands.symm.trans holds)
    exact different (own.symm.trans ownToo)
  have kept : (slice template sections aliases).kept = keptKinds.flatMap
      (select template sections aliases).part := by
    rw [slice_eq_ofSelection, kept_ofSelection]
  refine ⟨?_, (select template sections aliases).part, ?_, locates_part⟩
  · rw [kept]
    exact List.nodup_flatMap.mpr ⟨fun kind _ => (locates_part kind).ordered.imp Nat.ne_of_lt, apart⟩
  · rw [slice_eq_ofSelection]
    rfl

end Template
end Sensornet
