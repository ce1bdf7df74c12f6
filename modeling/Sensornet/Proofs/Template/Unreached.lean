import Sensornet.Proofs.Template.Kept

namespace Sensornet
namespace Template

/-!
# Items that slicing does not reach

A template may hold items that some sections have no use for.  Such an item is
neither kept nor, if it is a trigger, called for.  With it and without it the
same items are kept in the same order and the same is remarked, though they
stand at other positions and although the item may share its id with one of
them.

The stages are compared one after the other, as each is decided by what the
stages before it gave: the pages, the ids they mention, the widgets, the needed
descriptors, and with these the metrics and triggers.
-/

open Sensornet.Metric (Aliases Descriptor)

/-- Slicing a template for some sections does not reach one of its items. -/
structure Unreached (aliases : Aliases) (sections : List String) (before : List Item)
    (item : Item) (after : List Item) : Prop where
  dropped : before.length ∉ (slice (before ++ item :: after) sections aliases).kept
  uncalled : item.kind = .trigger ->
    ∀ d ∈ (slice (before ++ item :: after) sections aliases).descriptors,
      item.output? aliases ≠ some d

variable {aliases : Aliases} {template : List Item} {sections : List String}

/-! ## Items at positions -/

theorem itemsAt_positions (kind : Kind) (test : Item -> Bool) :
    itemsAt template (positions template kind test) =
      template.filter fun item => decide (item.kind = kind) && test item := by
  unfold itemsAt positions
  conv_rhs => rw [← List.zipIdx_map_fst 0 template, ← List.filterMap_eq_filter, List.filterMap_map]
  rw [List.filterMap_filterMap]
  refine List.filterMap_congr fun place member => ?_
  have stands : template[place.2]? = some place.1 := List.mem_zipIdx_iff_getElem?.mp member
  by_cases passes : place.1.kind = kind ∧ test place.1 = true
  · simp [passes, stands]
  · have rejected : (decide (place.1.kind = kind) && test place.1) = false := by
      rw [Bool.eq_false_iff, Ne, Bool.and_eq_true, decide_eq_true_iff]
      exact passes
    simp only [passes, if_false, Option.bind_none, Function.comp_apply, Option.guard, rejected,
      Bool.false_eq_true]

theorem length_itemsAt {indices : List Nat} (inside : ∀ index ∈ indices, index < template.length) :
    (itemsAt template indices).length = indices.length :=
  List.filterMap_length_eq_length.mpr fun index member => by
    rw [List.getElem?_eq_getElem (inside index member)]
    rfl

theorem length_positions (kind : Kind) (test : Item -> Bool) :
    (positions template kind test).length =
      (itemsAt template (positions template kind test)).length := by
  refine (length_itemsAt fun index member => ?_).symm
  rcases mem_positions.mp member with ⟨item, stands, _⟩
  exact (List.getElem?_eq_some_iff.mp stands).1

theorem items_slice_eq : (slice template sections aliases).items template =
    keptKinds.flatMap fun kind =>
      itemsAt template ((select template sections aliases).part kind) := by
  unfold Slice.items itemsAt
  rw [kept_slice, List.filterMap_flatMap]

/-- Whether anything is kept can be told by the items. -/
theorem isEmpty_slice : (slice template sections aliases).isEmpty =
    ((slice template sections aliases).items template).isEmpty := by
  have inside : ∀ index ∈ (slice template sections aliases).kept, index < template.length := by
    intro index member
    rcases mem_kept.mp member with ⟨item, stands, _⟩
    exact (List.getElem?_eq_some_iff.mp stands).1
  have same : ((slice template sections aliases).items template).length =
      (slice template sections aliases).kept.length := length_itemsAt inside
  unfold Slice.isEmpty
  rw [Bool.eq_iff_iff, List.isEmpty_iff_length_eq_zero, List.isEmpty_iff_length_eq_zero, same]

/-! ## One stage after the other -/

/-- Whether an item is kept depends on which descriptors are needed, not on
their order. -/
theorem isKept_congr {mentioned : List String} {needed others : List Descriptor}
    (same : ∀ d, d ∈ needed ↔ d ∈ others) (item : Item) :
    isKept aliases sections mentioned needed item =
      isKept aliases sections mentioned others item := by
  have writes : item.writesOneOf aliases needed = item.writesOneOf aliases others := by
    rw [Bool.eq_iff_iff, Item.writesOneOf_iff, Item.writesOneOf_iff]
    simp only [same]
  have metric : metricNeeded aliases needed item = metricNeeded aliases others item := by
    rw [Bool.eq_iff_iff, metricNeeded_iff, metricNeeded_iff]
    simp only [same]
  unfold isKept
  rw [writes, metric]

namespace Unreached

variable {before after : List Item} {item : Item}

theorem filter_insert {test : Item -> Bool} (fails : test item = false) :
    (before ++ item :: after).filter test = (before ++ after).filter test := by
  rw [List.filter_append, List.filter_cons_of_neg (by rw [fails]; decide), ← List.filter_append]

theorem itemsAt_insert {kind : Kind} {test : Item -> Bool}
    (fails : item.kind = kind -> test item = false) :
    itemsAt (before ++ item :: after) (positions (before ++ item :: after) kind test) =
      itemsAt (before ++ after) (positions (before ++ after) kind test) := by
  rw [itemsAt_positions, itemsAt_positions]
  refine filter_insert ?_
  by_cases own : item.kind = kind
  · rw [fails own, Bool.and_false]
  · rw [decide_eq_false own, Bool.false_and]

variable (unreached : Unreached aliases sections before item after)
include unreached

/-- The item fails the test of its kind. -/
theorem not_isKept : isKept aliases sections (mentionedIds (before ++ item :: after) sections)
    (select (before ++ item :: after) sections aliases).needed item = false := by
  rw [Bool.eq_false_iff]
  intro kept
  refine unreached.dropped (mem_kept.mpr ⟨item, ?_, isKept_iff.mp kept⟩)
  simp

theorem mentionedIds_insert : mentionedIds (before ++ item :: after) sections =
    mentionedIds (before ++ after) sections := by
  unfold mentionedIds
  rw [itemsAt_insert]
  intro page
  have dropped := unreached.not_isKept
  unfold isKept at dropped
  rw [page] at dropped
  exact dropped

theorem seeds_insert : (select (before ++ item :: after) sections aliases).seeds =
    (select (before ++ after) sections aliases).seeds := by
  have same : ∀ kind : Kind, kind.isWidget = true ->
      itemsAt (before ++ item :: after) (positions (before ++ item :: after) kind fun other =>
          other.abstractionId?.any (mentionedIds (before ++ after) sections).contains) =
        itemsAt (before ++ after) (positions (before ++ after) kind fun other =>
          other.abstractionId?.any (mentionedIds (before ++ after) sections).contains) := by
    intro kind widget
    refine itemsAt_insert fun own => ?_
    have dropped := unreached.not_isKept
    rw [unreached.mentionedIds_insert] at dropped
    unfold isKept at dropped
    cases kind <;> cases widget <;> (rw [own] at dropped; exact dropped)
  have widgets : itemsAt (before ++ item :: after)
      (widgetPositions aliases (before ++ item :: after) sections) =
      itemsAt (before ++ after) (widgetPositions aliases (before ++ after) sections) := by
    rw [widgetPositions_eq, widgetPositions_eq, unreached.mentionedIds_insert]
    simp only [itemsAt_append]
    rw [same .chart rfl, same .card rfl, same .map rfl]
  rw [seeds_select, seeds_select, widgets]

/-- The same descriptors are needed: the item is no trigger that anything needed
calls for. -/
theorem mem_descriptors_insert (d : Descriptor) :
    d ∈ (slice (before ++ item :: after) sections aliases).descriptors ↔
      d ∈ (slice (before ++ after) sections aliases).descriptors := by
  have part : ∀ other ∈ before ++ after, other ∈ before ++ item :: after := by
    intro other member
    rw [List.mem_append] at member
    exact List.mem_append.mpr (member.imp_right (List.mem_cons_of_mem item))
  have fewer : ∀ d ∈ (slice (before ++ after) sections aliases).descriptors,
      d ∈ (slice (before ++ item :: after) sections aliases).descriptors := by
    apply descriptors_least
    rw [closes_iff, ← unreached.seeds_insert]
    exact ⟨closedUnder_edges_iff.mpr fun other member =>
      closes_descriptors.inputs other (part other member), (closes_iff.mp closes_descriptors).2⟩
  refine ⟨fun need => ?_, fewer d⟩
  revert d
  apply descriptors_least
  rw [closes_iff, unreached.seeds_insert]
  refine ⟨closedUnder_edges_iff.mpr ?_, (closes_iff.mp closes_descriptors).2⟩
  intro other member trigger output writes called
  have among : other = item ∨ other ∈ before ++ after := by
    simp only [List.mem_append, List.mem_cons] at member ⊢
    tauto
  rcases among with rfl | old
  · exact absurd writes (unreached.uncalled trigger output (fewer output called))
  · exact closes_descriptors.inputs other old trigger output writes called

theorem mem_needed_insert (d : Descriptor) :
    d ∈ (select (before ++ item :: after) sections aliases).needed ↔
      d ∈ (select (before ++ after) sections aliases).needed := by
  rw [← mem_descriptors, ← mem_descriptors]
  exact unreached.mem_descriptors_insert d

/-! ## What is kept -/

/-- The items of every kind are the same, in the same order. -/
theorem part_insert (kind : Kind) :
    itemsAt (before ++ item :: after)
        ((select (before ++ item :: after) sections aliases).part kind) =
      itemsAt (before ++ after) ((select (before ++ after) sections aliases).part kind) := by
  have same : isKept aliases sections (mentionedIds (before ++ item :: after) sections)
        (select (before ++ item :: after) sections aliases).needed =
      isKept aliases sections (mentionedIds (before ++ after) sections)
        (select (before ++ after) sections aliases).needed := by
    funext other
    rw [unreached.mentionedIds_insert]
    exact isKept_congr unreached.mem_needed_insert other
  have dropped := unreached.not_isKept
  rw [part_select, part_select, same]
  rw [same] at dropped
  exact itemsAt_insert fun _ => dropped

theorem malformed_insert :
    itemsAt (before ++ item :: after) (select (before ++ item :: after) sections aliases).malformed =
      itemsAt (before ++ after) (select (before ++ after) sections aliases).malformed := by
  have writes : ∀ other : Item,
      other.writesOneOf aliases (select (before ++ item :: after) sections aliases).needed =
        other.writesOneOf aliases (select (before ++ after) sections aliases).needed := by
    intro other
    rw [Bool.eq_iff_iff, Item.writesOneOf_iff, Item.writesOneOf_iff]
    simp only [unreached.mem_needed_insert]
  rw [malformed_select, malformed_select]
  simp only [writes]
  refine itemsAt_insert fun trigger => ?_
  rw [Bool.and_eq_false_iff, ← writes, Bool.eq_false_iff]
  refine Or.inl fun called => ?_
  rcases Item.writesOneOf_iff.mp called with ⟨d, need, output⟩
  exact unreached.uncalled trigger d (mem_descriptors.mpr need) output

theorem items_insert :
    (slice (before ++ item :: after) sections aliases).items (before ++ item :: after) =
      (slice (before ++ after) sections aliases).items (before ++ after) := by
  simp only [items_slice_eq, unreached.part_insert]

theorem isEmpty_insert : (slice (before ++ item :: after) sections aliases).isEmpty =
    (slice (before ++ after) sections aliases).isEmpty := by
  rw [isEmpty_slice, isEmpty_slice, unreached.items_insert]

theorem length_part (kind : Kind) :
    ((select (before ++ item :: after) sections aliases).part kind).length =
      ((select (before ++ after) sections aliases).part kind).length := by
  have counted : ∀ template : List Item, ((select template sections aliases).part kind).length =
      (itemsAt template ((select template sections aliases).part kind)).length := by
    intro template
    rw [part_select]
    exact length_positions kind _
  rw [counted, counted, unreached.part_insert]

/-- Slicing remarks the same. -/
theorem sliceNotices_insert : sliceNotices (before ++ item :: after) sections aliases =
    sliceNotices (before ++ after) sections aliases := by
  have pages := unreached.length_part .page
  have charts := unreached.length_part .chart
  have cards := unreached.length_part .card
  have maps := unreached.length_part .map
  have metrics := unreached.length_part .metric
  have triggers := unreached.length_part .trigger
  unfold Selection.part at pages charts cards maps metrics triggers
  dsimp only at pages charts cards maps metrics triggers
  unfold sliceNotices
  dsimp only
  rw [pages, charts, cards, maps, metrics, triggers, unreached.seeds_insert,
    unreached.malformed_insert]

end Unreached

end Template
end Sensornet
