import Sensornet.Proofs.Template.Kept

namespace Sensornet
namespace Template

/-!
# Sections one by one

Slicing for some sections and for others and putting the results together is
slicing for all of them at once.  What carries this is that a trigger is called
for by a single descriptor: the union of two closed sets is closed, so that
what some sections need together is what they need one by one.

In particular more sections never drop an item, and neither the order of the
sections nor a repeated one matters.
-/

open Sensornet.Metric (Aliases Descriptor)

variable {aliases : Aliases} {template : List Item} {sections more : List String}

/-! ## What two selections need -/

theorem mem_mentionedIds_append {id : String} : id ∈ mentionedIds template (sections ++ more) ↔
    id ∈ mentionedIds template sections ∨ id ∈ mentionedIds template more := by
  have selected : ∀ page : Item, page.sectionCode?.any (sections ++ more).contains = true ↔
      page.sectionCode?.any sections.contains = true ∨
        page.sectionCode?.any more.contains = true := by
    intro page
    cases page.sectionCode? <;> simp
  simp only [mem_mentionedIds, selected, ← exists_or]
  refine exists_congr fun page => ?_
  tauto

/-- A widget is kept for all sections if it is kept for some of them. -/
theorem mem_items_append_of_widget {item : Item} (widget : item.kind.isWidget = true) :
    item ∈ (slice template (sections ++ more) aliases).items template ↔
      item ∈ (slice template sections aliases).items template ∨
        item ∈ (slice template more aliases).items template := by
  simp only [mem_items_slice_of_widget widget, mem_itemsAt_widgetPositions, Option.any_eq_true,
    List.contains_iff_mem, mem_mentionedIds_append, and_or_left, exists_or]

/-- Whoever keeps more widgets needs more descriptors. -/
theorem descriptors_subset
    (kept : ∀ item : Item, item.kind.isWidget = true ->
      item ∈ (slice template sections aliases).items template ->
        item ∈ (slice template more aliases).items template) :
    (slice template sections aliases).descriptors ⊆ (slice template more aliases).descriptors :=
  descriptors_least
    ⟨fun item member widget => closes_descriptors.mentioned item (kept item widget member) widget,
      closes_descriptors.inputs⟩

theorem mem_descriptors_append {d : Descriptor} :
    d ∈ (slice template (sections ++ more) aliases).descriptors ↔
      d ∈ (slice template sections aliases).descriptors ∨
        d ∈ (slice template more aliases).descriptors := by
  have closes : Closes aliases template
      ((slice template (sections ++ more) aliases).items template) fun d =>
        d ∈ (slice template sections aliases).descriptors ∨
          d ∈ (slice template more aliases).descriptors := by
    constructor
    · intro item kept widget text written d parsed
      rcases (mem_items_append_of_widget widget).mp kept with first | second
      · exact Or.inl (closes_descriptors.mentioned item first widget text written d parsed)
      · exact Or.inr (closes_descriptors.mentioned item second widget text written d parsed)
    · -- the one descriptor that calls for the trigger is in one of the two sets
      intro item member trigger output writes called text listed d parsed
      rcases called with first | second
      · exact Or.inl (closes_descriptors.inputs item member trigger output writes first text listed
          d parsed)
      · exact Or.inr (closes_descriptors.inputs item member trigger output writes second text listed
          d parsed)
  constructor
  · exact descriptors_least closes d
  · rintro (first | second)
    · exact descriptors_subset
        (fun item widget kept => (mem_items_append_of_widget widget).mpr (Or.inl kept)) first
    · exact descriptors_subset
        (fun item widget kept => (mem_items_append_of_widget widget).mpr (Or.inr kept)) second

/-! ## What two selections keep -/

theorem justified_append {item : Item} : Justified aliases template (sections ++ more) item ↔
    Justified aliases template sections item ∨ Justified aliases template more item := by
  unfold Justified
  cases item.kind with
  | page => simp only [List.mem_append, or_and_right, exists_or]
  | chart | card | map =>
    simp only [← any_mentionedIds_iff, Option.any_eq_true, List.contains_iff_mem,
      mem_mentionedIds_append, and_or_left, exists_or]
  | metric => simp only [mem_descriptors_append, or_and_right, and_or_left, exists_or]
  | trigger => simp only [mem_descriptors_append, or_and_right, exists_or]
  | other => exact or_self_iff.symm

/-- A selection depends on which sections there are. -/
theorem slice_congr (same : ∀ code, code ∈ more ↔ code ∈ sections) :
    slice template more aliases = slice template sections aliases := by
  have contains : more.contains = sections.contains := by
    funext code
    rw [Bool.eq_iff_iff, List.contains_iff_mem, List.contains_iff_mem]
    exact same code
  rw [slice_eq_ofSelection, slice_eq_ofSelection]
  unfold select
  rw [contains]

variable (template sections more aliases) in
/-- Slicing distributes over sections: what is kept for all of them, and what is
needed, is what some of them keep or need.  More sections keep and need no less,
and the same sections, in another order or repeated, give the same slice. -/
theorem slice_append :
    (∀ index, index ∈ (slice template (sections ++ more) aliases).kept ↔
      index ∈ (slice template sections aliases).kept ∨
        index ∈ (slice template more aliases).kept) ∧
    (∀ d, d ∈ (slice template (sections ++ more) aliases).descriptors ↔
      d ∈ (slice template sections aliases).descriptors ∨
        d ∈ (slice template more aliases).descriptors) ∧
    (sections ⊆ more ->
      (slice template sections aliases).kept ⊆ (slice template more aliases).kept ∧
        (slice template sections aliases).descriptors ⊆
          (slice template more aliases).descriptors) ∧
    ((∀ code, code ∈ more ↔ code ∈ sections) ->
      slice template more aliases = slice template sections aliases) := by
  have kept : ∀ index, index ∈ (slice template (sections ++ more) aliases).kept ↔
      index ∈ (slice template sections aliases).kept ∨
        index ∈ (slice template more aliases).kept := by
    intro index
    simp only [mem_kept, justified_append, and_or_left, exists_or]
  refine ⟨kept, fun d => mem_descriptors_append, fun part => ?_, slice_congr⟩
  have whole : slice template more aliases = slice template (sections ++ more) aliases :=
    slice_congr fun code => by
      rw [List.mem_append]
      exact ⟨Or.inr, fun either => either.elim (fun own => part own) id⟩
  rw [whole]
  exact ⟨fun index first => (kept index).mpr (Or.inl first),
    fun d first => mem_descriptors_append.mpr (Or.inl first)⟩

end Template
end Sensornet
