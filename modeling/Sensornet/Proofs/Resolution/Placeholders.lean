import Sensornet.Metric.Descriptor
import Sensornet.Resolution.Placeholder

namespace Sensornet

/-!
# What placeholders leave alone

A placeholder starts with a bracket, and the mark of descriptors has none.  So
a text that is marked stays marked, whatever is filled in behind the mark.  A
text without placeholders stays as it is.
-/

namespace Text

/-- Where the first character of the pattern does not occur, nothing is
replaced. -/
theorem replaceFrom_append {first : Char} {front : List Char} (absent : first ∉ front)
    (more replacement rest : List Char) :
    replaceFrom (first :: more) replacement 0 (front ++ rest) =
      front ++ replaceFrom (first :: more) replacement 0 rest := by
  induction front with
  | nil => rfl
  | cons c front ih =>
    simp only [List.mem_cons, not_or] at absent
    have apart : (first :: more).isPrefixOf (c :: (front ++ rest)) = false := by
      rw [List.isPrefixOf_cons_cons, beq_eq_false_iff_ne.mpr absent.1, Bool.false_and]
    rw [List.cons_append, replaceFrom, apart, if_neg Bool.false_ne_true, ih absent.2,
      List.cons_append]

/-- A text in which the pattern does not occur stays as it is. -/
theorem replaceFrom_of_absent {pattern text : List Char} (absent : ¬ pattern <:+: text)
    (replacement : List Char) : replaceFrom pattern replacement 0 text = text := by
  induction text with
  | nil => rfl
  | cons c rest ih =>
    have apart : pattern.isPrefixOf (c :: rest) = false := by
      rw [Bool.eq_false_iff]
      exact fun front => absent (List.isPrefixOf_iff_prefix.mp front).isInfix
    have later := ih fun inside => absent (inside.trans (List.suffix_cons c rest).isInfix)
    rw [replaceFrom, apart, if_neg Bool.false_ne_true, later]

theorem replace_of_absent {pattern text : String} (absent : ¬ pattern.toList <:+: text.toList)
    (replacement : String) : replace pattern replacement text = text := by
  unfold replace
  rw [replaceFrom_of_absent absent, String.ofList_toList]

end Text

namespace Context

/-- The placeholders. -/
def placeholders : List String :=
  ["[[zone_id]]", "[[zone_label]]", "[[point_id]]", "[[point_label]]"]

theorem exists_bracket {pattern : String} (placeholder : pattern ∈ placeholders) :
    ∃ more, pattern.toList = '[' :: more := by
  unfold placeholders at placeholder
  simp only [List.mem_cons, List.not_mem_nil, or_false] at placeholder
  rcases placeholder with rfl | rfl | rfl | rfl <;> exact ⟨_, rfl⟩

theorem isMarked_replace {text : String} (marked : Metric.isMarked text = true) {pattern : String}
    (placeholder : pattern ∈ placeholders) (replacement : String) :
    Metric.isMarked (Text.replace pattern replacement text) = true := by
  rcases List.isPrefixOf_iff_prefix.mp marked with ⟨rest, whole⟩
  rcases exists_bracket placeholder with ⟨more, starts⟩
  have absent : '[' ∉ Metric.marker := by decide
  unfold Text.replace Metric.isMarked
  rw [String.toList_ofList, ← whole, starts, Text.replaceFrom_append absent]
  exact List.isPrefixOf_iff_prefix.mpr (List.prefix_append _ _)

/-- A marked text stays marked. -/
theorem isMarked_fillPlaceholders (context : Context) {text : String}
    (marked : Metric.isMarked text = true) :
    Metric.isMarked (context.fillPlaceholders text) = true := by
  cases context with
  | zone target =>
    exact isMarked_replace (isMarked_replace marked (by decide) _) (by decide) _
  | point target =>
    exact isMarked_replace (isMarked_replace marked (by decide) _) (by decide) _
  | global => exact marked

/-- A text without placeholders stays as it is. -/
theorem fillPlaceholders_eq_self (context : Context) {text : String}
    (absent : ∀ pattern ∈ placeholders, ¬ pattern.toList <:+: text.toList) :
    context.fillPlaceholders text = text := by
  have kept : ∀ pattern ∈ placeholders, ∀ replacement,
      Text.replace pattern replacement text = text :=
    fun pattern member replacement => Text.replace_of_absent (absent pattern member) replacement
  unfold fillPlaceholders
  cases context with
  | zone target =>
    dsimp only
    rw [kept "[[zone_id]]" (by decide), kept "[[zone_label]]" (by decide)]
  | point target =>
    dsimp only
    rw [kept "[[point_id]]" (by decide), kept "[[point_label]]" (by decide)]
  | global => rfl

/-- Every placeholder starts with two brackets. -/
theorem fillPlaceholders_of_unbracketed (context : Context) {text : String}
    (plain : ¬ "[[".toList <:+: text.toList) : context.fillPlaceholders text = text := by
  have brackets : ∀ pattern ∈ placeholders, "[[".toList <:+: pattern.toList := by decide +kernel
  exact context.fillPlaceholders_eq_self fun pattern placeholder inside =>
    plain ((brackets pattern placeholder).trans inside)

end Context
end Sensornet
