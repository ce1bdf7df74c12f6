import Sensornet.Metric.Descriptor
import Sensornet.Proofs.Text.Pieces

namespace Sensornet
namespace Metric

/-!
# The form of descriptors

A text is a descriptor when three words without points stand behind the mark,
with points between them.  Words may be empty, and what follows the third one
is nothing, or a point and any rest.  `HasWords` says this of a text, and a
text is read exactly when it has words.

The canonical text of a descriptor has the words of the descriptor, as far as
these have no points.  A synonym could bring points in, or stand for a word that
is a synonym itself; `Aliases.Settled` excludes both, and then a descriptor
that was read is read again from its canonical text.
-/

/-- A text has three words without points behind the mark of descriptors. -/
structure HasWords (text target category interval : String) : Prop where
  plain : ∀ word ∈ [target, category, interval], '.' ∉ word.toList
  form : ∃ tail : String,
    text = "MetricCategory." ++ target ++ "." ++ category ++ "." ++ interval ++ tail ∧
      (tail = "" ∨ ∃ rest : String, tail = "." ++ rest)

namespace Aliases

/-- Every word that a synonym stands for has no points and stands for itself. -/
structure Settled (aliases : Aliases) : Prop where
  categories : ∀ synonym word, Entries.get? synonym aliases.categories = some word ->
    '.' ∉ word.toList ∧ aliases.category word = word
  intervals : ∀ synonym word, Entries.get? synonym aliases.intervals = some word ->
    '.' ∉ word.toList ∧ aliases.interval word = word

theorem settled_builtin : Settled builtin := by
  constructor
  · intro synonym word found
    have plain : ∀ entry ∈ builtin.categories,
        '.' ∉ entry.2.toList ∧ builtin.category entry.2 = entry.2 := by decide
    exact plain _ (Entries.mem_of_get? found)
  · intro synonym word found
    have plain : ∀ entry ∈ builtin.intervals,
        '.' ∉ entry.2.toList ∧ builtin.interval entry.2 = entry.2 := by decide
    exact plain _ (Entries.mem_of_get? found)

/-- A canonical word without points stands for itself. -/
theorem canonical_again {table : List (String × String)}
    (settled : ∀ synonym word, Entries.get? synonym table = some word ->
      '.' ∉ word.toList ∧ (Entries.get? word table).getD word = word)
    {given : String} (plain : '.' ∉ given.toList) :
    '.' ∉ ((Entries.get? given table).getD given).toList ∧
      (Entries.get? ((Entries.get? given table).getD given) table).getD
        ((Entries.get? given table).getD given) = (Entries.get? given table).getD given := by
  cases found : Entries.get? given table with
  | none =>
    rw [Option.getD_none, found]
    exact ⟨plain, rfl⟩
  | some word => exact settled given word found

end Aliases

theorem isMarked_iff {text : String} :
    isMarked text = true ↔ ∃ rest : String, text = String.ofList marker ++ rest := by
  unfold isMarked
  rw [List.isPrefixOf_iff_prefix]
  constructor
  · rintro ⟨rest, whole⟩
    refine ⟨String.ofList rest, ?_⟩
    rw [← String.ofList_append, whole, String.ofList_toList]
  · rintro ⟨rest, rfl⟩
    rw [String.toList_append, String.toList_ofList]
    exact List.prefix_append _ _

theorem HasWords.exists_behind {text target category interval : String}
    (words : HasWords text target category interval) :
    ∃ rest : String, text = String.ofList marker ++ rest := by
  rcases words.form with ⟨tail, form, -⟩
  refine ⟨target ++ "." ++ category ++ "." ++ interval ++ tail, ?_⟩
  have mark : String.ofList marker = "MetricCategory." := String.ofList_toList
  simp only [form, mark, String.append_assoc]

namespace Descriptor

variable {target category interval : String}

/-- Only what is behind the mark is cut into words. -/
theorem ofText?_marker (aliases : Aliases) (rest : String) :
    ofText? aliases (String.ofList marker ++ rest) =
      match Text.pieces '.' rest.toList with
      | target :: category :: interval :: _ =>
        some ⟨String.ofList target, aliases.category (String.ofList category),
          aliases.interval (String.ofList interval)⟩
      | _ => none := by
  have mark : marker = "MetricCategory".toList ++ ['.'] := rfl
  have first : Text.pieces '.' (String.ofList marker ++ rest).toList =
      "MetricCategory".toList :: Text.pieces '.' rest.toList := by
    rw [String.toList_append, String.toList_ofList, mark, List.append_assoc,
      List.singleton_append, Text.pieces_append (by decide)]
  unfold ofText?
  rw [if_pos (isMarked_iff.mpr ⟨rest, rfl⟩), first]
  rcases Text.pieces '.' rest.toList with _ | ⟨_, _ | ⟨_, _ | ⟨_, _⟩⟩⟩ <;> rfl

theorem form_iff {rest tail : String} :
    String.ofList marker ++ rest =
        "MetricCategory." ++ target ++ "." ++ category ++ "." ++ interval ++ tail ↔
      rest.toList = target.toList ++ '.' :: (category.toList ++ '.' ::
        (interval.toList ++ tail.toList)) := by
  have mark : String.ofList marker = "MetricCategory." := String.ofList_toList
  have point : ".".toList = ['.'] := rfl
  rw [mark, ← String.toList_inj]
  simp only [String.toList_append, point, List.append_assoc, List.cons_append, List.nil_append,
    List.append_cancel_left_eq]

/-- The words of a text are the first three pieces behind the mark. -/
theorem hasWords_iff {rest : String} :
    HasWords (String.ofList marker ++ rest) target category interval ↔
      ∃ others, Text.pieces '.' rest.toList =
        target.toList :: category.toList :: interval.toList :: others := by
  constructor
  · rintro ⟨plain, tail, form, ends⟩
    simp only [List.forall_mem_cons] at plain
    rw [form_iff.mp form, Text.pieces_append plain.1, Text.pieces_append plain.2.1]
    rcases ends with rfl | ⟨more, rfl⟩
    · refine ⟨[], ?_⟩
      rw [String.toList_empty, List.append_nil, Text.pieces_of_not_mem plain.2.2.1]
    · refine ⟨Text.pieces '.' more.toList, ?_⟩
      have point : ".".toList = ['.'] := rfl
      rw [String.toList_append, point, List.singleton_append, Text.pieces_append plain.2.2.1]
  · rintro ⟨others, cut⟩
    rcases Text.pieces_eq_cons_iff.mp cut with ⟨noFirst, ⟨-, none⟩ | ⟨behind, whole, cut⟩⟩
    · cases none
    rcases Text.pieces_eq_cons_iff.mp cut.symm with ⟨noSecond, ⟨-, none⟩ | ⟨last, middle, cut⟩⟩
    · cases none
    rcases Text.pieces_eq_cons_iff.mp cut.symm with ⟨noThird, ends⟩
    refine ⟨by simp [noFirst, noSecond, noThird], ?_⟩
    rcases ends with ⟨whole', -⟩ | ⟨more, whole', -⟩
    · refine ⟨"", form_iff.mpr ?_, Or.inl rfl⟩
      rw [whole, middle, whole', String.toList_empty, List.append_nil]
    · refine ⟨"." ++ String.ofList more, form_iff.mpr ?_, Or.inr ⟨_, rfl⟩⟩
      have point : ".".toList = ['.'] := rfl
      simp only [whole, middle, whole', String.toList_append, String.toList_ofList, point,
        List.singleton_append]

/-- What has words is read word by word, and nothing else is read. -/
theorem ofText?_eq_some_iff {aliases : Aliases} {text : String} {d : Descriptor} :
    ofText? aliases text = some d ↔ ∃ target category interval,
      HasWords text target category interval ∧
        d = ⟨target, aliases.category category, aliases.interval interval⟩ := by
  constructor
  · intro read
    cases marked : isMarked text with
    | false =>
      rw [ofText?, marked, if_neg Bool.false_ne_true] at read
      cases read
    | true =>
      rcases isMarked_iff.mp marked with ⟨rest, rfl⟩
      rw [ofText?_marker] at read
      split at read
      · next target category interval others cut =>
        refine ⟨String.ofList target, String.ofList category, String.ofList interval,
          hasWords_iff.mpr ⟨others, ?_⟩, (Option.some.inj read).symm⟩
        simpa only [String.toList_ofList] using cut
      · cases read
  · rintro ⟨target, category, interval, words, rfl⟩
    rcases words.exists_behind with ⟨rest, rfl⟩
    rcases hasWords_iff.mp words with ⟨others, cut⟩
    rw [ofText?_marker, cut]
    simp only [String.ofList_toList]

/-- The canonical text has the words of the descriptor. -/
theorem hasWords_text {d : Descriptor}
    (plain : ∀ word ∈ [d.target, d.category, d.interval], '.' ∉ word.toList) :
    HasWords d.text d.target d.category d.interval := by
  have mark : String.ofList marker = "MetricCategory." := String.ofList_toList
  refine ⟨plain, "", ?_, Or.inl rfl⟩
  unfold text
  rw [mark, String.append_empty]

/-- A descriptor whose words have no points is read word by word. -/
theorem ofText?_text (aliases : Aliases) {d : Descriptor}
    (target : '.' ∉ d.target.toList) (category : '.' ∉ d.category.toList)
    (interval : '.' ∉ d.interval.toList) :
    ofText? aliases d.text =
      some ⟨d.target, aliases.category d.category, aliases.interval d.interval⟩ := by
  have plain : ∀ word ∈ [d.target, d.category, d.interval], '.' ∉ word.toList := by
    simp [target, category, interval]
  exact ofText?_eq_some_iff.mpr ⟨_, _, _, hasWords_text plain, rfl⟩

example : ofText? .builtin "MetricCategory.Zone.zone_demand.qh" =
    some ⟨"Zone", "zone_demand", "QUARTER_HOUR"⟩ := by
  decide

/-- What was read under settled synonyms is read again from its canonical
text. -/
theorem ofText?_text_of_settled {aliases : Aliases} (settled : aliases.Settled) {text : String}
    {d : Descriptor} (read : ofText? aliases text = some d) : ofText? aliases d.text = some d := by
  rcases ofText?_eq_some_iff.mp read with ⟨target, category, interval, words, rfl⟩
  have plain := words.plain
  simp only [List.forall_mem_cons] at plain
  have categoryAgain := Aliases.canonical_again settled.categories plain.2.1
  have intervalAgain := Aliases.canonical_again settled.intervals plain.2.2.1
  rw [ofText?_text aliases plain.1 categoryAgain.1 intervalAgain.1]
  exact congrArg₂ (fun category interval => some (⟨target, category, interval⟩ : Descriptor))
    categoryAgain.2 intervalAgain.2

/-! ## Reading exactly -/

/-- A text is read as a descriptor exactly when it has three words behind the
mark, and the descriptor has the first as it is and the canonical words of the
others.  Where no synonym stands for points or for another synonym, as among
the synonyms that are built in, the canonical text is read as the same
descriptor. -/
theorem ofText?_exact :
    (∀ (aliases : Aliases) (text : String) (d : Descriptor),
      ofText? aliases text = some d ↔ ∃ target category interval,
        HasWords text target category interval ∧
          d = ⟨target, aliases.category category, aliases.interval interval⟩) ∧
      (∀ aliases : Aliases, aliases.Settled -> ∀ (text : String) (d : Descriptor),
        ofText? aliases text = some d -> ofText? aliases d.text = some d) ∧
      Aliases.builtin.Settled :=
  ⟨fun _ _ _ => ofText?_eq_some_iff,
    fun _ settled _ _ read => ofText?_text_of_settled settled read,
    Aliases.settled_builtin⟩

/-- Two empty words, a category that is the synonym of a word, and a rest with
points of its own. -/
theorem ofText?_exact_surplus :
    Aliases.builtin.Settled ∧
      ofText? .builtin "MetricCategory..azp..qh.daily" =
        some ⟨"", "average_zone_pressure", ""⟩ ∧
      HasWords "MetricCategory..azp..qh.daily" "" "azp" "" ∧
      ofText? .builtin "MetricCategory..average_zone_pressure." =
        some ⟨"", "average_zone_pressure", ""⟩ := by
  have read : ofText? .builtin "MetricCategory..azp..qh.daily" =
      some ⟨"", "average_zone_pressure", ""⟩ := by decide
  have words : HasWords "MetricCategory..azp..qh.daily" "" "azp" "" :=
    ⟨by decide, ".qh.daily", by decide, Or.inr ⟨"qh.daily", by decide⟩⟩
  have written : (⟨"", "average_zone_pressure", ""⟩ : Descriptor).text =
      "MetricCategory..average_zone_pressure." := by decide
  have again := ofText?_exact.2.1 _ Aliases.settled_builtin _ _ read
  rw [written] at again
  exact ⟨Aliases.settled_builtin, (ofText?_exact.1 _ _ _).mpr ⟨_, _, _, words, by decide⟩, words,
    again⟩

end Descriptor

end Metric
end Sensornet
