import Sensornet.Proofs.Resolution.Placeholders
import Sensornet.Proofs.Text.Pieces
import Sensornet.Resolution.Tree
import Sensornet.Template.Item

namespace Sensornet

/-!
# How the target of a descriptor is spelled

A descriptor keeps its target as written.  Whether it means zones, and whether
it means sensors, is asked of the target in lower case, so a descriptor whose
target is written in other letters stands for the same metrics.  What it is not
is equal: two descriptors that stand for the same metrics may differ in the
spelling of their targets.
-/

namespace Text

/-- A character that has no case is not in a text unless it is in the lower case
of the text. -/
theorem not_mem_of_lowerAscii {c : Char} (caseless : c.toLower = c) {text : String}
    (absent : c ∉ (lowerAscii text).toList) : c ∉ text.toList := by
  intro member
  unfold lowerAscii at absent
  rw [String.toList_ofList] at absent
  exact absent (List.mem_map.mpr ⟨c, member, caseless⟩)

end Text

namespace Metric

/-- The words that descriptors have for a kind of target, in lower case. -/
def targetWords : List String := "zone" :: targetsOfPoints

/-- A text may also be written as another one: as it is, or with the target in
other letters when it has the mark of descriptors and its target is a word for a
kind of target. -/
inductive Respells : String -> String -> Prop
  | same (text : String) : Respells text text
  | target {word other : String} (known : Text.lowerAscii word ∈ targetWords)
      (alike : Text.lowerAscii other = Text.lowerAscii word) (rest : String) :
      Respells (String.ofList marker ++ word ++ "." ++ rest)
        (String.ofList marker ++ other ++ "." ++ rest)

/-- A word for a kind of target has no points and no brackets. -/
theorem not_mem_of_known {word : String} (known : Text.lowerAscii word ∈ targetWords) :
    '.' ∉ word.toList ∧ '[' ∉ word.toList := by
  have plain : ∀ target ∈ targetWords, '.' ∉ target.toList ∧ '[' ∉ target.toList := by decide
  exact ⟨Text.not_mem_of_lowerAscii rfl (plain _ known).1,
    Text.not_mem_of_lowerAscii rfl (plain _ known).2⟩

theorem Respells.symm {text other : String} (respells : Respells text other) :
    Respells other text := by
  cases respells with
  | same => exact .same _
  | target known alike rest => exact .target (alike.symm ▸ known) alike.symm rest

theorem isMarked_target (word rest : String) :
    isMarked (String.ofList marker ++ word ++ "." ++ rest) = true := by
  unfold isMarked
  rw [String.append_assoc, String.append_assoc, String.toList_append, String.toList_ofList]
  exact List.isPrefixOf_iff_prefix.mpr (List.prefix_append _ _)

theorem Respells.isMarked {text other : String} (respells : Respells text other) :
    Metric.isMarked other = Metric.isMarked text := by
  cases respells with
  | same => rfl
  | target => rw [isMarked_target, isMarked_target]

/-! ## What is read -/

namespace Descriptor

/-- Two descriptors that differ at most in the letters of their targets. -/
structure Alike (d e : Descriptor) : Prop where
  target : Text.lowerAscii e.target = Text.lowerAscii d.target
  category : e.category = d.category
  interval : e.interval = d.interval

/-- The pieces of a text that has the mark and a target. -/
theorem pieces_target {word : String} (absent : '.' ∉ word.toList) (rest : String) :
    Text.pieces '.' (String.ofList marker ++ word ++ "." ++ rest).toList =
      "MetricCategory".toList :: word.toList :: Text.pieces '.' rest.toList := by
  have mark : marker = "MetricCategory".toList ++ ['.'] := rfl
  have point : ".".toList = ['.'] := rfl
  rw [String.toList_append, String.toList_append, String.toList_append, String.toList_ofList, mark,
    point, List.append_assoc, List.append_assoc, List.append_assoc, List.singleton_append,
    List.singleton_append, Text.pieces_append (by decide), Text.pieces_append absent]

/-- Both texts are descriptors, or neither is. -/
theorem ofText?_respells {text other : String} (respells : Respells text other)
    (aliases : Aliases) :
    Option.Rel Alike (ofText? aliases text) (ofText? aliases other) := by
  cases respells with
  | same =>
    cases ofText? aliases text with
    | none => exact .none
    | some d => exact .some ⟨rfl, rfl, rfl⟩
  | @target word other known alike rest =>
    unfold ofText?
    rw [if_pos (isMarked_target _ _), if_pos (isMarked_target _ _),
      pieces_target (not_mem_of_known known).1,
      pieces_target (not_mem_of_known (alike.symm ▸ known)).1]
    cases Text.pieces '.' rest.toList with
    | nil => exact .none
    | cons category more =>
      cases more with
      | nil => exact .none
      | cons interval _ =>
        refine .some ⟨?_, rfl, rfl⟩
        rw [String.ofList_toList, String.ofList_toList]
        exact alike

variable {d e : Descriptor}

theorem Alike.meansZones (alike : Alike d e) : e.meansZones = d.meansZones := by
  unfold Descriptor.meansZones
  rw [alike.target]

theorem Alike.meansPoints (alike : Alike d e) : e.meansPoints = d.meansPoints := by
  unfold Descriptor.meansPoints
  rw [alike.target, alike.category]

/-- They stand for the same metrics. -/
theorem Alike.metricIds (alike : Alike d e) (n : Network) (context : Context) :
    n.metricIds e context = n.metricIds d context := by
  have inZone : n.metricIdsInZone e = n.metricIdsInZone d := by
    funext zone
    unfold Network.metricIdsInZone Network.ownMetric
    rw [alike.meansZones, alike.meansPoints, alike.category, alike.interval]
  have atPoint : n.metricIdsAtPoint e = n.metricIdsAtPoint d := by
    funext point
    unfold Network.metricIdsAtPoint Network.ownMetric
    rw [alike.meansZones, alike.meansPoints, alike.category, alike.interval]
  cases context with
  | zone target => exact congrFun inZone target
  | point target => exact congrFun atPoint target
  | global =>
    unfold Network.metricIds Network.allMetricIds
    simp only [List.flatMap_cons, List.flatMap_nil, inZone, atPoint]

end Descriptor

/-! ## What placeholders leave of it -/

theorem replace_append {front : String} (absent : '[' ∉ front.toList) {pattern : String}
    (placeholder : pattern ∈ Context.placeholders) (replacement rest : String) :
    Text.replace pattern replacement (front ++ rest) =
      front ++ Text.replace pattern replacement rest := by
  rcases Context.exists_bracket placeholder with ⟨more, starts⟩
  unfold Text.replace
  rw [String.toList_append, starts, Text.replaceFrom_append absent, String.ofList_append,
    String.ofList_toList]

/-- What stands before the first bracket stays. -/
theorem fillPlaceholders_append (context : Context) {front : String} (absent : '[' ∉ front.toList)
    (rest : String) :
    context.fillPlaceholders (front ++ rest) = front ++ context.fillPlaceholders rest := by
  cases context with
  | zone target =>
    have ids := replace_append absent (by decide : "[[zone_id]]" ∈ Context.placeholders)
      target.id rest
    exact (congrArg _ ids).trans (replace_append absent (by decide) target.label _)
  | point target =>
    have ids := replace_append absent (by decide : "[[point_id]]" ∈ Context.placeholders)
      target.id rest
    exact (congrArg _ ids).trans (replace_append absent (by decide) target.label _)
  | global => rfl

theorem Respells.fillPlaceholders {text other : String} (respells : Respells text other)
    (context : Context) :
    Respells (context.fillPlaceholders text) (context.fillPlaceholders other) := by
  cases respells with
  | same => exact .same _
  | @target word other known alike rest =>
    have front : ∀ word : String, '[' ∉ word.toList ->
        '[' ∉ (String.ofList marker ++ word ++ ".").toList := by
      intro word absent
      have mark : '[' ∉ marker := by decide
      have point : '[' ∉ ".".toList := by decide
      simp only [String.toList_append, String.toList_ofList, List.mem_append, mark, absent, point,
        or_self, not_false_eq_true]
    rw [fillPlaceholders_append context (front word (not_mem_of_known known).2),
      fillPlaceholders_append context (front other (not_mem_of_known (alike.symm ▸ known)).2)]
    exact .target known alike _

/-- A descriptor stands for the same metrics in every network and every context,
however its target is spelled. -/
theorem Respells.metricsOf {text other : String} (respells : Respells text other)
    (s : Resolution.Scene) :
    s.metricsOf (s.context.fillPlaceholders other) =
      s.metricsOf (s.context.fillPlaceholders text) := by
  have read := Descriptor.ofText?_respells (respells.fillPlaceholders s.context) s.aliases
  unfold Resolution.Scene.metricsOf
  generalize Descriptor.ofText? s.aliases (s.context.fillPlaceholders text) = given at read ⊢
  generalize Descriptor.ofText? s.aliases (s.context.fillPlaceholders other) = respelled at read ⊢
  cases read with
  | none => rfl
  | some alike => exact alike.metricIds s.network s.context

/-! ## What it leaves alone -/

/-- No model has the mark of descriptors. -/
theorem ofModel_of_marked {name : String} (marked : isMarked name = true) :
    Template.Kind.ofModel name = .other := by
  have other : ∀ model ∈ ["metrictrigger", Fixture.Model.page, Fixture.Model.chart,
      Fixture.Model.card, Fixture.Model.map, Fixture.Model.metric, Fixture.Model.trigger],
      name ≠ model := by
    have unmarked : ∀ model ∈ ["metrictrigger", Fixture.Model.page, Fixture.Model.chart,
        Fixture.Model.card, Fixture.Model.map, Fixture.Model.metric, Fixture.Model.trigger],
        isMarked model = false := by decide
    rintro model member rfl
    rw [unmarked _ member] at marked
    cases marked
  simp only [List.forall_mem_cons] at other
  unfold Template.Kind.ofModel
  simp only [other, if_false, or_self]

theorem Respells.ofModel {name other : String} (respells : Respells name other) :
    Template.Kind.ofModel other = Template.Kind.ofModel name := by
  cases respells with
  | same => rfl
  | target =>
    rw [ofModel_of_marked (isMarked_target _ _), ofModel_of_marked (isMarked_target _ _)]

end Metric
end Sensornet
