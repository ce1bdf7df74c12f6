import Sensornet.Proofs.Decimal.Numerals
import Sensornet.Proofs.Resolution.References

namespace Sensornet

/-!
# Nothing is left open

`[FILL]` asks for different things under different keys, and a text may become
`[FILL]` only when its placeholders are filled in.  Whatever the key and the
context, none is left over: what it is replaced by is an id, a token, a position or
nothing, and no other way of resolving a text brings the mark in, unless an id that
was looked up is the mark itself.

A centre that was left open, or that its own target could not give, is that of the
network, if any zone has a vertex at all.  So then no object has an empty centre.
-/

open Json (Value Fields)

namespace Json.Value

/-! ## Parts of a value at any depth -/

mutual

/-- The objects in a value, itself included, in document order. -/
def objects : Value -> List Fields
  | .array items => objectsOfItems items
  | .object fields => fields :: objectsOfFields fields
  | _ => []
termination_by structural v => v

def objectsOfItems : List Value -> List Fields
  | [] => []
  | item :: rest => item.objects ++ objectsOfItems rest
termination_by structural v => v

def objectsOfFields : Fields -> List Fields
  | [] => []
  | (_, item) :: rest => item.objects ++ objectsOfFields rest
termination_by structural v => v

end

theorem mem_textsOfItems {text : String} {items : List Value} :
    text ∈ textsOfItems items ↔ ∃ item ∈ items, text ∈ item.texts := by
  induction items with
  | nil => simp [textsOfItems]
  | cons item rest ih => simp [textsOfItems, ih]

theorem mem_textsOfFields {text : String} {fields : Fields} :
    text ∈ textsOfFields fields ↔ ∃ entry ∈ fields, text ∈ entry.2.texts := by
  induction fields with
  | nil => simp [textsOfFields]
  | cons entry rest ih => simp [textsOfFields, ih]

theorem mem_objectsOfItems {object : Fields} {items : List Value} :
    object ∈ objectsOfItems items ↔ ∃ item ∈ items, object ∈ item.objects := by
  induction items with
  | nil => simp [objectsOfItems]
  | cons item rest ih => simp [objectsOfItems, ih]

theorem mem_objectsOfFields {object : Fields} {fields : Fields} :
    object ∈ objectsOfFields fields ↔ ∃ entry ∈ fields, object ∈ entry.2.objects := by
  induction fields with
  | nil => simp [objectsOfFields]
  | cons entry rest ih => simp [objectsOfFields, ih]

end Json.Value

/-! ## What is never the mark -/

theorem Fixture.Key.shown_ne_fillMark {key : Key} (other : key ≠ .text Resolution.fillMark) :
    key.shown ≠ Resolution.fillMark := by
  cases key with
  | text id => exact fun same => other (congrArg Key.text same)
  | integer n =>
    intro same
    have first : (Decimal.integer n).head? = some '[' := by
      rw [← String.toList_ofList (l := Decimal.integer n)]
      exact congrArg (fun text => text.toList.head?) same
    exact absurd (Decimal.isDigit_of_head?_integer first) (by decide)

/-- A token has hyphens. -/
theorem Fixture.Registry.token_ne_fillMark (r : Registry) (seed : String) :
    (r.token seed).1 ≠ Resolution.fillMark := by
  have hyphen : ∀ digits : List Char, hyphenated digits ≠ Resolution.fillMark := by
    intro digits same
    have among : '-' ∈ (hyphenated digits).toList := by simp [hyphenated]
    rw [same] at among
    revert among
    decide
  unfold token
  dsimp only
  split <;> exact hyphen _

namespace Resolution

/-- No id that a resolution may look up is the mark itself: the id of its target, those
of metrics, and bound keys. -/
structure Scene.Unmarked (s : Scene) : Prop where
  target : s.context.targetId ≠ fillMark
  metrics : fillMark ∉ s.network.metrics.map Prod.snd
  bound : ∀ binding ∈ s.bindings.entries, binding.2 ≠ .text fillMark

/-- A value holds the mark nowhere; and no object in it has an empty centre, if the
network has a centre. -/
structure Scene.Filled (s : Scene) (value : Value) : Prop where
  texts : fillMark ∉ value.texts
  centers : s.centerOfNetwork? ≠ none -> ∀ object ∈ value.objects,
    Entries.get? "center" object ≠ some .null

namespace Scene

variable {s : Scene}

namespace Filled

theorem plain {value : Value} (texts : value.texts = []) (objects : value.objects = []) :
    s.Filled value where
  texts := by rw [texts]; exact List.not_mem_nil
  centers := by rw [objects]; exact fun _ _ member => absurd member List.not_mem_nil

theorem text {text : String} (other : text ≠ fillMark) : s.Filled (.text text) where
  texts := fun member => other (List.mem_singleton.mp member).symm
  centers := fun _ _ member => absurd member List.not_mem_nil

theorem array {items : List Value} (each : ∀ item ∈ items, s.Filled item) :
    s.Filled (.array items) where
  texts := fun member => by
    obtain ⟨item, among, own⟩ := Value.mem_textsOfItems.mp member
    exact (each item among).texts own
  centers := fun known object member => by
    obtain ⟨item, among, own⟩ := Value.mem_objectsOfItems.mp member
    exact (each item among).centers known object own

theorem object {fields : Fields} (each : ∀ entry ∈ fields, s.Filled entry.2)
    (center : s.centerOfNetwork? ≠ none -> Entries.get? "center" fields ≠ some .null) :
    s.Filled (.object fields) where
  texts := fun member => by
    obtain ⟨entry, among, own⟩ := Value.mem_textsOfFields.mp member
    exact (each entry among).texts own
  centers := fun known object member => by
    rcases List.mem_cons.mp member with rfl | inner
    · exact center known
    · obtain ⟨entry, among, own⟩ := Value.mem_objectsOfFields.mp inner
      exact (each entry among).centers known object own

/-- Texts that are ids make a filled list. -/
theorem ids {ids : List String} (others : ∀ id ∈ ids, id ≠ fillMark) :
    s.Filled (.array (ids.map .text)) :=
  array fun item member => by
    obtain ⟨id, among, rfl⟩ := List.mem_map.mp member
    exact text (others id among)

theorem position (place : Geometry.Position) : s.Filled place.toJson := by
  have coordinate : ∀ x : Float, s.Filled (Value.float x) := by
    intro x
    unfold Value.float
    split <;> exact plain rfl rfl
  refine array fun item member => ?_
  rcases List.mem_pair.mp member with rfl | rfl <;> exact coordinate _

/-- Flattening brings no text in. -/
theorem flatten {items : List Value} (each : ∀ item ∈ items, s.Filled item) :
    s.Filled (Scene.flatten items) := by
  refine ids fun id member same => ?_
  obtain ⟨item, among, own⟩ := List.mem_flatMap.mp (mem_distinct.mp member)
  refine (each item among).texts ?_
  rw [← same]
  unfold metricTexts at own
  split at own
  · next inner =>
    obtain ⟨leaf, within, read⟩ := List.mem_filterMap.mp own
    have text := (Option.filter_eq_some_iff.mp read).1
    cases leaf with
    | text raw =>
      cases text
      exact Value.mem_textsOfItems.mpr ⟨_, within, List.mem_singleton_self _⟩
    | null | bool | number | array | object => cases text
  · split at own
    · cases own
    · exact own
  · cases own

/-- A centre that was left open is filled in. -/
theorem withNetworkCenter {fields : Fields} (each : ∀ entry ∈ fields, s.Filled entry.2) :
    s.Filled (.object (s.withNetworkCenter fields)) := by
  refine object (fun entry member => ?_) fun known empty => ?_
  · rcases s.withNetworkCenter_cases fields with same | ⟨_, _, _, place, filled⟩
    · exact each entry (same ▸ member)
    · rw [filled] at member
      rcases Entries.mem_insert member with rfl | old
      · exact position place
      · exact each entry old
  · obtain ⟨place, center⟩ := Option.ne_none_iff_exists'.mp known
    by_cases held : Entries.get? "center" fields = some .null
    · rw [s.withNetworkCenter_of_null held center, Entries.get?_insert_self] at empty
      cases empty
    · rcases s.withNetworkCenter_cases fields with same | ⟨_, _, _, other, filled⟩
      · exact held (same ▸ empty)
      · rw [filled, Entries.get?_insert_self] at empty
        cases empty

end Filled

/-! ## Texts -/

section

variable (unmarked : s.Unmarked)
include unmarked

theorem Unmarked.known {id : String} (known : id ∈ s.network.metrics.map Prod.snd) :
    id ≠ fillMark :=
  fun same => unmarked.metrics (same ▸ known)

theorem Unmarked.key {id : String} {context : Context.Name} {key : Fixture.Key}
    (bound : s.bindings.get? id context = some key) : key ≠ .text fillMark :=
  unmarked.bound _ (Entries.mem_of_get? bound)

theorem Unmarked.widgetKeys (references : List Value) (p : Progress) :
    s.Filled ((s.widgetKeys references).run p).1 := by
  rw [run_widgetKeys]
  refine .array fun item member => ?_
  obtain ⟨key, among, rfl⟩ := List.mem_map.mp member
  obtain ⟨id, _, bound⟩ := List.mem_filterMap.mp (mem_distinct.mp among)
  have other := unmarked.key bound
  cases key with
  | text own => exact .text fun same => other (congrArg Fixture.Key.text same)
  | integer n => exact .plain rfl rfl

/-- What the mark is replaced by. -/
theorem Unmarked.fill (rule : Rule) (p : Progress) : s.Filled ((s.fill rule).run p).1 := by
  cases rule with
  | center =>
    have each : ∀ place : Option Geometry.Position,
        s.Filled ((place.map Geometry.Position.toJson).getD .null) := by
      intro place
      cases place with
      | none => exact .plain rfl rfl
      | some place => exact .position place
    exact each _
  | token => exact .text (p.registry.token_ne_fillMark _)
  | plain | metricList | outputMetric | keepDescriptors | widgets => exact .text unmarked.target

theorem Unmarked.resolveDescriptor {text : String} (marked : Metric.isMarked text = true)
    (rule : Rule) (p : Progress) : s.Filled ((s.resolveDescriptor rule text).run p).1 := by
  have own := ne_fillMark_of_isMarked marked
  have known : ∀ id ∈ s.metricsOf text, id ≠ fillMark :=
    fun id member => unmarked.known (known_of_mem_metricsOf member)
  have first : ∀ other, other ≠ fillMark -> (s.metricsOf text).head?.getD other ≠ fillMark := by
    intro other apart
    cases found : (s.metricsOf text).head? with
    | none => exact apart
    | some id => exact known id (List.mem_of_mem_head? found)
  by_cases kept : rule = .keepDescriptors
  · rw [kept]
    exact .text own
  · rw [s.run_resolveDescriptor kept]
    cases rule with
    | metricList => exact .ids known
    | outputMetric => exact .text (first "" (by decide))
    | plain | center | token | keepDescriptors | widgets => exact .text (first text own)

theorem Unmarked.resolveText (rule : Rule) (raw : String) (p : Progress) :
    s.Filled ((s.resolveText rule raw).run p).1 := by
  unfold Scene.resolveText
  split
  · exact unmarked.widgetKeys _ p
  · dsimp only
    split
    · exact unmarked.fill rule p
    · next open' =>
      split
      · next marked => exact unmarked.resolveDescriptor marked rule p
      · cases bound : s.bindings.get? (s.context.fillPlaceholders raw) s.context.name with
        | none => exact .text open'
        | some key =>
          have shown := Fixture.Key.shown_ne_fillMark (unmarked.key bound)
          have each : ∀ id ∈ [key.shown], id ≠ fillMark :=
            fun id member => List.mem_singleton.mp member ▸ shown
          dsimp only
          split
          · exact .ids each
          · exact .text shown

end

/-! ## Whole values -/

mutual

theorem Unmarked.resolveUnder (unmarked : s.Unmarked) (rule : Rule) :
    ∀ (value : Value) (p : Progress), s.Filled ((s.resolveUnder rule value).run p).1
  | .text raw, p => unmarked.resolveText rule raw p
  | .array items, p => by
    have each := unmarked.resolveItems rule items p
    unfold Scene.resolveUnder
    split
    · exact unmarked.widgetKeys items p
    · by_cases listed : rule = .metricList
      · subst listed
        exact .flatten each
      · simp only [if_neg listed]
        exact .array each
  | .number n, p => by
    unfold Scene.resolveUnder
    split
    · exact unmarked.widgetKeys [.number n] p
    · exact .plain rfl rfl
  | .object fields, p => .withNetworkCenter (unmarked.resolveFields fields p)
  | .null, _ => .plain rfl rfl
  | .bool _, _ => .plain rfl rfl

theorem Unmarked.resolveItems (unmarked : s.Unmarked) (rule : Rule) :
    ∀ (items : List Value) (p : Progress),
      ∀ item ∈ ((s.resolveItems rule items).run p).1, s.Filled item
  | [], _ => fun _ member => absurd member List.not_mem_nil
  | item :: rest, p => fun _ member => by
    rcases List.mem_cons.mp member with rfl | later
    · exact unmarked.resolveUnder rule item p
    · exact unmarked.resolveItems rule rest _ _ later

theorem Unmarked.resolveFields (unmarked : s.Unmarked) :
    ∀ (fields : Fields) (p : Progress),
      ∀ entry ∈ ((s.resolveFields fields).run p).1, s.Filled entry.2
  | [], _ => fun _ member => absurd member List.not_mem_nil
  | (key, value) :: rest, p => fun _ member => by
    rcases List.mem_cons.mp member with rfl | later
    · exact unmarked.resolveUnder (Rule.ofKey key s.context) value p
    · exact unmarked.resolveFields rest _ _ later

end

/-- A network has a centre if some zone has a vertex in its outline. -/
theorem centerOfNetwork?_ne_none {zone : Zone} (member : zone ∈ s.network.zones)
    {outline : Geometry.Ring Float} {holes : List (Geometry.Ring Float)}
    (shape : zone.polygon = outline :: holes) (drawn : outline ≠ []) :
    s.centerOfNetwork? ≠ none := by
  have mean : ∀ positions : List Geometry.Position, positions ≠ [] ->
      ∃ place, Geometry.Position.mean? positions = some place :=
    fun positions some' => ⟨_, if_neg (by simpa using some')⟩
  obtain ⟨place, own⟩ := mean outline drawn
  have centroid : Geometry.Polygon.centroid? zone.polygon = some place := by
    rw [shape]
    exact own
  have among : place ∈ (s.network.zones.map Zone.polygon).filterMap Geometry.Polygon.centroid? :=
    List.mem_filterMap.mpr ⟨_, List.mem_map_of_mem member, centroid⟩
  obtain ⟨center, known⟩ := mean _ (List.ne_nil_of_mem among)
  exact fun empty => Option.some_ne_none center (known.symm.trans empty)

/-- Wherever no id is `[FILL]` itself, a resolved value holds `[FILL]` nowhere, also
if it only came up when placeholders were filled in.  And if some zone of the
network has a vertex in its outline, no object at any depth has an empty centre. -/
theorem filled_resolve (s : Scene) (unmarked : s.Unmarked) (value : Value) (p : Progress) :
    let result := ((s.resolve value).run p).1
    fillMark ∉ result.texts ∧
      ∀ zone ∈ s.network.zones, ∀ outline holes, zone.polygon = outline :: holes ->
        outline ≠ [] -> ∀ object ∈ result.objects, Entries.get? "center" object ≠ some .null := by
  have filled := unmarked.resolveUnder .plain value p
  refine ⟨filled.texts, fun zone member outline holes shape drawn => ?_⟩
  exact filled.centers (centerOfNetwork?_ne_none member shape drawn)

/-- A zone without an outline that is labelled with the mark, beside a zone with a vertex. -/
def markedZone : Scene where
  network :=
    { Network.empty with
      zones := [⟨"pl-1", "[FILL]", []⟩, ⟨"pl-2", "South", [[⟨0, 0⟩]]⟩]
      metrics := [(⟨"zone_demand", "QUARTER_HOUR", "pl-1"⟩, "m-1")] }
  bindings := ⟨[(("card", .global), .integer 7)]⟩
  aliases := .builtin
  context := .zone ⟨"pl-1", "[FILL]", []⟩

/-- Texts that ask to be filled in, one of them by its label. -/
def openValue : Value :=
  .object
    [ ("label", .text "[[zone_label]]")
    , ("center", .text "[FILL]")
    , ("metrics", .array [.text "[FILL]", .array [.text "MetricCategory.Zone.zone_demand.qh"]])
    , ("rows", .array [.object [("metric_id", .text "[FILL]"), ("center", .null)]]) ]

/-- The label becomes the id of the zone, and both centres are filled in. -/
theorem filled_resolve_markedZone :
    let result := ((markedZone.resolve openValue).run ⟨.start .deterministic 0, []⟩).1
    markedZone.Unmarked ∧ fillMark ∉ result.texts ∧
      ∀ object ∈ result.objects, Entries.get? "center" object ≠ some .null := by
  intro result
  have unmarked : markedZone.Unmarked := ⟨by decide, by decide, by decide⟩
  have filled := markedZone.filled_resolve unmarked openValue ⟨.start .deterministic 0, []⟩
  have south : Zone.mk "pl-2" "South" [[⟨0, 0⟩]] ∈ markedZone.network.zones :=
    List.mem_cons_of_mem _ List.mem_cons_self
  exact ⟨unmarked, filled.1, filled.2 _ south _ _ rfl (List.cons_ne_nil _ _)⟩

end Scene
end Resolution
end Sensornet
