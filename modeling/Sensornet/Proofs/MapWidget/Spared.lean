import Mathlib
import Sensornet.Proofs.MapWidget.Bound

namespace Sensornet
namespace MapWidget

/-!
# What the repair of a map leaves alone

`Spared` relates a value to what may become of it.  Objects keep their keys in
order, lists outside keys of zone ids keep their length, and of the texts and
numbers only placeholders and unknown ids are replaced.  A list under a key of
zone ids is repaired item by item; then it loses the blank items and the
repeats, or becomes all zones if nothing is left.

Repeats are found by the equality of values, while a number names a zone by
its text.  The two differ at the zeros of the floats, which are equal and have
different texts.  So of two zones whose ids are the texts of the zeros a list
can lose one.
-/

open Json (Value Fields)

/-! ## Cleaning a list -/

theorem prefix_keep (kept : List Value) (item : Value) : kept <+: keep kept item := by
  unfold keep
  split
  · exact List.prefix_rfl
  · exact List.prefix_append kept [item]

theorem prefix_foldl_keep (kept items : List Value) : kept <+: items.foldl keep kept := by
  induction items generalizing kept with
  | nil => exact List.prefix_rfl
  | cons item rest ih => exact (prefix_keep kept item).trans (ih _)

theorem foldl_keep_sublist (kept items : List Value) :
    List.Sublist (items.foldl keep kept) (kept ++ items) := by
  induction items generalizing kept with
  | nil => exact (List.append_nil kept).symm ▸ List.Sublist.refl kept
  | cons item rest ih =>
    refine (ih (keep kept item)).trans ?_
    rw [List.append_cons]
    refine List.Sublist.append_right ?_ rest
    unfold keep
    split
    · exact List.sublist_append_left kept [item]
    · exact List.Sublist.refl _

/-- An item that is not blank is kept, or one was kept that is the same. -/
theorem exists_kept_of_mem {kept items : List Value} {item : Value} (member : item ∈ items)
    (filled : isBlankItem item = false) :
    ∃ other ∈ items.foldl keep kept, other = item ∨ other.same item = true := by
  induction items generalizing kept with
  | nil => cases member
  | cons first rest ih =>
    rcases List.mem_cons.mp member with rfl | later
    · have now : ∃ other ∈ keep kept item, other = item ∨ other.same item = true := by
        unfold keep
        split
        · next dropped =>
          rw [filled, Bool.false_or, List.any_eq_true] at dropped
          obtain ⟨seen, among, same⟩ := dropped
          exact ⟨seen, among, Or.inr same⟩
        · exact ⟨item, List.mem_append_right kept (List.mem_singleton_self item), Or.inl rfl⟩
      obtain ⟨other, among, same⟩ := now
      exact ⟨other, (prefix_foldl_keep _ rest).subset among, same⟩
    · exact ih later

/-- What a list under a key of zone ids may lose: blank items and repeats.
Where all items are blank, all zones take their place. -/
structure Distilled (ids : List String) (items left : List Value) : Prop where
  order : List.Sublist left items ∨
    (∀ item ∈ items, isBlankItem item = true) ∧ left = ids.map .text
  repeats : ∀ item ∈ items, isBlankItem item = false ->
    ∃ other ∈ left, other = item ∨ other.same item = true

theorem distilled_listed (z : Zones) (items : List Value) :
    Distilled z.all items (z.listed items) := by
  have kept : ∀ item ∈ items, isBlankItem item = false ->
      ∃ other ∈ cleaned items, other = item ∨ other.same item = true := by
    intro item member filled
    rw [cleaned_eq_foldl]
    exact exists_kept_of_mem member filled
  unfold Zones.listed
  split
  · next empty =>
    have blank : ∀ item ∈ items, isBlankItem item = true := by
      intro item member
      by_contra filled
      obtain ⟨other, among, -⟩ := kept item member (Bool.eq_false_iff.mpr filled)
      rw [List.isEmpty_iff.mp empty] at among
      cases among
    refine ⟨Or.inr ⟨blank, rfl⟩, fun item member filled => ?_⟩
    rw [blank item member] at filled
    cases filled
  · refine ⟨Or.inl ?_, kept⟩
    rw [cleaned_eq_foldl]
    exact foldl_keep_sublist [] items

/-! ## Known ids -/

/-- A list holds an item, or the item is a zero of the floats and the list
holds the other one. -/
def Retains (items : List Value) (item : Value) : Prop :=
  item ∈ items ∨
    item = .number (.float 0) ∧ .number (.float (-0)) ∈ items ∨
    item = .number (.float (-0)) ∧ .number (.float 0) ∈ items

/-- The texts and numbers that are the same as one are that one, but for the
zeros. -/
theorem retains_of_same {id : String} {items : List Value} {item other : Value}
    (names : Names id item) (member : other ∈ items) (same : other.same item = true) :
    Retains items item := by
  cases item with
  | null | bool | array | object => cases names
  | text s =>
    cases other with
    | null | bool | number | array | object => cases same
    | text t =>
      rw [Value.same, beq_iff_eq] at same
      exact Or.inl (same ▸ member)
  | number n =>
    cases other with
    | null | bool | text | array | object => cases same
    | number m =>
      rw [Value.same] at same
      cases n with
      | integer i =>
        cases m with
        | float => cases same
        | integer j =>
          rw [Json.Number.same, beq_iff_eq] at same
          exact Or.inl (same ▸ member)
      | float x =>
        cases m with
        | integer => cases same
        | float y =>
          rw [Json.Number.same, Float.beq_iff_ne_nan_and_eq] at same
          rcases same.2.2 with rfl | ⟨rfl, rfl⟩ | ⟨rfl, rfl⟩
          · exact Or.inl member
          · exact Or.inr (Or.inr ⟨rfl, member⟩)
          · exact Or.inr (Or.inl ⟨rfl, member⟩)

section Known

variable {z : Zones} {id : String} {item : Value}

/-- Known ids are kept. -/
theorem repairValue_of_names (sound : z.Sound) (known : id ∈ z.all) (names : Names id item) :
    repairValue z true item = item := by
  cases item with
  | null | bool | array | object => cases names
  | text s =>
    cases names
    exact (Settled.of_id sound known).repairValue_eq
  | number n =>
    cases names
    exact (Settled.number fun _ => Zones.knows_iff.mpr known).repairValue_eq

theorem filled_of_names (sound : z.Sound) (known : id ∈ z.all) (names : Names id item) :
    isBlankItem item = false := by
  cases item with
  | null | bool | array | object => cases names
  | text s =>
    cases names
    exact Bool.eq_false_iff.mpr fun empty => sound.filled id known (String.isEmpty_iff.mp empty)
  | number n => rfl

theorem binds_of_names (sound : z.Sound) (known : id ∈ z.all) (names : Names id item) :
    binds z true item = true := by
  cases item with
  | null | bool | array | object => cases names
  | text s =>
    cases names
    rw [binds_text z true (sound.plain id known), Zones.knows_iff.mpr known]
    rfl
  | number n =>
    cases names
    rw [binds_number, Zones.knows_iff.mpr known]
    rfl

/-- A place that names a zone binds the value it is in. -/
theorem binds_of_place {zoneKey placeKey : Bool} {v place : Value}
    (occurs : Occurs zoneKey v placeKey place) (bound : binds z placeKey place = true) :
    binds z zoneKey v = true := by
  induction occurs with
  | here => exact bound
  | item member _ ih =>
    rw [binds_array]
    exact List.any_eq_true.mpr ⟨_, member, ih bound⟩
  | member member _ ih =>
    rw [binds_object]
    exact isBound_iff.mpr ⟨_, member, ih bound⟩
  | stored stored _ ih =>
    rw [binds_stored z _ stored]
    exact ih bound

end Known

/-! ## What becomes of a value -/

/-- What may become of a value; the flag says whether the nearest key above
it holds zone ids. -/
inductive Spared (ids : List String) : Bool -> Value -> Value -> Prop where
  | same {zoneKey : Bool} (v : Value) : Spared ids zoneKey v v
  /-- A placeholder becomes an id. -/
  | placeholder {s id : String} (stands : standsForZone s = true) (known : id ∈ ids) :
    Spared ids false (.text s) (.text id)
  /-- So does under a key of zone ids a text that is none. -/
  | unknown {s id : String} (plain : blob? s = none) (foreign : s ∉ ids) (known : id ∈ ids) :
    Spared ids true (.text s) (.text id)
  /-- And so does a number there. -/
  | unnumbered {n : Json.Number} {id : String} (foreign : n.text ∉ ids) (known : id ∈ ids) :
    Spared ids true (.number n) (.text id)
  /-- The value of a stored text is repaired and written again. -/
  | stored {zoneKey : Bool} {s : String} {before after : Value} (stored : blob? s = some before)
    (inside : Spared ids zoneKey before after)
    (again : FloatsReadBack zoneKey (.text s) -> blob? after.compact = some after) :
    Spared ids zoneKey (.text s) (.text after.compact)
  | array {before after : List Value} (length : before.length = after.length)
    (each : ∀ pair ∈ before.zip after, Spared ids false pair.1 pair.2) :
    Spared ids false (.array before) (.array after)
  /-- A list under a key of zone ids is cleaned once its items are repaired. -/
  | listed {before items after : List Value} (length : before.length = items.length)
    (each : ∀ pair ∈ before.zip items, Spared ids true pair.1 pair.2)
    (distilled : Distilled ids items after)
    (known : ∀ item ∈ before, ∀ id ∈ ids, Names id item -> Retains after item) :
    Spared ids true (.array before) (.array after)
  | object {zoneKey : Bool} {before after : Fields}
    (keys : Entries.keys before = Entries.keys after)
    (each : ∀ pair ∈ before.zip after,
      Spared ids (holdsZoneIds pair.1.1) pair.1.2 pair.2.2) :
    Spared ids zoneKey (.object before) (.object after)

/-- What holds of each item and its image holds along the zip of the two
lists. -/
theorem forall_zip_map {A B : Type} {items : List A} {f : A -> B} {motive : A × B -> Prop}
    (each : ∀ item ∈ items, motive (item, f item)) :
    ∀ pair ∈ items.zip (items.map f), motive pair := by
  induction items with
  | nil => exact fun _ member => nomatch member
  | cons item rest ih =>
    obtain ⟨first, later⟩ := List.forall_mem_cons.mp each
    exact List.forall_mem_cons.mpr ⟨first, ih later⟩

/-- Repair does to a value only this. -/
theorem spared_repairValue {z : Zones} (sound : z.Sound) (v : Value) :
    ∀ zoneKey, Spared z.all zoneKey v (repairValue z zoneKey v) := by
  induction v using stored_induction with
  | null | bool => exact fun zoneKey => .same _
  | number n =>
    intro zoneKey
    rcases repairValue_number_cases z zoneKey n with ⟨same, -⟩ | ⟨⟨rfl, foreign⟩, gone⟩
    · rw [same]
      exact .same _
    · rw [gone]
      exact .unnumbered foreign sound.fallback
  | text s ih =>
    intro zoneKey
    cases stored : blob? s with
    | some v =>
      rw [repairValue_stored z zoneKey stored]
      exact .stored stored (ih v stored zoneKey) fun readBack => blob?_compact readBack stored
    | none =>
      rcases repairValue_text_cases z zoneKey stored with
        ⟨same, -⟩ | ⟨⟨rfl, foreign⟩ | ⟨rfl, stands⟩, gone⟩
      · rw [same]
        exact .same _
      · rw [gone]
        exact .unknown stored foreign sound.fallback
      · rw [gone]
        exact .placeholder stands sound.fallback
  | array items ih =>
    intro zoneKey
    rw [repairValue_array]
    have each : ∀ pair ∈ items.zip (items.map (repairValue z zoneKey)),
        Spared z.all zoneKey pair.1 pair.2 :=
      forall_zip_map fun item member => ih item member zoneKey
    have length : items.length = (items.map (repairValue z zoneKey)).length :=
      (List.length_map _).symm
    cases zoneKey with
    | false => exact .array length each
    | true =>
      have distilled := distilled_listed z (items.map (repairValue z true))
      refine .listed length each distilled fun item member id known names => ?_
      have stays := repairValue_of_names sound known names
      have repaired : item ∈ items.map (repairValue z true) :=
        List.mem_map.mpr ⟨item, member, stays⟩
      obtain ⟨other, among, rfl | same⟩ :=
        distilled.repeats item repaired (filled_of_names sound known names)
      · exact Or.inl among
      · exact retains_of_same names among same
  | object fields ih =>
    intro zoneKey
    rw [repairValue_object]
    have keys : Entries.keys (repairedFields z fields) = Entries.keys fields := List.map_map
    exact .object keys.symm (forall_zip_map fun entry member => ih entry member _)

/-! ## What is added to a map -/

/-- No value under a key of zone ids names a zone. -/
def Unbound (ids : List String) (fields : Fields) : Prop :=
  ∀ place, Occurs false (.object fields) true place -> ∀ id ∈ ids, ¬ Names id place

theorem unbound_of_isBound {z : Zones} (sound : z.Sound) {fields : Fields}
    (free : isBound z fields = false) : Unbound z.all fields := by
  intro place occurs id known names
  have bound := binds_of_place occurs (binds_of_names sound known names)
  rw [binds_object, free] at bound
  cases bound

/-- What is added to a map whose values are repaired: `args` with all zones if
no zone is named, and a centre if there is none. -/
structure Completed (ids : List String) (before after : Fields) : Prop where
  keys : ∃ new, List.Sublist new ["args", "center"] ∧
    Entries.keys after = Entries.keys before ++ new
  others : ∀ key, key ≠ "args" -> key ≠ "center" ->
    Entries.get? key after = Entries.get? key before
  args : Entries.get? "args" after = Entries.get? "args" before ∨
    Unbound ids before ∧ ∃ args, OldArgs before args ∧ Entries.get? "args" after =
      some (.object (Entries.insert "polygon_ids" (.array (ids.map .text)) args))
  center : Entries.get? "center" after = Entries.get? "center" before ∨
    lacksCenter before = true ∧ ∃ center : Geometry.Position,
      Entries.get? "center" after = some center.toJson

theorem Completed.refl (ids : List String) (fields : Fields) : Completed ids fields fields :=
  ⟨⟨[], List.nil_sublist _, (List.append_nil _).symm⟩, fun _ _ _ => rfl, Or.inl rfl, Or.inl rfl⟩

/-- Writing a value appends its key, or no key. -/
theorem exists_keys_insert (key : String) (value : Value) (fields : Fields) :
    ∃ new, List.Sublist new [key] ∧
      Entries.keys (Entries.insert key value fields) = Entries.keys fields ++ new := by
  by_cases known : key ∈ Entries.keys fields
  · refine ⟨[], List.nil_sublist _, ?_⟩
    rw [Entries.keys_insert_of_mem known, List.append_nil]
  · exact ⟨[key], List.Sublist.refl _, Entries.keys_insert_of_not_mem known value⟩

section Stages

variable (z : Zones) (zones : List Zone) (fields : Fields)

theorem exists_keys_bound : ∃ new, List.Sublist new ["args"] ∧
    Entries.keys (bound z fields) = Entries.keys fields ++ new := by
  have same : ∃ new, List.Sublist new ["args"] ∧ Entries.keys fields = Entries.keys fields ++ new :=
    ⟨[], List.nil_sublist _, (List.append_nil _).symm⟩
  rcases bound_eq_or z fields with kept | ⟨-, toAll⟩
  · exact kept.symm ▸ same
  · rw [toAll]
    rcases bindToAll_cases z fields with ⟨args, -, written⟩ | ⟨-, kept⟩
    · rw [written]
      exact exists_keys_insert _ _ fields
    · exact kept.symm ▸ same

theorem exists_keys_fillCenter : ∃ new, List.Sublist new ["center"] ∧
    Entries.keys (fillCenter zones fields) = Entries.keys fields ++ new := by
  rcases fillCenter_cases zones fields with kept | ⟨-, center, filled⟩
  · rw [kept]
    exact ⟨[], List.nil_sublist _, (List.append_nil _).symm⟩
  · rw [filled]
    exact exists_keys_insert _ _ fields

end Stages

/-- Whether a centre is missing is seen from the centre alone. -/
theorem lacksCenter_congr {fields others : Fields}
    (same : Entries.get? "center" fields = Entries.get? "center" others) :
    lacksCenter fields = lacksCenter others := by
  rw [lacksCenter, lacksCenter, same]

section Repair

variable {zones : List Zone} {fields : Fields}

theorem completed_repair {z : Zones} (sound : z.Sound) (given : Zones.of? zones = some z) :
    Completed z.all (repairedFields z fields) (repair zones fields) := by
  have noArgs : Entries.get? "center" (bound z (repairedFields z fields)) =
      Entries.get? "center" (repairedFields z fields) := get?_bound z _ (by decide)
  rw [repair_eq given]
  refine ⟨?_, fun key args center => ?_, ?_, ?_⟩
  · obtain ⟨first, toArgs, keys⟩ := exists_keys_bound z (repairedFields z fields)
    obtain ⟨second, toCenter, more⟩ :=
      exists_keys_fillCenter zones (bound z (repairedFields z fields))
    refine ⟨first ++ second, toArgs.append toCenter, ?_⟩
    rw [more, keys, List.append_assoc]
  · rw [get?_fillCenter center, get?_bound z _ args]
  · rw [get?_fillCenter (by decide)]
    exact (args_bound z _).imp_right fun ⟨free, more⟩ => ⟨unbound_of_isBound sound free, more⟩
  · rcases fillCenter_cases zones (bound z (repairedFields z fields)) with
      kept | ⟨lacks, center, filled⟩
    · rw [kept]
      exact Or.inl noArgs
    · rw [filled, Entries.get?_insert_self]
      exact Or.inr ⟨lacksCenter_congr noArgs ▸ lacks, center, rfl⟩

/-- The values of a map are spared, and then the map is completed. -/
theorem spared_repair (bindable : Bindable zones) (fields : Fields) : ∃ values,
    Spared (zones.map Zone.id) false (.object fields) (.object values) ∧
      Completed (zones.map Zone.id) values (repair zones fields) := by
  cases given : Zones.of? zones with
  | none =>
    rw [repair, given]
    exact ⟨fields, .same _, .refl _ _⟩
  | some z =>
    have sound := Zones.sound_of? bindable given
    have spared := spared_repairValue sound (.object fields) false
    rw [repairValue_object] at spared
    rw [← Zones.all_of? given]
    exact ⟨repairedFields z fields, spared, completed_repair sound given⟩

theorem spared_repair_layers : Bindable northSouth ∧ ∃ values,
    Spared (northSouth.map Zone.id) false (.object layers) (.object values) ∧
      Completed (northSouth.map Zone.id) values (repair northSouth layers) :=
  ⟨bindable_northSouth, spared_repair bindable_northSouth layers⟩

/-- Every known id that a list under a key of zone ids held is in the list
that the repair leaves there. -/
def HoldsKnown (zones : List Zone) (fields : Fields) : Prop :=
  ∀ key items kept, holdsZoneIds key = true ->
    Entries.get? key fields = some (.array items) ->
    Entries.get? key (repair zones fields) = some (.array kept) ->
    ∀ item ∈ items, ∀ id ∈ zones.map Zone.id, Names id item -> item ∈ kept

/-- Two zones whose ids are the texts of the zeros. -/
def zeroZones : List Zone :=
  [⟨"0.0", "A", []⟩, ⟨"-0.0", "B", []⟩]

theorem bindable_zeroZones : Bindable zeroZones := by
  refine ⟨by decide, by decide, ?_, ?_⟩
  all_goals
    simp only [zeroZones, List.forall_mem_cons]
    exact ⟨rfl, rfl, fun _ member => nomatch member⟩

/-- A map that lists both zones by number. -/
def zeros : Fields :=
  [("zone_ids", .array [.number (.float 0), .number (.float (-0))])]

/-- The second zero equals the first and is dropped as a repeat, and with it
the only mention of the second zone. -/
theorem spared_repair_zeros : Bindable zeroZones ∧ ¬ HoldsKnown zeroZones zeros := by
  refine ⟨bindable_zeroZones, fun holds => ?_⟩
  have zoneKey : holdsZoneIds "zone_ids" = true := by decide +kernel
  have names : Names "0.0" (.number (.float 0)) ∧ Names "-0.0" (.number (.float (-0))) :=
    ⟨(by decide +kernel : (Json.Number.float 0).text = "0.0"),
      (by decide +kernel : (Json.Number.float (-0)).text = "-0.0")⟩
  have known : "-0.0" ∈ zeroZones.map Zone.id := List.mem_cons_of_mem _ List.mem_cons_self
  have sound := Zones.sound_of? bindable_zeroZones rfl
  have left : Entries.get? "zone_ids" (repair zeroZones zeros) =
      some (.array [.number (.float 0)]) := by
    rw [repair_eq rfl, get?_fillCenter (by decide), get?_bound _ _ (by decide),
      get?_repairedFields, zeros, Entries.get?, if_pos rfl, Option.map_some, zoneKey,
      repairValue_array, List.map_cons, List.map_cons, List.map_nil,
      repairValue_of_names sound List.mem_cons_self names.1,
      repairValue_of_names sound known names.2]
    rfl
  have lost := holds "zone_ids" _ _ zoneKey rfl left _ (List.mem_cons_of_mem _ List.mem_cons_self)
    "-0.0" known names.2
  have equal : (-0 : Float) = 0 :=
    Json.Number.float.inj (Value.number.inj (List.mem_singleton.mp lost))
  exact absurd equal (by decide +kernel)

end Repair

end MapWidget
end Sensornet
