import Sensornet.Proofs.MapWidget.Stored

namespace Sensornet
namespace MapWidget

/-!
# The settled form of a map's values

`Settled` is what repair aims at, said of a value without reference to the
repair: under a key of zone ids stand known ids and lists without repeats,
nothing is a placeholder, and a stored text is the compact text of a settled
value.  Two facts carry everything else.  A settled value is its own repair;
and what was repaired is settled.

The second one needs that a repaired value, once written as a stored text, is
read back as that value.  `Value.Legible` gives this for everything but
floats: a float may be read as its neighbour, so it is an assumption on the
floats inside stored texts, which `Stores` picks out.
-/

open Json (Value Fields)

/-! ## Places -/

/-- The places of a value, among them those inside its stored texts, and
whether the nearest key above a place holds zone ids.  Lists and stored texts
pass on the key above them. -/
inductive Occurs : Bool -> Value -> Bool -> Value -> Prop where
  | here {zoneKey : Bool} {v : Value} : Occurs zoneKey v zoneKey v
  | item {zoneKey placeKey : Bool} {items : List Value} {item place : Value}
    (member : item ∈ items) (inside : Occurs zoneKey item placeKey place) :
    Occurs zoneKey (.array items) placeKey place
  | member {zoneKey placeKey : Bool} {fields : Fields} {key : String} {item place : Value}
    (member : (key, item) ∈ fields) (inside : Occurs (holdsZoneIds key) item placeKey place) :
    Occurs zoneKey (.object fields) placeKey place
  | stored {zoneKey placeKey : Bool} {s : String} {v place : Value}
    (stored : blob? s = some v) (inside : Occurs zoneKey v placeKey place) :
    Occurs zoneKey (.text s) placeKey place

/-- A number stands in some stored text of a value. -/
def Stores (zoneKey : Bool) (v : Value) (n : Json.Number) : Prop :=
  ∃ textKey s inner numberKey, Occurs zoneKey v textKey (.text s) ∧ blob? s = some inner ∧
    Occurs textKey inner numberKey (.number n)

/-- The floats in the stored texts of a value are read back from their
texts. -/
def FloatsReadBack (zoneKey : Bool) (v : Value) : Prop :=
  forall x, Stores zoneKey v (.float x) -> (Value.number (.float x)).ReadsBack

namespace FloatsReadBack

variable {zoneKey : Bool}

theorem item {items : List Value} (readBack : FloatsReadBack zoneKey (.array items)) {item : Value}
    (member : item ∈ items) : FloatsReadBack zoneKey item := by
  rintro x ⟨textKey, s, inner, numberKey, place, stored, number⟩
  exact readBack x ⟨textKey, s, inner, numberKey, .item member place, stored, number⟩

theorem member {fields : Fields} (readBack : FloatsReadBack zoneKey (.object fields))
    {entry : String × Value} (member : entry ∈ fields) :
    FloatsReadBack (holdsZoneIds entry.1) entry.2 := by
  rintro x ⟨textKey, s, inner, numberKey, place, stored, number⟩
  exact readBack x ⟨textKey, s, inner, numberKey, .member member place, stored, number⟩

theorem stored {s : String} (readBack : FloatsReadBack zoneKey (.text s)) {v : Value}
    (holds : blob? s = some v) : FloatsReadBack zoneKey v := by
  rintro x ⟨textKey, t, inner, numberKey, place, stored, number⟩
  exact readBack x ⟨textKey, t, inner, numberKey, .stored holds place, stored, number⟩

end FloatsReadBack

/-- Of a value that was read from a text only the floats may fail to be read
back. -/
theorem faithful_of_floats {count room : Nat} {v : Value}
    (legible : v.Legible (Json.Lexeme.Within count) room) {zoneKey : Bool}
    (floats : ∀ placeKey x, Occurs zoneKey v placeKey (.number (.float x)) ->
      (Value.number (.float x)).ReadsBack) : v.Legible Json.Lexeme.Faithful room := by
  induction legible generalizing zoneKey with
  | null => exact .null
  | bool flag => exact .bool flag
  | @number _ n within =>
    cases n with
    | integer i => exact .number within.faithful_integer
    | float x => exact .number (Value.readsBack_number.mp (floats zoneKey x .here))
  | text _ => exact .text trivial
  | array _ ih =>
    exact .array fun item member =>
      ih item member fun placeKey x inside => floats placeKey x (.item member inside)
  | object distinct _ ih =>
    exact .object distinct fun entry member =>
      ih entry member fun placeKey x inside => floats placeKey x (.member member inside)

/-- What a stored text holds is read back, if its floats are. -/
theorem FloatsReadBack.faithful {zoneKey : Bool} {s : String}
    (readBack : FloatsReadBack zoneKey (.text s)) {v : Value} (stored : blob? s = some v) :
    v.Legible Json.Lexeme.Faithful Json.Reading.maxDepth :=
  faithful_of_floats (Value.legible_of_ofText? (blob?_eq_some stored).1) fun placeKey x inside =>
    readBack x ⟨zoneKey, s, v, placeKey, .here, stored, inside⟩

/-! ## Lists under a key of zone ids -/

/-- Items that cleaning drops: null and the empty text. -/
def isBlankItem : Value -> Bool
  | .null => true
  | .text s => s.isEmpty
  | _ => false

/-- A list without blank items in which no item is the same as an earlier
one. -/
structure Clean (items : List Value) : Prop where
  filled : ∀ item ∈ items, isBlankItem item = false
  apart : items.Pairwise fun earlier later => earlier.same later = false

/-- One step of cleaning. -/
def keep (kept : List Value) (item : Value) : List Value :=
  if isBlankItem item || kept.any (fun seen => seen.same item) then kept else kept ++ [item]

theorem cleaned_eq_foldl (items : List Value) : cleaned items = items.foldl keep [] :=
  rfl

namespace Clean

theorem nil : Clean [] :=
  ⟨fun _ member => (nomatch member), .nil⟩

theorem keep {kept : List Value} (clean : Clean kept) (item : Value) : Clean (keep kept item) := by
  unfold MapWidget.keep
  split
  · exact clean
  · next new =>
    rw [Bool.or_eq_true, not_or, Bool.not_eq_true, Bool.not_eq_true, List.any_eq_false] at new
    refine ⟨?_, List.pairwise_append.mpr ⟨clean.apart, List.pairwise_singleton _ _, ?_⟩⟩
    · intro other member
      rcases List.mem_append.mp member with old | last
      · exact clean.filled other old
      · exact List.mem_singleton.mp last ▸ new.1
    · intro seen member other last
      exact List.mem_singleton.mp last ▸ Bool.eq_false_iff.mpr (new.2 seen member)

theorem foldl_keep {kept : List Value} (clean : Clean kept) (items : List Value) :
    Clean (items.foldl MapWidget.keep kept) := by
  induction items generalizing kept with
  | nil => exact clean
  | cons item rest ih => exact ih (clean.keep item)

/-- An item of a clean list goes to the end. -/
theorem keep_eq {kept rest : List Value} {item : Value} (clean : Clean (kept ++ item :: rest)) :
    MapWidget.keep kept item = kept ++ [item] := by
  have filled : isBlankItem item = false :=
    clean.filled item (List.mem_append_right _ List.mem_cons_self)
  have unseen : kept.any (fun seen => seen.same item) = false :=
    List.any_eq_false.mpr fun seen member => Bool.eq_false_iff.mp
      ((List.pairwise_append.mp clean.apart).2.2 seen member item List.mem_cons_self)
  rw [MapWidget.keep, filled, unseen]
  rfl

/-- A clean list stays as it is. -/
theorem foldl_keep_eq {kept items : List Value} (clean : Clean (kept ++ items)) :
    items.foldl MapWidget.keep kept = kept ++ items := by
  induction items generalizing kept with
  | nil => exact (List.append_nil kept).symm
  | cons item rest ih =>
    have shifted := List.append_cons kept item rest
    rw [List.foldl_cons, clean.keep_eq, shifted]
    exact ih (shifted ▸ clean)

end Clean

theorem mem_of_mem_foldl_keep {kept items : List Value} {item : Value}
    (member : item ∈ items.foldl keep kept) : item ∈ kept ∨ item ∈ items := by
  induction items generalizing kept with
  | nil => exact Or.inl member
  | cons first rest ih =>
    rcases ih member with old | later
    · unfold keep at old
      split at old
      · exact Or.inl old
      · rcases List.mem_append.mp old with old | last
        · exact Or.inl old
        · exact Or.inr (List.mem_cons.mpr (Or.inl (List.mem_singleton.mp last)))
    · exact Or.inr (List.mem_cons_of_mem _ later)

theorem clean_cleaned (items : List Value) : Clean (cleaned items) := by
  rw [cleaned_eq_foldl]
  exact Clean.nil.foldl_keep items

theorem mem_of_mem_cleaned {items : List Value} {item : Value} (member : item ∈ cleaned items) :
    item ∈ items := by
  rw [cleaned_eq_foldl] at member
  exact (mem_of_mem_foldl_keep member).resolve_left List.not_mem_nil

theorem Clean.cleaned_eq {items : List Value} (clean : Clean items) : cleaned items = items := by
  rw [cleaned_eq_foldl]
  exact Clean.foldl_keep_eq clean

/-! ## Zones that a map can be bound to -/

/-- Zones whose ids can stand in a map: distinct texts that are neither empty
nor placeholders and hold no list or object. -/
structure Bindable (zones : List Zone) : Prop where
  distinct : (zones.map Zone.id).Nodup
  filled : ∀ zone ∈ zones, zone.id ≠ ""
  real : ∀ zone ∈ zones, standsForZone zone.id = false
  plain : ∀ zone ∈ zones, blob? zone.id = none

/-- The ids are those of bindable zones, and the fallback is one of them. -/
structure Zones.Sound (z : Zones) : Prop where
  distinct : z.all.Nodup
  filled : ∀ id ∈ z.all, id ≠ ""
  real : ∀ id ∈ z.all, standsForZone id = false
  plain : ∀ id ∈ z.all, blob? id = none
  fallback : z.fallback ∈ z.all

namespace Zones

theorem all_of? {zones : List Zone} {z : Zones} (given : Zones.of? zones = some z) :
    z.all = zones.map Zone.id := by
  cases zones with
  | nil => cases given
  | cons first rest =>
    cases given
    rfl

theorem sound_of? {zones : List Zone} (bindable : Bindable zones) {z : Zones}
    (given : Zones.of? zones = some z) : z.Sound := by
  have all := all_of? given
  refine ⟨all ▸ bindable.distinct, ?_, ?_, ?_, ?_⟩
  · rw [all]
    exact List.forall_mem_map.mpr bindable.filled
  · rw [all]
    exact List.forall_mem_map.mpr bindable.real
  · rw [all]
    exact List.forall_mem_map.mpr bindable.plain
  · cases zones with
    | nil => cases given
    | cons first rest =>
      cases given
      exact List.mem_cons_self

theorem knows_iff {z : Zones} {id : String} : z.knows id = true ↔ id ∈ z.all :=
  List.contains_iff_mem

namespace Sound

variable {z : Zones}

theorem clean_allIds (sound : z.Sound) : Clean z.allIds := by
  refine ⟨List.forall_mem_map.mpr fun id member => ?_, List.pairwise_map.mpr ?_⟩
  · exact Bool.eq_false_iff.mpr fun empty => sound.filled id member (String.isEmpty_iff.mp empty)
  · refine List.Pairwise.imp ?_ sound.distinct
    intro a b different
    rw [Value.same]
    exact beq_eq_false_iff_ne.mpr different

theorem allIds_ne_nil (sound : z.Sound) : z.allIds ≠ [] := by
  intro none
  have member : Value.text z.fallback ∈ z.allIds := List.mem_map_of_mem sound.fallback
  rw [none] at member
  cases member

theorem clean_listed (sound : z.Sound) (items : List Value) : Clean (z.listed items) := by
  unfold listed
  split
  · exact sound.clean_allIds
  · exact clean_cleaned items

theorem listed_ne_nil (sound : z.Sound) (items : List Value) : z.listed items ≠ [] := by
  unfold listed
  split
  · exact sound.allIds_ne_nil
  · next filled => exact fun none => filled (List.isEmpty_iff.mpr none)

end Sound

theorem mem_listed {z : Zones} {items : List Value} {item : Value}
    (member : item ∈ z.listed items) : item ∈ items ∨ item ∈ z.allIds := by
  unfold listed at member
  split at member
  · exact Or.inr member
  · exact Or.inl (mem_of_mem_cleaned member)

/-- The items of a repaired list are repaired items or ids. -/
theorem mem_repaired {z : Zones} {zoneKey : Bool} {items : List Value} {item : Value}
    (member : item ∈ if zoneKey then z.listed items else items) :
    item ∈ items ∨ item ∈ z.allIds := by
  cases zoneKey with
  | false => exact Or.inl member
  | true => exact mem_listed member

/-- A clean list that is not empty is listed as it is. -/
theorem listed_eq {z : Zones} {items : List Value} (clean : Clean items) (filled : items ≠ []) :
    z.listed items = items := by
  rw [listed, clean.cleaned_eq, if_neg fun empty => filled (List.isEmpty_iff.mp empty)]

end Zones

/-! ## What becomes of a number and of a text -/

theorem Zones.knows_eq_false {z : Zones} {id : String} (unknown : id ∉ z.all) :
    z.knows id = false :=
  Bool.eq_false_iff.mpr fun known => unknown (knows_iff.mp known)

/-- A number stays, unless it stands under a key of zone ids and is none. -/
theorem repairValue_number_cases (z : Zones) (zoneKey : Bool) (n : Json.Number) :
    repairValue z zoneKey (.number n) = .number n ∧ (zoneKey = true -> n.text ∈ z.all) ∨
    (zoneKey = true ∧ n.text ∉ z.all) ∧ repairValue z zoneKey (.number n) = .text z.fallback := by
  rw [repairValue_number]
  cases zoneKey with
  | false => exact Or.inl ⟨rfl, fun key => nomatch key⟩
  | true =>
    by_cases known : n.text ∈ z.all
    · exact Or.inl ⟨if_pos (Zones.knows_iff.mpr known), fun _ => known⟩
    · exact Or.inr ⟨⟨rfl, known⟩, if_neg (Bool.eq_false_iff.mp (Zones.knows_eq_false known))⟩

/-- A text that holds no value stays, unless it stands under a key of zone ids
and is none, or is a placeholder elsewhere. -/
theorem repairValue_text_cases (z : Zones) (zoneKey : Bool) {s : String} (plain : blob? s = none) :
    repairValue z zoneKey (.text s) = .text s ∧ (zoneKey = true -> s ∈ z.all) ∧
      (zoneKey = false -> standsForZone s = false) ∨
    (zoneKey = true ∧ s ∉ z.all ∨ zoneKey = false ∧ standsForZone s = true) ∧
      repairValue z zoneKey (.text s) = .text z.fallback := by
  rw [repairValue_text z zoneKey plain]
  cases zoneKey with
  | false =>
    cases stands : standsForZone s with
    | false => exact Or.inl ⟨rfl, fun key => (nomatch key), fun _ => rfl⟩
    | true => exact Or.inr ⟨Or.inr ⟨rfl, rfl⟩, rfl⟩
  | true =>
    by_cases known : s ∈ z.all
    · exact Or.inl ⟨if_pos (Zones.knows_iff.mpr known), fun _ => known, fun key => nomatch key⟩
    · exact Or.inr ⟨Or.inl ⟨rfl, known⟩, if_neg (Bool.eq_false_iff.mp (Zones.knows_eq_false known))⟩

/-! ## The settled form -/

theorem repairedFields_eq_self {z : Zones} {fields : Fields}
    (each : ∀ entry ∈ fields, repairValue z (holdsZoneIds entry.1) entry.2 = entry.2) :
    repairedFields z fields = fields := by
  refine (List.map_congr_left fun entry member => ?_).trans (List.map_id fields)
  exact Prod.ext rfl (each entry member)

/-- A value in the form that repair aims at. -/
inductive Settled (z : Zones) : Bool -> Value -> Prop where
  | null {zoneKey : Bool} : Settled z zoneKey .null
  | bool {zoneKey : Bool} (flag : Bool) : Settled z zoneKey (.bool flag)
  | number {zoneKey : Bool} {n : Json.Number} (known : zoneKey = true -> z.knows n.text = true) :
    Settled z zoneKey (.number n)
  | text {zoneKey : Bool} {s : String} (plain : blob? s = none) (real : standsForZone s = false)
    (known : zoneKey = true -> z.knows s = true) : Settled z zoneKey (.text s)
  | stored {zoneKey : Bool} {v : Value} (stored : blob? v.compact = some v)
    (inside : Settled z zoneKey v) : Settled z zoneKey (.text v.compact)
  | array {zoneKey : Bool} {items : List Value}
    (list : zoneKey = true -> Clean items ∧ items ≠ [])
    (each : ∀ item ∈ items, Settled z zoneKey item) : Settled z zoneKey (.array items)
  | object {zoneKey : Bool} {fields : Fields}
    (each : ∀ entry ∈ fields, Settled z (holdsZoneIds entry.1) entry.2) :
    Settled z zoneKey (.object fields)

namespace Settled

variable {z : Zones} {zoneKey : Bool}

/-- A settled value is its own repair. -/
theorem repairValue_eq {v : Value} (settled : Settled z zoneKey v) :
    repairValue z zoneKey v = v := by
  induction settled with
  | null => exact repairValue_null z _
  | bool flag => exact repairValue_bool z _ flag
  | @number zoneKey n known =>
    rw [repairValue_number]
    cases zoneKey with
    | false => rfl
    | true => simp [Zones.idOrFallback, known rfl]
  | @text zoneKey s plain real known =>
    rw [repairValue_text z zoneKey plain, real]
    cases zoneKey with
    | false => rfl
    | true => simp [Zones.idOrFallback, known rfl]
  | stored stored _ ih => rw [repairValue_stored z _ stored, ih]
  | @array zoneKey items list each ih =>
    have same : items.map (repairValue z zoneKey) = items :=
      (List.map_congr_left ih).trans (List.map_id items)
    rw [repairValue_array, same]
    cases zoneKey with
    | false => rfl
    | true => rw [if_pos rfl, Zones.listed_eq (list rfl).1 (list rfl).2]
  | @object zoneKey fields each ih =>
    rw [repairValue_object, repairedFields_eq_self ih]

/-- Zone ids are settled wherever they stand. -/
theorem of_id (sound : z.Sound) {id : String} (known : id ∈ z.all) :
    Settled z zoneKey (.text id) :=
  .text (sound.plain id known) (sound.real id known) fun _ => Zones.knows_iff.mpr known

theorem of_mem_allIds (sound : z.Sound) {item : Value} (member : item ∈ z.allIds) :
    Settled z zoneKey item := by
  obtain ⟨id, known, rfl⟩ := List.mem_map.mp member
  exact of_id sound known

theorem allIds (sound : z.Sound) : Settled z zoneKey (.array z.allIds) :=
  .array (fun _ => ⟨sound.clean_allIds, sound.allIds_ne_nil⟩) fun _ member =>
    of_mem_allIds sound member

end Settled

/-! ## What was repaired is settled -/

/-- Repair opens no container that was not there and repeats no key, and it
changes no number other than to a text. -/
theorem legible_repairValue (z : Zones) {v : Value} {room : Nat}
    (legible : v.Legible Json.Lexeme.Faithful room) :
    ∀ zoneKey, (repairValue z zoneKey v).Legible Json.Lexeme.Faithful room := by
  induction legible with
  | null =>
    intro zoneKey
    rw [repairValue_null]
    exact .null
  | bool flag =>
    intro zoneKey
    rw [repairValue_bool]
    exact .bool flag
  | number faithful =>
    intro zoneKey
    rcases repairValue_number_cases z zoneKey _ with ⟨same, -⟩ | ⟨-, gone⟩
    · rw [same]
      exact .number faithful
    · rw [gone]
      exact .text trivial
  | @text _ s _ =>
    intro zoneKey
    cases stored : blob? s with
    | some v =>
      rw [repairValue_stored z zoneKey stored]
      exact .text trivial
    | none =>
      rcases repairValue_text_cases z zoneKey stored with ⟨same, -⟩ | ⟨-, gone⟩
      · rw [same]
        exact .text trivial
      · rw [gone]
        exact .text trivial
  | array _ ih =>
    intro zoneKey
    rw [repairValue_array]
    refine .array fun item member => ?_
    rcases Zones.mem_repaired member with repaired | id
    · obtain ⟨old, among, rfl⟩ := List.mem_map.mp repaired
      exact ih old among zoneKey
    · obtain ⟨id, -, rfl⟩ := List.mem_map.mp id
      exact .text trivial
  | @object _ fields distinct _ ih =>
    intro zoneKey
    rw [repairValue_object]
    have keys : Entries.keys (repairedFields z fields) = Entries.keys fields := List.map_map
    refine .object (keys ▸ distinct : (Entries.keys (repairedFields z fields)).Nodup) ?_
    exact List.forall_mem_map.mpr fun entry member => ih entry member _

/-- A repaired stored value is written as a text that holds it. -/
theorem blob?_compact {z : Zones} {zoneKey : Bool} {s : String} {v : Value}
    (readBack : FloatsReadBack zoneKey (.text s)) (stored : blob? s = some v) :
    blob? (repairValue z zoneKey v).compact = some (repairValue z zoneKey v) := by
  have back := (legible_repairValue z (readBack.faithful stored) zoneKey).readsBack
  refine blob?_of_readsBack ?_ back
  have container := (blob?_eq_some stored).2
  cases v with
  | array items =>
    rw [repairValue_array]
    rfl
  | object fields =>
    rw [repairValue_object]
    rfl
  | null | bool | number | text => cases container

/-- What was repaired is settled, if the floats in its stored texts are read
back. -/
theorem settled_repairValue {z : Zones} (sound : z.Sound) (v : Value) :
    ∀ zoneKey, FloatsReadBack zoneKey v -> Settled z zoneKey (repairValue z zoneKey v) := by
  induction v using stored_induction with
  | null =>
    intro zoneKey _
    rw [repairValue_null]
    exact .null
  | bool flag =>
    intro zoneKey _
    rw [repairValue_bool]
    exact .bool flag
  | number n =>
    intro zoneKey _
    rcases repairValue_number_cases z zoneKey n with ⟨same, known⟩ | ⟨-, gone⟩
    · rw [same]
      exact .number fun key => Zones.knows_iff.mpr (known key)
    · rw [gone]
      exact .of_id sound sound.fallback
  | text s ih =>
    intro zoneKey readBack
    cases stored : blob? s with
    | some v =>
      rw [repairValue_stored z zoneKey stored]
      exact .stored (blob?_compact readBack stored) (ih v stored zoneKey (readBack.stored stored))
    | none =>
      rcases repairValue_text_cases z zoneKey stored with ⟨same, known, real⟩ | ⟨-, gone⟩
      · rw [same]
        cases zoneKey with
        | false => exact .text stored (real rfl) fun key => nomatch key
        | true => exact .of_id sound (known rfl)
      · rw [gone]
        exact .of_id sound sound.fallback
  | array items ih =>
    intro zoneKey readBack
    rw [repairValue_array]
    refine .array (fun key => ?_) fun item member => ?_
    · rw [key, if_pos rfl]
      exact ⟨sound.clean_listed _, sound.listed_ne_nil _⟩
    · rcases Zones.mem_repaired member with repaired | id
      · obtain ⟨old, among, rfl⟩ := List.mem_map.mp repaired
        exact ih old among zoneKey (readBack.item among)
      · exact .of_mem_allIds sound id
  | object fields ih =>
    intro zoneKey readBack
    rw [repairValue_object]
    exact .object (List.forall_mem_map.mpr fun entry member =>
      ih entry member _ (readBack.member member))

end MapWidget
end Sensornet
