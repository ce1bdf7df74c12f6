import Sensornet.Proofs.MapWidget.Settled

namespace Sensornet
namespace MapWidget

/-!
# A repaired map

Once every value is settled, two more things may be written into a map: its
`args` get all zones if no value names one, and its centre is filled in.  Both
writes keep what is settled, neither undoes what the other established, and a
second repair finds nothing to do.

All of this is relative to the floats in stored texts.  A float that is read
as its neighbour can name a zone in the value and no zone in its text; what
the map then stores is neither bound nor settled, and the next repair changes
it again.
-/

open Json (Value Fields)

/-! ## What the places of a map hold -/

/-- What a place of a repaired map may hold.  Under a key of zone ids, texts
other than stored ones and numbers are known ids, and lists have items, none
of them twice, null or an empty text.  No text anywhere is a placeholder. -/
def InOrder (ids : List String) (zoneKey : Bool) : Value -> Prop
  | .text s => standsForZone s = false ∧ (zoneKey = true -> blob? s = none -> s ∈ ids)
  | .number n => zoneKey = true -> n.text ∈ ids
  | .array items => zoneKey = true -> items ≠ [] ∧
      (items.Pairwise fun earlier later => earlier.same later = false) ∧
      ∀ item ∈ items, item ≠ .null ∧ item ≠ .text ""
  | _ => True

/-- A text or number that is this id. -/
def Names (id : String) : Value -> Prop
  | .text s => s = id
  | .number n => n.text = id
  | _ => False

theorem not_blank {item : Value} (filled : isBlankItem item = false) :
    item ≠ .null ∧ item ≠ .text "" := by
  constructor <;>
  · rintro rfl
    cases filled

/-- Every place of a settled value is in order. -/
theorem Settled.inOrder {z : Zones} {zoneKey placeKey : Bool} {v place : Value}
    (settled : Settled z zoneKey v) (occurs : Occurs zoneKey v placeKey place) :
    InOrder z.all placeKey place := by
  induction occurs with
  | here =>
    cases settled with
    | null | bool | object => trivial
    | number known => exact fun key => Zones.knows_iff.mp (known key)
    | text plain real known => exact ⟨real, fun key _ => Zones.knows_iff.mp (known key)⟩
    | stored stored _ =>
      exact ⟨standsForZone_of_blob? stored, fun _ plain => by rw [stored] at plain; cases plain⟩
    | array list _ =>
      exact fun key => ⟨(list key).2, (list key).1.apart, fun item member =>
        not_blank ((list key).1.filled item member)⟩
  | item member _ ih =>
    cases settled with
    | array _ each => exact ih (each _ member)
  | member member _ ih =>
    cases settled with
    | object each => exact ih (each _ member)
  | stored stored _ ih =>
    cases settled with
    | text plain =>
      rw [plain] at stored
      cases stored
    | stored same inside =>
      rw [same] at stored
      cases stored
      exact ih inside

/-- Whatever binds a map is a place under a key of zone ids with a known id. -/
theorem exists_place_of_binds {z : Zones} (v : Value) :
    ∀ zoneKey, binds z zoneKey v = true ->
      ∃ place, Occurs zoneKey v true place ∧ ∃ id ∈ z.all, Names id place := by
  induction v using stored_induction with
  | null =>
    intro zoneKey bound
    rw [binds_null] at bound
    cases bound
  | bool flag =>
    intro zoneKey bound
    rw [binds_bool] at bound
    cases bound
  | number n =>
    intro zoneKey bound
    rw [binds_number, Bool.and_eq_true] at bound
    obtain ⟨rfl, known⟩ := bound
    exact ⟨.number n, .here, n.text, Zones.knows_iff.mp known, rfl⟩
  | text s ih =>
    intro zoneKey bound
    cases stored : blob? s with
    | some v =>
      rw [binds_stored z zoneKey stored] at bound
      obtain ⟨place, inside, names⟩ := ih v stored zoneKey bound
      exact ⟨place, .stored stored inside, names⟩
    | none =>
      rw [binds_text z zoneKey stored, Bool.and_eq_true] at bound
      obtain ⟨rfl, known⟩ := bound
      exact ⟨.text s, .here, s, Zones.knows_iff.mp known, rfl⟩
  | array items ih =>
    intro zoneKey bound
    rw [binds_array, List.any_eq_true] at bound
    obtain ⟨item, member, bound⟩ := bound
    obtain ⟨place, inside, names⟩ := ih item member zoneKey bound
    exact ⟨place, .item member inside, names⟩
  | object fields ih =>
    intro zoneKey bound
    rw [binds_object, isBound, List.any_eq_true] at bound
    obtain ⟨entry, member, bound⟩ := bound
    obtain ⟨place, inside, names⟩ := ih entry member _ bound
    exact ⟨place, .member member inside, names⟩

/-! ## Writing into a map -/

section Writing

variable {z : Zones} {fields : Fields} {key : String} {value : Value}

/-- The values of a map are settled under their keys. -/
def AllSettled (z : Zones) (fields : Fields) : Prop :=
  ∀ entry ∈ fields, Settled z (holdsZoneIds entry.1) entry.2

theorem AllSettled.insert (settled : AllSettled z fields)
    (new : Settled z (holdsZoneIds key) value) :
    AllSettled z (Entries.insert key value fields) := by
  intro entry member
  rcases Entries.mem_insert member with rfl | old
  · exact new
  · exact settled entry old

theorem mem_insert_of_ne {entry : String × Value} (member : entry ∈ fields)
    (other : entry.1 ≠ key) : entry ∈ Entries.insert key value fields :=
  (Entries.mem_insert_of_mem member).resolve_right fun gone => other gone.1

theorem isBound_iff :
    isBound z fields = true ↔ ∃ entry ∈ fields, binds z (holdsZoneIds entry.1) entry.2 = true :=
  List.any_eq_true

theorem isBound_insert_new (new : binds z (holdsZoneIds key) value = true) :
    isBound z (Entries.insert key value fields) = true :=
  isBound_iff.mpr
    ⟨(key, value), Entries.mem_of_get? (Entries.get?_insert_self key value fields), new⟩

/-- A value that binds nothing and replaces nothing that did changes nothing
about the binding. -/
theorem isBound_insert (new : binds z (holdsZoneIds key) value = false)
    (old : ∀ v, Entries.get? key fields = some v -> binds z (holdsZoneIds key) v = false) :
    isBound z (Entries.insert key value fields) = isBound z fields := by
  rw [Bool.eq_iff_iff, isBound_iff, isBound_iff]
  constructor
  · rintro ⟨entry, member, bound⟩
    rcases Entries.mem_insert member with rfl | among
    · rw [new] at bound
      cases bound
    · exact ⟨entry, among, bound⟩
  · rintro ⟨entry, member, bound⟩
    rcases Entries.mem_insert_of_mem member with stays | ⟨same, found⟩
    · exact ⟨entry, stays, bound⟩
    · rw [same, old _ found] at bound
      cases bound

end Writing

/-! ## The binding to all zones -/

section BindToAll

variable {z : Zones} {fields : Fields}

/-- The `args` of a map can take a binding: they are missing, null or an
object. -/
def ArgsOpen (fields : Fields) : Prop :=
  ∀ args, Entries.get? "args" fields = some args -> args.isNull = true ∨ args.isObject = true

/-- The members that the `args` of a map have before it is bound: those of an
object, and none if there are no `args` yet. -/
def OldArgs (fields args : Fields) : Prop :=
  Entries.get? "args" fields = some (.object args) ∨
    args = [] ∧ ∀ v, Entries.get? "args" fields = some v -> v = .null

theorem holdsZoneIds_polygonIds : holdsZoneIds "polygon_ids" = true := rfl

theorem holdsZoneIds_center : holdsZoneIds "center" = false := rfl

/-- All zones are written into the `args`, or these cannot take a binding and
nothing is written. -/
theorem bindToAll_cases (z : Zones) (fields : Fields) :
    (∃ args, OldArgs fields args ∧ bindToAll z fields =
      Entries.insert "args" (.object (Entries.insert "polygon_ids" (.array z.allIds) args)) fields) ∨
    ¬ ArgsOpen fields ∧ bindToAll z fields = fields := by
  unfold bindToAll
  split
  · next args found => exact Or.inl ⟨args, Or.inl found, rfl⟩
  · next found => exact Or.inl ⟨[], Or.inr ⟨rfl, fun v same => by rw [found] at same; cases same⟩, rfl⟩
  · next found =>
    exact Or.inl ⟨[], Or.inr ⟨rfl, fun v same => (Option.some.inj (found.symm.trans same)).symm⟩, rfl⟩
  · next args noObject noNull found =>
    refine Or.inr ⟨fun isOpen => ?_, rfl⟩
    rcases isOpen args found with null | object
    · cases args <;> first | exact absurd rfl noNull | cases null
    · cases args <;> first | exact absurd rfl (noObject _) | cases object

theorem OldArgs.argsOpen {args : Fields} (old : OldArgs fields args) : ArgsOpen fields := by
  intro other found
  rcases old with object | ⟨-, null⟩
  · cases object.symm.trans found
    exact Or.inr rfl
  · cases null other found
    exact Or.inl rfl

theorem binds_allIds (sound : z.Sound) : binds z true (.array z.allIds) = true := by
  rw [binds_array, List.any_eq_true]
  refine ⟨.text z.fallback, List.mem_map_of_mem sound.fallback, ?_⟩
  rw [binds_text z true (sound.plain _ sound.fallback), Zones.knows_iff.mpr sound.fallback]
  rfl

theorem isBound_bindToAll (sound : z.Sound) (isOpen : ArgsOpen fields) :
    isBound z (bindToAll z fields) = true := by
  rcases bindToAll_cases z fields with ⟨args, -, written⟩ | ⟨closed, -⟩
  · rw [written]
    refine isBound_insert_new ?_
    rw [binds_object]
    exact isBound_insert_new (holdsZoneIds_polygonIds ▸ binds_allIds sound)
  · exact absurd isOpen closed

/-- Other `args` are left alone. -/
theorem bindToAll_of_not_argsOpen (closed : ¬ ArgsOpen fields) : bindToAll z fields = fields := by
  rcases bindToAll_cases z fields with ⟨args, old, -⟩ | ⟨-, same⟩
  · exact absurd old.argsOpen closed
  · exact same

theorem mem_bindToAll {entry : String × Value} (member : entry ∈ fields)
    (other : entry.1 ≠ "args") : entry ∈ bindToAll z fields := by
  rcases bindToAll_cases z fields with ⟨args, -, written⟩ | ⟨-, same⟩
  · rw [written]
    exact mem_insert_of_ne member other
  · rw [same]
    exact member

theorem AllSettled.bindToAll (sound : z.Sound) (settled : AllSettled z fields) :
    AllSettled z (bindToAll z fields) := by
  rcases bindToAll_cases z fields with ⟨args, old, written⟩ | ⟨-, same⟩
  · have members : AllSettled z args := by
      rcases old with object | ⟨rfl, -⟩
      · cases settled _ (Entries.mem_of_get? object) with
        | object each => exact each
      · exact fun _ member => absurd member List.not_mem_nil
    rw [written]
    exact settled.insert (.object (members.insert (holdsZoneIds_polygonIds ▸ .allIds sound)))
  · rw [same]
    exact settled

end BindToAll

/-! ## The centre -/

section Center

variable {z : Zones} {zones : List Zone} {fields : Fields}

theorem settled_toJson (center : Geometry.Position) : Settled z false center.toJson := by
  have float : ∀ x, Settled z false (Value.float x) := by
    intro x
    unfold Value.float
    split
    · exact .number fun key => nomatch key
    · exact .null
  refine .array (fun key => nomatch key) ?_
  simp [float]

theorem binds_toJson (center : Geometry.Position) : binds z false center.toJson = false := by
  have float : ∀ x, binds z false (Value.float x) = false := by
    intro x
    unfold Value.float
    split
    · exact binds_number z false _
    · exact binds_null z false
  rw [Geometry.Position.toJson, binds_array]
  simp [float]

/-- What lacks a centre is bound by none. -/
theorem binds_of_lacksCenter (lacks : lacksCenter fields = true) {v : Value}
    (found : Entries.get? "center" fields = some v) : binds z false v = false := by
  unfold lacksCenter at lacks
  rw [found] at lacks
  cases v with
  | null => exact binds_null z false
  | text s =>
    rw [String.isEmpty_iff.mp lacks]
    exact binds_text z false rfl
  | array items =>
    rw [List.isEmpty_iff.mp lacks]
    exact binds_array z false []
  | bool | number | object => cases lacks

theorem fillCenter_cases (zones : List Zone) (fields : Fields) :
    fillCenter zones fields = fields ∨ lacksCenter fields = true ∧
      ∃ center : Geometry.Position,
        fillCenter zones fields = Entries.insert "center" center.toJson fields := by
  unfold fillCenter
  split
  · next lacks =>
    split
    · next center _ => exact Or.inr ⟨lacks, center, rfl⟩
    · exact Or.inl rfl
  · exact Or.inl rfl

theorem isBound_fillCenter : isBound z (fillCenter zones fields) = isBound z fields := by
  rcases fillCenter_cases zones fields with same | ⟨lacks, center, filled⟩
  · rw [same]
  · rw [filled]
    refine isBound_insert ?_ fun v found => ?_
    · rw [holdsZoneIds_center]
      exact binds_toJson center
    · rw [holdsZoneIds_center]
      exact binds_of_lacksCenter lacks found

theorem AllSettled.fillCenter (settled : AllSettled z fields) :
    AllSettled z (fillCenter zones fields) := by
  rcases fillCenter_cases zones fields with same | ⟨-, center, filled⟩
  · rw [same]
    exact settled
  · rw [filled]
    exact settled.insert (holdsZoneIds_center ▸ settled_toJson center)

theorem mem_fillCenter {entry : String × Value} (member : entry ∈ fields)
    (other : entry.1 ≠ "center") : entry ∈ fillCenter zones fields := by
  rcases fillCenter_cases zones fields with same | ⟨-, center, filled⟩
  · rw [same]
    exact member
  · rw [filled]
    exact mem_insert_of_ne member other

theorem get?_fillCenter {key : String} (other : key ≠ "center") :
    Entries.get? key (fillCenter zones fields) = Entries.get? key fields := by
  rcases fillCenter_cases zones fields with same | ⟨-, center, filled⟩
  · rw [same]
  · rw [filled, Entries.get?_insert_of_ne other]

/-- A centre is filled in once. -/
theorem fillCenter_fillCenter (zones : List Zone) (fields : Fields) :
    fillCenter zones (fillCenter zones fields) =
      fillCenter zones fields := by
  rcases fillCenter_cases zones fields with same | ⟨-, center, filled⟩
  · rw [same, same]
  · have there : lacksCenter (Entries.insert "center" center.toJson fields) = false := by
      rw [lacksCenter, Entries.get?_insert_self]
      rfl
    rw [filled, fillCenter, there]
    rfl

end Center

/-! ## The whole repair -/

section Repair

variable {z : Zones} {zones : List Zone} {fields : Fields}

/-- A map as it is once its values are repaired: bound, if it can be. -/
def bound (z : Zones) (fields : Fields) : Fields :=
  if isBound z fields then fields else bindToAll z fields

theorem repair_eq (given : Zones.of? zones = some z) :
    repair zones fields = fillCenter zones (bound z (repairedFields z fields)) := by
  rw [repair, given]
  rfl

theorem bound_of_isBound (already : isBound z fields = true) : bound z fields = fields :=
  if_pos already

/-- A map is left alone, or bound to all zones if nothing binds it yet. -/
theorem bound_eq_or (z : Zones) (fields : Fields) : bound z fields = fields ∨
    isBound z fields = false ∧ bound z fields = bindToAll z fields := by
  cases already : isBound z fields with
  | true => exact Or.inl (bound_of_isBound already)
  | false => exact Or.inr ⟨rfl, if_neg (Bool.eq_false_iff.mp already)⟩

theorem get?_bound (z : Zones) (fields : Fields) {key : String} (other : key ≠ "args") :
    Entries.get? key (bound z fields) = Entries.get? key fields := by
  rcases bound_eq_or z fields with kept | ⟨-, toAll⟩
  · rw [kept]
  · rw [toAll]
    rcases bindToAll_cases z fields with ⟨args, -, written⟩ | ⟨-, kept⟩
    · rw [written, Entries.get?_insert_of_ne other]
    · rw [kept]

/-- The `args` of a map are left alone, or get all zones because nothing
binds the map. -/
theorem args_bound (z : Zones) (fields : Fields) :
    Entries.get? "args" (bound z fields) = Entries.get? "args" fields ∨
      isBound z fields = false ∧ ∃ args, OldArgs fields args ∧
        Entries.get? "args" (bound z fields) =
          some (.object (Entries.insert "polygon_ids" (.array z.allIds) args)) := by
  rcases bound_eq_or z fields with kept | ⟨free, toAll⟩
  · exact Or.inl (congrArg _ kept)
  · rw [toAll]
    rcases bindToAll_cases z fields with ⟨args, old, written⟩ | ⟨-, kept⟩
    · exact Or.inr ⟨free, args, old, written ▸ Entries.get?_insert_self _ _ _⟩
    · exact Or.inl (congrArg _ kept)

theorem bound_of_not_argsOpen (closed : ¬ ArgsOpen fields) : bound z fields = fields := by
  rcases bound_eq_or z fields with same | ⟨-, toAll⟩
  · exact same
  · exact toAll.trans (bindToAll_of_not_argsOpen closed)

/-- A map is bound, or it cannot be and stays as it is. -/
theorem bound_cases (sound : z.Sound) (fields : Fields) :
    isBound z (bound z fields) = true ∨ bound z fields = fields ∧ ¬ ArgsOpen fields := by
  by_cases isOpen : ArgsOpen fields
  · cases already : isBound z fields with
    | true => exact Or.inl ((congrArg (isBound z) (bound_of_isBound already)).trans already)
    | false =>
      have toAll : bound z fields = bindToAll z fields := if_neg (Bool.eq_false_iff.mp already)
      exact Or.inl (toAll ▸ isBound_bindToAll sound isOpen)
  · exact Or.inr ⟨bound_of_not_argsOpen isOpen, isOpen⟩

theorem AllSettled.bound (sound : z.Sound) (settled : AllSettled z fields) :
    AllSettled z (bound z fields) := by
  rcases bound_eq_or z fields with same | ⟨-, toAll⟩
  · rw [same]
    exact settled
  · rw [toAll]
    exact settled.bindToAll sound

/-- Fields other than `args` and `center` are repaired and nothing else. -/
theorem mem_repair (given : Zones.of? zones = some z) {key : String} {v : Value}
    (member : (key, v) ∈ fields) (noArgs : key ≠ "args") (noCenter : key ≠ "center") :
    (key, repairValue z (holdsZoneIds key) v) ∈ repair zones fields := by
  have repaired : (key, repairValue z (holdsZoneIds key) v) ∈ repairedFields z fields :=
    List.mem_map_of_mem member
  rw [repair_eq given]
  refine mem_fillCenter ?_ noCenter
  rcases bound_eq_or z (repairedFields z fields) with same | ⟨-, toAll⟩
  · rw [same]
    exact repaired
  · rw [toAll]
    exact mem_bindToAll repaired noArgs

theorem allSettled_repairedFields (sound : z.Sound)
    (readBack : FloatsReadBack false (.object fields)) : AllSettled z (repairedFields z fields) :=
  List.forall_mem_map.mpr fun entry member =>
    settled_repairValue sound entry.2 _ (readBack.member member)

theorem get?_repairedFields (key : String) (fields : Fields) :
    Entries.get? key (repairedFields z fields) =
      (Entries.get? key fields).map (repairValue z (holdsZoneIds key)) := by
  induction fields with
  | nil => rfl
  | cons entry rest ih =>
    obtain ⟨k, v⟩ := entry
    rw [repairedFields, List.map_cons, Entries.get?, Entries.get?]
    split
    · next same => rw [same, Option.map_some]
    · exact ih

/-- Repair makes and removes neither null nor an object. -/
theorem kind_repairValue (zoneKey : Bool) (v : Value) :
    (repairValue z zoneKey v).isNull = v.isNull ∧
      (repairValue z zoneKey v).isObject = v.isObject := by
  cases v with
  | null =>
    rw [repairValue_null]
    exact ⟨rfl, rfl⟩
  | bool flag =>
    rw [repairValue_bool]
    exact ⟨rfl, rfl⟩
  | number n =>
    rcases repairValue_number_cases z zoneKey n with ⟨same, -⟩ | ⟨-, gone⟩
    · rw [same]
      exact ⟨rfl, rfl⟩
    · rw [gone]
      exact ⟨rfl, rfl⟩
  | text s =>
    cases stored : blob? s with
    | some v =>
      rw [repairValue_stored z zoneKey stored]
      exact ⟨rfl, rfl⟩
    | none =>
      rcases repairValue_text_cases z zoneKey stored with ⟨same, -⟩ | ⟨-, gone⟩
      · rw [same]
        exact ⟨rfl, rfl⟩
      · rw [gone]
        exact ⟨rfl, rfl⟩
  | array items =>
    rw [repairValue_array]
    exact ⟨rfl, rfl⟩
  | object fields =>
    rw [repairValue_object]
    exact ⟨rfl, rfl⟩

/-- Repaired `args` can take a binding if they could before. -/
theorem ArgsOpen.repairedFields (isOpen : ArgsOpen fields) :
    ArgsOpen (repairedFields z fields) := by
  intro args found
  rw [get?_repairedFields] at found
  obtain ⟨old, stood, rfl⟩ := Option.map_eq_some_iff.mp found
  rw [(kind_repairValue _ old).1, (kind_repairValue _ old).2]
  exact isOpen old stood

theorem allSettled_repair (sound : z.Sound) (given : Zones.of? zones = some z)
    (readBack : FloatsReadBack false (.object fields)) : AllSettled z (repair zones fields) := by
  rw [repair_eq given]
  exact ((allSettled_repairedFields sound readBack).bound sound).fillCenter

/-- Every place of a repaired map is in order, and the map names a known zone
unless its `args` stand in the way. -/
theorem places_repair (bindable : Bindable zones) (filled : zones ≠ [])
    (readBack : FloatsReadBack false (.object fields)) :
    (∀ placeKey place, Occurs false (.object (repair zones fields)) placeKey place ->
      InOrder (zones.map Zone.id) placeKey place) ∧
    (ArgsOpen fields -> ∃ place, Occurs false (.object (repair zones fields)) true place ∧
      ∃ id ∈ zones.map Zone.id, Names id place) := by
  obtain ⟨z, given⟩ : ∃ z, Zones.of? zones = some z := by
    cases zones with
    | nil => exact absurd rfl filled
    | cons first rest => exact ⟨_, rfl⟩
  have sound := Zones.sound_of? bindable given
  rw [← Zones.all_of? given]
  constructor
  · intro placeKey place occurs
    exact Settled.inOrder (.object (allSettled_repair sound given readBack)) occurs
  · intro isOpen
    have isBound : binds z false (.object (repair zones fields)) = true := by
      rw [binds_object, repair_eq given, isBound_fillCenter]
      rcases bound_cases sound (repairedFields z fields) with bound | ⟨-, closed⟩
      · exact bound
      · exact absurd isOpen.repairedFields closed
    exact exists_place_of_binds _ false isBound

/-- Two zones. -/
def northSouth : List Zone :=
  [⟨"north", "North", []⟩, ⟨"south", "South", []⟩]

theorem bindable_northSouth : Bindable northSouth := by
  refine ⟨by decide, by decide, ?_, ?_⟩
  all_goals
    simp only [northSouth, List.forall_mem_cons]
    exact ⟨rfl, rfl, fun _ member => nomatch member⟩

/-- A list of ids as a text, with a float and an integer in it. -/
def layersText : String :=
  "\x7b\"zone_ids\":[7.5,3]\x7d"

def layersValue : Value :=
  .object [("zone_ids", .array [.number (.float 7.5), .number (.integer 3)])]

/-- A map that stores this text. -/
def layers : Fields :=
  [("layers", .text layersText)]

theorem blob?_layersText : blob? layersText = some layersValue := by
  have cut : Json.lexemes? layersText.toList = some layersValue.lexemes := rfl
  have read : Value.ofText? layersText = some layersValue := by
    rw [Value.ofText?, Value.ofChars?, cut]
    rfl
  exact blob?_of_ofText? read rfl (Or.inl rfl)

/-- The places of the stored value: no text, and one float. -/
theorem place_layersValue {zoneKey placeKey : Bool} {place : Value}
    (occurs : Occurs zoneKey layersValue placeKey place) :
    (∀ s, place ≠ .text s) ∧ ∀ x, place = .number (.float x) -> x = 7.5 := by
  unfold layersValue at occurs
  cases occurs with
  | here => exact ⟨fun _ same => (nomatch same), fun _ same => (nomatch same)⟩
  | member among inside =>
    cases List.mem_singleton.mp among
    cases inside with
    | here => exact ⟨fun _ same => (nomatch same), fun _ same => (nomatch same)⟩
    | item among inside =>
      simp only [List.mem_cons, List.not_mem_nil, or_false] at among
      rcases among with rfl | rfl
      · cases inside
        refine ⟨fun _ same => (nomatch same), fun x same => ?_⟩
        cases same
        rfl
      · cases inside
        exact ⟨fun _ same => (nomatch same), fun _ same => (nomatch same)⟩

/-- The only float in the stored text is read back. -/
theorem floatsReadBack_layers : FloatsReadBack false (.object layers) := by
  rintro x ⟨textKey, s, inner, numberKey, place, stored, number⟩
  have text : s = layersText := by
    unfold layers at place
    cases place with
    | member among inside =>
      cases List.mem_singleton.mp among
      cases inside with
      | here => rfl
      | stored holds inside =>
        rw [blob?_layersText] at holds
        cases holds
        exact absurd rfl ((place_layersValue inside).1 s)
  rw [text, blob?_layersText] at stored
  cases stored
  rw [(place_layersValue number).2 x rfl, Value.readsBack_number]
  decide +kernel

theorem places_repair_layers : Bindable northSouth ∧ northSouth ≠ [] ∧
    FloatsReadBack false (.object layers) ∧ ArgsOpen layers ∧
    (∀ placeKey place, Occurs false (.object (repair northSouth layers)) placeKey place ->
      InOrder (northSouth.map Zone.id) placeKey place) ∧
    ∃ place, Occurs false (.object (repair northSouth layers)) true place ∧
      ∃ id ∈ northSouth.map Zone.id, Names id place := by
  have filled : northSouth ≠ [] := List.cons_ne_nil _ _
  have isOpen : ArgsOpen layers := fun _ found => nomatch found
  have places := places_repair bindable_northSouth filled floatsReadBack_layers
  exact ⟨bindable_northSouth, filled, floatsReadBack_layers, isOpen, places.1, places.2 isOpen⟩

/-- The text of this float is read as the float above it. -/
def tiny : Float := 1 / 1e30

/-- Zones one of which has the text of that float as its id. -/
def tinyZones : List Zone :=
  [⟨"north", "North", []⟩, ⟨"9.999999999999999e-31", "Tiny", []⟩]

theorem bindable_tinyZones : Bindable tinyZones := by
  refine ⟨by decide, by decide, ?_, ?_⟩
  all_goals
    simp only [tinyZones, List.forall_mem_cons]
    exact ⟨rfl, rfl, fun _ member => nomatch member⟩

/-- An object with a number as its only zone id. -/
def idObject (x : Float) : Value :=
  .object [("zone_id", .number (.float x))]

theorem blob?_idObject {s : String} {x : Float}
    (cut : Json.lexemes? s.toList = some (idObject x).lexemes)
    (starts : (Text.trimStart s.toList).head? = some '{') : blob? s = some (idObject x) := by
  refine blob?_of_ofText? ?_ rfl (Or.inl starts)
  rw [Value.ofText?, Value.ofChars?, cut]
  rfl

/-- The map stores a float whose text is a known id.  The repair keeps the
float and writes its text, and this text holds another float, which is no
id. -/
theorem places_repair_tiny : Bindable tinyZones ∧
    ¬ ∀ placeKey place, Occurs false (.object
        (repair tinyZones [("layers", .text "\x7b\"zone_id\": 1e-30\x7d")])) placeKey place ->
      InOrder (tinyZones.map Zone.id) placeKey place := by
  refine ⟨bindable_tinyZones, fun inOrder => ?_⟩
  have zoneKey : holdsZoneIds "zone_id" = true := by decide +kernel
  have otherKey : holdsZoneIds "layers" = false := by decide +kernel
  have stored : blob? "\x7b\"zone_id\": 1e-30\x7d" = some (idObject tiny) :=
    blob?_idObject (by decide +kernel) (by decide +kernel)
  have again : blob? (idObject tiny).compact = some (idObject 1e-30) :=
    blob?_idObject (by decide +kernel) (by decide +kernel)
  have known : Settled ⟨"north", tinyZones.map Zone.id⟩ false (idObject tiny) := by
    refine .object (List.forall_mem_singleton.mpr ?_)
    rw [zoneKey]
    exact .number fun _ => by decide +kernel
  have kept : repairValue ⟨"north", tinyZones.map Zone.id⟩ false
      (.text "\x7b\"zone_id\": 1e-30\x7d") = .text (idObject tiny).compact := by
    rw [repairValue_stored _ _ stored, known.repairValue_eq]
  have given : Zones.of? tinyZones = some ⟨"north", tinyZones.map Zone.id⟩ := rfl
  have member := mem_repair given (List.mem_singleton_self
    ("layers", Value.text "\x7b\"zone_id\": 1e-30\x7d")) (by decide) (by decide)
  rw [otherKey, kept] at member
  have number : Occurs false (idObject 1e-30) true (.number (.float 1e-30)) :=
    .member (List.mem_singleton_self _) (zoneKey ▸ .here)
  have inside : Occurs (holdsZoneIds "layers") (.text (idObject tiny).compact) true
      (.number (.float 1e-30)) := by
    rw [otherKey]
    exact .stored again number
  exact absurd (inOrder true _ (.member member inside) rfl) (by decide +kernel)

/-- A second repair changes nothing. -/
theorem repair_repair (bindable : Bindable zones)
    (readBack : FloatsReadBack false (.object fields)) :
    repair zones (repair zones fields) = repair zones fields := by
  cases given : Zones.of? zones with
  | none =>
    rw [repair, given]
  | some z =>
    have sound := Zones.sound_of? bindable given
    have settled := allSettled_repair sound given readBack
    have values : repairedFields z (repair zones fields) = repair zones fields :=
      repairedFields_eq_self fun entry member => (settled entry member).repairValue_eq
    -- The centre binds nothing and replaces nothing that did, so the map is
    -- as bound as it was before the centre was filled in.
    have binding : bound z (repair zones fields) = repair zones fields := by
      rw [repair_eq given]
      rcases bound_cases sound (repairedFields z fields) with already | ⟨same, closed⟩
      · exact bound_of_isBound (isBound_fillCenter.trans already)
      · rw [same]
        refine bound_of_not_argsOpen fun isOpen => closed fun args found => ?_
        exact isOpen args ((get?_fillCenter (by decide)).trans found)
    have center : fillCenter zones (repair zones fields) = repair zones fields := by
      rw [repair_eq given, fillCenter_fillCenter]
    calc repair zones (repair zones fields)
        = fillCenter zones (bound z (repairedFields z (repair zones fields))) := repair_eq given
      _ = fillCenter zones (bound z (repair zones fields)) := by rw [values]
      _ = fillCenter zones (repair zones fields) := by rw [binding]
      _ = repair zones fields := center

theorem repair_repair_layers : Bindable northSouth ∧ FloatsReadBack false (.object layers) ∧
    repair northSouth (repair northSouth layers) = repair northSouth layers :=
  ⟨bindable_northSouth, floatsReadBack_layers,
    repair_repair bindable_northSouth floatsReadBack_layers⟩

end Repair

end MapWidget
end Sensornet
