import Sensornet.Proofs.Json.Contents
import Sensornet.Proofs.MapWidget.Stored

namespace Sensornet
namespace MapWidget

/-!
# The recursion through stored texts ends

The repair goes from a list to its items, from an object to its members, and
from a text to the value that is stored in it.  The last step leaves the value
for one that need not be smaller, except that all texts in it are shorter than
the text it comes from.  So no descent goes on for ever.

`Repairs` and `Searches` state the recursion by rules, without any bound on the
texts within texts.  A derivation is a finished run.  Every value has one under
every key, and what `repairValue` and `binds` compute within a bound is what
these runs return.
-/

open Json (Value Fields)

/-! ## The descent -/

/-- Every text in a stored value, a key among them, is shorter than the text
that stores it. -/
theorem length_lt_of_blob? {s t : String} {v : Value} (stored : blob? s = some v)
    (holds : v.Holds t) : t.length < s.length := by
  have bound := Value.length_add_two_le_of_holds (blob?_eq_some stored).1 holds
  omega

/-- The values that the repair of a value goes on to. -/
inductive Below : Value -> Value -> Prop where
  | item {items : List Value} {item : Value} (member : item ∈ items) : Below item (.array items)
  | member {fields : Fields} {entry : String × Value} (member : entry ∈ fields) :
    Below entry.2 (.object fields)
  | stored {s : String} {v : Value} (stored : blob? s = some v) : Below v (.text s)

/-- No descent goes on for ever. -/
theorem wellFounded_below : WellFounded Below := by
  refine ⟨fun v => ?_⟩
  induction v using stored_induction with
  | null | bool | number => exact ⟨_, fun inner below => nomatch below⟩
  | text s ih =>
    refine ⟨_, fun inner below => ?_⟩
    cases below with
    | stored stored => exact ih inner stored
  | array items ih =>
    refine ⟨_, fun inner below => ?_⟩
    cases below with
    | item member => exact ih inner member
  | object fields ih =>
    refine ⟨_, fun inner below => ?_⟩
    cases below with
    | member member => exact ih _ member

/-! ## Finished runs -/

section Runs

variable (z : Zones)

/-- A finished repair of a value under a key, and what it returns. -/
inductive Repairs : Bool -> Value -> Value -> Prop where
  | null {zoneKey : Bool} : Repairs zoneKey .null .null
  | bool {zoneKey flag : Bool} : Repairs zoneKey (.bool flag) (.bool flag)
  | number {zoneKey : Bool} {n : Json.Number} :
    Repairs zoneKey (.number n) (if zoneKey then z.idOrFallback (.number n) else .number n)
  | text {zoneKey : Bool} {s : String} (plain : blob? s = none) :
    Repairs zoneKey (.text s)
      (if zoneKey then z.idOrFallback (.text s)
        else if standsForZone s then .text z.fallback
        else .text s)
  | stored {zoneKey : Bool} {s : String} {v repaired : Value} (stored : blob? s = some v)
    (inside : Repairs zoneKey v repaired) : Repairs zoneKey (.text s) (.text repaired.compact)
  | array {zoneKey : Bool} {items : List Value} {repaired : Value -> Value}
    (each : ∀ item ∈ items, Repairs zoneKey item (repaired item)) :
    Repairs zoneKey (.array items)
      (.array (if zoneKey then z.listed (items.map repaired) else items.map repaired))
  | object {zoneKey : Bool} {fields : Fields} {repaired : String × Value -> Value}
    (each : ∀ entry ∈ fields, Repairs (holdsZoneIds entry.1) entry.2 (repaired entry)) :
    Repairs zoneKey (.object fields) (.object (fields.map fun entry => (entry.1, repaired entry)))

/-- A finished search of a value under a key for a place that names a known
zone, and whether there is one.  What stands behind the first such place is
not searched. -/
inductive Searches : Bool -> Value -> Bool -> Prop where
  | null {zoneKey : Bool} : Searches zoneKey .null false
  | bool {zoneKey flag : Bool} : Searches zoneKey (.bool flag) false
  | number {zoneKey : Bool} {n : Json.Number} :
    Searches zoneKey (.number n) (zoneKey && z.knows n.text)
  | text {zoneKey : Bool} {s : String} (plain : blob? s = none) :
    Searches zoneKey (.text s) (zoneKey && z.knows s)
  | stored {zoneKey answer : Bool} {s : String} {v : Value} (stored : blob? s = some v)
    (inside : Searches zoneKey v answer) : Searches zoneKey (.text s) answer
  | inArray {zoneKey : Bool} {before behind : List Value} {item : Value}
    (no : ∀ other ∈ before, Searches zoneKey other false) (yes : Searches zoneKey item true) :
    Searches zoneKey (.array (before ++ item :: behind)) true
  | notInArray {zoneKey : Bool} {items : List Value}
    (no : ∀ item ∈ items, Searches zoneKey item false) : Searches zoneKey (.array items) false
  | inObject {zoneKey : Bool} {before behind : Fields} {entry : String × Value}
    (no : ∀ other ∈ before, Searches (holdsZoneIds other.1) other.2 false)
    (yes : Searches (holdsZoneIds entry.1) entry.2 true) :
    Searches zoneKey (.object (before ++ entry :: behind)) true
  | notInObject {zoneKey : Bool} {fields : Fields}
    (no : ∀ entry ∈ fields, Searches (holdsZoneIds entry.1) entry.2 false) :
    Searches zoneKey (.object fields) false

end Runs

/-! ## What the runs return -/

variable {z : Zones}

theorem repairs_iff (v : Value) : ∀ (zoneKey : Bool) (repaired : Value),
    Repairs z zoneKey v repaired ↔ repaired = repairValue z zoneKey v := by
  induction v using stored_induction with
  | null | bool | number =>
    intro zoneKey repaired
    constructor
    · intro run
      cases run
      rfl
    · rintro rfl
      constructor
  | text s ih =>
    intro zoneKey repaired
    cases holds : blob? s with
    | none =>
      rw [repairValue_text z zoneKey holds]
      constructor
      · intro run
        cases run with
        | text => rfl
        | stored stored => cases holds.symm.trans stored
      · rintro rfl
        exact .text holds
    | some v =>
      rw [repairValue_stored z zoneKey holds]
      constructor
      · intro run
        cases run with
        | text plain => cases holds.symm.trans plain
        | stored stored inside =>
          cases holds.symm.trans stored
          rw [(ih v holds zoneKey _).mp inside]
      · rintro rfl
        exact .stored holds ((ih v holds zoneKey _).mpr rfl)
  | array items ih =>
    intro zoneKey repaired
    rw [repairValue_array]
    constructor
    · intro run
      cases run with
      | array each =>
        rw [List.map_congr_left fun item member => (ih item member zoneKey _).mp (each item member)]
    · rintro rfl
      exact .array fun item member => (ih item member zoneKey _).mpr rfl
  | object fields ih =>
    intro zoneKey repaired
    rw [repairValue_object]
    constructor
    · intro run
      cases run with
      | object each =>
        refine congrArg Value.object (List.map_congr_left fun entry member => ?_)
        rw [(ih entry member _ _).mp (each entry member)]
    · rintro rfl
      exact .object fun entry member => (ih entry member _ _).mpr rfl

/-- A finished search of a list, item after item: all items were searched in
vain, or all before the first one that has what is looked for. -/
def SearchesEach {A : Type} (searches : A -> Bool -> Prop) (items : List A) (answer : Bool) :
    Prop :=
  (answer = true ∧ ∃ before item behind, items = before ++ item :: behind ∧
    (∀ other ∈ before, searches other false) ∧ searches item true) ∨
  (answer = false ∧ ∀ item ∈ items, searches item false)

theorem searches_array_iff {zoneKey answer : Bool} {items : List Value} :
    Searches z zoneKey (.array items) answer ↔
      SearchesEach (Searches z zoneKey) items answer := by
  constructor
  · intro run
    cases run with
    | inArray no yes => exact Or.inl ⟨rfl, _, _, _, rfl, no, yes⟩
    | notInArray no => exact Or.inr ⟨rfl, no⟩
  · rintro (⟨rfl, before, item, behind, rfl, no, yes⟩ | ⟨rfl, no⟩)
    · exact .inArray no yes
    · exact .notInArray no

theorem searches_object_iff {zoneKey answer : Bool} {fields : Fields} :
    Searches z zoneKey (.object fields) answer ↔
      SearchesEach (fun entry => Searches z (holdsZoneIds entry.1) entry.2) fields answer := by
  constructor
  · intro run
    cases run with
    | inObject no yes => exact Or.inl ⟨rfl, _, _, _, rfl, no, yes⟩
    | notInObject no => exact Or.inr ⟨rfl, no⟩
  · rintro (⟨rfl, before, entry, behind, rfl, no, yes⟩ | ⟨rfl, no⟩)
    · exact .inObject no yes
    · exact .notInObject no

/-- Where every item has one answer, so does the search of the list. -/
theorem searchesEach_iff {A : Type} {searches : A -> Bool -> Prop} {asks : A -> Bool}
    {items : List A} (each : ∀ item ∈ items, ∀ answer, searches item answer ↔ answer = asks item)
    (answer : Bool) : SearchesEach searches items answer ↔ answer = items.any asks := by
  constructor
  · rintro (⟨rfl, before, item, behind, rfl, _, yes⟩ | ⟨rfl, no⟩)
    · have member : item ∈ before ++ item :: behind :=
        List.mem_append_right before List.mem_cons_self
      have asked := ((each item member true).mp yes).symm
      exact (List.any_eq_true.mpr ⟨item, member, asked⟩).symm
    · refine (List.any_eq_false.mpr fun item member => ?_).symm
      rw [← (each item member false).mp (no item member)]
      exact Bool.false_ne_true
  · rintro rfl
    cases found : items.any asks with
    | true =>
      have first := List.find?_isSome.mpr (List.any_eq_true.mp found)
      rcases Option.isSome_iff_exists.mp first with ⟨item, first⟩
      rcases List.find?_eq_some_iff_append.mp first with ⟨yes, before, behind, rfl, no⟩
      refine Or.inl ⟨rfl, before, item, behind, rfl, fun other earlier => ?_, ?_⟩
      · have unasked : asks other = false := by simpa using no other earlier
        exact (each other (List.mem_append_left _ earlier) false).mpr unasked.symm
      · exact (each item (List.mem_append_right _ List.mem_cons_self) true).mpr yes.symm
    | false =>
      refine Or.inr ⟨rfl, fun item member => (each item member false).mpr ?_⟩
      exact (Bool.eq_false_iff.mpr (List.any_eq_false.mp found item member)).symm

theorem searches_iff (v : Value) : ∀ (zoneKey answer : Bool),
    Searches z zoneKey v answer ↔ answer = binds z zoneKey v := by
  induction v using stored_induction with
  | null | bool | number =>
    intro zoneKey answer
    constructor
    · intro run
      cases run
      rfl
    · rintro rfl
      constructor
  | text s ih =>
    intro zoneKey answer
    cases holds : blob? s with
    | none =>
      rw [binds_text z zoneKey holds]
      constructor
      · intro run
        cases run with
        | text => rfl
        | stored stored => cases holds.symm.trans stored
      · rintro rfl
        exact .text holds
    | some v =>
      rw [binds_stored z zoneKey holds, ← ih v holds]
      constructor
      · intro run
        cases run with
        | text plain => cases holds.symm.trans plain
        | stored stored inside =>
          cases holds.symm.trans stored
          exact inside
      · exact fun inside => .stored holds inside
  | array items ih =>
    intro zoneKey answer
    rw [binds_array, searches_array_iff]
    exact searchesEach_iff (fun item member => ih item member zoneKey) answer
  | object fields ih =>
    intro zoneKey answer
    rw [binds_object, searches_object_iff]
    exact searchesEach_iff (fun entry member => ih entry member (holdsZoneIds entry.1)) answer

/-- Texts get shorter on the way into stored values, so every descent ends,
and every value has one finished repair and one finished search under every
key, with the results that the bounded functions compute. -/
theorem repair_terminates :
    (∀ s v, blob? s = some v -> ∀ t, v.Holds t -> t.length < s.length) ∧
    WellFounded Below ∧
    ∀ (z : Zones) (zoneKey : Bool) (v : Value),
      (∀ repaired, Repairs z zoneKey v repaired ↔ repaired = repairValue z zoneKey v) ∧
      ∀ answer, Searches z zoneKey v answer ↔ answer = binds z zoneKey v := by
  refine ⟨fun s v stored t holds => length_lt_of_blob? stored holds, wellFounded_below, ?_⟩
  exact fun z zoneKey v => ⟨repairs_iff v zoneKey, searches_iff v zoneKey⟩

/-- A list of ids as a text, which is the only item of a list that is itself a
text. -/
def idsText : String := "[\"north\"]"

def nestedText : String := "[\"[\\\"north\\\"]\"]"

theorem blob?_nestedText : blob? nestedText = some (.array [.text idsText]) := by
  have cut : Json.lexemes? nestedText.toList =
      some [.openArray, .text idsText, .closeArray] := rfl
  have read : Value.ofText? nestedText = some (.array [.text idsText]) := by
    rw [Value.ofText?, Value.ofChars?, cut]
    rfl
  exact blob?_of_ofText? read rfl (Or.inr rfl)

theorem repair_terminates_nested : blob? nestedText = some (.array [.text idsText]) ∧
    (Value.array [.text idsText]).Holds idsText ∧ idsText.length < nestedText.length := by
  have holds : (Value.array [.text idsText]).Holds idsText := .item List.mem_cons_self .text
  exact ⟨blob?_nestedText, holds, repair_terminates.1 _ _ blob?_nestedText _ holds⟩

end MapWidget
end Sensornet
