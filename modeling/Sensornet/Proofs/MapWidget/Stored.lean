import Sensornet.MapWidget.Repair
import Sensornet.Proofs.Json.Legible

namespace Sensornet

/-- Trimming at the end leaves a front of what trimming at the start leaves. -/
theorem Text.trim_prefix (text : List Char) : Text.trim text <+: Text.trimStart text := by
  have suffix := List.dropWhile_suffix (l := (Text.trimStart text).reverse) Text.isBlank
  rw [Text.trim, ← List.reverse_suffix, List.reverse_reverse]
  exact suffix

namespace MapWidget

/-!
# Repair through stored texts

The levels that the repair counts down are enough: a text inside a stored
text is shorter than that text.  So `repairValue` and `binds` obey equations
of their own in which levels do not occur, and what holds of every value can
be shown by an induction that goes from a text to the value stored in it.
-/

open Json (Value Fields)

/-! ## The longest text -/

theorem longestOfItems_le {items : List Value} {bound : Nat} :
    longestOfItems items ≤ bound ↔ ∀ item ∈ items, longestText item ≤ bound := by
  induction items with
  | nil => simp [longestOfItems]
  | cons item rest ih => rw [longestOfItems, Nat.max_le, ih, List.forall_mem_cons]

theorem longestOfFields_le {fields : Fields} {bound : Nat} :
    longestOfFields fields ≤ bound ↔ ∀ entry ∈ fields, longestText entry.2 ≤ bound := by
  induction fields with
  | nil => simp [longestOfFields]
  | cons entry rest ih => rw [longestOfFields, Nat.max_le, ih, List.forall_mem_cons]

theorem longestText_le_of_legible {bound room : Nat} {v : Value}
    (legible : v.Legible (Json.Lexeme.Within bound) room) : longestText v ≤ bound - 2 := by
  induction legible with
  | null | bool | number => exact Nat.zero_le _
  | text within => exact Nat.le_sub_of_add_le within
  | array _ ih => exact longestOfItems_le.mpr ih
  | object _ _ ih => exact longestOfFields_le.mpr ih

/-! ## Stored values -/

/-- A stored value is what its text is read as, and a list or an object. -/
theorem blob?_eq_some {s : String} {v : Value} (stored : blob? s = some v) :
    Value.ofText? s = some v ∧ (v.isObject || v.isArray) = true := by
  unfold blob? at stored
  split at stored
  · exact Option.filter_eq_some_iff.mp stored
  · exact Option.filter_eq_some_iff.mp stored
  · cases stored

theorem blob?_of_ofText? {s : String} {v : Value} (read : Value.ofText? s = some v)
    (container : (v.isObject || v.isArray) = true)
    (starts : (Text.trimStart s.toList).head? = some '{' ∨
      (Text.trimStart s.toList).head? = some '[') : blob? s = some v := by
  obtain ⟨c, rest, front, bracket⟩ : ∃ c rest, Text.trimStart s.toList = c :: rest ∧
      (c = '{' ∨ c = '[') := by
    rcases text : Text.trimStart s.toList with _ | ⟨c, rest⟩
    · rw [text] at starts
      rcases starts with none | none <;> cases none
    · rw [text] at starts
      exact ⟨c, rest, rfl, starts.imp Option.some.inj Option.some.inj⟩
  rcases bracket with rfl | rfl
  · rw [blob?, front, read]
    exact Option.filter_some_pos container
  · rw [blob?, front, read]
    exact Option.filter_some_pos container

/-- A list or an object that is read back from its compact text is stored in
it. -/
theorem blob?_of_readsBack {v : Value} (container : (v.isObject || v.isArray) = true)
    (back : v.ReadsBack) : blob? v.compact = some v := by
  refine blob?_of_ofText? back container ?_
  rw [Value.compact, String.toList_ofList]
  cases v with
  | array items =>
    rw [Value.compactChars]
    exact Or.inr rfl
  | object fields =>
    rw [Value.compactChars]
    exact Or.inl rfl
  | null | bool | number | text => cases container

/-- A text inside a stored text is shorter. -/
theorem longestText_lt_of_blob? {s : String} {v : Value} (stored : blob? s = some v) :
    longestText v < s.length := by
  have bound := longestText_le_of_legible (Value.legible_of_ofText? (blob?_eq_some stored).1)
  have filled : s.length ≠ 0 := by
    intro empty
    rw [String.length_eq_zero_iff.mp empty] at stored
    cases stored
  omega

theorem sizeOf_lt_array {items : List Value} {item : Value} (member : item ∈ items) :
    sizeOf item < sizeOf (Value.array items) := by
  have less := List.sizeOf_lt_of_mem member
  simp only [Value.array.sizeOf_spec]
  omega

theorem sizeOf_lt_object {fields : Fields} {entry : String × Value} (member : entry ∈ fields) :
    sizeOf entry.2 < sizeOf (Value.object fields) := by
  obtain ⟨key, item⟩ := entry
  have less := List.sizeOf_lt_of_mem member
  simp only [Prod.mk.sizeOf_spec] at less
  simp only [Value.object.sizeOf_spec]
  omega

/-- Induction that goes from a list to its items, from an object to its
members and from a text to the value stored in it. -/
theorem stored_induction {motive : Value -> Prop} (null : motive .null)
    (bool : ∀ flag, motive (.bool flag)) (number : ∀ n, motive (.number n))
    (text : ∀ s, (∀ v, blob? s = some v -> motive v) -> motive (.text s))
    (array : ∀ items, (∀ item ∈ items, motive item) -> motive (.array items))
    (object : ∀ fields, (∀ entry ∈ fields, motive entry.2) -> motive (.object fields)) :
    ∀ v, motive v
  | .null => null
  | .bool flag => bool flag
  | .number n => number n
  | .text s => text s fun v _ => stored_induction null bool number text array object v
  | .array items => array items fun item _ =>
    stored_induction null bool number text array object item
  | .object fields => object fields fun entry _ =>
    stored_induction null bool number text array object entry.2
termination_by v => (longestText v, sizeOf v)
decreasing_by
  -- A stored value has shorter texts; an item or a member is a smaller value.
  · exact Prod.Lex.left _ _ (longestText_lt_of_blob? ‹_›)
  · exact Prod.Lex.right' _ (longestOfItems_le.mp (Nat.le_refl _) _ ‹_›) (sizeOf_lt_array ‹_›)
  · exact Prod.Lex.right' _ (longestOfFields_le.mp (Nat.le_refl _) _ ‹_›) (sizeOf_lt_object ‹_›)

/-! ## A placeholder holds no value -/

theorem between?_eq_some {opening closing text inner : List Char}
    (found : between? opening closing text = some inner) : opening ++ inner <+: text := by
  unfold between? at found
  split at found
  · next opens =>
    obtain ⟨behind, rfl⟩ := List.isPrefixOf_iff_prefix.mp opens
    rw [List.drop_left] at found
    dsimp only at found
    split at found
    · cases found
      exact (List.prefix_append_right_inj opening).mpr (List.take_prefix _ _)
    · cases found
  · cases found

/-- What a placeholder is like: two brackets, and behind blanks a letter with
which no word of JSON starts. -/
theorem exists_of_standsForZone {s : String} (stands : standsForZone s = true) :
    ∃ rest c more, Text.trimStart s.toList = '[' :: '[' :: rest ∧
      Text.trimStart rest = c :: more ∧ (c.toLower = 'p' ∨ c.toLower = 'z') := by
  unfold standsForZone at stands
  split at stands
  · next inner found =>
    obtain ⟨behind, whole⟩ := (between?_eq_some found).trans (Text.trim_prefix _)
    have word : ∃ first others, (Text.trim inner).map Char.toLower = first :: others ∧
        (first = 'p' ∨ first = 'z') := by
      dsimp only at stands
      rw [Bool.or_eq_true, beq_iff_eq, beq_iff_eq] at stands
      rcases stands with same | same
      all_goals
        have chars := congrArg String.toList same
        rw [String.toList_ofList] at chars
      · exact ⟨_, _, chars, Or.inl rfl⟩
      · exact ⟨_, _, chars, Or.inr rfl⟩
    obtain ⟨first, others, lower, letter⟩ := word
    obtain ⟨c, trimmed, inside, rfl, -⟩ := List.map_eq_cons_iff.mp lower
    obtain ⟨more, start⟩ := inside ▸ Text.trim_prefix inner
    refine ⟨inner ++ behind, c, trimmed ++ more ++ behind, whole.symm, ?_, letter⟩
    rw [Text.trimStart, List.dropWhile_append, ← Text.trimStart, ← start]
    rfl
  · cases stands

/-- The capitals of the two letters with which a placeholder starts. -/
theorem eq_or_eq_of_toLower {c : Char} (letter : c.toLower = 'p' ∨ c.toLower = 'z') :
    (c = 'p' ∨ c = 'z') ∨ c = 'P' ∨ c = 'Z' := by
  unfold Char.toLower at letter
  split at letter
  · have capital : ∀ d : Char, c.val + ('a'.val - 'A'.val) = d.val + ('a'.val - 'A'.val) -> c = d :=
      fun d same => Char.ext ((UInt32.add_left_inj _).mp same)
    exact Or.inr (letter.imp (fun same => capital 'P' (congrArg Char.val same))
      fun same => capital 'Z' (congrArg Char.val same))
  · exact Or.inl letter

/-- A text that holds a list or an object is no placeholder. -/
theorem standsForZone_of_blob? {s : String} {v : Value} (stored : blob? s = some v) :
    standsForZone s = false := by
  rw [Bool.eq_false_iff]
  intro stands
  obtain ⟨rest, c, more, brackets, word, letter⟩ := exists_of_standsForZone stands
  obtain ⟨lexemes, cut, -⟩ := Option.bind_eq_some_iff.mp (blob?_eq_some stored).1
  obtain ⟨done, scanned, -⟩ := Option.map_eq_some_iff.mp cut
  obtain ⟨scan, reached, closed⟩ := Option.bind_eq_some_iff.mp scanned
  have outer := Json.Scan.run_trimStart reached
  rw [brackets] at outer
  have inner : (⟨.between, [.openArray, .openArray]⟩ : Json.Scan).run (c :: more) = some scan :=
    word ▸ Json.Scan.run_trimStart outer
  -- The small letters begin a word that JSON does not know, the capitals
  -- nothing at all.
  have stuck : scan.close? = none := by
    rcases eq_or_eq_of_toLower letter with (rfl | rfl) | rfl | rfl
    · exact Json.Scan.close?_word (by decide) [] inner
    · exact Json.Scan.close?_word (by decide) [] inner
    · cases inner
    · cases inner
  rw [stuck] at closed
  cases closed

/-! ## Levels do not matter -/

/-- Two questions that agree on the items are answered alike. -/
theorem any_congr_of_mem {A : Type} {items : List A} {asks others : A -> Bool}
    (agree : ∀ item ∈ items, asks item = others item) : items.any asks = items.any others := by
  rw [Bool.eq_iff_iff, List.any_eq_true, List.any_eq_true]
  constructor
  · rintro ⟨item, member, yes⟩
    exact ⟨item, member, agree item member ▸ yes⟩
  · rintro ⟨item, member, yes⟩
    exact ⟨item, member, (agree item member).symm ▸ yes⟩

section Levels

variable (z : Zones) (inside : Bool -> Value -> Value) (asks : Bool -> Value -> Bool)

theorem repairItems_eq_map (zoneKey : Bool) (items : List Value) :
    repairItems z inside zoneKey items = items.map (repairWith z inside zoneKey) := by
  induction items with
  | nil => rfl
  | cons item rest ih => exact congrArg (repairWith z inside zoneKey item :: ·) ih

theorem repairFields_eq_map (fields : Fields) :
    repairFields z inside fields =
      fields.map fun entry => (entry.1, repairWith z inside (holdsZoneIds entry.1) entry.2) := by
  induction fields with
  | nil => rfl
  | cons entry rest ih =>
    exact congrArg ((entry.1, repairWith z inside (holdsZoneIds entry.1) entry.2) :: ·) ih

theorem itemsBind_eq_any (zoneKey : Bool) (items : List Value) :
    itemsBind z asks zoneKey items = items.any (bindsWith z asks zoneKey) := by
  induction items with
  | nil => rfl
  | cons item rest ih => exact congrArg (bindsWith z asks zoneKey item || ·) ih

theorem fieldsBind_eq_any (fields : Fields) :
    fieldsBind z asks fields =
      fields.any fun entry => bindsWith z asks (holdsZoneIds entry.1) entry.2 := by
  induction fields with
  | nil => rfl
  | cons entry rest ih =>
    exact congrArg (bindsWith z asks (holdsZoneIds entry.1) entry.2 || ·) ih

/-- How the value of a stored text is repaired at a level. -/
def repairInside (z : Zones) : Nat -> Bool -> Value -> Value
  | 0 => fun _ stored => stored
  | levels + 1 => repairWithin z levels

/-- How the value of a stored text is asked at a level. -/
def bindsInside (z : Zones) : Nat -> Bool -> Value -> Bool
  | 0 => fun _ _ => false
  | levels + 1 => bindsWithin z levels

theorem repairWithin_eq (levels : Nat) :
    repairWithin z levels = repairWith z (repairInside z levels) := by
  cases levels <;> rfl

theorem bindsWithin_eq (levels : Nat) :
    bindsWithin z levels = bindsWith z (bindsInside z levels) := by
  cases levels <;> rfl

end Levels

/-- The list that stands under a key of zone ids for these items: what is
left when they are cleaned, or all zones. -/
def Zones.listed (z : Zones) (items : List Value) : List Value :=
  if (cleaned items).isEmpty then z.allIds else cleaned items

theorem repairWith_array (z : Zones) (inside : Bool -> Value -> Value) (zoneKey : Bool)
    (items : List Value) :
    repairWith z inside zoneKey (.array items) =
      .array (if zoneKey then z.listed (items.map (repairWith z inside zoneKey))
        else items.map (repairWith z inside zoneKey)) := by
  rw [← repairItems_eq_map]
  cases zoneKey <;> rfl

theorem repairWith_object (z : Zones) (inside : Bool -> Value -> Value) (zoneKey : Bool)
    (fields : Fields) :
    repairWith z inside zoneKey (.object fields) =
      .object (fields.map fun entry =>
        (entry.1, repairWith z inside (holdsZoneIds entry.1) entry.2)) :=
  congrArg Value.object (repairFields_eq_map z inside fields)

theorem repairWith_stored (z : Zones) (inside : Bool -> Value -> Value) (zoneKey : Bool)
    {s : String} {v : Value} (stored : blob? s = some v) :
    repairWith z inside zoneKey (.text s) = .text (inside zoneKey v).compact := by
  rw [repairWith, stored]

theorem repairWith_text (z : Zones) (inside : Bool -> Value -> Value) (zoneKey : Bool)
    {s : String} (plain : blob? s = none) :
    repairWith z inside zoneKey (.text s) =
      if zoneKey then z.idOrFallback (.text s)
      else if standsForZone s then .text z.fallback
      else .text s := by
  rw [repairWith, plain]

theorem bindsWith_array (z : Zones) (asks : Bool -> Value -> Bool) (zoneKey : Bool)
    (items : List Value) :
    bindsWith z asks zoneKey (.array items) = items.any (bindsWith z asks zoneKey) :=
  itemsBind_eq_any z asks zoneKey items

theorem bindsWith_object (z : Zones) (asks : Bool -> Value -> Bool) (zoneKey : Bool)
    (fields : Fields) :
    bindsWith z asks zoneKey (.object fields) =
      fields.any fun entry => bindsWith z asks (holdsZoneIds entry.1) entry.2 :=
  fieldsBind_eq_any z asks fields

theorem bindsWith_stored (z : Zones) (asks : Bool -> Value -> Bool) (zoneKey : Bool)
    {s : String} {v : Value} (stored : blob? s = some v) :
    bindsWith z asks zoneKey (.text s) = asks zoneKey v := by
  rw [bindsWith, stored]

theorem bindsWith_text (z : Zones) (asks : Bool -> Value -> Bool) (zoneKey : Bool)
    {s : String} (plain : blob? s = none) :
    bindsWith z asks zoneKey (.text s) = (zoneKey && z.knows s) := by
  rw [bindsWith, plain]

/-- Levels that are enough for a stored text leave enough for its value. -/
theorem exists_level {s : String} {v : Value} {levels : Nat} (stored : blob? s = some v)
    (enough : longestText (.text s) ≤ levels) :
    ∃ left, levels = left + 1 ∧ longestText v ≤ left := by
  have shorter : longestText v < longestText (.text s) := longestText_lt_of_blob? stored
  exact ⟨levels - 1, by omega, by omega⟩

/-- Two numbers of levels that are both enough give the same. -/
theorem repairWithin_congr (z : Zones) (v : Value) :
    ∀ {few many : Nat} (zoneKey : Bool), longestText v ≤ few -> longestText v ≤ many ->
      repairWithin z few zoneKey v = repairWithin z many zoneKey v := by
  induction v using stored_induction with
  | null | bool flag | number n =>
    intro few many zoneKey _ _
    rw [repairWithin_eq, repairWithin_eq]
    rfl
  | text s ih =>
    intro few many zoneKey enough plenty
    rw [repairWithin_eq, repairWithin_eq]
    cases stored : blob? s with
    | none => rw [repairWith_text _ _ _ stored, repairWith_text _ _ _ stored]
    | some v =>
      obtain ⟨few, rfl, fewer⟩ := exists_level stored enough
      obtain ⟨many, rfl, still⟩ := exists_level stored plenty
      rw [repairWith_stored _ _ _ stored, repairWith_stored _ _ _ stored]
      exact congrArg (fun inner => Value.text inner.compact) (ih v stored zoneKey fewer still)
  | array items ih =>
    intro few many zoneKey enough plenty
    have same : items.map (repairWithin z few zoneKey) = items.map (repairWithin z many zoneKey) :=
      List.map_congr_left fun item member =>
        ih item member zoneKey (longestOfItems_le.mp enough item member)
          (longestOfItems_le.mp plenty item member)
    rw [repairWithin_eq, repairWithin_eq] at same ⊢
    rw [repairWith_array, repairWith_array, same]
  | object fields ih =>
    intro few many zoneKey enough plenty
    rw [repairWithin_eq, repairWithin_eq, repairWith_object, repairWith_object,
      ← repairWithin_eq, ← repairWithin_eq]
    refine congrArg Value.object (List.map_congr_left fun entry member => ?_)
    rw [ih entry member _ (longestOfFields_le.mp enough entry member)
      (longestOfFields_le.mp plenty entry member)]

theorem bindsWithin_congr (z : Zones) (v : Value) :
    ∀ {few many : Nat} (zoneKey : Bool), longestText v ≤ few -> longestText v ≤ many ->
      bindsWithin z few zoneKey v = bindsWithin z many zoneKey v := by
  induction v using stored_induction with
  | null | bool flag | number n =>
    intro few many zoneKey _ _
    rw [bindsWithin_eq, bindsWithin_eq]
    rfl
  | text s ih =>
    intro few many zoneKey enough plenty
    rw [bindsWithin_eq, bindsWithin_eq]
    cases stored : blob? s with
    | none => rw [bindsWith_text _ _ _ stored, bindsWith_text _ _ _ stored]
    | some v =>
      obtain ⟨few, rfl, fewer⟩ := exists_level stored enough
      obtain ⟨many, rfl, still⟩ := exists_level stored plenty
      rw [bindsWith_stored _ _ _ stored, bindsWith_stored _ _ _ stored]
      exact ih v stored zoneKey fewer still
  | array items ih =>
    intro few many zoneKey enough plenty
    rw [bindsWithin_eq, bindsWithin_eq, bindsWith_array, bindsWith_array, ← bindsWithin_eq,
      ← bindsWithin_eq]
    exact any_congr_of_mem fun item member =>
      ih item member zoneKey (longestOfItems_le.mp enough item member)
        (longestOfItems_le.mp plenty item member)
  | object fields ih =>
    intro few many zoneKey enough plenty
    rw [bindsWithin_eq, bindsWithin_eq, bindsWith_object, bindsWith_object, ← bindsWithin_eq,
      ← bindsWithin_eq]
    exact any_congr_of_mem fun entry member =>
      ih entry member _ (longestOfFields_le.mp enough entry member)
        (longestOfFields_le.mp plenty entry member)

/-! ## Equations without levels -/

section Equations

variable (z : Zones) (zoneKey : Bool)

theorem repairValue_eq {v : Value} {levels : Nat} (enough : longestText v ≤ levels) :
    repairWithin z levels zoneKey v = repairValue z zoneKey v :=
  repairWithin_congr z v zoneKey enough (Nat.le_refl _)

theorem binds_eq {v : Value} {levels : Nat} (enough : longestText v ≤ levels) :
    bindsWithin z levels zoneKey v = binds z zoneKey v :=
  bindsWithin_congr z v zoneKey enough (Nat.le_refl _)

theorem repairValue_null : repairValue z zoneKey .null = .null :=
  rfl

theorem repairValue_bool (flag : Bool) : repairValue z zoneKey (.bool flag) = .bool flag :=
  rfl

theorem repairValue_number (n : Json.Number) :
    repairValue z zoneKey (.number n) =
      if zoneKey then z.idOrFallback (.number n) else .number n :=
  rfl

/-- The value of a stored text is repaired under the key of the text. -/
theorem repairValue_stored {s : String} {v : Value} (stored : blob? s = some v) :
    repairValue z zoneKey (.text s) = .text (repairValue z zoneKey v).compact := by
  obtain ⟨left, levels, enough⟩ := exists_level stored (Nat.le_refl _)
  unfold repairValue
  rw [repairWithin_eq, repairWith_stored _ _ _ stored, levels]
  exact congrArg (fun inner => Value.text inner.compact) (repairValue_eq z zoneKey enough)

theorem repairValue_text {s : String} (plain : blob? s = none) :
    repairValue z zoneKey (.text s) =
      if zoneKey then z.idOrFallback (.text s)
      else if standsForZone s then .text z.fallback
      else .text s := by
  unfold repairValue
  rw [repairWithin_eq, repairWith_text _ _ _ plain]

theorem repairValue_array (items : List Value) :
    repairValue z zoneKey (.array items) =
      .array (if zoneKey then z.listed (items.map (repairValue z zoneKey))
        else items.map (repairValue z zoneKey)) := by
  have each : items.map (repairWithin z (longestOfItems items) zoneKey) =
      items.map (repairValue z zoneKey) :=
    List.map_congr_left fun item member =>
      repairValue_eq z zoneKey (longestOfItems_le.mp (Nat.le_refl _) item member)
  rw [repairWithin_eq] at each
  rw [repairValue, repairWithin_eq, repairWith_array, longestText, each]

theorem repairValue_object (fields : Fields) :
    repairValue z zoneKey (.object fields) = .object (repairedFields z fields) := by
  unfold repairValue
  rw [repairWithin_eq, repairWith_object, longestText, ← repairWithin_eq]
  refine congrArg Value.object (List.map_congr_left fun entry member => ?_)
  rw [repairValue_eq z _ (longestOfFields_le.mp (Nat.le_refl _) entry member)]

theorem binds_null : binds z zoneKey .null = false :=
  rfl

theorem binds_bool (flag : Bool) : binds z zoneKey (.bool flag) = false :=
  rfl

theorem binds_number (n : Json.Number) :
    binds z zoneKey (.number n) = (zoneKey && z.knows n.text) :=
  rfl

theorem binds_stored {s : String} {v : Value} (stored : blob? s = some v) :
    binds z zoneKey (.text s) = binds z zoneKey v := by
  obtain ⟨left, levels, enough⟩ := exists_level stored (Nat.le_refl _)
  unfold binds
  rw [bindsWithin_eq, bindsWith_stored _ _ _ stored, levels]
  exact binds_eq z zoneKey enough

theorem binds_text {s : String} (plain : blob? s = none) :
    binds z zoneKey (.text s) = (zoneKey && z.knows s) := by
  unfold binds
  rw [bindsWithin_eq, bindsWith_text _ _ _ plain]

theorem binds_array (items : List Value) :
    binds z zoneKey (.array items) = items.any (binds z zoneKey) := by
  unfold binds
  rw [bindsWithin_eq, bindsWith_array, longestText, ← bindsWithin_eq]
  exact any_congr_of_mem fun item member =>
    binds_eq z zoneKey (longestOfItems_le.mp (Nat.le_refl _) item member)

theorem binds_object (fields : Fields) : binds z zoneKey (.object fields) = isBound z fields := by
  unfold binds
  rw [bindsWithin_eq, bindsWith_object, longestText, ← bindsWithin_eq]
  exact any_congr_of_mem fun entry member =>
    binds_eq z _ (longestOfFields_le.mp (Nat.le_refl _) entry member)

end Equations

end MapWidget
end Sensornet
