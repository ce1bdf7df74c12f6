import Sensornet.Json.Reader
import Sensornet.Proofs.Json.Scanning

namespace Sensornet
namespace Json

/-!
# Values that a text can hold

The reader opens at most 127 containers at once and lets no object repeat a
key.  `Value.Legible` says this of a value, together with a condition on its
numbers and texts as lexemes.  Two conditions are used: that a lexeme is
within the text it was scanned from, which holds of everything that is read;
and that a number is read back from its own text, under which the compact
text of a value is read as that value.
-/

/-- A value of at most so many containers within one another, in which no
object repeats a key and the numbers and texts pass as lexemes. -/
inductive Value.Legible (passes : Lexeme -> Prop) : Nat -> Value -> Prop where
  | null {room : Nat} : Legible passes room .null
  | bool {room : Nat} (flag : Bool) : Legible passes room (.bool flag)
  | number {room : Nat} {n : Number} (pass : passes (.number n)) : Legible passes room (.number n)
  | text {room : Nat} {s : String} (pass : passes (.text s)) : Legible passes room (.text s)
  | array {room : Nat} {items : List Value} (each : ∀ item ∈ items, Legible passes room item) :
    Legible passes (room + 1) (.array items)
  | object {room : Nat} {fields : Fields} (distinct : Entries.Distinct fields)
    (each : ∀ entry ∈ fields, Legible passes room entry.2) :
    Legible passes (room + 1) (.object fields)

/-! ## What is read is legible -/

namespace Reading

variable {passes : Lexeme -> Prop} {room : Nat} {stack : List Frame}

/-- The values of an open container have so much room. -/
def FrameLegible (passes : Lexeme -> Prop) (room : Nat) : Frame -> Prop
  | .array items => ∀ item ∈ items, item.Legible passes room
  | .object fields _ => Entries.Distinct fields ∧ ∀ entry ∈ fields, entry.2.Legible passes room

/-- The open containers, innermost first, leave so much room for a value. -/
inductive StackLegible (passes : Lexeme -> Prop) : Nat -> List Frame -> Prop where
  | nil : StackLegible passes maxDepth []
  | cons {room : Nat} {frame : Frame} {outer : List Frame}
    (inner : FrameLegible passes room frame) (outside : StackLegible passes (room + 1) outer) :
    StackLegible passes room (frame :: outer)

theorem StackLegible.room_add_length (legible : StackLegible passes room stack) :
    room + stack.length = maxDepth := by
  induction legible with
  | nil => rfl
  | cons _ _ ih => rw [List.length_cons, ← ih, Nat.add_assoc, Nat.add_comm 1]

/-- What the place of a reading holds.  The container that the place is in
takes one from the room. -/
def PlaceLegible (passes : Lexeme -> Prop) (room : Nat) : Place -> Prop
  | .value => True
  | .firstItem | .firstKey => ∃ inner, room = inner + 1
  | .afterItem items => ∃ inner, room = inner + 1 ∧ FrameLegible passes inner (.array items)
  | .key fields | .afterMember fields | .colon fields _ =>
    ∃ inner, room = inner + 1 ∧ ∀ key, FrameLegible passes inner (.object fields key)
  | .whole v => v.Legible passes maxDepth

/-- A reading whose values are legible where they stand. -/
def Legible (passes : Lexeme -> Prop) (r : Reading) : Prop :=
  ∃ room, StackLegible passes room r.stack ∧ PlaceLegible passes room r.place

theorem legible_deliver (outside : StackLegible passes room stack) {v : Value}
    (value : v.Legible passes room) : (deliver v stack).Legible passes := by
  cases outside with
  | nil => exact ⟨maxDepth, .nil, value⟩
  | @cons room frame outer inner outside =>
    cases frame with
    | array items =>
      exact ⟨room + 1, outside, room, rfl, List.forall_mem_cons.mpr ⟨value, inner⟩⟩
    | object fields key =>
      refine ⟨room + 1, outside, room, rfl, fun _ => ⟨Entries.distinct_insert inner.1 key v, ?_⟩⟩
      intro entry member
      rcases Entries.mem_insert member with rfl | old
      · exact value
      · exact inner.2 entry old

theorem legible_begin? (outside : StackLegible passes room stack) {lexeme : Lexeme}
    (pass : passes lexeme) {next : Reading} (begun : begin? stack lexeme = some next) :
    next.Legible passes := by
  have opens : stack.length < maxDepth -> ∃ inner, room = inner + 1 := by
    intro less
    have total := outside.room_add_length
    exact ⟨room - 1, by omega⟩
  cases lexeme with
  | null =>
    cases begun
    exact legible_deliver outside .null
  | bool flag =>
    cases begun
    exact legible_deliver outside (.bool flag)
  | number n =>
    cases begun
    exact legible_deliver outside (.number pass)
  | text s =>
    cases begun
    exact legible_deliver outside (.text pass)
  | openArray | openObject =>
    simp only [begin?] at begun
    split at begun
    · next less =>
      cases begun
      exact ⟨room, outside, opens less⟩
    · cases begun
  | closeArray | closeObject | comma | colon => cases begun

/-- One lexeme more. -/
theorem Legible.step {r next : Reading} (legible : r.Legible passes) {lexeme : Lexeme}
    (pass : passes lexeme) (stepped : r.step lexeme = some next) : next.Legible passes := by
  obtain ⟨stack, place⟩ := r
  obtain ⟨room, outside, inPlace⟩ := legible
  have noItems : ∀ inner, FrameLegible passes inner (.array []) := fun _ _ member => nomatch member
  have noFields : ∀ inner key, FrameLegible passes inner (.object [] key) :=
    fun _ _ => ⟨List.nodup_nil, fun _ member => nomatch member⟩
  unfold Reading.step at stepped
  dsimp only at outside inPlace stepped
  split at stepped
  case h_1 => exact legible_begin? outside pass stepped
  case h_2 =>
    obtain ⟨inner, rfl⟩ := inPlace
    cases stepped
    exact legible_deliver outside (.array (noItems inner))
  case h_3 =>
    obtain ⟨inner, rfl⟩ := inPlace
    exact legible_begin? (.cons (noItems inner) outside) pass stepped
  case h_4 =>
    obtain ⟨inner, rfl, items⟩ := inPlace
    cases stepped
    exact legible_deliver outside
      (.array fun item member => items item (List.mem_reverse.mp member))
  case h_5 =>
    obtain ⟨inner, rfl, items⟩ := inPlace
    cases stepped
    exact ⟨inner, .cons items outside, trivial⟩
  case h_6 =>
    obtain ⟨inner, rfl⟩ := inPlace
    cases stepped
    exact legible_deliver outside (.object (noFields inner "").1 (noFields inner "").2)
  case h_7 =>
    obtain ⟨inner, rfl⟩ := inPlace
    cases stepped
    exact ⟨inner + 1, outside, inner, rfl, noFields inner⟩
  case h_8 | h_11 =>
    cases stepped
    exact ⟨room, outside, inPlace⟩
  case h_9 key =>
    obtain ⟨inner, rfl, fields⟩ := inPlace
    cases stepped
    exact ⟨inner, .cons (fields _) outside, trivial⟩
  case h_10 =>
    obtain ⟨inner, rfl, fields⟩ := inPlace
    cases stepped
    exact legible_deliver outside (.object (fields "").1 (fields "").2)
  case h_12 => cases stepped

theorem Legible.run {r next : Reading} (legible : r.Legible passes) {lexemes : List Lexeme}
    (pass : ∀ lexeme ∈ lexemes, passes lexeme) (reached : r.run lexemes = some next) :
    next.Legible passes := by
  induction lexemes generalizing r with
  | nil =>
    cases reached
    exact legible
  | cons lexeme rest ih =>
    rw [Reading.run] at reached
    cases stepped : r.step lexeme with
    | none => simp [stepped] at reached
    | some after =>
      rw [stepped] at reached
      exact ih (legible.step (pass lexeme List.mem_cons_self) stepped)
        (fun other member => pass other (List.mem_cons_of_mem _ member)) reached

end Reading

namespace Value

/-- A value that was read from a text is legible, with lexemes within the
text. -/
theorem legible_of_ofText? {text : String} {v : Value} (read : ofText? text = some v) :
    v.Legible (Lexeme.Within text.length) Reading.maxDepth := by
  obtain ⟨lexemes, cut, read⟩ := Option.bind_eq_some_iff.mp read
  obtain ⟨r, reached, result⟩ := Option.bind_eq_some_iff.mp read
  have within := within_of_lexemes? cut
  rw [String.length_toList] at within
  have start : Reading.start.Legible (Lexeme.Within text.length) := ⟨_, .nil, trivial⟩
  obtain ⟨room, -, inPlace⟩ := start.run within reached
  unfold Reading.result? at result
  split at result
  · next whole =>
    cases result
    rw [whole] at inPlace
    exact inPlace
  · cases result

end Value

/-! ## What is legible is read -/

namespace Value

mutual

/-- The lexemes of a value, in document order. -/
def lexemes : Value -> List Lexeme
  | .null => [.null]
  | .bool flag => [.bool flag]
  | .number n => [.number n]
  | .text s => [.text s]
  | .array items => .openArray :: (lexemesOfItems items ++ [.closeArray])
  | .object fields => .openObject :: (lexemesOfFields fields ++ [.closeObject])
termination_by structural v => v

def lexemesOfItems : List Value -> List Lexeme
  | [] => []
  | [item] => item.lexemes
  | item :: next :: rest => item.lexemes ++ .comma :: lexemesOfItems (next :: rest)
termination_by structural v => v

def lexemesOfFields : Fields -> List Lexeme
  | [] => []
  | [(key, item)] => .text key :: .colon :: item.lexemes
  | (key, item) :: next :: rest =>
    .text key :: .colon :: item.lexemes ++ .comma :: lexemesOfFields (next :: rest)
termination_by structural v => v

end

/-- A value never starts by closing a list. -/
theorem exists_lexemes_eq_cons (v : Value) :
    ∃ first rest, v.lexemes = first :: rest ∧ first ≠ .closeArray := by
  cases v <;> exact ⟨_, _, by rw [lexemes], Lexeme.noConfusion⟩

end Value

namespace Reading

variable {stack : List Frame}

/-- Reading the lexemes of a value in any place one container deeper hands
over the value. -/
def TakesInside (stack : List Frame) (v : Value) : Prop :=
  forall frame, (⟨frame :: stack, .value⟩ : Reading).run v.lexemes =
    some (deliver v (frame :: stack))

theorem run_items (done : List Value) {item : Value} {rest : List Value}
    (each : ∀ v ∈ item :: rest, TakesInside stack v) :
    (⟨.array done :: stack, .value⟩ : Reading).run
        (Value.lexemesOfItems (item :: rest) ++ [.closeArray]) =
      some (deliver (.array (done.reverse ++ item :: rest)) stack) := by
  induction rest generalizing done item with
  | nil =>
    rw [Value.lexemesOfItems, run_append, each item List.mem_cons_self]
    simp [run, step, deliver]
  | cons next rest ih =>
    have later := ih (item :: done) fun v member => each v (List.mem_cons_of_mem _ member)
    rw [Value.lexemesOfItems, List.append_assoc, run_append, each item List.mem_cons_self]
    simpa [run, step, deliver] using later

/-- The first item of a list is read as any later one. -/
theorem run_firstItem (item : Value) (rest : List Value) (back : List Lexeme) :
    (⟨stack, .firstItem⟩ : Reading).run (Value.lexemesOfItems (item :: rest) ++ back) =
      (⟨.array [] :: stack, .value⟩ : Reading).run
        (Value.lexemesOfItems (item :: rest) ++ back) := by
  obtain ⟨first, others, lexemes, noClose⟩ := item.exists_lexemes_eq_cons
  have same : (⟨stack, .firstItem⟩ : Reading).step first =
      (⟨.array [] :: stack, .value⟩ : Reading).step first := by
    cases first <;> first | rfl | exact absurd rfl noClose
  cases rest <;>
    simp only [Value.lexemesOfItems, lexemes, List.cons_append, run, same]

/-- A member under a new key goes to the end. -/
theorem run_member {done : Fields} {key : String} {item : Value} {rest : Fields}
    (distinct : Entries.Distinct (done ++ (key, item) :: rest)) (takes : TakesInside stack item) :
    (⟨stack, .key done⟩ : Reading).run (.text key :: .colon :: item.lexemes) =
      some ⟨stack, .afterMember (done ++ [(key, item)])⟩ := by
  have unknown : Entries.get? key done = none := by
    rw [Entries.get?_eq_none_iff]
    intro member
    rw [Entries.Distinct, Entries.keys, List.map_append, List.nodup_append] at distinct
    exact distinct.2.2 key member key List.mem_cons_self rfl
  have delivered : deliver item (.object done key :: stack) =
      ⟨stack, .afterMember (done ++ [(key, item)])⟩ := by
    rw [deliver, Entries.insert_of_unknown unknown]
  rw [← delivered, ← takes]
  exact run_append ⟨stack, .key done⟩ [.text key, .colon] item.lexemes

theorem run_fields (done : Fields) {key : String} {item : Value} {rest : Fields}
    (distinct : Entries.Distinct (done ++ (key, item) :: rest))
    (each : ∀ entry ∈ (key, item) :: rest, TakesInside stack entry.2) :
    (⟨stack, .key done⟩ : Reading).run
        (Value.lexemesOfFields ((key, item) :: rest) ++ [.closeObject]) =
      some (deliver (.object (done ++ (key, item) :: rest)) stack) := by
  induction rest generalizing done key item with
  | nil =>
    rw [Value.lexemesOfFields, run_append, run_member distinct (each _ List.mem_cons_self)]
    simp [run, step]
  | cons next rest ih =>
    have shifted := List.append_cons done (key, item) (next :: rest)
    have later := ih (done ++ [(key, item)]) (shifted ▸ distinct)
      fun entry member => each entry (List.mem_cons_of_mem _ member)
    rw [Value.lexemesOfFields, List.append_assoc, run_append,
      run_member distinct (each _ List.mem_cons_self), shifted, ← later]
    rfl

/-- The first member of an object is read as any later one. -/
theorem run_firstKey (key : String) (item : Value) (rest : Fields) (back : List Lexeme) :
    (⟨stack, .firstKey⟩ : Reading).run (Value.lexemesOfFields ((key, item) :: rest) ++ back) =
      (⟨stack, .key []⟩ : Reading).run (Value.lexemesOfFields ((key, item) :: rest) ++ back) := by
  cases rest <;> rfl

end Reading

namespace Value

variable {passes : Lexeme -> Prop} {room : Nat}

theorem Legible.run_lexemes {v : Value} (legible : v.Legible passes room) {stack : List Frame}
    (fits : room + stack.length ≤ Reading.maxDepth) :
    (⟨stack, .value⟩ : Reading).run v.lexemes = some (Reading.deliver v stack) := by
  -- Each container takes one from the room and adds one to the stack.
  induction legible generalizing stack with
  | null | bool | number | text => rfl
  | @array room items _ ih =>
    have less : stack.length < Reading.maxDepth := by omega
    have opened : (⟨stack, .value⟩ : Reading).step .openArray = some ⟨stack, .firstItem⟩ :=
      if_pos less
    rw [lexemes, Reading.run, opened]
    dsimp only
    cases items with
    | nil => rfl
    | cons item rest =>
      have each : ∀ v ∈ item :: rest, Reading.TakesInside stack v := fun v member frame =>
        ih v member (by rw [List.length_cons]; omega)
      rw [Reading.run_firstItem]
      exact Reading.run_items [] each
  | @object room fields distinct _ ih =>
    have less : stack.length < Reading.maxDepth := by omega
    have opened : (⟨stack, .value⟩ : Reading).step .openObject = some ⟨stack, .firstKey⟩ :=
      if_pos less
    rw [lexemes, Reading.run, opened]
    dsimp only
    cases fields with
    | nil => rfl
    | cons entry rest =>
      obtain ⟨key, item⟩ := entry
      have each : ∀ entry ∈ (key, item) :: rest, Reading.TakesInside stack entry.2 :=
        fun entry member frame => ih entry member (by rw [List.length_cons]; omega)
      rw [Reading.run_firstKey]
      exact Reading.run_fields [] distinct each

end Value

/-! ## What is written spells its value -/

/-- A number that is read back from its text; every text is. -/
def Lexeme.Faithful : Lexeme -> Prop
  | .number n => Number.ofChars? n.chars = some n
  | _ => True

/-- Integers that were scanned are read back, for they have 64 bits. -/
theorem Lexeme.Within.faithful_integer {count : Nat} {i : Int}
    (within : (Lexeme.number (.integer i)).Within count) :
    (Lexeme.number (.integer i)).Faithful := by
  obtain ⟨literal, read⟩ := within
  have bounds := Number.bounds_of_ofChars? read
  exact Number.ofChars?_integer bounds.1 bounds.2

namespace Value

variable {room : Nat}

theorem spells_items {item : Value} {rest : List Value}
    (each : ∀ v ∈ item :: rest, Spells v.compactChars v.lexemes) :
    Spells (compactItems (item :: rest) ++ [']'])
      (lexemesOfItems (item :: rest) ++ [.closeArray]) := by
  have close : Spells [']'] [.closeArray] := .mark .nil fun _ => rfl
  induction rest generalizing item with
  | nil =>
    have single := (each item List.mem_cons_self).append rfl close
    simpa only [compactItems, lexemesOfItems, List.append_nil] using single
  | cons next rest ih =>
    have later : Spells (',' :: (compactItems (next :: rest) ++ [']']))
        (.comma :: (lexemesOfItems (next :: rest) ++ [.closeArray])) :=
      (ih fun v member => each v (List.mem_cons_of_mem _ member)).mark fun _ => rfl
    have whole := (each item List.mem_cons_self).append rfl later
    simpa only [compactItems, lexemesOfItems, List.append_assoc, List.cons_append,
      List.nil_append] using whole

theorem spells_fields {key : String} {item : Value} {rest : Fields}
    (each : ∀ entry ∈ (key, item) :: rest, Spells entry.2.compactChars entry.2.lexemes) :
    Spells (compactFields ((key, item) :: rest) ++ ['}'])
      (lexemesOfFields ((key, item) :: rest) ++ [.closeObject]) := by
  have close : Spells ['}'] [.closeObject] := .mark .nil fun _ => rfl
  have colon : ∀ done, Scan.begin? done ':' = some ⟨.between, .colon :: done⟩ := fun _ => rfl
  induction rest generalizing key item with
  | nil =>
    have value := (each _ List.mem_cons_self).append rfl close
    have member := Spells.quoted key (value.mark colon)
    simpa only [compactFields, lexemesOfFields, List.append_assoc, List.cons_append,
      List.append_nil] using member
  | cons next rest ih =>
    have later : Spells (',' :: (compactFields (next :: rest) ++ ['}']))
        (.comma :: (lexemesOfFields (next :: rest) ++ [.closeObject])) :=
      (ih fun entry member => each entry (List.mem_cons_of_mem _ member)).mark fun _ => rfl
    have value := (each _ List.mem_cons_self).append rfl later
    have member := Spells.quoted key (value.mark colon)
    simpa only [compactFields, lexemesOfFields, List.append_assoc, List.cons_append,
      List.nil_append] using member

/-- The compact text of a value is cut into the lexemes of the value. -/
theorem Legible.spells {v : Value} (legible : v.Legible Lexeme.Faithful room) :
    Spells v.compactChars v.lexemes := by
  induction legible with
  | null => exact Spells.null
  | bool flag => exact Spells.bool flag
  | number back =>
    rw [compactChars, lexemes]
    exact Spells.number back
  | @text _ s _ =>
    rw [compactChars, lexemes, ← List.append_nil (quoted s)]
    exact Spells.quoted s .nil
  | @array _ items _ ih =>
    rw [compactChars, lexemes]
    refine .mark ?_ fun _ => rfl
    cases items with
    | nil => exact .mark .nil fun _ => rfl
    | cons item rest => exact spells_items ih
  | @object _ fields _ _ ih =>
    rw [compactChars, lexemes]
    refine .mark ?_ fun _ => rfl
    cases fields with
    | nil => exact .mark .nil fun _ => rfl
    | cons entry rest => exact spells_fields ih

/-! ## Reading back -/

/-- A value is read back from its compact text. -/
def ReadsBack (v : Value) : Prop :=
  ofText? v.compact = some v

/-- A value that a text can hold is read back from its compact text when its
numbers are. -/
theorem Legible.readsBack {v : Value} (legible : v.Legible Lexeme.Faithful Reading.maxDepth) :
    v.ReadsBack := by
  have cut := legible.spells.lexemes?
  have read : Reading.start.run v.lexemes = some (Reading.deliver v []) :=
    legible.run_lexemes (Nat.le_refl _)
  rw [ReadsBack, ofText?, compact, String.toList_ofList, ofChars?, cut, Option.bind_some, read]
  rfl

/-- A number is read back as a value exactly when it is as a literal. -/
theorem readsBack_number {n : Number} :
    (number n).ReadsBack ↔ Number.ofChars? n.chars = some n := by
  have scanned : ofText? (number n).compact = (Number.ofChars? n.chars).map number := by
    rw [ofText?, compact, String.toList_ofList, ofChars?, compactChars, lexemes?, Scan.start,
      Scan.run_chars, Option.bind_some, Scan.close?]
    dsimp only
    rw [List.reverse_reverse]
    cases Number.ofChars? n.chars <;> rfl
  rw [ReadsBack, scanned]
  cases Number.ofChars? n.chars <;> simp

end Value
end Json
end Sensornet
