import Sensornet.Json.Reader
import Sensornet.Proofs.Json.Scanning

namespace Sensornet
namespace Json

/-!
# The texts in a value that was read

A value that was read holds no text of the reader's making: every text in it,
at any depth and also as a key, is a lexeme of what was read.  A lexeme takes
two quotation marks, and an escape is never shorter than the character it
stands for, so all these texts are shorter than the one they were read from.

The converse fails.  The earlier value of a repeated key is read and lost.
-/

/-! ## Texts of a value and of a reading under way -/

/-- A text stands in a value, at any depth, as a text or as a key. -/
inductive Value.Holds : Value -> String -> Prop where
  | text {s : String} : Holds (.text s) s
  | item {items : List Value} {item : Value} {s : String} (member : item ∈ items)
    (inside : Holds item s) : Holds (.array items) s
  | key {fields : Fields} {entry : String × Value} (member : entry ∈ fields) :
    Holds (.object fields) entry.1
  | member {fields : Fields} {entry : String × Value} {s : String} (member : entry ∈ fields)
    (inside : Holds entry.2 s) : Holds (.object fields) s

/-- A text stands in an open container. -/
def Frame.Holds : Frame -> String -> Prop
  | .array items, s => (Value.array items).Holds s
  | .object fields key, s => s = key ∨ (Value.object fields).Holds s

/-- A text stands in what the innermost container has so far. -/
def Place.Holds : Place -> String -> Prop
  | .afterItem items, s => (Value.array items).Holds s
  | .key fields, s | .afterMember fields, s => (Value.object fields).Holds s
  | .colon fields name, s => s = name ∨ (Value.object fields).Holds s
  | .whole v, s => v.Holds s
  | .value, _ | .firstItem, _ | .firstKey, _ => False

namespace Reading

variable {stack : List Frame} {s : String}

/-- A text stands in some open container. -/
def StackHolds (stack : List Frame) (s : String) : Prop :=
  ∃ frame ∈ stack, frame.Holds s

/-- A text was read and is not lost. -/
def Holds (r : Reading) (s : String) : Prop :=
  r.place.Holds s ∨ StackHolds r.stack s

theorem stackHolds_cons {frame : Frame} :
    StackHolds (frame :: stack) s ↔ frame.Holds s ∨ StackHolds stack s := by
  simp only [StackHolds, List.mem_cons, exists_eq_or_imp]

/-! ## Empty and growing containers -/

theorem not_holds_array_nil : ¬ (Value.array []).Holds s := by
  intro holds
  cases holds with
  | item member _ => cases member

theorem not_holds_object_nil : ¬ (Value.object []).Holds s := by
  intro holds
  cases holds with
  | key member => cases member
  | member member _ => cases member

theorem holds_array_reverse {items : List Value} (holds : (Value.array items.reverse).Holds s) :
    (Value.array items).Holds s := by
  cases holds with
  | item member inside => exact .item (List.mem_reverse.mp member) inside

theorem holds_array_cons {v : Value} {items : List Value}
    (holds : (Value.array (v :: items)).Holds s) : v.Holds s ∨ (Value.array items).Holds s := by
  cases holds with
  | item member inside =>
    rcases List.mem_cons.mp member with rfl | old
    · exact Or.inl inside
    · exact Or.inr (.item old inside)

theorem holds_object_insert {key : String} {v : Value} {fields : Fields}
    (holds : (Value.object (Entries.insert key v fields)).Holds s) :
    v.Holds s ∨ s = key ∨ (Value.object fields).Holds s := by
  cases holds with
  | key member =>
    rcases Entries.mem_insert member with rfl | old
    · exact Or.inr (Or.inl rfl)
    · exact Or.inr (Or.inr (.key old))
  | member member inside =>
    rcases Entries.mem_insert member with rfl | old
    · exact Or.inl inside
    · exact Or.inr (Or.inr (.member old inside))

/-! ## One lexeme and many -/

theorem holds_deliver {v : Value} (holds : (deliver v stack).Holds s) :
    v.Holds s ∨ StackHolds stack s := by
  cases stack with
  | nil => exact holds
  | cons frame outer =>
    rw [stackHolds_cons, ← or_assoc]
    rcases holds with inPlace | outside
    · apply Or.inl
      cases frame with
      | array items => exact holds_array_cons inPlace
      | object fields key => exact holds_object_insert inPlace
    · cases frame <;> exact Or.inr outside

theorem holds_begin? {lexeme : Lexeme} {next : Reading} (begun : begin? stack lexeme = some next)
    (holds : next.Holds s) : lexeme = .text s ∨ StackHolds stack s := by
  cases lexeme with
  | null | bool | number =>
    cases begun
    rcases holds_deliver holds with inside | outside
    · cases inside
    · exact Or.inr outside
  | text t =>
    cases begun
    rcases holds_deliver holds with inside | outside
    · cases inside
      exact Or.inl rfl
    · exact Or.inr outside
  | openArray | openObject =>
    simp only [begin?] at begun
    split at begun
    · cases begun
      exact Or.inr (holds.resolve_left id)
    · cases begun
  | closeArray | closeObject | comma | colon => cases begun

/-- A text in a reading came with the last lexeme or was there before. -/
theorem holds_step {r next : Reading} {lexeme : Lexeme} (stepped : r.step lexeme = some next)
    (holds : next.Holds s) : lexeme = .text s ∨ r.Holds s := by
  obtain ⟨stack, place⟩ := r
  unfold Reading.step at stepped
  dsimp only at stepped
  split at stepped
  case h_1 => exact (holds_begin? stepped holds).imp_right Or.inr
  case h_2 =>
    cases stepped
    exact Or.inr (Or.inr ((holds_deliver holds).resolve_left not_holds_array_nil))
  case h_3 =>
    refine (holds_begin? stepped holds).imp_right fun outside => Or.inr ?_
    exact (stackHolds_cons.mp outside).resolve_left not_holds_array_nil
  case h_4 =>
    cases stepped
    exact Or.inr ((holds_deliver holds).imp_left holds_array_reverse)
  case h_5 =>
    cases stepped
    exact Or.inr (stackHolds_cons.mp (holds.resolve_left id))
  case h_6 =>
    cases stepped
    exact Or.inr (Or.inr ((holds_deliver holds).resolve_left not_holds_object_nil))
  case h_7 =>
    cases stepped
    rcases holds with (rfl | none) | outside
    · exact Or.inl rfl
    · exact absurd none not_holds_object_nil
    · exact Or.inr (Or.inr outside)
  case h_8 =>
    cases stepped
    rcases holds with (rfl | old) | outside
    · exact Or.inl rfl
    · exact Or.inr (Or.inl old)
    · exact Or.inr (Or.inr outside)
  case h_9 =>
    cases stepped
    exact Or.inr (stackHolds_cons.mp (holds.resolve_left id))
  case h_10 =>
    cases stepped
    exact Or.inr (holds_deliver holds)
  case h_11 =>
    cases stepped
    exact Or.inr holds
  case h_12 => cases stepped

theorem holds_run {r next : Reading} {lexemes : List Lexeme} (reached : r.run lexemes = some next)
    (holds : next.Holds s) : .text s ∈ lexemes ∨ r.Holds s := by
  induction lexemes generalizing r with
  | nil =>
    cases reached
    exact Or.inr holds
  | cons lexeme rest ih =>
    rw [Reading.run] at reached
    cases stepped : r.step lexeme with
    | none => simp [stepped] at reached
    | some after =>
      rw [stepped] at reached
      rcases ih reached with later | before
      · exact Or.inl (List.mem_cons_of_mem _ later)
      · rcases holds_step stepped before with rfl | old
        · exact Or.inl List.mem_cons_self
        · exact Or.inr old

end Reading

/-! ## Texts of a value that was read -/

namespace Value

/-- Every text in a value that was read is a lexeme of what was read. -/
theorem mem_lexemes_of_holds {text : List Char} {v : Value} (read : ofChars? text = some v)
    {s : String} (holds : v.Holds s) :
    ∃ lexemes, lexemes? text = some lexemes ∧ .text s ∈ lexemes := by
  rcases Option.bind_eq_some_iff.mp read with ⟨lexemes, cut, whole⟩
  rcases Option.bind_eq_some_iff.mp whole with ⟨r, reached, result⟩
  refine ⟨lexemes, cut, ?_⟩
  have inPlace : r.Holds s := by
    unfold Reading.result? at result
    split at result
    · next place =>
      cases result
      exact Or.inl (place ▸ holds)
    · cases result
  rcases Reading.holds_run reached inPlace with member | start
  · exact member
  · rcases start with none | ⟨frame, member, _⟩
    · cases none
    · cases member

/-- Every text in a value that was read lacks at least two characters of the
text that was read. -/
theorem length_add_two_le_of_holds {text : String} {v : Value} (read : ofText? text = some v)
    {s : String} (holds : v.Holds s) : s.length + 2 ≤ text.length := by
  rcases mem_lexemes_of_holds read holds with ⟨lexemes, cut, member⟩
  have within := within_of_lexemes? cut _ member
  rw [String.length_toList] at within
  exact within

end Value
end Json
end Sensornet
