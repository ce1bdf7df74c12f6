import Sensornet.Json.Lexeme
import Sensornet.Json.Value

namespace Sensornet
namespace Json

/-!
# Reading JSON

The lexemes of a text drive a machine whose stack holds the containers that
are still open.  A repeated key keeps its first place and takes its last
value.  At most 127 containers may be open at once, so a value nested more
deeply has no reading.
-/

/-- An open container that waits for a value. -/
inductive Frame where
  /-- items read so far, last first -/
  | array (items : List Value)
  /-- members read so far, and the key of the value to come -/
  | object (fields : Fields) (key : String)

/-- What may come next. -/
inductive Place where
  | value
  /-- behind `[` -/
  | firstItem
  /-- behind an item; items are kept last first -/
  | afterItem (items : List Value)
  /-- behind an opening brace -/
  | firstKey
  /-- behind a comma between members -/
  | key (fields : Fields)
  | colon (fields : Fields) (key : String)
  | afterMember (fields : Fields)
  /-- behind the whole value -/
  | whole (v : Value)

/-- A reading under way: the open containers, innermost first, and the place
in the innermost one. -/
structure Reading where
  stack : List Frame
  place : Place

namespace Reading

/-- The greatest number of containers open at once. -/
def maxDepth : Nat := 127

def start : Reading := ⟨[], .value⟩

/-- Hand a finished value to the innermost open container. -/
def deliver (v : Value) : List Frame -> Reading
  | [] => ⟨[], .whole v⟩
  | .array items :: outer => ⟨outer, .afterItem (v :: items)⟩
  | .object fields key :: outer => ⟨outer, .afterMember (Entries.insert key v fields)⟩

/-- The first lexeme of a value. -/
def begin? (stack : List Frame) : Lexeme -> Option Reading
  | .null => some (deliver .null stack)
  | .bool flag => some (deliver (.bool flag) stack)
  | .number n => some (deliver (.number n) stack)
  | .text s => some (deliver (.text s) stack)
  | .openArray => if stack.length < maxDepth then some ⟨stack, .firstItem⟩ else none
  | .openObject => if stack.length < maxDepth then some ⟨stack, .firstKey⟩ else none
  | _ => none

/-- One lexeme. -/
def step (r : Reading) (lexeme : Lexeme) : Option Reading :=
  match r.place, lexeme with
  | .value, _ => begin? r.stack lexeme
  | .firstItem, .closeArray => some (deliver (.array []) r.stack)
  | .firstItem, _ => begin? (.array [] :: r.stack) lexeme
  | .afterItem items, .closeArray => some (deliver (.array items.reverse) r.stack)
  | .afterItem items, .comma => some ⟨.array items :: r.stack, .value⟩
  | .firstKey, .closeObject => some (deliver (.object []) r.stack)
  | .firstKey, .text key => some ⟨r.stack, .colon [] key⟩
  | .key fields, .text key => some ⟨r.stack, .colon fields key⟩
  | .colon fields key, .colon => some ⟨.object fields key :: r.stack, .value⟩
  | .afterMember fields, .closeObject => some (deliver (.object fields) r.stack)
  | .afterMember fields, .comma => some ⟨r.stack, .key fields⟩
  | _, _ => none

/-- A reading over many lexemes. -/
def run : Reading -> List Lexeme -> Option Reading
  | r, [] => some r
  | r, lexeme :: rest =>
    match r.step lexeme with
    | some next => run next rest
    | none => none

/-- A reading goes on where it stopped. -/
theorem run_append (r : Reading) (front back : List Lexeme) :
    r.run (front ++ back) = (r.run front).bind fun reached => reached.run back := by
  induction front generalizing r with
  | nil => rfl
  | cons lexeme rest ih =>
    rw [List.cons_append, run, run]
    cases r.step lexeme with
    | none => rfl
    | some next => exact ih next

/-- The value of a finished reading. -/
def result? (r : Reading) : Option Value :=
  match r.place with
  | .whole v => some v
  | _ => none

end Reading

namespace Value

/-- Read the characters of one JSON document. -/
def ofChars? (text : List Char) : Option Value :=
  (lexemes? text).bind fun lexemes => (Reading.start.run lexemes).bind Reading.result?

/-- Read one JSON document. -/
def ofText? (text : String) : Option Value :=
  ofChars? text.toList

end Value
end Json
end Sensornet
