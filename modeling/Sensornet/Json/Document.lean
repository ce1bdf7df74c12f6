import Sensornet.Failure
import Sensornet.Json.Reader
import Sensornet.Text.Blank

namespace Sensornet
namespace Json

/-!
# A document or a value per line

An input text is one JSON document, or failing that one JSON value on each of
at least two lines.  Blank input is an empty array.  If neither reading
succeeds, the fault is that of the whole document.
-/

namespace Value

/-- Read an input text with a reader of documents, which is asked for the whole
text first and then for every line. -/
def readInput {Fault : Type} (read : List Char -> Except Fault Value) (text : String) :
    Except Fault Value :=
  let body := Text.trim text.toList
  if body.isEmpty then .ok (.array [])
  else
    match read body with
    | .ok v => .ok v
    | .error fault =>
      let lines := Text.filledLines body
      if lines.length < 2 then .error fault
      else
        match lines.mapM read with
        | .ok values => .ok (.array values)
        | .error _ => .error fault

/-- Read the characters of one document; `what` names it in the failure. -/
def ofDocument (what : String) (text : List Char) : Except Failure Value :=
  match ofChars? text with
  | some v => .ok v
  | none => .error (.json what)

/-- Read an input text; `what` names it in the failure. -/
def ofInput (what text : String) : Except Failure Value :=
  readInput (ofDocument what) text

end Value
end Json
end Sensornet
