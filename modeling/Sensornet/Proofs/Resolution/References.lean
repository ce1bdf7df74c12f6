import Sensornet.Proofs.Resolution.Members

namespace Sensornet
namespace Resolution

/-!
# References to widgets

What is written where widgets are referred to may be a list, one reference
alone, or nothing at all.  In each of these cases it becomes the list of the
keys that the references are bound to, each key once, in the order in which it
is first referred to.
-/

open Json (Value Fields)

namespace Scene

variable {s : Scene}

/-- The ids that a value refers to, in order. -/
def references (value : Option Value) : List String :=
  (Value.itemsOf value).filterMap reference?

/-- Whether a value is read as a list of references: it is absent or null, one
reference, or a list. -/
def isReferenceList : Option Value -> Bool
  | some (.bool _) | some (.object _) => false
  | _ => true

/-- The keys that some ids are bound to, each key once. -/
def keysOf (s : Scene) (ids : List String) : List Fixture.Key :=
  distinct (ids.filterMap s.widget?)

/-- Remarks about unknown widgets leave the answer alone. -/
theorem run_widgetKeys (s : Scene) (values : List Value) (p : Progress) :
    ((s.widgetKeys values).run p).1 =
      .array ((s.keysOf (values.filterMap reference?)).map Fixture.Key.toJson) :=
  rfl

/-- What refers to widgets becomes the keys of these. -/
theorem itemsOf_of_gives_widgets {value result : Option Value}
    (gives : Option.Rel (s.Gives .widgets) value result) (list : isReferenceList value = true) :
    Value.itemsOf result = (s.keysOf (references value)).map Fixture.Key.toJson := by
  cases gives with
  | none => rfl
  | some gives =>
    rename_i value result
    rcases gives with ⟨p, rfl⟩
    cases value with
    | null => rfl
    | text raw => exact congrArg (fun value => Value.itemsOf (some value)) (s.run_widgetKeys _ p)
    | number n => exact congrArg (fun value => Value.itemsOf (some value)) (s.run_widgetKeys _ p)
    | array items => exact congrArg (fun value => Value.itemsOf (some value)) (s.run_widgetKeys _ p)
    | bool flag => cases list
    | object fields => cases list

end Scene
end Resolution
end Sensornet
