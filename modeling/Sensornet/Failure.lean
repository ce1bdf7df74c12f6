import Sensornet.Decimal.Layout

namespace Sensornet

/-!
# Failures

The structural faults that end a compile.  Gaps in meaning, such as a
descriptor without a metric or a zone without coordinates, are no failures:
what they concern is left out and recorded as a notice.
-/

/-- Why an input is refused. -/
inductive Failure where
  | notAnArray (what : String)
  | notAnObject (what : String) (index : Nat)
  /-- a domain item without a required field; `label` is its own, if it has one -/
  | missingField (index : Nat) (field : String) (label : Option String)
  | json (what : String)
  | invalidRow (index : Nat)
  | config
  | io (path : String)
  deriving DecidableEq, Repr

namespace Failure

/-- How a domain item is named in a message. -/
def shown (label : Option String) : String :=
  label.getD "<unlabelled>"

/-- A position in a list, as it is shown in a message. -/
def position (index : Nat) : String :=
  String.ofList ('#' :: Decimal.natural index)

/-- The wording of a failure. -/
def message : Failure -> String
  | .notAnArray what => what ++ " must be a JSON array"
  | .notAnObject what index => what ++ " " ++ position index ++ " must be a JSON object"
  | .missingField index field label =>
    "domain item " ++ position index ++ " (" ++ shown label ++ ") is missing `" ++ field ++
      "`; each item needs at least \x7b category, label \x7d"
  | .json what => "failed to parse " ++ what ++ " as JSON"
  | .invalidRow index => "existing row " ++ position index ++ " is not a fixture row"
  | .config => "invalid configuration"
  | .io path => "failed to read " ++ path

end Failure
end Sensornet
