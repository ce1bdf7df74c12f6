import Sensornet.Proofs.Session.Enter

namespace Sensornet

/-!
# Rows that differ in their tokens

Correlation tokens are numbered through a session, so two sessions that write
the same trigger give it different tokens.  Two rows are compared with the
tokens hidden: whatever stands under `metric_id` in the arguments of a
calculator of a trigger row.  Everything else counts, the order of members
included.

Where two rows do differ, their tokens are new ones.  So a trigger that was
written before and is left alone has to be the same down to its tokens.
-/

open Fixture (Key Row Registry)
open Json (Value Fields)

namespace Json

/-- Change what stands under a key, in its place. -/
def Fields.changeAt (key : String) (change : Value -> Value) (fields : Fields) : Fields :=
  fields.map fun entry => if entry.1 = key then (entry.1, change entry.2) else entry

namespace Value

/-- Change what stands under a key of an object. -/
def changeAt (key : String) (change : Value -> Value) : Value -> Value
  | .object fields => .object (Fields.changeAt key change fields)
  | other => other

/-- Change all items of a list. -/
def changeItems (change : Value -> Value) : Value -> Value
  | .array items => .array (items.map change)
  | other => other

end Value
end Json

namespace Calculator

/-- The token of a calculator. -/
def token? (calculator : Value) : Option String :=
  ((calculator.get? "calc_args").bind (Value.get? "metric_id")).bind Value.text?

/-- A calculator with its token blotted out. -/
def hideToken (calculator : Value) : Value :=
  calculator.changeAt "calc_args" (Value.changeAt "metric_id" fun _ => .null)

end Calculator

namespace Fixture

namespace Row

/-- The tokens of a row. -/
def tokens (row : Row) : List String :=
  (Value.itemsOf (row.field? "calculators")).filterMap Calculator.token?

/-- A row whose tokens, if it is that of a trigger, are blotted out. -/
def hideTokens (row : Row) : Row :=
  if row.model = Model.trigger then
    { row with
      fields := row.fields.changeAt "calculators" (Value.changeItems Calculator.hideToken) }
  else row

theorem key_hideTokens (row : Row) : row.hideTokens.key = row.key := by
  unfold hideTokens
  split <;> rfl

theorem model_hideTokens (row : Row) : row.hideTokens.model = row.model := by
  unfold hideTokens
  split <;> rfl

end Row

/-- A token that is drawn from a registry after this moment, whatever was
drawn in between. -/
def Registry.Drawn (r : Registry) (token : String) : Prop :=
  ∃ (number : Nat) (seed : String), r.tokens ≤ number ∧
    token = ({ r with tokens := number }.token seed).1

end Fixture

/-- Two rows are the same, or they differ in tokens that were drawn after the
one moment for the one and after the other for the other. -/
structure SameButTokens (first again : Registry) (row other : Row) : Prop where
  hidden : other.hideTokens = row.hideTokens
  drawn : other = row ∨
    (∀ token ∈ row.tokens, first.Drawn token) ∧ ∀ token ∈ other.tokens, again.Drawn token

namespace SameButTokens

variable {first again : Registry} {row other : Row}

theorem refl (row : Row) : SameButTokens first again row row :=
  ⟨rfl, Or.inl rfl⟩

theorem key (same : SameButTokens first again row other) : other.key = row.key := by
  rw [← other.key_hideTokens, same.hidden, row.key_hideTokens]

theorem model (same : SameButTokens first again row other) : other.model = row.model := by
  rw [← other.model_hideTokens, same.hidden, row.model_hideTokens]

/-- A row of anything but a trigger has no tokens to differ in. -/
theorem eq_of_model (same : SameButTokens first again row other)
    (different : row.model ≠ Fixture.Model.trigger) : other = row := by
  have hidden := same.hidden
  unfold Row.hideTokens at hidden
  rw [same.model, if_neg different, if_neg different] at hidden
  exact hidden

/-- Links are none the wiser. -/
theorem ofRow? (same : SameButTokens first again row other) :
    Link.ofRow? other = Link.ofRow? row := by
  by_cases trigger : row.model = Fixture.Model.trigger
  · have different : row.model ≠ Fixture.Model.link := by
      rw [trigger]
      decide
    have alike : other.model ≠ Fixture.Model.link := same.model ▸ different
    unfold Link.ofRow?
    rw [if_neg different, if_neg alike]
  · rw [same.eq_of_model trigger]

end SameButTokens

/-! ## Triggers with one calculator -/

/-- A trigger of a domain, with the token of its calculator. -/
def Trigger.starter (calculatorName description : String) (more : Fields) (inputs : List String)
    (output token : String) : Trigger where
  calculators := [calculator calculatorName token more]
  description := description
  scheduleJob := ""
  inputMetrics := inputs
  outputMetric := output

theorem Trigger.outputMetric_starter (name description : String) (more : Fields)
    (inputs : List String) (output token : String) :
    (Trigger.starter name description more inputs output token).outputMetric = output :=
  rfl

theorem Trigger.inputMetrics_starter (name description : String) (more : Fields)
    (inputs : List String) (output token : String) :
    (Trigger.starter name description more inputs output token).inputMetrics = inputs :=
  rfl

theorem Trigger.isComplete_starter {output : String} (filled : output ≠ "") {inputs : List String}
    (some' : inputs ≠ []) (name description : String) (more : Fields) (token : String) :
    (Trigger.starter name description more inputs output token).isComplete = true :=
  Trigger.isComplete_iff.mpr ⟨filled, some'⟩

/-- The rows of one trigger under one key, with two tokens. -/
theorem sameButTokens_starter {first again : Registry} {token other : String}
    (drawn : first.Drawn token) (drawnAgain : again.Drawn other) (key : Key)
    (name description : String) (more : Fields) (inputs : List String) (output : String) :
    SameButTokens first again
      ⟨Fixture.Model.trigger, key,
        (Trigger.starter name description more inputs output token).fields key.toJson⟩
      ⟨Fixture.Model.trigger, key,
        (Trigger.starter name description more inputs output other).fields key.toJson⟩ := by
  have only : ∀ token : String, Row.tokens ⟨Fixture.Model.trigger, key,
      (Trigger.starter name description more inputs output token).fields key.toJson⟩ =
        [token] := fun token => rfl
  constructor
  · rfl
  · refine Or.inr ⟨fun written member => ?_, fun written member => ?_⟩
    · rw [only, List.mem_singleton] at member
      exact member ▸ drawn
    · rw [only, List.mem_singleton] at member
      exact member ▸ drawnAgain

end Sensornet
