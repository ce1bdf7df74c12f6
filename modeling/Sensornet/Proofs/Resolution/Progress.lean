import Sensornet.Proofs.Registry.Issuing
import Sensornet.Resolution.Tree

namespace Sensornet
namespace Resolution

/-!
# A resolution issues no keys

Resolving a value draws tokens and records notices.  The walk is put together
from a few steps, so it is enough that these leave the keys of the registry
alone and that sequencing keeps this; the three mutual functions then follow
by recursion on the value.
-/

open Fixture (Registry)
open Json (Value Fields)

/-- The keys of the registry are the same after the step. -/
def Step.LeavesKeys {A : Type} (step : Step A) : Prop :=
  ∀ p : Progress, p.registry.SameKeys (step.run p).2.registry

namespace Step.LeavesKeys

theorem pure {A : Type} (a : A) : LeavesKeys (Pure.pure a) :=
  fun p => .refl p.registry

theorem bind {A B : Type} {step : Step A} {next : A -> Step B} (first : LeavesKeys step)
    (second : ∀ a, LeavesKeys (next a)) : LeavesKeys (step >>= next) := by
  intro p
  exact (first p).trans (second (step.run p).1 (step.run p).2)

theorem ite {A : Type} {condition : Prop} [Decidable condition] {yes no : Step A}
    (left : LeavesKeys yes) (right : LeavesKeys no) :
    LeavesKeys (if condition then yes else no) := by
  split
  · exact left
  · exact right

theorem note (notice : Notice) : LeavesKeys (Resolution.note notice) :=
  fun p => .refl p.registry

theorem drawToken (seed : String) : LeavesKeys (Resolution.drawToken seed) :=
  fun p => .token p.registry seed

/-- A loop leaves the keys alone when its body does. -/
theorem forIn {A B : Type} {body : A -> B -> Step (ForInStep B)} (items : List A) (start : B)
    (each : ∀ a b, LeavesKeys (body a b)) : LeavesKeys (ForIn.forIn items start body) := by
  induction items generalizing start with
  | nil => exact pure start
  | cons item rest ih =>
    rw [List.forIn_cons]
    refine bind (each item start) fun step => ?_
    cases step with
    | done b => exact pure b
    | yield b => exact ih b

end Step.LeavesKeys

namespace Scene

open Step (LeavesKeys)

variable (s : Scene)

theorem leavesKeys_fill (rule : Rule) : LeavesKeys (s.fill rule) := by
  unfold fill
  split
  · exact .pure _
  · exact .bind (.drawToken _) fun token => .pure _
  · exact .pure _

theorem leavesKeys_widgetKeys (references : List Value) : LeavesKeys (s.widgetKeys references) := by
  unfold widgetKeys
  refine .bind (.forIn _ _ fun id _ => ?_) fun _ => .pure _
  split
  · exact .bind (.note _) fun _ => .pure _
  · exact .pure _

theorem leavesKeys_resolveDescriptor (rule : Rule) (text : String) :
    LeavesKeys (s.resolveDescriptor rule text) := by
  unfold resolveDescriptor
  dsimp only
  split
  · exact .pure _
  · split
    · exact .bind (.note _) fun _ => .pure _
    · exact .pure _

theorem leavesKeys_resolveText (rule : Rule) (raw : String) :
    LeavesKeys (s.resolveText rule raw) := by
  unfold resolveText
  refine .ite (s.leavesKeys_widgetKeys _) (.ite (s.leavesKeys_fill _)
    (.ite (s.leavesKeys_resolveDescriptor _ _) ?_))
  split <;> exact .pure _

mutual

theorem leavesKeys_resolveUnder (rule : Rule) :
    ∀ value : Value, LeavesKeys (s.resolveUnder rule value)
  | .text raw => s.leavesKeys_resolveText rule raw
  | .array items => .ite (s.leavesKeys_widgetKeys items)
      (.bind (leavesKeys_resolveItems rule items) fun _ => .pure _)
  | .number n => .ite (s.leavesKeys_widgetKeys [.number n]) (.pure _)
  | .object fields => .bind (leavesKeys_resolveFields fields) fun _ => .pure _
  | .null => .pure _
  | .bool _ => .pure _

theorem leavesKeys_resolveItems (rule : Rule) :
    ∀ items : List Value, LeavesKeys (s.resolveItems rule items)
  | [] => .pure _
  | item :: rest => .bind (leavesKeys_resolveUnder rule item) fun _ =>
      .bind (leavesKeys_resolveItems rule rest) fun _ => .pure _

theorem leavesKeys_resolveFields : ∀ fields : Fields, LeavesKeys (s.resolveFields fields)
  | [] => .pure _
  | (key, value) :: rest =>
      .bind (leavesKeys_resolveUnder (Rule.ofKey key s.context) value) fun _ =>
        .bind (leavesKeys_resolveFields rest) fun _ => .pure _

end

end Scene
end Resolution
end Sensornet
