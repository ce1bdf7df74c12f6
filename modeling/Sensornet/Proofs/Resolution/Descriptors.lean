import Sensornet.Proofs.Decimal.Numerals
import Sensornet.Proofs.Resolution.Members
import Sensornet.Session.Widgets

namespace Sensornet

/-!
# Descriptors that are kept

Where descriptors are kept, every text is resolved like any other, but for a
descriptor, which stays as it is written.  In the network as a whole there are
no placeholders, `[FILL]` becomes the empty text, and what is bound becomes an
integer.  None of these is a descriptor, nor was one before.  So the list of
descriptors is read off the resolved value as it is read off the written one.
-/

open Json (Value Fields)
open Sensornet.Metric (Aliases Descriptor)

theorem Metric.not_isMarked_integer (n : Int) :
    Metric.isMarked (Fixture.Key.integer n).shown = false := by
  rw [Bool.eq_false_iff]
  intro marked
  have front := List.isPrefixOf_iff_prefix.mp marked
  have first : (Decimal.integer n).head? = some 'M' := by
    rcases front with ⟨rest, whole⟩
    unfold Fixture.Key.shown at whole
    rw [String.toList_ofList] at whole
    rw [← whole]
    rfl
  exact absurd (Decimal.isDigit_of_head?_integer first) (by decide)

theorem Metric.Descriptor.ofText?_of_unmarked {aliases : Aliases} {text : String}
    (plain : isMarked text = false) : ofText? aliases text = none := by
  unfold ofText?
  rw [plain]
  rfl

namespace Resolution
namespace Scene

variable {s : Scene} {value result : Value}

/-- The descriptors in a list, or that stand alone. -/
def descriptorsIn (aliases : Aliases) (value : Option Value) : List Descriptor :=
  ((Value.itemsOf value).filterMap Value.text?).filterMap (Descriptor.ofText? aliases)

/-- The descriptor that a value is. -/
def descriptor? (aliases : Aliases) (value : Value) : Option Descriptor :=
  value.text?.bind (Descriptor.ofText? aliases)

theorem descriptorsIn_eq (aliases : Aliases) (value : Option Value) :
    descriptorsIn aliases value = (Value.itemsOf value).filterMap (descriptor? aliases) :=
  List.filterMap_filterMap

/-- A scene of the network as a whole, where what is bound is shown to users. -/
structure Global (s : Scene) : Prop where
  context : s.context = .global
  bound : ∀ {text : String} {key : Fixture.Key}, s.bindings.get? text .global = some key ->
    ∃ n, key = .integer n

namespace Global

variable (scene : s.Global) (aliases : Aliases)
include scene

/-- A text becomes a text that is the same descriptor or, likewise, none. -/
theorem text_of_gives {raw : String} (gives : s.Gives .keepDescriptors (.text raw) result) :
    ∃ text, result = .text text ∧
      Descriptor.ofText? aliases text = Descriptor.ofText? aliases raw := by
  rcases gives with ⟨p, rfl⟩
  have same : s.resolveUnder .keepDescriptors (.text raw) = s.resolveText .keepDescriptors raw := rfl
  have filled : s.context.fillPlaceholders raw = raw := by
    rw [scene.context]
    rfl
  rw [same]
  unfold resolveText
  rw [if_neg (by decide), filled]
  dsimp only
  split
  · next fill =>
    have empty : s.context.targetId = "" := by
      rw [scene.context]
      rfl
    refine ⟨s.context.targetId, rfl, ?_⟩
    rw [empty, fill]
    rfl
  · split
    · exact ⟨raw, rfl, rfl⟩
    · next plain =>
      have unmarked : Descriptor.ofText? aliases raw = .none :=
        Descriptor.ofText?_of_unmarked (Bool.eq_false_iff.mpr plain)
      have here : s.context.name = .global := by
        rw [scene.context]
        rfl
      rw [here, unmarked]
      cases found : s.bindings.get? raw .global with
      | none => exact ⟨raw, rfl, unmarked⟩
      | some key =>
        rcases scene.bound found with ⟨n, rfl⟩
        exact ⟨_, rfl, Descriptor.ofText?_of_unmarked (Metric.not_isMarked_integer n)⟩

theorem descriptor?_of_gives (gives : s.Gives .keepDescriptors value result) :
    descriptor? aliases result = descriptor? aliases value := by
  cases value with
  | text raw =>
    rcases scene.text_of_gives aliases gives with ⟨text, rfl, same⟩
    exact same
  | null => rcases gives with ⟨p, rfl⟩; rfl
  | bool flag => rcases gives with ⟨p, rfl⟩; rfl
  | number n => rcases gives with ⟨p, rfl⟩; rfl
  | array items => rcases gives with ⟨p, rfl⟩; rfl
  | object fields => rcases gives with ⟨p, rfl⟩; rfl

/-- A list stays a list, item by item, and what stands alone stays alone. -/
theorem forall₂_items {value result : Option Value}
    (gives : Option.Rel (s.Gives .keepDescriptors) value result) :
    List.Forall₂ (s.Gives .keepDescriptors) (Value.itemsOf value) (Value.itemsOf result) := by
  cases gives with
  | none => exact .nil
  | some gives =>
    rename_i value result
    cases value with
    | array items =>
      rcases gives with ⟨p, rfl⟩
      exact forall₂_resolveItems .keepDescriptors items p
    | text raw =>
      rcases scene.text_of_gives .none gives with ⟨text, rfl, _⟩
      exact .cons gives .nil
    | null => rcases gives with ⟨p, rfl⟩; exact .nil
    | bool flag => rcases gives with ⟨p, rfl⟩; exact .cons ⟨p, rfl⟩ .nil
    | number n => rcases gives with ⟨p, rfl⟩; exact .cons ⟨p, rfl⟩ .nil
    | object fields => rcases gives with ⟨p, rfl⟩; exact .cons ⟨p, rfl⟩ .nil

/-- The descriptors are those that were written. -/
theorem descriptorsIn_of_gives {value result : Option Value}
    (gives : Option.Rel (s.Gives .keepDescriptors) value result) :
    descriptorsIn aliases result = descriptorsIn aliases value := by
  have each := scene.forall₂_items gives
  rw [descriptorsIn_eq, descriptorsIn_eq]
  generalize Value.itemsOf value = written at each
  generalize Value.itemsOf result = resolved at each
  induction each with
  | nil => rfl
  | cons first _ ih =>
    rw [List.filterMap_cons, List.filterMap_cons, scene.descriptor?_of_gives aliases first, ih]

end Global
end Scene
end Resolution
end Sensornet
