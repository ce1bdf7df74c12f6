import Sensornet.Proofs.Resolution.Inputs

namespace Sensornet
namespace Resolution

/-!
# When more is bound

Of two scenes that see the same metrics, more may be bound in the later one.
A list of metrics is no test of that: an entry under which something is bound
now was its own text before, so a list that stands for something later stood
for something already.  A text that stands alone under the metrics of a
calculator counts only when it is bound, so of these the later scene may see
more.
-/

open Json (Value)

namespace Scene

variable {s : Scene} {raw id : String}

mutual

/-- What an entry stands for, the lists around it stand for. -/
theorem mem_listed_of_leaf (stands : id ∈ s.entryTexts raw) (filled : id ≠ "") :
    ∀ {value : Value}, raw ∈ leaves value -> id ∈ s.listed value
  | .text own, leaf => by
    cases List.mem_singleton.mp leaf
    rw [listed, List.mem_filter]
    exact ⟨stands, by simpa using filled⟩
  | .array items, leaf => by
    rw [listed, mem_distinct]
    exact mem_listedAll_of_leaf stands filled leaf
  | .number _, leaf => nomatch leaf
  | .object _, leaf => nomatch leaf
  | .null, leaf => nomatch leaf
  | .bool _, leaf => nomatch leaf

theorem mem_listedAll_of_leaf (stands : id ∈ s.entryTexts raw) (filled : id ≠ "") :
    ∀ {items : List Value}, raw ∈ leavesAll items -> id ∈ s.listedAll items
  | [], leaf => nomatch leaf
  | item :: rest, leaf => by
    rw [leavesAll, List.mem_append] at leaf
    rw [listedAll, List.mem_append]
    exact leaf.imp (mem_listed_of_leaf stands filled) (mem_listedAll_of_leaf stands filled)

end

end Scene

/-- The later scene keeps the metrics and the bindings of the context, and
binds nothing under the empty text. -/
structure Precedes (a b : Scene) : Prop where
  context : b.context = a.context
  metrics : ∀ text, b.metricsOf text = a.metricsOf text
  bound : ∀ {text : String} {key : Fixture.Key}, a.bindings.get? text a.context.name = some key ->
    b.bindings.get? text a.context.name = some key
  unnamed : b.bindings.get? "" a.context.name = none

/-- Two tables of bindings have the same under the texts that stand alone
under the metrics of a calculator. -/
def SameLone (item : Template.Item) (context : Context) (a b : Bindings) : Prop :=
  ∀ calculator ∈ item.calculators, ∀ raw, Calculator.metrics? calculator = some (.text raw) ->
    b.get? (context.fillPlaceholders raw) context.name =
      a.get? (context.fillPlaceholders raw) context.name

namespace Precedes

variable {a b : Scene} (precedes : Precedes a b)
include precedes

/-- A name that is something later was something. -/
theorem nameOf_ne_empty {text : String} (filled : b.nameOf text ≠ "") : a.nameOf text ≠ "" := by
  unfold Scene.nameOf at filled ⊢
  rw [precedes.context] at filled
  cases known : a.bindings.get? text a.context.name with
  | some key =>
    rw [precedes.bound known] at filled
    exact filled
  | none =>
    rintro rfl
    rw [precedes.unnamed] at filled
    exact filled rfl

theorem entryTexts {raw id : String} (stands : id ∈ b.entryTexts raw) (filled : id ≠ "") :
    ∃ other ∈ a.entryTexts raw, other ≠ "" := by
  unfold Scene.entryTexts at stands ⊢
  dsimp only at stands ⊢
  rw [precedes.context] at stands
  split at stands
  · next fill =>
    rw [if_pos fill]
    exact ⟨id, stands, filled⟩
  · next text =>
    rw [if_neg text]
    split at stands
    · next marked =>
      rw [precedes.metrics] at stands
      rw [if_pos marked]
      exact ⟨id, stands, filled⟩
    · next plain =>
      rw [if_neg plain]
      refine ⟨_, List.mem_singleton_self _, precedes.nameOf_ne_empty ?_⟩
      exact List.mem_singleton.mp stands ▸ filled

/-- A list that stands for something later stood for something. -/
theorem listed {value : Value} (some' : b.listed value ≠ []) : a.listed value ≠ [] := by
  rcases List.exists_mem_of_ne_nil _ some' with ⟨id, member⟩
  rcases Scene.mem_listed member with ⟨filled, raw, leaf, stands⟩
  rcases precedes.entryTexts stands filled with ⟨other, standsToo, filledToo⟩
  exact List.ne_nil_of_mem (Scene.mem_listed_of_leaf standsToo filledToo leaf)

theorem lone {raw : String}
    (same : b.bindings.get? (a.context.fillPlaceholders raw) a.context.name =
      a.bindings.get? (a.context.fillPlaceholders raw) a.context.name) :
    b.lone raw = a.lone raw := by
  unfold Scene.lone
  dsimp only
  rw [precedes.context, precedes.metrics, same]

/-- A blueprint that reads something later read something, if what stands alone
under its metrics is bound alike. -/
theorem inputsOf {item : Template.Item} (alone : SameLone item a.context a.bindings b.bindings)
    (some' : b.inputsOf item ≠ []) : a.inputsOf item ≠ [] := by
  rcases List.exists_mem_of_ne_nil _ some' with ⟨id, member⟩
  rcases List.mem_flatMap.mp (mem_distinct.mp member) with ⟨calculator, own, reads⟩
  have before : a.calculatorInputs calculator ≠ [] := by
    unfold Scene.calculatorInputs Scene.metricsInputs at reads ⊢
    split at reads
    · exact precedes.listed (List.ne_nil_of_mem reads)
    · next raw written =>
      rw [precedes.lone (alone calculator own raw written)] at reads
      exact List.ne_nil_of_mem reads
    · cases reads
  rcases List.exists_mem_of_ne_nil _ before with ⟨other, readsToo⟩
  exact List.ne_nil_of_mem (mem_distinct.mpr (List.mem_flatMap.mpr ⟨calculator, own, readsToo⟩))

end Precedes
end Resolution
end Sensornet
