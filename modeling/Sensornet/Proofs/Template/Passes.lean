import Sensornet.Proofs.Template.Dependencies

namespace Sensornet
namespace Template

/-!
# How many passes the closure takes

The passes over the triggers are counted here without any bound on their
number: `afterPasses` is the state once so many passes were made, whether or not
they advanced, and `EndsAfter` says which pass is the first that does not.

The bound comes from the triggers alone.  A trigger adds all its inputs in the
pass that reaches it, so a pass that reaches no new trigger adds no descriptor
either, and each pass that is followed by another one has reached a trigger of
its own.  No assumption on the triggers is made: they may form cycles, and
they may stand in any order.
-/

open Sensornet.Metric (Aliases Descriptor)

namespace Closure

variable {edges : List Edge} {seeds : List Descriptor} {c : Closure}

/-! ## One pass -/

/-- A pass changes nothing, or it advances and reaches an edge that was not
reached before. -/
theorem pass_eq_or (distinct : Unambiguous edges) (faithful : Faithful edges seeds c) :
    c.pass edges = { c with advanced := false } ∨
      ((c.pass edges).advanced = true ∧
        ∃ index ∈ (c.pass edges).reached, index ∉ c.reached) := by
  rcases scan_cases distinct (fun _ member => member) faithful.restart with
    ⟨still, _⟩ | ⟨more, advanced⟩
  · exact Or.inl still
  · refine Or.inr ⟨advanced, ?_⟩
    -- More edges are reached than before, each once, so they are not all old.
    by_contra none
    have old : (c.pass edges).reached ⊆ c.reached := by
      intro index reached
      by_contra fresh
      exact none ⟨index, reached, fresh⟩
    have bound : (c.pass edges).reached.length ≤ c.reached.length :=
      (List.subperm_of_subset (faithful.pass distinct).reached old).length_le
    exact absurd more (Nat.not_lt_of_ge bound)

/-- A pass advances exactly when it reaches a new edge. -/
theorem advanced_pass_iff (distinct : Unambiguous edges) (faithful : Faithful edges seeds c) :
    (c.pass edges).advanced = true ↔ ∃ index ∈ (c.pass edges).reached, index ∉ c.reached := by
  rcases pass_eq_or distinct faithful with still | ⟨advanced, new⟩
  · rw [still]
    constructor
    · intro advanced
      cases advanced
    · rintro ⟨index, reached, fresh⟩
      exact absurd reached fresh
  · exact iff_of_true advanced new

/-- A pass that does not advance leaves all as it was, the descriptors
included, and one that leaves the descriptors and the reached edges as they
were does not advance. -/
theorem not_advanced_pass_iff (distinct : Unambiguous edges) (faithful : Faithful edges seeds c) :
    (c.pass edges).advanced = false ↔
      (c.pass edges).needed = c.needed ∧ (c.pass edges).reached = c.reached := by
  rcases pass_eq_or distinct faithful with still | ⟨advanced, index, reached, fresh⟩
  · rw [still]
    exact iff_of_true rfl ⟨rfl, rfl⟩
  · rw [advanced]
    constructor
    · intro same
      cases same
    · rintro ⟨_, same⟩
      rw [same] at reached
      exact absurd reached fresh

end Closure

/-! ## Many passes -/

/-- The closure of some seeds once so many passes were made. -/
def afterPasses (edges : List Edge) (seeds : List Descriptor) : Nat -> Closure
  | 0 => ⟨seeds, [], false⟩
  | passes + 1 => (afterPasses edges seeds passes).pass edges

/-- The first pass that does not advance is the one with this number. -/
structure EndsAfter (edges : List Edge) (seeds : List Descriptor) (passes : Nat) : Prop where
  begun : 0 < passes
  ended : (afterPasses edges seeds passes).advanced = false
  going : ∀ earlier, 0 < earlier -> earlier < passes ->
    (afterPasses edges seeds earlier).advanced = true

section

variable {edges : List Edge} {seeds : List Descriptor}

theorem faithful_afterPasses (distinct : Unambiguous edges) (unique : seeds.Nodup) (passes : Nat) :
    (afterPasses edges seeds passes).Faithful edges seeds := by
  induction passes with
  | zero => exact Closure.Faithful.begin unique
  | succ passes ih => exact ih.pass distinct

/-- As long as every pass advances, there are no more passes than reached
edges. -/
theorem le_length_reached_afterPasses (distinct : Unambiguous edges) (unique : seeds.Nodup)
    {passes : Nat} (going : ∀ earlier, 0 < earlier -> earlier ≤ passes ->
      (afterPasses edges seeds earlier).advanced = true) :
    passes ≤ (afterPasses edges seeds passes).reached.length := by
  induction passes with
  | zero => exact Nat.zero_le _
  | succ passes ih =>
    have before := ih fun earlier begun le => going earlier begun (Nat.le_succ_of_le le)
    have advanced := going (passes + 1) (Nat.succ_pos passes) (Nat.le_refl _)
    rcases Closure.pass_cases distinct (faithful_afterPasses distinct unique passes) with
      ⟨ended, _⟩ | ⟨_, more⟩
    · cases ended.symm.trans advanced
    · exact Nat.le_trans (Nat.succ_le_succ before) more

/-- Either one of the first passes is the last, or all of them advance. -/
theorem exists_endsAfter_or (edges : List Edge) (seeds : List Descriptor) (count : Nat) :
    (∃ passes ≤ count, EndsAfter edges seeds passes) ∨
      ∀ earlier, 0 < earlier -> earlier ≤ count ->
        (afterPasses edges seeds earlier).advanced = true := by
  induction count with
  | zero => exact Or.inr fun earlier begun le => absurd begun (Nat.not_lt_of_ge le)
  | succ count ih =>
    rcases ih with ⟨passes, le, ends⟩ | going
    · exact Or.inl ⟨passes, Nat.le_succ_of_le le, ends⟩
    · cases advanced : (afterPasses edges seeds (count + 1)).advanced with
      | false =>
        have before : ∀ earlier, 0 < earlier -> earlier < count + 1 ->
            (afterPasses edges seeds earlier).advanced = true :=
          fun earlier begun less => going earlier begun (Nat.le_of_lt_succ less)
        exact Or.inl ⟨count + 1, Nat.le_refl _, Nat.succ_pos count, advanced, before⟩
      | true =>
        refine Or.inr fun earlier begun le => ?_
        rcases Nat.le_or_eq_of_le_succ le with within | rfl
        · exact going earlier begun within
        · exact advanced

/-- The passes come to an end, one pass after all edges at the latest. -/
theorem exists_endsAfter (distinct : Unambiguous edges) (unique : seeds.Nodup) :
    ∃ passes ≤ edges.length + 1, EndsAfter edges seeds passes := by
  rcases exists_endsAfter_or edges seeds (edges.length + 1) with ends | going
  · exact ends
  · have many := le_length_reached_afterPasses distinct unique going
    have few := (faithful_afterPasses distinct unique (edges.length + 1)).reached_le
    omega

/-- A closure that may make at least the passes left makes exactly these. -/
theorem settle_afterPasses {last : Nat} (ends : EndsAfter edges seeds last) {room passes : Nat}
    (before : passes < last) (enough : last ≤ passes + room) :
    Closure.settle edges room (afterPasses edges seeds passes) = afterPasses edges seeds last := by
  induction room generalizing passes with
  | zero => omega
  | succ room ih =>
    have next : (afterPasses edges seeds passes).pass edges =
        afterPasses edges seeds (passes + 1) := rfl
    unfold Closure.settle
    dsimp only
    rw [next]
    by_cases same : passes + 1 = last
    · rw [same, ends.ended]
      rfl
    · have advanced := ends.going (passes + 1) (Nat.succ_pos passes) (by omega)
      rw [if_pos advanced]
      exact ih (by omega) (by omega)

/-- The closure is the state in which the passes end. -/
theorem closeOver_eq_afterPasses {last : Nat} (ends : EndsAfter edges seeds last)
    (few : last ≤ edges.length + 1) : closeOver edges seeds = afterPasses edges seeds last :=
  settle_afterPasses ends ends.begun (by omega)

end

/-! ## The passes of a slice -/

section

variable (aliases : Aliases) (template : List Item) (sections : List String)

/-- How many triggers of a template name a descriptor as their output. -/
def outputCount : Nat :=
  template.countP fun item => item.kind = .trigger ∧ (item.output? aliases).isSome

/-- Each of these triggers is one edge. -/
theorem length_edges : (edges aliases template).length = outputCount aliases template := by
  have items : template.zipIdx.map Prod.fst = template := List.zipIdx_map_fst 0 template
  unfold edges outputCount
  rw [List.length_filterMap_eq_countP]
  conv_rhs => rw [← items, List.countP_map]
  refine List.countP_congr fun entry _ => ?_
  rcases entry with ⟨item, index⟩
  by_cases trigger : item.kind = .trigger <;> simp [trigger, Edge.ofItem?]

/-- The passes of a slice end, at most one pass after as many as there are
triggers with a descriptor as their output, and what the slice needs is what
the last pass leaves.  A pass advances exactly when it reaches a trigger for
the first time, and otherwise it adds no descriptor. -/
theorem passes_slice :
    let edges := edges aliases template
    let seeds := (select template sections aliases).seeds
    (∃ last ≤ outputCount aliases template + 1, EndsAfter edges seeds last ∧
      closeOver edges seeds = afterPasses edges seeds last ∧
      (slice template sections aliases).descriptors =
        if sections.isEmpty then [] else Descriptor.sorted (afterPasses edges seeds last).needed) ∧
    ∀ passes,
      ((afterPasses edges seeds (passes + 1)).advanced = true ↔
        ∃ index ∈ (afterPasses edges seeds (passes + 1)).reached,
          index ∉ (afterPasses edges seeds passes).reached) ∧
      ((afterPasses edges seeds (passes + 1)).advanced = false ↔
        (afterPasses edges seeds (passes + 1)).needed = (afterPasses edges seeds passes).needed ∧
        (afterPasses edges seeds (passes + 1)).reached =
          (afterPasses edges seeds passes).reached) := by
  intro edges seeds
  have distinct : Unambiguous edges := unambiguous_edges
  have unique : seeds.Nodup := nodup_seeds
  constructor
  · rcases exists_endsAfter distinct unique with ⟨last, few, ends⟩
    have closed : closeOver edges seeds = afterPasses edges seeds last :=
      closeOver_eq_afterPasses ends few
    refine ⟨last, length_edges aliases template ▸ few, ends, closed, ?_⟩
    cases sections with
    | nil => rfl
    | cons code rest => exact closed ▸ descriptors_slice
  · intro passes
    have faithful := faithful_afterPasses distinct unique passes
    exact ⟨Closure.advanced_pass_iff distinct faithful,
      Closure.not_advanced_pass_iff distinct faithful⟩

end

end Template
end Sensornet
