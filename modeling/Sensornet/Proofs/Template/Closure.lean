import Mathlib.Data.List.Perm.Subperm
import Sensornet.Template.Slice

namespace Sensornet
namespace Template

/-!
# The closure is the least closed set

Two things are shown of the descriptors that the passes end with.  They are
closed: a trigger whose output is among them has all its inputs among them.
And they are the least such set around the seeds, since whatever is added was
called for.  Cycles and triggers that read what they write are no exception.

Closedness needs that the passes were allowed to go on for long enough.  What
carries this is that a trigger, once reached, has all its inputs among the
needed descriptors, so that looking at it again does nothing: a pass that
advances has reached a trigger that no pass before it reached.
-/

open Sensornet.Metric (Aliases Descriptor)

/-- A set that has what an edge needs whenever it has the output. -/
def ClosedUnder (edges : List Edge) (set : Descriptor -> Prop) : Prop :=
  ∀ edge ∈ edges, set edge.output -> ∀ d ∈ edge.needs, set d

/-- No two edges have one index. -/
def Unambiguous (edges : List Edge) : Prop :=
  ∀ edge ∈ edges, ∀ other ∈ edges, edge.index = other.index -> edge = other

namespace Closure

/-- What holds while a closure is under way: the seeds are needed, the
reached edges are some of the edges, each once and called for, and all that a
reached edge needs is needed. -/
structure Faithful (edges : List Edge) (seeds : List Descriptor) (c : Closure) : Prop where
  seeds : ∀ d ∈ seeds, d ∈ c.needed
  needed : c.needed.Nodup
  reached : c.reached.Nodup
  called : ∀ index ∈ c.reached, ∃ edge ∈ edges, edge.index = index ∧ edge.output ∈ c.needed
  served : ∀ edge ∈ edges, edge.index ∈ c.reached -> ∀ d ∈ edge.needs, d ∈ c.needed

/-- Every edge that is called for has been reached. -/
def Settled (edges : List Edge) (c : Closure) : Prop :=
  ∀ edge ∈ edges, edge.output ∈ c.needed -> edge.index ∈ c.reached

variable {edges : List Edge} {seeds : List Descriptor} {c : Closure} {edge : Edge}

/-! ## Looking at one edge -/

/-- Looking at an edge does nothing, or reaches it for the first time. -/
theorem visit_cases (faithful : Faithful edges seeds c) (member : edge ∈ edges) :
    (c.visit edge = c ∧ (edge.output ∈ c.needed -> edge.index ∈ c.reached)) ∨
      (edge.output ∈ c.needed ∧ edge.index ∉ c.reached ∧
        c.visit edge =
          ⟨addAllNew c.needed edge.needs, c.reached ++ [edge.index], true⟩) := by
  by_cases called : edge.output ∈ c.needed
  · by_cases known : edge.index ∈ c.reached
    · have nothing := addAllNew_eq_self (faithful.served edge member known)
      have still := addNew_of_mem known
      refine Or.inl ⟨?_, fun _ => known⟩
      unfold visit
      simp only [if_pos called, nothing, still, Nat.lt_irrefl, decide_false, Bool.or_false]
    · refine Or.inr ⟨called, known, ?_⟩
      unfold visit
      rw [if_pos called, addNew_of_not_mem known]
      simp
  · exact Or.inl ⟨if_neg called, fun output => absurd output called⟩

theorem Faithful.visit (distinct : Unambiguous edges) (faithful : Faithful edges seeds c)
    (member : edge ∈ edges) : Faithful edges seeds (c.visit edge) := by
  rcases visit_cases faithful member with ⟨same, _⟩ | ⟨called, fresh, grown⟩
  · rw [same]
    exact faithful
  · rw [grown]
    have kept : ∀ d ∈ c.needed, d ∈ addAllNew c.needed edge.needs := fun d needed =>
      mem_addAllNew.mpr (Or.inl needed)
    constructor
    · exact fun d seed => kept d (faithful.seeds d seed)
    · exact nodup_addAllNew faithful.needed edge.needs
    · exact addNew_of_not_mem fresh ▸ nodup_addNew faithful.reached edge.index
    · intro index among
      rcases List.mem_append.mp among with old | new
      · rcases faithful.called index old with ⟨other, otherMember, place, output⟩
        exact ⟨other, otherMember, place, kept other.output output⟩
      · exact ⟨edge, member, (List.mem_singleton.mp new).symm, kept edge.output called⟩
    · intro other otherMember among d need
      rcases List.mem_append.mp among with old | new
      · exact kept d (faithful.served other otherMember old d need)
      · -- an index stands for one edge only
        have same := distinct other otherMember edge member (List.mem_singleton.mp new)
        exact mem_addAllNew.mpr (Or.inr (same ▸ need))

/-- A reached edge had been called for, so that no closed set is left. -/
theorem visit_within {set : Descriptor -> Prop} (closed : ClosedUnder edges set)
    (member : edge ∈ edges) (within : ∀ d ∈ c.needed, set d) :
    ∀ d ∈ (c.visit edge).needed, set d := by
  unfold visit
  split
  · next called =>
    intro d needed
    rcases mem_addAllNew.mp needed with old | new
    · exact within d old
    · exact closed edge member (within edge.output called) d new
  · exact within

/-! ## Passes -/

theorem scan_within {set : Descriptor -> Prop} (closed : ClosedUnder edges set) {part : List Edge}
    (among : ∀ edge ∈ part, edge ∈ edges) (within : ∀ d ∈ c.needed, set d) :
    ∀ d ∈ (part.foldl visit c).needed, set d := by
  induction part generalizing c with
  | nil => exact within
  | cons edge rest ih =>
    exact ih (fun other later => among other (List.mem_cons_of_mem edge later))
      (visit_within closed (among edge List.mem_cons_self) within)

/-- Looking at some edges in order does nothing, as all that are called for
were reached before, or it reaches a new one. -/
theorem scan_cases (distinct : Unambiguous edges) {part : List Edge}
    (among : ∀ edge ∈ part, edge ∈ edges) (faithful : Faithful edges seeds c) :
    (part.foldl visit c = c ∧ ∀ edge ∈ part, edge.output ∈ c.needed -> edge.index ∈ c.reached) ∨
      (c.reached.length < (part.foldl visit c).reached.length ∧
        (part.foldl visit c).advanced = true) := by
  induction part generalizing c with
  | nil => exact Or.inl ⟨rfl, fun edge member => absurd member List.not_mem_nil⟩
  | cons edge rest ih =>
    have member := among edge List.mem_cons_self
    have others := fun other later => among other (List.mem_cons_of_mem edge later)
    have after := ih others (faithful.visit distinct member)
    rw [List.foldl_cons]
    rcases visit_cases faithful member with ⟨same, known⟩ | ⟨_, _, grown⟩
    · rw [same] at after ⊢
      rcases after with ⟨still, all⟩ | advance
      · refine Or.inl ⟨still, fun other present => ?_⟩
        rcases List.mem_cons.mp present with rfl | later
        · exact known
        · exact all other later
      · exact Or.inr advance
    · have longer : c.reached.length < (c.visit edge).reached.length := by
        rw [grown]
        simp
      rcases after with ⟨still, _⟩ | ⟨more, advanced⟩
      · rw [still]
        exact Or.inr ⟨longer, by rw [grown]⟩
      · exact Or.inr ⟨Nat.lt_trans longer more, advanced⟩

theorem Faithful.scan (distinct : Unambiguous edges) {part : List Edge}
    (among : ∀ edge ∈ part, edge ∈ edges) (faithful : Faithful edges seeds c) :
    Faithful edges seeds (part.foldl Closure.visit c) := by
  induction part generalizing c with
  | nil => exact faithful
  | cons edge rest ih =>
    exact ih (fun other later => among other (List.mem_cons_of_mem edge later))
      (faithful.visit distinct (among edge List.mem_cons_self))

/-- Whether there was an advance is not part of what holds. -/
theorem Faithful.restart (faithful : Faithful edges seeds c) :
    Faithful edges seeds { c with advanced := false } :=
  ⟨faithful.seeds, faithful.needed, faithful.reached, faithful.called, faithful.served⟩

theorem Faithful.pass (distinct : Unambiguous edges) (faithful : Faithful edges seeds c) :
    Faithful edges seeds (c.pass edges) :=
  faithful.restart.scan distinct fun _ member => member

/-- A pass that does not advance leaves nothing to do, and one that does
reaches a new edge. -/
theorem pass_cases (distinct : Unambiguous edges) (faithful : Faithful edges seeds c) :
    ((c.pass edges).advanced = false ∧ Settled edges (c.pass edges)) ∨
      ((c.pass edges).advanced = true ∧ c.reached.length < (c.pass edges).reached.length) := by
  rcases scan_cases distinct (fun _ member => member) faithful.restart with
    ⟨still, all⟩ | ⟨more, advanced⟩
  · have same : c.pass edges = { c with advanced := false } := still
    refine Or.inl ⟨by rw [same], ?_⟩
    rw [same]
    exact all
  · exact Or.inr ⟨advanced, more⟩

/-! ## All passes -/

/-- Nothing is reached at first. -/
theorem Faithful.begin (unique : seeds.Nodup) : Faithful edges seeds ⟨seeds, [], false⟩ :=
  ⟨fun _ seed => seed, unique, List.nodup_nil, fun _ reached => absurd reached List.not_mem_nil,
    fun _ _ reached => absurd reached List.not_mem_nil⟩

/-- There are no more reached edges than edges. -/
theorem Faithful.reached_le (faithful : Faithful edges seeds c) :
    c.reached.length ≤ edges.length := by
  have among : c.reached ⊆ edges.map Edge.index := by
    intro index reached
    rcases faithful.called index reached with ⟨edge, member, place, _⟩
    exact List.mem_map.mpr ⟨edge, member, place⟩
  have bound := (List.subperm_of_subset faithful.reached among).length_le
  rw [List.length_map] at bound
  exact bound

theorem Faithful.settle (distinct : Unambiguous edges) (passes : Nat)
    (faithful : Faithful edges seeds c) : Faithful edges seeds (settle edges passes c) := by
  induction passes generalizing c with
  | zero => exact faithful
  | succ passes ih =>
    unfold Closure.settle
    dsimp only
    split
    · exact ih (faithful.pass distinct)
    · exact faithful.pass distinct

/-- With one pass more than there are edges left, nothing is left to do. -/
theorem settled_settle (distinct : Unambiguous edges) {passes : Nat}
    (faithful : Faithful edges seeds c) (room : edges.length < c.reached.length + passes) :
    Settled edges (settle edges passes c) := by
  induction passes generalizing c with
  | zero =>
    have bound := faithful.reached_le
    omega
  | succ passes ih =>
    unfold Closure.settle
    dsimp only
    rcases pass_cases distinct faithful with ⟨ended, settled⟩ | ⟨advanced, more⟩
    · rw [if_neg (by rw [ended]; decide)]
      exact settled
    · rw [if_pos advanced]
      exact ih (faithful.pass distinct) (by omega)

/-- All that is needed in the end lies in every closed set around what was
needed at first. -/
theorem settle_within {set : Descriptor -> Prop} (closed : ClosedUnder edges set) (passes : Nat)
    (within : ∀ d ∈ c.needed, set d) : ∀ d ∈ (settle edges passes c).needed, set d := by
  induction passes generalizing c with
  | zero => exact within
  | succ passes ih =>
    have next : ∀ d ∈ (c.pass edges).needed, set d :=
      scan_within closed (fun _ member => member) within
    unfold settle
    dsimp only
    split
    · exact ih next
    · exact next

end Closure

/-! ## The closure of the seeds -/

variable {edges : List Edge} {seeds : List Descriptor}

theorem faithful_closeOver (distinct : Unambiguous edges) (unique : seeds.Nodup) :
    (closeOver edges seeds).Faithful edges seeds :=
  (Closure.Faithful.begin unique).settle distinct _

theorem settled_closeOver (distinct : Unambiguous edges) (unique : seeds.Nodup) :
    (closeOver edges seeds).Settled edges := by
  refine Closure.settled_settle distinct (Closure.Faithful.begin unique) ?_
  simp

/-- The needed descriptors are closed. -/
theorem closedUnder_closeOver (distinct : Unambiguous edges) (unique : seeds.Nodup) :
    ClosedUnder edges (· ∈ (closeOver edges seeds).needed) := by
  intro edge member output d need
  have reached := settled_closeOver distinct unique edge member output
  exact (faithful_closeOver distinct unique).served edge member reached d need

/-- No closed set around the seeds is smaller. -/
theorem closeOver_least {set : Descriptor -> Prop} (closed : ClosedUnder edges set)
    (around : ∀ d ∈ seeds, set d) : ∀ d ∈ (closeOver edges seeds).needed, set d :=
  Closure.settle_within closed _ around

end Template
end Sensornet
