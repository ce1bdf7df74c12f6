import Mathlib.Data.List.Rotate
import Sensornet.Geometry.Polygon

namespace Sensornet
namespace Geometry

/-!
# A ring is a cycle of edges

Whether a ring contains a position depends on how many of its edges the ray
crosses, and so not on where the list of its vertices starts.  A vertex that is
written twice adds an edge without length, which no ray crosses.  Hence how a
ring is written down does not matter, as long as its vertices follow each other
in the same order around it.

Nothing is asked of the arithmetic.  The two comparisons of an edge without
length are one and the same, so they agree whatever they give, and the quotient
behind them is never looked at.
-/

namespace Ring

variable {A : Type}

/-! ## Edges along a line -/

/-- The edges from each vertex of a line to the next. -/
def legs (line : List (Coord A)) : List (Coord A × Coord A) :=
  line.zip line.tail

/-- A line is cut at a vertex, which both parts keep. -/
theorem legs_append (front back : List (Coord A)) (here : Coord A) :
    legs (front ++ here :: back) = legs (front ++ [here]) ++ legs (here :: back) := by
  induction front with
  | nil => rfl
  | cons first rest ih =>
    cases rest with
    | nil => rfl
    | cons second more => exact congrArg ((first, second) :: ·) ih

/-- A ring is closed by the edge from its last vertex to its first. -/
theorem edges_concat (front : List (Coord A)) (last : Coord A) :
    edges (front ++ [last]) = legs (last :: (front ++ [last])) := by
  unfold edges
  rw [List.getLast?_concat]
  rfl

/-- The edges of a ring of two lines, each begun where the other one ends. -/
theorem edges_append (front back : List (Coord A)) (here there : Coord A) :
    edges ((front ++ [here]) ++ (back ++ [there])) =
      legs (there :: (front ++ [here])) ++ legs (here :: (back ++ [there])) := by
  rw [← List.append_assoc, edges_concat, List.append_assoc, List.append_assoc,
    List.singleton_append, ← List.cons_append, legs_append, List.cons_append]

/-- A ring may start elsewhere. -/
theorem edges_perm (front back : Ring A) :
    (edges (front ++ back)).Perm (edges (back ++ front)) := by
  induction front using List.reverseRecOn with
  | nil => rw [List.nil_append, List.append_nil]
  | append_singleton front here _ =>
    induction back using List.reverseRecOn with
    | nil => rw [List.nil_append, List.append_nil]
    | append_singleton back there _ =>
      rw [edges_append, edges_append]
      exact List.perm_append_comm

/-- A vertex that is written twice adds an edge from itself to itself. -/
theorem edges_double (before after : List (Coord A)) (here : Coord A) :
    (edges (before ++ here :: here :: after)).Perm
      ((here, here) :: edges (before ++ here :: after)) := by
  have once : (edges (before ++ here :: after)).Perm (edges ((after ++ before) ++ [here])) := by
    rw [List.append_assoc, List.append_cons]
    exact edges_perm (before ++ [here]) after
  have twice : (edges (before ++ here :: here :: after)).Perm
      (edges ((here :: (after ++ before)) ++ [here])) := by
    rw [List.cons_append, List.append_assoc, List.append_cons]
    exact edges_perm (before ++ [here]) (here :: after)
  have longer : edges ((here :: (after ++ before)) ++ [here]) =
      (here, here) :: edges ((after ++ before) ++ [here]) := by
    rw [edges_concat, edges_concat]
    rfl
  rw [longer] at twice
  exact twice.trans (once.symm.cons _)

/-! ## Ways of writing a ring down -/

/-- A ring is written down in another way: it starts elsewhere, or vertices are
written twice. -/
inductive Redrawn (ring : Ring A) : Ring A -> Prop where
  | same : Redrawn ring ring
  | turn {front back : Ring A} (drawn : Redrawn ring (front ++ back)) :
      Redrawn ring (back ++ front)
  | double {before after : Ring A} {here : Coord A}
      (drawn : Redrawn ring (before ++ here :: after)) :
      Redrawn ring (before ++ here :: here :: after)

namespace Redrawn

variable {ring other : Ring A}

theorem length_le (drawn : Redrawn ring other) : ring.length ≤ other.length := by
  induction drawn with
  | same => exact Nat.le_refl _
  | turn _ ih =>
    rw [List.length_append] at ih ⊢
    omega
  | double _ ih =>
    simp only [List.length_append, List.length_cons] at ih ⊢
    omega

theorem rotate (drawn : Redrawn ring other) (n : Nat) : Redrawn ring (other.rotate n) := by
  rw [List.rotate_eq_drop_append_take_mod]
  refine turn ?_
  rw [List.take_append_drop]
  exact drawn

/-- The first vertex may be repeated at the end. -/
theorem close {first : Coord A} {rest : Ring A} (drawn : Redrawn ring (first :: rest)) :
    Redrawn ring ((first :: rest) ++ [first]) := by
  have doubled : Redrawn ring ([first] ++ first :: rest) := @double A ring [] rest first drawn
  exact doubled.turn

end Redrawn

/-! ## Crossings -/

section

variable [Add A] [Sub A] [Mul A] [Div A] [LT A] [DecidableLT A]

/-- How many edges of a ring the ray from a position crosses. -/
def crossings (ring : Ring A) (position : Coord A) : Nat :=
  ring.edges.countP (crosses position)

/-- The flag that every crossed edge turns over. -/
theorem foldl_crosses (position : Coord A) (edges : List (Coord A × Coord A)) (inside : Bool) :
    edges.foldl (fun inside edge => inside != crosses position edge) inside =
      (inside != decide (edges.countP (crosses position) % 2 = 1)) := by
  induction edges generalizing inside with
  | nil => simp
  | cons edge rest ih =>
    rw [List.foldl_cons, ih, List.countP_cons]
    rcases Nat.mod_two_eq_zero_or_one (rest.countP (crosses position)) with even | odd
    · cases crosses position edge <;> cases inside <;> simp [Nat.add_mod, even]
    · cases crosses position edge <;> cases inside <;> simp [Nat.add_mod, odd]

/-- A ring of at least three vertices contains a position whose ray crosses an odd
number of edges. -/
theorem contains_eq (ring : Ring A) (position : Coord A) :
    ring.contains position =
      (decide (3 ≤ ring.length) && decide (ring.crossings position % 2 = 1)) := by
  unfold contains crossings
  rw [foldl_crosses, Bool.false_bne]

/-- No ray crosses an edge without length. -/
theorem crosses_self (position here : Coord A) : crosses position (here, here) = false := by
  unfold crosses
  dsimp only
  rw [bne_self_eq_false, Bool.false_and]

variable {ring other : Ring A}

theorem Redrawn.crossings_eq (drawn : Redrawn ring other) (position : Coord A) :
    other.crossings position = ring.crossings position := by
  induction drawn with
  | same => rfl
  | @turn front back _ ih => exact ((edges_perm back front).countP_eq _).trans ih
  | @double before after here _ ih =>
    have added := (edges_double before after here).countP_eq (crosses position)
    rw [List.countP_cons_of_neg (Bool.eq_false_iff.mp (crosses_self position here))] at added
    exact added.trans ih

/-- A ring of at least three vertices contains the same positions in whatever way it
is written down. -/
theorem Redrawn.contains_eq (drawn : Redrawn ring other) (encloses : 3 ≤ ring.length)
    (position : Coord A) : other.contains position = ring.contains position := by
  have enclosesToo : 3 ≤ other.length := encloses.trans drawn.length_le
  rw [Ring.contains_eq, Ring.contains_eq, drawn.crossings_eq position, decide_eq_true encloses,
    decide_eq_true enclosesToo]

end

end Ring

/-- How a ring is written down does not matter, if it has at least three vertices: in
any arithmetic, it contains the same positions after it was turned and vertices of it
were doubled, however often.  In particular a polygon contains the same positions
when its outline starts at another vertex, when one vertex is written twice, and when
the first vertex is repeated at the end. -/
theorem contains_redrawn :
    (∀ (A : Type) [Add A] [Sub A] [Mul A] [Div A] [LT A] [DecidableLT A] (ring other : Ring A)
      (position : Coord A), 3 ≤ ring.length -> ring.Redrawn other ->
        other.contains position = ring.contains position) ∧
    ∀ (outline : Ring Float) (holes : List (Ring Float)) (position : Position),
      3 ≤ outline.length ->
        (∀ n, Polygon.contains (outline.rotate n :: holes) position =
          Polygon.contains (outline :: holes) position) ∧
        (∀ before here after, outline = before ++ here :: after ->
          Polygon.contains ((before ++ here :: here :: after) :: holes) position =
            Polygon.contains (outline :: holes) position) ∧
        ∀ first rest, outline = first :: rest ->
          Polygon.contains ((outline ++ [first]) :: holes) position =
            Polygon.contains (outline :: holes) position := by
  constructor
  · intro A _ _ _ _ _ _ ring other position encloses drawn
    exact drawn.contains_eq encloses position
  · intro outline holes position encloses
    have redrawn : ∀ {other : Ring Float}, outline.Redrawn other ->
        Polygon.contains (other :: holes) position = Polygon.contains (outline :: holes) position :=
      fun drawn => drawn.contains_eq encloses position
    refine ⟨fun n => redrawn (Ring.Redrawn.same.rotate n), ?_, ?_⟩
    · rintro before here after rfl
      exact redrawn (.double .same)
    · rintro first rest rfl
      exact redrawn (.close .same)

/-- The corners of a square, counted off in whole numbers. -/
def wholeSquare : Ring Int :=
  [⟨0, 0⟩, ⟨4, 0⟩, ⟨4, 4⟩, ⟨0, 4⟩]

/-- A square that starts at its second corner and is closed contains its middle. -/
theorem contains_redrawn_wholeSquare :
    let other : Ring Int := [⟨4, 0⟩, ⟨4, 4⟩, ⟨0, 4⟩, ⟨0, 0⟩, ⟨4, 0⟩]
    3 ≤ wholeSquare.length ∧ wholeSquare.Redrawn other ∧ other.contains ⟨2, 2⟩ = true := by
  intro other
  have encloses : 3 ≤ wholeSquare.length := by decide
  have turned : wholeSquare.Redrawn (⟨4, 0⟩ :: [⟨4, 4⟩, ⟨0, 4⟩, ⟨0, 0⟩]) :=
    Ring.Redrawn.same.rotate 1
  have drawn : wholeSquare.Redrawn other := turned.close
  have middle : wholeSquare.contains ⟨2, 2⟩ = true := by decide
  exact ⟨encloses, drawn, (contains_redrawn.1 Int wholeSquare other ⟨2, 2⟩ encloses drawn).trans
    middle⟩

end Geometry
end Sensornet
