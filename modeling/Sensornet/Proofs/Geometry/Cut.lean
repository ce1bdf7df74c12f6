import Mathlib.Algebra.Field.Rat
import Mathlib.Tactic.FieldSimp
import Mathlib.Tactic.Ring
import Sensornet.Proofs.Geometry.Crossings

namespace Sensornet
namespace Geometry

/-!
# Cutting a ring in two

A ring is cut along the line from one of its vertices to another.  Both parts
walk along the cut, in opposite directions, and share the other edges out
between them.  In exact arithmetic a ray crosses the cut in one direction if and
only if it crosses it in the other, so what the parts count together differs
from what the whole counts by an even number.

Without rounding, too, fewer than three vertices never lead to an odd number of
crossings.  So the parts may be as small as they like.
-/

namespace Ring

section

variable {A : Type}

/-- The part of a ring from one vertex on to another. -/
def stretch (ring : Ring A) (i j : Nat) : Ring A :=
  (ring.drop i).take (j + 1 - i)

/-- The part of a ring from a vertex over its end to an earlier vertex. -/
def wrapped (ring : Ring A) (i j : Nat) : Ring A :=
  ring.drop j ++ ring.take (i + 1)

/-- What stands before and behind a vertex of a ring. -/
theorem exists_split {ring : Ring A} {i : Nat} (within : i < ring.length) :
    ∃ (front back : Ring A) (here : Coord A), ring = front ++ here :: back ∧ front.length = i := by
  refine ⟨ring.take i, ring.drop (i + 1), ring[i], ?_, ?_⟩
  · rw [List.getElem_cons_drop, List.take_append_drop]
  · rw [List.length_take]
    omega

/-- Both parts of a ring that is cut from one vertex to a later one. -/
theorem exists_cut {ring : Ring A} {i j : Nat} (before : i < j) (within : j < ring.length) :
    ∃ (front middle back : Ring A) (here there : Coord A),
      ring = front ++ here :: (middle ++ there :: back) ∧
      ring.stretch i j = here :: (middle ++ [there]) ∧
      ring.wrapped i j = there :: (back ++ (front ++ [here])) := by
  rcases exists_split (before.trans within) with ⟨front, rest, here, rfl, rfl⟩
  rw [List.length_append, List.length_cons] at within
  have inside : j - (front.length + 1) < rest.length := by omega
  rcases exists_split inside with ⟨middle, back, there, rfl, between⟩
  refine ⟨front, middle, back, here, there, rfl, ?_, ?_⟩
  · have count : j + 1 - front.length = (here :: (middle ++ [there])).length := by
      simp only [List.length_cons, List.length_append, List.length_nil]
      omega
    have whole : here :: (middle ++ there :: back) = (here :: (middle ++ [there])) ++ back := by
      rw [List.cons_append, List.append_assoc, List.singleton_append]
    rw [stretch, List.drop_left, count, whole, List.take_left]
  · have first : front ++ here :: (middle ++ there :: back) =
        (front ++ here :: middle) ++ there :: back := by
      rw [List.append_assoc, List.cons_append]
    have count : j = (front ++ here :: middle).length := by
      rw [List.length_append, List.length_cons]
      omega
    have start : (front ++ here :: (middle ++ there :: back)).take (front.length + 1) =
        front ++ [here] := by
      rw [List.take_append, List.take_of_length_le (Nat.le_succ _), Nat.add_sub_cancel_left]
      rfl
    rw [wrapped, start, first, count, List.drop_left, List.cons_append]

/-- The parts walk around the ring together, and along the cut in both directions. -/
theorem edges_cut (front middle back : Ring A) (here there : Coord A) :
    (edges (here :: (middle ++ [there])) ++ edges (there :: (back ++ (front ++ [here])))).Perm
      ((there, here) :: (here, there) :: edges (front ++ here :: (middle ++ there :: back))) := by
  have first : edges (here :: (middle ++ [there])) =
      (there, here) :: legs (here :: (middle ++ [there])) :=
    edges_concat (here :: middle) there
  have second : edges (there :: (back ++ (front ++ [here]))) =
      (here, there) :: legs (there :: ((back ++ front) ++ [here])) := by
    rw [← List.append_assoc]
    exact edges_concat (there :: (back ++ front)) here
  have whole : (edges (front ++ here :: (middle ++ there :: back))).Perm
      (legs (here :: (middle ++ [there])) ++ legs (there :: ((back ++ front) ++ [here]))) := by
    have turned := edges_perm (front ++ [here]) (middle ++ there :: back)
    rw [← edges_append, List.append_assoc middle, List.singleton_append, List.append_assoc back]
    rw [List.append_assoc middle, List.cons_append, List.append_assoc front] at turned
    exact turned
  rw [first, second]
  exact (List.Perm.cons _ (List.perm_middle.trans (List.Perm.cons _ whole.symm)))

end

variable {F : Type} [Field F] [LT F] [DecidableLT F]

/-- A ray crosses an edge in both directions or in none. -/
theorem crosses_swap (position here there : Coord F) :
    crosses position (here, there) = crosses position (there, here) := by
  unfold crosses
  dsimp only
  rw [bne_comm]
  by_cases level : here.y = there.y
  · rw [level, bne_self_eq_false, Bool.false_and, Bool.false_and]
  · have down : here.y - there.y ≠ 0 := sub_ne_zero.mpr level
    have up : there.y - here.y ≠ 0 := sub_ne_zero.mpr (Ne.symm level)
    have meet : (here.x - there.x) * (position.y - there.y) / (here.y - there.y) + there.x =
        (there.x - here.x) * (position.y - here.y) / (there.y - here.y) + here.x := by
      field_simp
      ring
    rw [meet]

/-- Fewer than three vertices lead to an even number of crossings. -/
theorem contains_eq_odd (ring : Ring F) (position : Coord F) :
    ring.contains position = decide (ring.crossings position % 2 = 1) := by
  rw [contains_eq]
  match ring with
  | [] => rfl
  | [here] => simp [crossings, edges, crosses_self]
  | [here, there] =>
    cases crossed : crosses position (here, there) <;>
      simp [crossings, edges, crosses_swap position there here, crossed]
  | _ :: _ :: _ :: _ => rfl

/-- The parts count the edges of the whole, and the cut twice or not at all. -/
theorem crossings_cut {ring : Ring F} {i j : Nat} (before : i < j) (within : j < ring.length)
    (position : Coord F) :
    ∃ cut : Bool, (ring.stretch i j).crossings position + (ring.wrapped i j).crossings position =
      ring.crossings position + 2 * cut.toNat := by
  rcases exists_cut before within with ⟨front, middle, back, here, there, rfl, first, second⟩
  have counted := (edges_cut front middle back here there).countP_eq (crosses position)
  rw [List.countP_append, List.countP_cons, List.countP_cons, crosses_swap position there here]
    at counted
  refine ⟨crosses position (here, there), ?_⟩
  rw [first, second]
  unfold crossings
  rw [counted]
  cases crosses position (here, there) <;> rfl

end Ring

/-- A ring that is cut between two of its vertices contains, in exact arithmetic, what
exactly one of the two parts contains.  So a position in the whole, on the cut and
near it as well, is claimed by one of the parts and not by both. -/
theorem contains_cut {F : Type} [Field F] [LT F] [DecidableLT F] {ring : Ring F} {i j : Nat}
    (before : i < j) (within : j < ring.length) (position : Coord F) :
    ring.contains position =
      ((ring.stretch i j).contains position ^^ (ring.wrapped i j).contains position) ∧
    (ring.contains position = true ↔
      [ring.stretch i j, ring.wrapped i j].countP (fun part => part.contains position) = 1) := by
  have parity : ring.contains position =
      ((ring.stretch i j).contains position ^^ (ring.wrapped i j).contains position) := by
    rcases ring.crossings_cut before within position with ⟨cut, counted⟩
    rw [Ring.contains_eq_odd, Ring.contains_eq_odd, Ring.contains_eq_odd, Bool.eq_iff_iff]
    simp only [Bool.xor_iff_ne, ne_eq, decide_eq_decide, decide_eq_true_eq]
    omega
  refine ⟨parity, ?_⟩
  rw [parity]
  cases first : (ring.stretch i j).contains position <;>
    cases second : (ring.wrapped i j).contains position <;> simp [first, second]

/-- An area with four corners. -/
def fourCorners : Ring Rat :=
  [⟨0, 0⟩, ⟨3, 0⟩, ⟨4, 4⟩, ⟨0, 4⟩]

/-- A position on the cut from the first corner to the third. -/
theorem contains_cut_fourCorners :
    0 < 2 ∧ 2 < fourCorners.length ∧
      [fourCorners.stretch 0 2, fourCorners.wrapped 0 2].countP
        (fun part => part.contains ⟨1 / 2, 1 / 2⟩) = 1 := by
  have within : 2 < fourCorners.length := by decide
  have whole : fourCorners.contains ⟨1 / 2, 1 / 2⟩ = true := by decide +kernel
  exact ⟨by decide, within, (contains_cut (by decide) within ⟨1 / 2, 1 / 2⟩).2.mp whole⟩

end Geometry
end Sensornet
