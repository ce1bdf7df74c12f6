import Mathlib.Data.List.Basic
import Sensornet.Text.Blank

namespace Sensornet
namespace Text

/-!
# Pieces of a text

The first piece of a text ends at the first separator, and the other pieces are
those of what follows this separator.  So a text is cut at a separator wherever
it stands: the pieces of both sides are the pieces of the whole.
-/

variable {separator : Char} {text front piece : List Char} {others : List (List Char)}

/-- What stands before the first separator is the first piece. -/
theorem pieces_append (absent : separator ∉ front) (rest : List Char) :
    pieces separator (front ++ separator :: rest) = front :: pieces separator rest := by
  induction front with
  | nil => rw [List.nil_append, pieces, if_pos rfl]
  | cons c front ih =>
    rw [List.mem_cons, not_or] at absent
    rw [List.cons_append, pieces, if_neg (Ne.symm absent.1), ih absent.2]

theorem pieces_of_not_mem (absent : separator ∉ text) : pieces separator text = [text] := by
  induction text with
  | nil => rfl
  | cons c rest ih =>
    rw [List.mem_cons, not_or] at absent
    rw [pieces, if_neg (Ne.symm absent.1), ih absent.2]

/-- A first piece has no separator in it, and it is the whole text or a
separator follows it. -/
theorem pieces_eq_cons_iff : pieces separator text = piece :: others ↔
    separator ∉ piece ∧ (text = piece ∧ others = [] ∨
      ∃ rest, text = piece ++ separator :: rest ∧ others = pieces separator rest) := by
  constructor
  · intro cut
    by_cases among : separator ∈ text
    · rcases List.eq_append_cons_of_mem among with ⟨front, rest, rfl, absent⟩
      rw [pieces_append absent] at cut
      cases cut
      exact ⟨absent, Or.inr ⟨rest, rfl, rfl⟩⟩
    · rw [pieces_of_not_mem among] at cut
      cases cut
      exact ⟨among, Or.inl ⟨rfl, rfl⟩⟩
  · rintro ⟨absent, ⟨rfl, rfl⟩ | ⟨rest, rfl, rfl⟩⟩
    · exact pieces_of_not_mem absent
    · exact pieces_append absent rest

end Text
end Sensornet
