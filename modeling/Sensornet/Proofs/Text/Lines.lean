import Mathlib.Data.List.DropRight
import Sensornet.Proofs.Text.Pieces

namespace Sensornet
namespace Text

/-!
# Trimmed texts and lines

Blanks at the ends of a text are dropped by trimming, and nothing else is.  As a
line feed is a blank, blanks at the ends of a text make no difference to its
filled lines either: they belong to a line that is trimmed, or they stand on
lines that are not filled.
-/

/-- A text of blanks, among which there may be line ends. -/
def AllBlank (text : List Char) : Prop :=
  ∀ c ∈ text, isBlank c = true

instance (text : List Char) : Decidable (AllBlank text) :=
  List.decidableBAll (fun c => isBlank c = true) text

variable {front back text : List Char} {c : Char}

theorem AllBlank.append (first : AllBlank front) (second : AllBlank back) :
    AllBlank (front ++ back) :=
  fun c member => (List.mem_append.mp member).elim (first c) (second c)

theorem AllBlank.left (blank : AllBlank (front ++ back)) : AllBlank front :=
  fun c member => blank c (List.mem_append_left back member)

theorem AllBlank.right (blank : AllBlank (front ++ back)) : AllBlank back :=
  fun c member => blank c (List.mem_append_right front member)

/-! ## Trimming -/

theorem trim_eq (text : List Char) : trim text = (trimStart text).rdropWhile isBlank := rfl

theorem trimStart_eq_nil_iff : trimStart text = [] ↔ AllBlank text :=
  List.dropWhile_eq_nil_iff

/-- Blanks in front of a text are dropped. -/
theorem trimStart_append_of_blank (blank : AllBlank front) (text : List Char) :
    trimStart (front ++ text) = trimStart text :=
  List.dropWhile_append_of_pos blank

/-- What stands behind a text that is not blank stays where it is. -/
theorem trimStart_append (filled : ¬ AllBlank front) (back : List Char) :
    trimStart (front ++ back) = trimStart front ++ back := by
  have some : trimStart front ≠ [] := fun none => filled (trimStart_eq_nil_iff.mp none)
  unfold trimStart at some ⊢
  rw [List.dropWhile_append, if_neg]
  rwa [List.isEmpty_iff]

/-- What stands in front of a text that is not blank stays where it is. -/
theorem rdropWhile_append (filled : ¬ AllBlank back) (front : List Char) :
    (front ++ back).rdropWhile isBlank = front ++ back.rdropWhile isBlank := by
  have some : back.reverse.dropWhile isBlank ≠ [] := by
    rw [ne_eq, List.dropWhile_eq_nil_iff]
    exact fun blank => filled fun c member => blank c (List.mem_reverse.mpr member)
  unfold List.rdropWhile
  rw [List.reverse_append, List.dropWhile_append, if_neg, List.reverse_append, List.reverse_reverse]
  rwa [List.isEmpty_iff]

/-- Blanks behind a text are dropped, be they all that there is. -/
theorem rdropWhile_append_of_blank (blank : AllBlank back) (front : List Char) :
    (front ++ back).rdropWhile isBlank = front.rdropWhile isBlank := by
  unfold List.rdropWhile
  rw [List.reverse_append, List.dropWhile_append_of_pos]
  exact fun c member => blank c (List.mem_reverse.mp member)

/-- Texts that are not blank are trimmed at their outer ends. -/
theorem trim_append (filled : ¬ AllBlank front) (filledToo : ¬ AllBlank back) :
    trim (front ++ back) = trimStart front ++ back.rdropWhile isBlank := by
  rw [trim_eq, trimStart_append filled, rdropWhile_append filledToo]

/-- A text is its trimmed form with blanks on both sides. -/
theorem exists_trim (text : List Char) :
    ∃ front back, AllBlank front ∧ AllBlank back ∧ text = front ++ trim text ++ back := by
  refine ⟨text.takeWhile isBlank, (trimStart text).rtakeWhile isBlank, ?_, ?_, ?_⟩
  · exact fun c member => List.mem_takeWhile_imp member
  · exact fun c member => List.mem_rtakeWhile_imp member
  · rw [List.append_assoc, trim_eq, List.rdropWhile_append_rtakeWhile]
    exact List.takeWhile_append_dropWhile.symm

theorem trim_eq_nil_iff : trim text = [] ↔ AllBlank text := by
  constructor
  · intro none
    rcases exists_trim text with ⟨front, back, first, last, whole⟩
    rw [none, List.append_nil] at whole
    exact whole ▸ first.append last
  · intro blank
    rw [trim_eq, trimStart_eq_nil_iff.mpr blank, List.rdropWhile_nil]

theorem trim_append_of_blank (blank : AllBlank front) (text : List Char) :
    trim (front ++ text) = trim text := by
  rw [trim_eq, trimStart_append_of_blank blank, trim_eq]

theorem trim_concat_of_blank (blank : isBlank c = true) (text : List Char) :
    trim (text ++ [c]) = trim text := by
  have last : AllBlank [c] := List.forall_mem_singleton.mpr blank
  by_cases filled : AllBlank text
  · rw [trim_eq_nil_iff.mpr filled, trim_eq_nil_iff.mpr (filled.append last)]
  · rw [trim_eq, trimStart_append filled, rdropWhile_append_of_blank last, trim_eq]

/-! ## Lines -/

/-- At a separator the pieces of both sides meet. -/
theorem pieces_append_cons (separator : Char) (front back : List Char) :
    pieces separator (front ++ separator :: back) =
      pieces separator front ++ pieces separator back := by
  induction front with
  | nil => simp [pieces]
  | cons c front ih =>
    rw [List.cons_append, pieces, pieces, ih]
    split
    · rfl
    · rcases cut : pieces separator front with _ | ⟨piece, others⟩
      · exact absurd cut (pieces_ne_nil separator front)
      · rfl

theorem filledLines_append_cons (front back : List Char) :
    filledLines (front ++ '\n' :: back) = filledLines front ++ filledLines back := by
  unfold filledLines
  rw [pieces_append_cons, List.map_append, List.filter_append]

/-- A single line is trimmed, and left out if nothing remains. -/
theorem filledLines_of_not_mem (single : '\n' ∉ text) :
    filledLines text = [trim text].filter fun line => !line.isEmpty := by
  unfold filledLines
  rw [pieces_of_not_mem single, List.map_singleton]

/-- A line that is not blank is trimmed. -/
theorem filledLines_line (single : '\n' ∉ text) (filled : ¬ AllBlank text) :
    filledLines text = [trim text] := by
  have some : trim text ≠ [] := fun none => filled (trim_eq_nil_iff.mp none)
  rw [filledLines_of_not_mem single]
  simpa using some

theorem filledLines_cons_of_blank (blank : isBlank c = true) (text : List Char) :
    filledLines (c :: text) = filledLines text := by
  by_cases feed : c = '\n'
  · subst feed
    exact filledLines_append_cons [] text
  · -- the blank belongs to the first line
    have first : ∀ {line}, '\n' ∉ line -> filledLines (c :: line) = filledLines line := by
      intro line single
      have longer : '\n' ∉ c :: line := by simp [single, Ne.symm feed]
      have trimmed := trim_append_of_blank (List.forall_mem_singleton.mpr blank) line
      rw [filledLines_of_not_mem longer, filledLines_of_not_mem single, ← trimmed]
      rfl
    by_cases more : '\n' ∈ text
    · rcases List.eq_append_cons_of_mem more with ⟨line, rest, rfl, single⟩
      rw [← List.cons_append, filledLines_append_cons, first single, filledLines_append_cons]
    · exact first more

theorem filledLines_concat_of_blank (blank : isBlank c = true) (text : List Char) :
    filledLines (text ++ [c]) = filledLines text := by
  by_cases more : '\n' ∈ text
  · rcases List.eq_append_cons_of_mem more with ⟨line, rest, rfl, single⟩
    rw [List.append_assoc, List.cons_append, filledLines_append_cons,
      filledLines_concat_of_blank blank rest, filledLines_append_cons]
  · by_cases feed : c = '\n'
    · subst feed
      exact (filledLines_append_cons text []).trans (List.append_nil _)
    · have longer : '\n' ∉ text ++ [c] := by simp [more, Ne.symm feed]
      rw [filledLines_of_not_mem longer, filledLines_of_not_mem more, trim_concat_of_blank blank]
termination_by text.length

/-- Blanks at the ends of a text make no difference to its filled lines. -/
theorem filledLines_append_of_blank (first : AllBlank front) (text : List Char)
    (last : AllBlank back) : filledLines (front ++ text ++ back) = filledLines text := by
  have behind : ∀ text, filledLines (text ++ back) = filledLines text := by
    induction back using List.reverseRecOn with
    | nil => exact fun text => congrArg filledLines (List.append_nil text)
    | append_singleton back c ih =>
      intro text
      rw [← List.append_assoc, filledLines_concat_of_blank (last.right c List.mem_cons_self),
        ih last.left]
  rw [behind]
  clear behind
  induction front with
  | nil => rfl
  | cons c front ih =>
    have blank := List.forall_mem_cons.mp first
    rw [List.cons_append, filledLines_cons_of_blank blank.1, ih blank.2]

theorem filledLines_trim (text : List Char) : filledLines (trim text) = filledLines text := by
  rcases exists_trim text with ⟨front, back, first, last, whole⟩
  exact (filledLines_append_of_blank first (trim text) last).symm.trans
    (congrArg filledLines whole.symm)

end Text
end Sensornet
