import Sensornet.Json.Number

namespace Sensornet

/-!
# Numerals

The text of a number is never empty, and that of an integer starts with a
digit or a sign.
-/

namespace Decimal

theorem natural_ne_nil (n : Nat) : natural n ≠ [] :=
  Nat.toDigits_ne_nil

theorem integer_ne_nil : ∀ n : Int, integer n ≠ []
  | .ofNat n => natural_ne_nil n
  | .negSucc _ => List.cons_ne_nil _ _

/-- The first character of an integer is a digit or a sign. -/
theorem isDigit_of_head?_integer {n : Int} {c : Char} (first : (integer n).head? = some c) :
    c.isDigit = true ∨ c = '-' := by
  cases n with
  | ofNat m =>
    exact Or.inl (Nat.isDigit_of_mem_toDigits (by decide) (by decide) (List.mem_of_head? first))
  | negSucc m => exact Or.inr (Option.some.inj first).symm

namespace Layout

theorem plain_ne_nil (layout : Layout) {digits : List Char} (filled : digits ≠ []) :
    ∀ exponent : Int, layout.plain digits exponent ≠ []
  | .ofNat _ => List.append_ne_nil_of_left_ne_nil (List.append_ne_nil_of_left_ne_nil filled _) _
  | .negSucc _ => by
    unfold plain
    dsimp only
    split
    · exact List.append_ne_nil_of_right_ne_nil _ (List.cons_ne_nil _ _)
    · exact List.cons_ne_nil _ _

theorem scientific_ne_nil (digits : List Char) (first : Int) : scientific digits first ≠ [] :=
  List.append_ne_nil_of_right_ne_nil _ (List.cons_ne_nil _ _)

theorem render_ne_nil (layout : Layout) (x : Float) : layout.render x ≠ [] := by
  unfold render
  dsimp only
  split
  · refine List.append_ne_nil_of_right_ne_nil _ ?_
    split <;> exact List.cons_ne_nil _ _
  · refine List.append_ne_nil_of_right_ne_nil _ ?_
    split
    · exact layout.plain_ne_nil (natural_ne_nil _) _
    · exact scientific_ne_nil _ _

end Layout
end Decimal

theorem Json.Number.text_ne_empty (n : Number) : n.text ≠ "" := by
  have chars : n.chars ≠ [] := by
    cases n with
    | integer value => exact Decimal.integer_ne_nil value
    | float value => exact layout.render_ne_nil value
  intro empty
  exact chars (String.ofList_eq_empty_iff.mp empty)

end Sensornet
