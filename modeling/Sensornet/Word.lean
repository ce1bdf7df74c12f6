namespace Sensornet

/-!
# Integers of 64 bits

Integers of a JSON text, of a setting and of a key have a fixed width.  The
bounds are written out, so that a comparison with them is one of numerals.
-/

namespace Word

/-- Where signed integers end: two to the power 63. -/
def signedEnd : Nat := 9223372036854775808

/-- Where unsigned integers end: two to the power 64. -/
def unsignedEnd : Nat := 18446744073709551616

/-- Whether an integer has 64 bits with its sign. -/
def fitsSigned (n : Int) : Bool :=
  decide (-(signedEnd : Int) ≤ n) && decide (n < (signedEnd : Int))

@[simp] theorem fitsSigned_iff (n : Int) :
    fitsSigned n = true ↔ -9223372036854775808 ≤ n ∧ n < 9223372036854775808 := by
  unfold fitsSigned signedEnd
  rw [Bool.and_eq_true, decide_eq_true_iff, decide_eq_true_iff]
  omega

end Word
end Sensornet
