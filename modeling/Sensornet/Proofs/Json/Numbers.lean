import Mathlib.Data.List.TakeWhile
import Sensornet.Json.Lexeme
import Sensornet.Proofs.Decimal.Numerals

namespace Sensornet

/-!
# The text of a number and its reading

The text of a number consists of characters that continue a number literal,
and it starts with a digit or a sign; so the scanner takes it as one lexeme.
What the lexeme is worth is another question.  An integer that was ever read
from a text is read back from its own.  A float may be read as its neighbour,
since a literal with a fraction or an exponent is rounded twice.
-/

namespace Decimal

theorem isDigit_of_mem_natural {n : Nat} {c : Char} (member : c ∈ natural n) : c.isDigit = true :=
  Nat.isDigit_of_mem_toDigits (by decide) (by decide) member

/-- Only zero is written with a zero in front. -/
theorem head?_natural_ne {n : Nat} (positive : 0 < n) : (natural n).head? ≠ some '0' := by
  have single : ∀ d < 10, 0 < d -> Nat.digitChar d ≠ '0' := by decide
  induction n using Nat.strongRecOn with
  | ind n ih =>
    unfold natural at ih ⊢
    by_cases small : n < 10
    · rw [Nat.toDigits_of_lt_base small]
      exact fun same => single n small positive (Option.some.inj same)
    · rw [Nat.toDigits_of_base_le (by decide) (by omega), List.head?_append,
        List.head?_eq_some_head Nat.toDigits_ne_nil, Option.some_or,
        ← List.head?_eq_some_head Nat.toDigits_ne_nil]
      exact ih (n / 10) (by omega) (by omega)

end Decimal

namespace Json

/-! ## Characters -/

namespace Number

open Scan (continuesNumber)

theorem continuesNumber_of_isDigit {c : Char} (digit : c.isDigit = true) :
    continuesNumber c = true := by
  simp [continuesNumber, digit]

theorem continuesNumber_of_mem_natural {n : Nat} {c : Char} (member : c ∈ Decimal.natural n) :
    continuesNumber c = true :=
  continuesNumber_of_isDigit (Decimal.isDigit_of_mem_natural member)

theorem continuesNumber_of_mem_integer {i : Int} {c : Char} (member : c ∈ Decimal.integer i) :
    continuesNumber c = true := by
  cases i with
  | ofNat n => exact continuesNumber_of_mem_natural member
  | negSucc n =>
    rcases List.mem_cons.mp member with rfl | digits
    · decide
    · exact continuesNumber_of_mem_natural digits

variable {digits : List Char}

theorem continuesNumber_of_mem_plain (layout : Decimal.Layout)
    (written : ∀ c ∈ digits, continuesNumber c = true) (exponent : Int) :
    ∀ c ∈ layout.plain digits exponent, continuesNumber c = true := by
  have zeros : ∀ (n : Nat), ∀ c ∈ List.replicate n '0', continuesNumber c = true := by
    intro n c member
    rw [List.eq_of_mem_replicate member]
    decide
  cases exponent with
  | ofNat n =>
    have fraction : ∀ c ∈ (if layout.keepsFraction then ['.', '0'] else []),
        continuesNumber c = true := by
      cases layout.keepsFraction <;> exact List.all_eq_true.mp (by decide)
    intro c member
    rcases List.mem_append.mp member with front | last
    · rcases List.mem_append.mp front with first | zero
      · exact written c first
      · exact zeros n c zero
    · exact fraction c last
  | negSucc n =>
    unfold Decimal.Layout.plain
    dsimp only
    split
    · intro c member
      rcases List.mem_append.mp member with front | back
      · exact written c (List.mem_of_mem_take front)
      · rcases List.mem_cons.mp back with rfl | back
        · decide
        · exact written c (List.mem_of_mem_drop back)
    · intro c member
      rcases List.mem_cons.mp member with rfl | member
      · decide
      rcases List.mem_cons.mp member with rfl | member
      · decide
      rcases List.mem_append.mp member with zero | last
      · exact zeros _ c zero
      · exact written c last

theorem continuesNumber_of_mem_scientific (written : ∀ c ∈ digits, continuesNumber c = true)
    (first : Int) : ∀ c ∈ Decimal.Layout.scientific digits first, continuesNumber c = true := by
  intro c member
  rcases List.mem_append.mp member with mantissa | power
  · match digits, written, mantissa with
    | [_], written, mantissa => exact written c mantissa
    | d :: e :: rest, written, mantissa =>
      rcases List.mem_cons.mp mantissa with rfl | mantissa
      · exact written c List.mem_cons_self
      · rcases List.mem_cons.mp mantissa with rfl | mantissa
        · decide
        · exact written c (List.mem_cons_of_mem d mantissa)
  · rcases List.mem_cons.mp power with rfl | power
    · decide
    · split at power
      · exact continuesNumber_of_mem_integer power
      · rcases List.mem_cons.mp power with rfl | power
        · decide
        · exact continuesNumber_of_mem_integer power

theorem continuesNumber_of_mem_chars {n : Number} {c : Char} (member : c ∈ n.chars) :
    continuesNumber c = true := by
  have natural : ∀ m, ∀ c ∈ Decimal.natural m, continuesNumber c = true :=
    fun m c => continuesNumber_of_mem_natural
  cases n with
  | integer i => exact continuesNumber_of_mem_integer member
  | float x =>
    unfold chars Decimal.Layout.render at member
    dsimp only at member
    have sign : ∀ c ∈ (if x.toBits.toNat < Word.signedEnd then [] else ['-']),
        continuesNumber c = true := by
      split <;> exact List.all_eq_true.mp (by decide)
    split at member
    · rcases List.mem_append.mp member with front | zero
      · exact sign c front
      · have fraction : ∀ c ∈ (if layout.keepsFraction then ['0', '.', '0'] else ['0']),
            continuesNumber c = true := List.all_eq_true.mp (by decide)
        exact fraction c zero
    · rcases List.mem_append.mp member with front | body
      · exact sign c front
      · split at body
        · exact continuesNumber_of_mem_plain layout (natural _) _ c body
        · exact continuesNumber_of_mem_scientific (natural _) _ c body

theorem isDigit_of_head?_plain (layout : Decimal.Layout) {d : Char} (digit : d.isDigit = true)
    (rest : List Char) (exponent : Int) {c : Char}
    (first : (layout.plain (d :: rest) exponent).head? = some c) : c.isDigit = true := by
  cases exponent with
  | ofNat n => exact Option.some.inj first ▸ digit
  | negSucc n =>
    unfold Decimal.Layout.plain at first
    dsimp only at first
    split at first
    · rename_i short
      rw [List.length_cons] at first short
      obtain ⟨m, places⟩ : ∃ m, rest.length + 1 - (n + 1) = m + 1 := ⟨rest.length - n - 1, by omega⟩
      rw [places, List.take_succ_cons] at first
      exact Option.some.inj first ▸ digit
    · exact Option.some.inj first ▸ rfl

/-- The first character of a number is a digit or a sign. -/
theorem isDigit_of_head?_chars {n : Number} {c : Char} (first : n.chars.head? = some c) :
    c.isDigit = true ∨ c = '-' := by
  cases n with
  | integer i => exact Decimal.isDigit_of_head?_integer first
  | float x =>
    unfold chars Decimal.Layout.render at first
    dsimp only at first
    by_cases positive : x.toBits.toNat < Word.signedEnd
    · rw [if_pos positive] at first
      split at first
      · exact Or.inl (Option.some.inj first ▸ rfl)
      · rw [List.nil_append] at first
        obtain ⟨d, rest, digits⟩ := List.exists_cons_of_ne_nil
          (Decimal.natural_ne_nil (Decimal.shortest layout.tie x).digits)
        have digit : d.isDigit = true :=
          Decimal.isDigit_of_mem_natural (digits ▸ List.mem_cons_self)
        rw [digits] at first
        split at first
        · exact Or.inl (isDigit_of_head?_plain layout digit rest _ first)
        · cases rest <;> exact Or.inl (Option.some.inj first ▸ digit)
    · rw [if_neg positive] at first
      have same : '-' = c := by
        split at first <;> exact Option.some.inj first
      exact Or.inr same.symm

/-- The text of a number as its first character and the others. -/
theorem exists_chars_eq_cons (n : Number) :
    ∃ c rest, n.chars = c :: rest ∧ (c.isDigit = true ∨ c = '-') := by
  rcases written : n.chars with _ | ⟨c, rest⟩
  · exact absurd (String.ofList_eq_empty_iff.mpr written) n.text_ne_empty
  · exact ⟨c, rest, rfl, isDigit_of_head?_chars (by rw [written]; rfl)⟩

end Number

/-! ## Integers -/

namespace Literal

theorem natural_map_digit (text : List Char) :
    natural (text.map digit) = Nat.ofDigitChars 10 text 0 := by
  unfold natural digit
  rw [Nat.ofDigitChars_eq_foldl, List.foldl_map]
  simp only [Nat.mul_comm]

theorem digits_natural (n : Nat) :
    digits (Decimal.natural n) = ((Decimal.natural n).map digit, []) := by
  have all : ∀ c ∈ Decimal.natural n, c.isDigit = true :=
    fun c => Decimal.isDigit_of_mem_natural
  rw [digits, List.takeWhile_eq_self_iff.mpr all, List.dropWhile_eq_nil_iff.mpr all]

/-- A natural number is no sign in front, and no zero in front of digits. -/
theorem exists_natural_eq_cons (n : Nat) :
    ∃ d rest, Decimal.natural n = d :: rest ∧ d ≠ '-' ∧ (digit d = 0 -> rest = []) := by
  obtain ⟨d, rest, digits⟩ := List.exists_cons_of_ne_nil (Decimal.natural_ne_nil n)
  have isDigit : d.isDigit = true := Decimal.isDigit_of_mem_natural (digits ▸ List.mem_cons_self)
  refine ⟨d, rest, digits, fun sign => ?_, fun zero => ?_⟩
  · rw [sign] at isDigit
    cases isDigit
  · rcases Nat.eq_zero_or_pos n with rfl | positive
    · exact (List.cons.inj digits).2.symm
    · refine absurd ?_ (Decimal.head?_natural_ne positive)
      have least : '0'.toNat ≤ d.toNat := by
        simp only [Char.isDigit, Bool.and_eq_true, decide_eq_true_eq] at isDigit
        exact UInt32.le_iff_toNat_le.mp isDigit.1
      have same : d.toNat = '0'.toNat := Nat.le_antisymm (Nat.le_of_sub_eq_zero zero) least
      rw [digits, List.head?_cons, ← Char.ofNat_toNat d, same]
      rfl

/-- The digits of a natural number, behind a sign or not, are a literal
without fraction and exponent. -/
theorem ofChars?_natural (n : Nat) :
    ofChars? (Decimal.natural n) =
      some ⟨false, (Decimal.natural n).map digit, none, none⟩ := by
  obtain ⟨d, rest, text, noSign, noZero⟩ := exists_natural_eq_cons n
  have split := digits_natural n
  rw [text] at split ⊢
  rw [ofChars?]
  · rw [split]
    cases rest with
    | nil => cases value : digit d <;> simp [value, exponent?]
    | cons e more =>
      cases value : digit d with
      | zero => cases noZero value
      | succ m => simp [value, exponent?]
  · intro body sign
    exact noSign (List.cons.inj sign).1

theorem ofChars?_negative (n : Nat) :
    ofChars? ('-' :: Decimal.natural n) =
      some ⟨true, (Decimal.natural n).map digit, none, none⟩ := by
  obtain ⟨d, rest, text, -, noZero⟩ := exists_natural_eq_cons n
  have split := digits_natural n
  rw [text] at split ⊢
  rw [ofChars?, split]
  cases rest with
  | nil => cases value : digit d <;> simp [value, exponent?]
  | cons e more =>
    cases value : digit d with
    | zero => cases noZero value
    | succ m => simp [value, exponent?]

end Literal

namespace Number

/-- Integers have 64 bits, with a sign or without. -/
theorem bounds_of_ofChars? {text : List Char} {i : Int}
    (read : ofChars? text = some (.integer i)) :
    -(Word.signedEnd : Int) ≤ i ∧ i < Word.unsignedEnd := by
  obtain ⟨l, -, number⟩ := Option.bind_eq_some_iff.mp read
  have ends : Word.signedEnd = 9223372036854775808 ∧ Word.unsignedEnd = 18446744073709551616 :=
    ⟨rfl, rfl⟩
  unfold Literal.number? at number
  dsimp only at number
  by_cases fits : l.fraction.isNone ∧ l.exponent.isNone ∧
      (if l.negative then 0 < Literal.natural l.whole ∧ Literal.natural l.whole ≤ Word.signedEnd
        else Literal.natural l.whole < Word.unsignedEnd)
  · rw [if_pos fits] at number
    have same := Number.integer.inj (Option.some.inj number)
    have range := fits.2.2
    cases sign : l.negative
    all_goals
      simp only [sign, Bool.false_eq_true, if_true, if_false] at same range
      omega
  · rw [if_neg fits] at number
    obtain ⟨x, -, float⟩ := Option.map_eq_some_iff.mp number
    cases float

/-- An integer of 64 bits is read back from its text. -/
theorem ofChars?_integer {i : Int} (low : -(Word.signedEnd : Int) ≤ i)
    (high : i < Word.unsignedEnd) : ofChars? (Number.integer i).chars = some (.integer i) := by
  have value : ∀ n, Literal.natural ((Decimal.natural n).map Literal.digit) = n := by
    intro n
    rw [Literal.natural_map_digit]
    exact Nat.ofDigitChars_ten_toDigits
  cases i with
  | ofNat n =>
    have fits : n < Word.unsignedEnd := Int.ofNat_lt.mp high
    rw [ofChars?, chars, Decimal.integer, Literal.ofChars?_natural, Option.bind_some]
    simp [Literal.number?, value, fits]
  | negSucc n =>
    have fits : n + 1 ≤ Word.signedEnd := by omega
    rw [ofChars?, chars, Decimal.integer, Literal.ofChars?_negative, Option.bind_some]
    simp [Literal.number?, value, fits, Int.negSucc_eq]

end Number
end Json
end Sensornet
