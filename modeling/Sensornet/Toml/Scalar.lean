import Sensornet.Toml.Node
import Sensornet.Word

namespace Sensornet
namespace Toml

/-!
# Values written without quotation marks

Booleans, integers in four bases, floats, and dates and times.  Digits may be
grouped by single underscores between them.  An integer has 64 bits with its
sign, whatever its base.
-/

namespace Scalar

/-- Remove underscores, each of which must stand between two digits. -/
def ungroup? (isDigit : Char -> Bool) : List Char -> Option (List Char)
  | [] => none
  | [c] => if isDigit c then some [c] else none
  | c :: '_' :: rest => if isDigit c then (ungroup? isDigit rest).map (c :: ·) else none
  | c :: rest => if isDigit c then (ungroup? isDigit rest).map (c :: ·) else none

def digitValue (c : Char) : Nat :=
  if c.isDigit then c.toNat - '0'.toNat
  else if c.isLower then c.toNat - 'a'.toNat + 10
  else c.toNat - 'A'.toNat + 10

/-- Whether a character is a digit of a base up to sixteen. -/
def isDigitOf (base : Nat) (c : Char) : Bool :=
  (c.isDigit || ('a' ≤ c && c ≤ 'f') || ('A' ≤ c && c ≤ 'F')) && decide (digitValue c < base)

/-- The natural number of some grouped digits. -/
def natural? (base : Nat) (digits : List Char) : Option Nat :=
  (ungroup? (isDigitOf base) digits).map fun ds => ds.foldl (fun n d => n * base + digitValue d) 0

/-- Split off a sign. -/
def signed (text : List Char) : Bool × List Char :=
  match text with
  | '-' :: rest => (true, rest)
  | '+' :: rest => (false, rest)
  | _ => (false, text)

/-- Decimal digits without a leading zero, unless they are just zero. -/
def decimal? (text : List Char) : Option Nat :=
  match text with
  | '0' :: _ :: _ => none
  | _ => natural? 10 text

def inRange (n : Int) : Option Node :=
  if Word.fitsSigned n then some (.integer n) else none

def integer? (text : List Char) : Option Node :=
  match text with
  | '0' :: 'x' :: digits => (natural? 16 digits).bind fun n => inRange n
  | '0' :: 'o' :: digits => (natural? 8 digits).bind fun n => inRange n
  | '0' :: 'b' :: digits => (natural? 2 digits).bind fun n => inRange n
  | _ =>
    let (negative, digits) := signed text
    (decimal? digits).bind fun n => inRange (if negative then -(n : Int) else n)

/-- The exponent behind `e` or `E`. -/
def exponent? (text : List Char) : Option Int :=
  let (negative, digits) := signed text
  (natural? 10 digits).map fun n => if negative then -(n : Int) else n

/-- The fraction behind a point and the exponent behind it, as the number of
its digits, their value, and the exponent. -/
def fraction? (text : List Char) : Option (Nat × Nat × Int) :=
  let digits := text.takeWhile fun c => c != 'e' && c != 'E'
  match ungroup? Char.isDigit digits, text.drop digits.length with
  | some ds, [] => some (ds.length, ds.foldl (fun n d => n * 10 + digitValue d) 0, 0)
  | some ds, _ :: exponent =>
    (exponent? exponent).map fun e => (ds.length, ds.foldl (fun n d => n * 10 + digitValue d) 0, e)
  | none, _ => none

/-- The least number that a float cannot hold: half a unit above the greatest
float, from where rounding goes to infinity. -/
def beyondFloat : Nat :=
  Nat.pow 2 1024 - Nat.pow 2 970

/-- Whether `n * 10 ^ e` is too great for a float, where `n` has at most
`length` digits.  Great powers of ten need not be computed: a positive one
makes any number but zero too great, and a negative one beyond the length
leaves less than one. -/
def overflows (length n : Nat) : Int -> Bool
  | .ofNat e => n != 0 && (decide (308 < e) || decide (beyondFloat ≤ n * Nat.pow 10 e))
  | .negSucc e => decide (e < length) && decide (beyondFloat * Nat.pow 10 (e + 1) ≤ n)

theorem overflows_ofNat_iff (length n e : Nat) :
    overflows length n (.ofNat e) = true ↔ beyondFloat ≤ n * Nat.pow 10 e := by
  have positive : 0 < beyondFloat := by decide +kernel
  simp only [overflows, Bool.and_eq_true, Bool.or_eq_true, bne_iff_ne, decide_eq_true_eq]
  constructor
  · rintro ⟨nonzero, great | reached⟩
    · obtain ⟨least, bound, below⟩ : ∃ least, beyondFloat ≤ Nat.pow 10 least ∧ least ≤ e :=
        ⟨309, by decide +kernel, great⟩
      exact Nat.le_trans (Nat.le_trans bound (Nat.pow_le_pow_right (by decide) below))
        (Nat.le_mul_of_pos_left _ (Nat.pos_of_ne_zero nonzero))
    · exact reached
  · intro reached
    refine ⟨?_, Or.inr reached⟩
    rintro rfl
    rw [Nat.zero_mul] at reached
    exact Nat.not_lt_of_le reached positive

theorem overflows_negSucc_iff {length n : Nat} (fits : n < Nat.pow 10 length) (e : Nat) :
    overflows length n (.negSucc e) = true ↔ beyondFloat * Nat.pow 10 (e + 1) ≤ n := by
  have positive : 0 < beyondFloat := by decide +kernel
  simp only [overflows, Bool.and_eq_true, decide_eq_true_eq]
  constructor
  · exact fun both => both.2
  · intro reached
    refine ⟨Nat.lt_of_not_le fun beyond => ?_, reached⟩
    have power : Nat.pow 10 length ≤ Nat.pow 10 (e + 1) :=
      Nat.pow_le_pow_right (by decide) (Nat.le_succ_of_le beyond)
    have scaled : Nat.pow 10 (e + 1) ≤ beyondFloat * Nat.pow 10 (e + 1) :=
      Nat.le_mul_of_pos_left _ positive
    exact Nat.not_lt_of_le (Nat.le_trans power (Nat.le_trans scaled reached)) fits

/-- A float.  Its value is kept by no setting, but one too great for a float
is no value. -/
def float? (text : List Char) : Option Node :=
  let (negative, body) := signed text
  if body = ['i', 'n', 'f'] ∨ body = ['n', 'a', 'n'] then some .float
  else
    let whole := body.takeWhile fun c => c != '.' && c != 'e' && c != 'E'
    let parts : Option (Nat × Int) :=
      match decimal? whole, body.drop whole.length with
      | some n, '.' :: rest => (fraction? rest).map fun (places, f, e) =>
        (n * Nat.pow 10 places + f, e - places)
      | some n, _ :: rest => (exponent? rest).map fun e => (n, e)
      | _, _ => none
    parts.bind fun (n, e) =>
      if !negative && overflows text.length n e then none else some .float

/-- Exactly `count` digits, and the rest. -/
def fixed? (count : Nat) (text : List Char) : Option (Nat × List Char) :=
  let digits := text.take count
  if digits.length = count ∧ digits.all Char.isDigit then
    some (digits.foldl (fun n d => n * 10 + digitValue d) 0, text.drop count)
  else none

/-- Fixed digits within bounds. -/
def within? (count low high : Nat) (text : List Char) : Option (Nat × List Char) :=
  (fixed? count text).filter fun (n, _) => low ≤ n && n ≤ high

/-- Drop a mark that must be there. -/
def past? (mark : Char) : List Char -> Option (List Char)
  | c :: rest => if c = mark then some rest else none
  | [] => none

def daysOf (year month : Nat) : Nat :=
  if month = 2 then
    if year % 4 = 0 ∧ (year % 100 ≠ 0 ∨ year % 400 = 0) then 29 else 28
  else if month = 4 ∨ month = 6 ∨ month = 9 ∨ month = 11 then 30
  else 31

/-- A date, and what follows it. -/
def date? (text : List Char) : Option (List Char) := do
  let (year, text) ← fixed? 4 text
  let (month, text) ← within? 2 1 12 (← past? '-' text)
  let (_, text) ← within? 2 1 (daysOf year month) (← past? '-' text)
  return text

/-- A time of day and what follows it, as its text and the rest.  The text
keeps nine places of a fraction, without zeros at their end. -/
def time? (text : List Char) : Option (List Char × List Char) := do
  let clock := text.take 8
  let (_, text) ← within? 2 0 23 text
  let (_, text) ← within? 2 0 59 (← past? ':' text)
  let (_, text) ← within? 2 0 60 (← past? ':' text)
  match text with
  | '.' :: rest =>
    let places := ((rest.takeWhile Char.isDigit).take 9).reverse.dropWhile (· == '0')
    if !(rest.head?.any Char.isDigit) then none
    else if places.isEmpty then return (clock, rest.dropWhile Char.isDigit)
    else return (clock ++ '.' :: places.reverse, rest.dropWhile Char.isDigit)
  | _ => return (clock, text)

/-- The distance from universal time, or nothing, up to the end.  No distance
is written with a plus. -/
def offset? (text : List Char) : Option (List Char) :=
  match text with
  | [] => some []
  | ['Z'] | ['z'] => some ['Z']
  | sign :: rest =>
    if sign = '+' ∨ sign = '-' then do
      let (hours, text) ← within? 2 0 23 rest
      let (minutes, text) ← within? 2 0 59 (← past? ':' text)
      if !text.isEmpty then none
      else if hours = 0 ∧ minutes = 0 then return '+' :: rest
      else return sign :: rest
    else none

/-- A date, a time, or both with or without an offset. -/
def dateTime? (text : List Char) : Option Node :=
  let shown : Option (List Char) :=
    match date? text with
    | some [] => some text
    | some (mark :: rest) =>
      if mark = 'T' ∨ mark = 't' ∨ mark = ' ' then do
        let (time, rest) ← time? rest
        return text.take 10 ++ 'T' :: time ++ (← offset? rest)
      else none
    | none => (time? text).bind fun (time, rest) => if rest.isEmpty then some time else none
  shown.map fun chars => .dateTime (String.ofList chars)

/-- The value of a run of characters. -/
def ofChars? (text : List Char) : Option Node :=
  if text = "true".toList then some (.bool true)
  else if text = "false".toList then some (.bool false)
  else
    match integer? text with
    | some node => some node
    | none =>
      match float? text with
      | some node => some node
      | none => dateTime? text

/-- Characters of which such values consist. -/
def isPart (c : Char) : Bool :=
  c.isAlphanum || c == '+' || c == '-' || c == '_' || c == '.' || c == ':'

end Scalar
end Toml
end Sensornet
