namespace Sensornet
namespace Decimal

/-!
# The fewest decimal digits that read back

A finite binary float stands for an interval of reals: those that round to
it.  The digits chosen for it are the shortest decimal in that interval, and
of two such decimals of one length the nearer.  Only an exact tie is left to
the format that writes the number.

All comparisons are exact.  Both ends of the interval are fractions over one
denominator, and a candidate is compared with them after cross-multiplication
in the natural numbers.
-/

/-- `digits * 10 ^ exponent`. -/
structure Scaled where
  digits : Nat
  exponent : Int
  deriving DecidableEq, Repr

/-- Which of two equally near decimals of the same length is taken. -/
inductive Tie where
  | even
  | up
  deriving DecidableEq, Repr

/-- The reals that round to a positive float, as fractions over `unit`.  The
ends belong to it exactly when `closed`. -/
structure Interval where
  low : Nat
  value : Nat
  high : Nat
  unit : Nat
  closed : Bool
  deriving DecidableEq, Repr

namespace Interval

/-- The interval of `significand * 2 ^ exponent`.  `narrow` says that the
neighbour below is half as far away as the neighbour above, which happens at
the powers of two. -/
def of (significand : Nat) (exponent : Int) (narrow : Bool) : Interval :=
  let scale := Nat.pow 2 exponent.toNat
  { low := (4 * significand - (if narrow then 1 else 2)) * scale
    value := 4 * significand * scale
    high := (4 * significand + 2) * scale
    unit := 4 * Nat.pow 2 (-exponent).toNat
    closed := significand % 2 == 0 }

/-- The weight of the leading bit that the bits of a float leave out: two to
the power 52. -/
def hidden : Nat := 4503599627370496

/-- The interval of a finite float, its sign dropped. -/
def ofFloat (x : Float) : Interval :=
  let bits := x.toBits.toNat
  let biased : Nat := bits / hidden % 2048
  let fraction : Nat := bits % hidden
  if biased = 0 then of fraction (-1074) false
  else of (hidden + fraction) ((biased : Int) - 1075) (fraction == 0 && decide (1 < biased))

/-- Whether `digits * 10 ^ exponent` rounds to the float. -/
def holds (i : Interval) (candidate : Scaled) : Bool :=
  let up := Nat.pow 10 (-candidate.exponent).toNat
  let point := candidate.digits * Nat.pow 10 candidate.exponent.toNat * i.unit
  if i.closed then decide (i.low * up ≤ point) && decide (point ≤ i.high * up)
  else decide (i.low * up < point) && decide (point < i.high * up)

/-- The place of the first digit: the least `k` with `value < 10 ^ k`. -/
def place (i : Interval) : Int :=
  let whole := i.value / i.unit
  if whole = 0 then
    -- A float below one has at most 323 zeros after its point.
    let zeros := (List.range 324).find? fun n => decide (i.unit ≤ i.value * Nat.pow 10 (n + 1))
    Int.negOfNat (zeros.getD 323)
  else Int.ofNat (Nat.toDigits 10 whole).length

/-- The neighbour of the value on the grid `10 ^ exponent` that rounds to the
float; the nearer one if both do. -/
def nearest? (i : Interval) (tie : Tie) (exponent : Int) : Option Scaled :=
  let up := Nat.pow 10 (-exponent).toNat
  let step := i.unit * Nat.pow 10 exponent.toNat
  let below := i.value * up / step
  let lower : Scaled := ⟨below, exponent⟩
  let upper : Scaled := ⟨below + 1, exponent⟩
  match i.holds lower, i.holds upper with
  | false, false => none
  | true, false => some lower
  | false, true => some upper
  | true, true =>
    match compare (2 * (i.value * up)) ((2 * below + 1) * step) with
    | .lt => some lower
    | .gt => some upper
    | .eq =>
      match tie with
      | .even => some (if below % 2 = 0 then lower else upper)
      | .up => some upper

/-- The value itself, written out in full: its denominator is a power of two. -/
def exact (i : Interval) : Scaled :=
  ⟨i.value * Nat.pow 5 i.unit.log2, -Int.ofNat i.unit.log2⟩

end Interval

/-- Move trailing zeros of the digits into the exponent. -/
def Scaled.strip (fuel : Nat) (d : Scaled) : Scaled :=
  match fuel with
  | 0 => d
  | fuel + 1 =>
    if d.digits ≠ 0 ∧ d.digits % 10 = 0 then
      Scaled.strip fuel ⟨d.digits / 10, d.exponent + 1⟩
    else d

/-- The shortest decimal that rounds to a finite, non-zero float, without
its sign.  Seventeen digits always suffice; the value in full stands for the
case that they did not. -/
def shortest (tie : Tie) (x : Float) : Scaled :=
  let interval := Interval.ofFloat x
  let place := interval.place
  let found := (List.range 17).findSome? fun (n : Nat) =>
    interval.nearest? tie (place - Int.ofNat (n + 1))
  (found.getD interval.exact).strip 20

end Decimal
end Sensornet
