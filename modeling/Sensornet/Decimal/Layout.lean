import Sensornet.Decimal.Shortest
import Sensornet.Word

namespace Sensornet
namespace Decimal

/-!
# Writing a float

A layout says which numbers are written positionally, whether a whole number
keeps the fraction `.0`, and which way a tie of two shortest decimals goes.
Outside the positional range one digit stands before the point and the
exponent carries a sign when it is positive.
-/

/-- The decisions of a text format for floats.  `positional e` is asked with
the decimal exponent of the first digit. -/
structure Layout where
  positional : Int -> Bool
  keepsFraction : Bool
  tie : Tie

/-- The decimal digits of a natural number. -/
def natural (n : Nat) : List Char :=
  Nat.toDigits 10 n

/-- The decimal text of an integer. -/
def integer : Int -> List Char
  | .ofNat n => natural n
  | .negSucc n => '-' :: natural (n + 1)

namespace Layout

/-- `digits * 10 ^ exponent` without an exponent in the text. -/
def plain (layout : Layout) (digits : List Char) (exponent : Int) : List Char :=
  let whole := if layout.keepsFraction then ['.', '0'] else []
  match exponent with
  | .ofNat zeros => digits ++ List.replicate zeros '0' ++ whole
  | .negSucc n =>
    let places := n + 1
    if places < digits.length then
      digits.take (digits.length - places) ++ '.' :: digits.drop (digits.length - places)
    else '0' :: '.' :: (List.replicate (places - digits.length) '0' ++ digits)

/-- One digit, the others behind a point, and the exponent of the first. -/
def scientific (digits : List Char) (first : Int) : List Char :=
  let mantissa :=
    match digits with
    | [] => []
    | [d] => [d]
    | d :: rest => d :: '.' :: rest
  mantissa ++ 'e' :: (if first < 0 then integer first else '+' :: integer first)

/-- The text of a finite float.  Negative zero keeps its sign. -/
def render (layout : Layout) (x : Float) : List Char :=
  let sign := if x.toBits.toNat < Word.signedEnd then [] else ['-']
  if x == 0.0 then sign ++ (if layout.keepsFraction then ['0', '.', '0'] else ['0'])
  else
    let d := shortest layout.tie x
    let digits := natural d.digits
    let first := d.exponent + digits.length - 1
    sign ++ if layout.positional first then layout.plain digits d.exponent
      else scientific digits first

end Layout
end Decimal
end Sensornet
