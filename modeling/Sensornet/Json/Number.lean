import Sensornet.Decimal.Layout
import Sensornet.Word

namespace Sensornet
namespace Json

/-!
# Numbers of a JSON text

A number is an integer of 64 bits, signed or unsigned, or a binary float.
`1` and `1.0` are different numbers with different texts.

A literal that is not such an integer is read in two roundings.  As many
leading digits as fit into 64 bits are rounded to a float, and this float is
then multiplied or divided by a power of ten that is itself a float.  The
result is the nearest float for the literals that people write, and the text
of a float always reads back within the same rule; it need not be the nearest
float for every long literal.
-/

/-- An integer literal or a float. -/
inductive Number where
  | integer (value : Int)
  | float (value : Float)
  deriving DecidableEq

namespace Number

/-- How a float is written: positionally from `0.00001` up to sixteen digits
before the point, with a fraction always, and ties to the even digit. -/
def layout : Decimal.Layout where
  positional := fun exponent => decide (-5 ≤ exponent) && decide (exponent ≤ 15)
  keepsFraction := true
  tie := .even

/-- The text of a number as characters. -/
def chars : Number -> List Char
  | .integer value => Decimal.integer value
  | .float value => layout.render value

/-- The text of a number.  Wherever a number is compared with a text, this is
the text that counts. -/
def text (n : Number) : String :=
  String.ofList n.chars

/-- The number as a coordinate; an integer is rounded to the nearest float. -/
def toFloat : Number -> Float
  | .integer value => Float.ofInt value
  | .float value => value

/-- Equality of values: an integer never equals a float, and the two zeros of
the floats are equal. -/
def same : Number -> Number -> Bool
  | .integer a, .integer b => a == b
  | .float a, .float b => a == b
  | _, _ => false

end Number

/-- The parts of a number literal. -/
structure Literal where
  negative : Bool
  whole : List Nat
  fraction : Option (List Nat)
  exponent : Option Int
  deriving DecidableEq, Repr

namespace Literal

/-- The value of a decimal digit. -/
def digit (c : Char) : Nat :=
  c.toNat - '0'.toNat

/-- Leading digits of a text and what follows them. -/
def digits (text : List Char) : List Nat × List Char :=
  ((text.takeWhile Char.isDigit).map digit, text.dropWhile Char.isDigit)

/-- The natural number that a list of digits denotes. -/
def natural (ds : List Nat) : Nat :=
  ds.foldl (fun n d => n * 10 + d) 0

/-- An exponent part, when `e` or `E` stands in front; the text must end
behind it. -/
def exponent? : List Char -> Option (Option Int)
  | [] => some none
  | mark :: rest =>
    if mark = 'e' ∨ mark = 'E' then
      let (sign, body) :=
        match rest with
        | '-' :: body => (-1, body)
        | '+' :: body => (1, body)
        | body => (1, body)
      match digits body with
      | ([], _) => none
      | (ds, []) => some (some (sign * (natural ds : Int)))
      | _ => none
    else none

/-- Split a literal into its parts.  The whole part is `0` or starts with
another digit, and every part that is begun has a digit. -/
def ofChars? (text : List Char) : Option Literal :=
  let (negative, body) :=
    match text with
    | '-' :: body => (true, body)
    | body => (false, body)
  match digits body with
  | ([], _) => none
  | (0 :: _ :: _, _) => none
  | (whole, '.' :: rest) =>
    match digits rest with
    | ([], _) => none
    | (fraction, tail) => (exponent? tail).map fun e => ⟨negative, whole, some fraction, e⟩
  | (whole, tail) => (exponent? tail).map fun e => ⟨negative, whole, none, e⟩

/-- A significand of at most 64 bits and the power of ten it is scaled by. -/
structure Significand where
  value : Nat
  scale : Int
  deriving DecidableEq, Repr

/-- Take digits while the significand fits into 64 bits; each digit left over
counts as a factor of ten. -/
def takeWhole (value : Nat) : List Nat -> Significand
  | [] => ⟨value, 0⟩
  | d :: rest =>
    if value * 10 + d < Word.unsignedEnd then takeWhole (value * 10 + d) rest
    else ⟨value, (d :: rest).length⟩

/-- Take digits behind the point while the significand fits into 64 bits; the
others are dropped. -/
def takeFraction (s : Significand) : List Nat -> Significand
  | [] => s
  | d :: rest =>
    if s.value * 10 + d < Word.unsignedEnd then takeFraction ⟨s.value * 10 + d, s.scale - 1⟩ rest
    else s

/-- Divide by `1e308` a number of times. -/
def shrink : Nat -> Float -> Float
  | 0, x => x
  | n + 1, x => shrink n (x / Float.ofScientific 1 false 308)

/-- Scale a float by a power of ten, at most `1e308` at a time.  A result
beyond the largest float is refused; below the least one it is zero, which
two steps down reach from any 64-bit significand. -/
def scaled? (x : Float) (exponent : Int) : Option Float :=
  match exponent with
  | .ofNat e =>
    if x == 0.0 then some x
    else if 308 < e then none
    else
      let result := x * Float.ofScientific 1 false e
      if result.isInf then none else some result
  | .negSucc e =>
    let steps := e / 308
    some (shrink (min steps 2) x / Float.ofScientific 1 false (e + 1 - 308 * steps))

/-- The float of a literal, unless it is out of range. -/
def float? (l : Literal) : Option Float :=
  let significand := takeFraction (takeWhole 0 l.whole) (l.fraction.getD [])
  let value := scaled? (Float.ofNat significand.value)
    (significand.scale + l.exponent.getD 0)
  if l.negative then value.map Float.neg else value

/-- The number of a literal: an integer when it has neither point nor
exponent and fits into 64 bits, otherwise a float.  `-0` is a float, so that
its sign is kept. -/
def number? (l : Literal) : Option Number :=
  let n := natural l.whole
  if l.fraction.isNone ∧ l.exponent.isNone ∧
      (if l.negative then 0 < n ∧ n ≤ Word.signedEnd else n < Word.unsignedEnd) then
    some (.integer (if l.negative then -(n : Int) else n))
  else l.float?.map .float

end Literal

/-- Read a whole number literal. -/
def Number.ofChars? (text : List Char) : Option Number :=
  (Literal.ofChars? text).bind Literal.number?

end Json
end Sensornet
