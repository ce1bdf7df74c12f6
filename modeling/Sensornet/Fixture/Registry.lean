import Sensornet.Digest.Sha256
import Sensornet.Fixture.Row

namespace Sensornet
namespace Fixture

/-!
# Issuing keys

A registry knows every text key that is taken and the greatest integer key
seen.  Under the deterministic policy a new text key is a digest of what the
record is, together with the number of the attempt; under the random policy
it is the next number of a supply that starts somewhere else in each run.
Either way an issued key was free before and is taken afterwards.

Correlation tokens are no keys: they have the shape of a UUID, are numbered
through the run, and are not entered among the taken texts.
-/

/-- How identifiers come about. -/
inductive Policy where
  | deterministic
  | random
  deriving DecidableEq, Repr

namespace Policy

def name : Policy -> String
  | .deterministic => "deterministic"
  | .random => "random"

def ofName? (name : String) : Option Policy :=
  if name = "deterministic" then some .deterministic
  else if name = "random" then some .random
  else none

end Policy

/-- The records that have text keys. -/
inductive Record where
  | polygon
  | point
  | metric
  | trigger
  deriving DecidableEq, Repr

namespace Record

/-- The mark in front of the hyphen of an identifier. -/
def mark : Record -> String
  | .polygon => "pl"
  | .point => "p"
  | .metric => "m"
  | .trigger => "t"

end Record

/-- Whether a key was issued with the mark of this kind. -/
def Key.hasMark (kind : Record) : Key -> Bool
  | .text s => (kind.mark.toList ++ ['-']).isPrefixOf s.toList
  | .integer _ => false

/-- The state of issuing: the text keys that are taken, the greatest integer
key and the number of tokens.  `supply` is where the random policy starts and
`drawn` how many of its numbers are gone. -/
structure Registry where
  policy : Policy
  taken : List String
  lastInteger : Int
  tokens : Nat
  supply : Nat
  drawn : Nat

namespace Registry

/-- Nothing is taken. -/
def start (policy : Policy) (supply : Nat) : Registry :=
  ⟨policy, [], 0, 0, supply, 0⟩

def isTaken (r : Registry) (id : String) : Bool :=
  r.taken.contains id

/-- Take note of a key that exists already. -/
def observe (r : Registry) : Json.Value -> Registry
  | .text s => { r with taken := s :: r.taken }
  | .number (.integer n) =>
    if Word.fitsSigned n then { r with lastInteger := max r.lastInteger n } else r
  | _ => r

/-- Take note of the key of a row and of its `id` field. -/
def observeRow (r : Registry) (row : Row) : Registry :=
  let keyed := r.observe row.key.toJson
  match row.field? "id" with
  | some id => keyed.observe id
  | none => keyed

/-- Take note of rows that exist already. -/
def seed (r : Registry) (rows : List Row) : Registry :=
  rows.foldl observeRow r

/-- Take an identifier that was chosen elsewhere; false if it is gone. -/
def reserve (r : Registry) (id : String) : Bool × Registry :=
  if r.isTaken id then (false, r) else (true, { r with taken := id :: r.taken })

/-- How many digits of the digest an identifier shows. -/
def digestDigits : Nat := 12

/-- A bound on the attempts for one identifier. -/
def maxAttempts : Nat := 4294967296

/-- The digits of base 32 without the letters that are easily misread. -/
def base32Digits : List Char := "0123456789abcdefghjkmnpqrstvwxyz".toList

/-- The last `count` base 32 digits of a number. -/
def base32 (count n : Nat) : List Char :=
  (List.range count).map fun i => base32Digits.getD (n / Nat.pow 32 (count - 1 - i) % 32) '0'

/-- The `i`-th number of the random supply that is still there. -/
def supplied (r : Registry) (i : Nat) : Nat :=
  (r.supply + r.drawn + i) % Nat.pow 2 128

/-- What stands behind the hyphen at an attempt. -/
def body (r : Registry) (kind : Record) (seed : String) (attempt : Nat) : List Char :=
  match r.policy with
  | .deterministic =>
    (Digest.ofText (kind.mark ++ "::" ++ seed ++ "::" ++
      String.ofList (Decimal.natural attempt))).take digestDigits
  | .random => base32 26 (r.supplied attempt)

/-- The identifier proposed at an attempt. -/
def candidate (r : Registry) (kind : Record) (seed : String) (attempt : Nat) : String :=
  kind.mark ++ String.ofList ('-' :: r.body kind seed attempt)

/-- The first of `tries` attempts whose candidate is free. -/
def firstFree (r : Registry) (kind : Record) (seed : String) : Nat -> Nat -> Nat
  | 0, attempt => attempt
  | tries + 1, attempt =>
    if r.isTaken (r.candidate kind seed attempt) then firstFree r kind seed tries (attempt + 1)
    else attempt

/-- Issue an identifier for what `seed` describes. -/
def make (r : Registry) (kind : Record) (seed : String) : String × Registry :=
  let attempt := r.firstFree kind seed maxAttempts 0
  let id := r.candidate kind seed attempt
  let drawn :=
    match r.policy with
    | .deterministic => r.drawn
    | .random => r.drawn + attempt + 1
  (id, { r with taken := id :: r.taken, drawn })

/-- Issue the next integer key. -/
def nextInteger (r : Registry) : Int × Registry :=
  (r.lastInteger + 1, { r with lastInteger := r.lastInteger + 1 })

/-- Hyphens between 32 hexadecimal digits: eight, three times four, twelve. -/
def hyphenated (digits : List Char) : String :=
  String.ofList (digits.take 8 ++ '-' :: (digits.drop 8).take 4 ++ '-' :: (digits.drop 12).take 4 ++
    '-' :: (digits.drop 16).take 4 ++ '-' :: (digits.drop 20).take 12)

/-- Issue a correlation token. -/
def token (r : Registry) (seed : String) : String × Registry :=
  let number := r.tokens + 1
  match r.policy with
  | .deterministic =>
    (hyphenated (Digest.ofText ("calc::" ++ seed ++ "::" ++
      String.ofList (Decimal.natural number))), { r with tokens := number })
  | .random =>
    (hyphenated (Digest.hexadecimal (Digest.bigEndian 16 (r.supplied 0))),
      { r with tokens := number, drawn := r.drawn + 1 })

variable (r : Registry) (kind : Record) (seed : String)

/-- An issued identifier is taken afterwards, and so is what was taken before. -/
theorem isTaken_make_iff (id : String) :
    (r.make kind seed).2.isTaken id = true ↔
      id = (r.make kind seed).1 ∨ r.isTaken id = true := by
  simp [make, isTaken]

theorem lastInteger_nextInteger : r.nextInteger.2.lastInteger = r.nextInteger.1 := rfl

end Registry
end Fixture
end Sensornet
