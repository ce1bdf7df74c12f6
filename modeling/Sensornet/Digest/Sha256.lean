namespace Sensornet
namespace Digest

/-!
# SHA-256

The digest of a text is that of its UTF-8 bytes.  The message schedule is a
window of sixteen words that moves on by one in each round, so no schedule is
stored: a round uses the first word of the window and appends the word that
is due sixteen rounds later.
-/

/-- The eight words of the chaining state. -/
structure Chain where
  a : UInt32
  b : UInt32
  c : UInt32
  d : UInt32
  e : UInt32
  f : UInt32
  g : UInt32
  h : UInt32

namespace Chain

/-- The first 32 bits of the fractions of the square roots of eight primes. -/
def initial : Chain :=
  ⟨0x6a09e667, 0xbb67ae85, 0x3c6ef372, 0xa54ff53a,
    0x510e527f, 0x9b05688c, 0x1f83d9ab, 0x5be0cd19⟩

def add (x y : Chain) : Chain :=
  ⟨x.a + y.a, x.b + y.b, x.c + y.c, x.d + y.d, x.e + y.e, x.f + y.f, x.g + y.g, x.h + y.h⟩

def words (x : Chain) : List UInt32 :=
  [x.a, x.b, x.c, x.d, x.e, x.f, x.g, x.h]

end Chain

/-- The first 32 bits of the fractions of the cube roots of 64 primes. -/
def roundConstants : List UInt32 :=
  [0x428a2f98, 0x71374491, 0xb5c0fbcf, 0xe9b5dba5, 0x3956c25b, 0x59f111f1, 0x923f82a4, 0xab1c5ed5,
    0xd807aa98, 0x12835b01, 0x243185be, 0x550c7dc3, 0x72be5d74, 0x80deb1fe, 0x9bdc06a7, 0xc19bf174,
    0xe49b69c1, 0xefbe4786, 0x0fc19dc6, 0x240ca1cc, 0x2de92c6f, 0x4a7484aa, 0x5cb0a9dc, 0x76f988da,
    0x983e5152, 0xa831c66d, 0xb00327c8, 0xbf597fc7, 0xc6e00bf3, 0xd5a79147, 0x06ca6351, 0x14292967,
    0x27b70a85, 0x2e1b2138, 0x4d2c6dfc, 0x53380d13, 0x650a7354, 0x766a0abb, 0x81c2c92e, 0x92722c85,
    0xa2bfe8a1, 0xa81a664b, 0xc24b8b70, 0xc76c51a3, 0xd192e819, 0xd6990624, 0xf40e3585, 0x106aa070,
    0x19a4c116, 0x1e376c08, 0x2748774c, 0x34b0bcb5, 0x391c0cb3, 0x4ed8aa4a, 0x5b9cca4f, 0x682e6ff3,
    0x748f82ee, 0x78a5636f, 0x84c87814, 0x8cc70208, 0x90befffa, 0xa4506ceb, 0xbef9a3f7, 0xc67178f2]

def rotate (x : UInt32) (n : UInt32) : UInt32 :=
  (x >>> n) ||| (x <<< (32 - n))

/-- One round: the constant and the schedule word enter the chain. -/
def mix (s : Chain) (constant word : UInt32) : Chain :=
  let spread := rotate s.e 6 ^^^ rotate s.e 11 ^^^ rotate s.e 25
  let choice := (s.e &&& s.f) ^^^ (~~~s.e &&& s.g)
  let first := s.h + spread + choice + constant + word
  let turned := rotate s.a 2 ^^^ rotate s.a 13 ^^^ rotate s.a 22
  let majority := (s.a &&& s.b) ^^^ (s.a &&& s.c) ^^^ (s.b &&& s.c)
  ⟨first + (turned + majority), s.a, s.b, s.c, s.d + first, s.e, s.f, s.g⟩

/-- Move the window on by one word. -/
def advance (window : List UInt32) : List UInt32 :=
  let at0 := window.getD 0 0
  let at1 := window.getD 1 0
  let at9 := window.getD 9 0
  let at14 := window.getD 14 0
  let near := rotate at1 7 ^^^ rotate at1 18 ^^^ (at1 >>> 3)
  let far := rotate at14 17 ^^^ rotate at14 19 ^^^ (at14 >>> 10)
  window.drop 1 ++ [at0 + near + at9 + far]

/-- The 64 rounds over one block of sixteen words. -/
def compress (s : Chain) (block : List UInt32) : Chain :=
  let final := roundConstants.foldl
    (fun (state : Chain × List UInt32) constant =>
      (mix state.1 constant (state.2.getD 0 0), advance state.2))
    (s, block)
  s.add final.1

/-- The `count` bytes of a number, the highest first. -/
def bigEndian (count n : Nat) : List UInt8 :=
  (List.range count).map fun i => UInt8.ofNat (n / Nat.pow 256 (count - 1 - i))

/-- A message with its delimiter, zeros, and its length in bits. -/
def pad (message : List UInt8) : List UInt8 :=
  let length := message.length
  message ++ 0x80 :: List.replicate ((119 - length % 64) % 64) 0 ++ bigEndian 8 (8 * length)

/-- Bytes grouped into words of four. -/
def toWords : List UInt8 -> List UInt32
  | a :: b :: c :: d :: rest =>
    (a.toUInt32 <<< 24 ||| b.toUInt32 <<< 16 ||| c.toUInt32 <<< 8 ||| d.toUInt32) :: toWords rest
  | _ => []

/-- The chain after a number of blocks. -/
def absorb (s : Chain) : Nat -> List UInt32 -> Chain
  | 0, _ => s
  | blocks + 1, words => absorb (compress s (words.take 16)) blocks (words.drop 16)

/-- The 32 bytes of the digest. -/
def sha256 (message : List UInt8) : List UInt8 :=
  let words := toWords (pad message)
  (absorb Chain.initial (words.length / 16) words).words.flatMap fun word =>
    bigEndian 4 word.toNat

/-- Two lower-case hexadecimal digits for each byte. -/
def hexadecimal (bytes : List UInt8) : List Char :=
  bytes.flatMap fun byte =>
    [Nat.digitChar (byte.toNat / 16), Nat.digitChar (byte.toNat % 16)]

/-- The digest of a text, in hexadecimal digits. -/
def ofText (text : String) : List Char :=
  hexadecimal (sha256 text.toUTF8.toList)

end Digest
end Sensornet
