/-
# SHA-256

The digest of a byte sequence.  The message is padded to blocks of 64 bytes; each block is expanded
to 64 words and mixed into eight words of state.
-/
import Switchboard.Text.Utf8

namespace Switchboard.Digest

/-- The words of one state. -/
structure Words where
  a : UInt32
  b : UInt32
  c : UInt32
  d : UInt32
  e : UInt32
  f : UInt32
  g : UInt32
  h : UInt32
  deriving DecidableEq, Repr

/-- The state before the first block. -/
def initial : Words :=
  ⟨0x6a09e667, 0xbb67ae85, 0x3c6ef372, 0xa54ff53a, 0x510e527f, 0x9b05688c, 0x1f83d9ab, 0x5be0cd19⟩

/-- One constant for each round. -/
def roundConstants : List UInt32 :=
  [0x428a2f98, 0x71374491, 0xb5c0fbcf, 0xe9b5dba5, 0x3956c25b, 0x59f111f1, 0x923f82a4, 0xab1c5ed5,
   0xd807aa98, 0x12835b01, 0x243185be, 0x550c7dc3, 0x72be5d74, 0x80deb1fe, 0x9bdc06a7, 0xc19bf174,
   0xe49b69c1, 0xefbe4786, 0x0fc19dc6, 0x240ca1cc, 0x2de92c6f, 0x4a7484aa, 0x5cb0a9dc, 0x76f988da,
   0x983e5152, 0xa831c66d, 0xb00327c8, 0xbf597fc7, 0xc6e00bf3, 0xd5a79147, 0x06ca6351, 0x14292967,
   0x27b70a85, 0x2e1b2138, 0x4d2c6dfc, 0x53380d13, 0x650a7354, 0x766a0abb, 0x81c2c92e, 0x92722c85,
   0xa2bfe8a1, 0xa81a664b, 0xc24b8b70, 0xc76c51a3, 0xd192e819, 0xd6990624, 0xf40e3585, 0x106aa070,
   0x19a4c116, 0x1e376c08, 0x2748774c, 0x34b0bcb5, 0x391c0cb3, 0x4ed8aa4a, 0x5b9cca4f, 0x682e6ff3,
   0x748f82ee, 0x78a5636f, 0x84c87814, 0x8cc70208, 0x90befffa, 0xa4506ceb, 0xbef9a3f7, 0xc67178f2]

/-- Rotates a word to the right by `n` bits, `0 < n < 32`. -/
def rotateRight (x n : UInt32) : UInt32 := (x >>> n) ||| (x <<< (32 - n))

/-- The four bytes of a word, the highest first. -/
def wordBytes (x : UInt32) : Bytes :=
  [(x >>> 24).toUInt8, (x >>> 16).toUInt8, (x >>> 8).toUInt8, x.toUInt8]

/-- The words that the bytes spell, four to a word; `out` has those before, reversed. -/
def wordsFrom (out : List UInt32) : Bytes → List UInt32
  | a :: b :: c :: d :: rest =>
    wordsFrom ((a.toUInt32 <<< 24 ||| b.toUInt32 <<< 16 ||| c.toUInt32 <<< 8 ||| d.toUInt32) :: out)
      rest
  | _ => out.reverse

/-- The next word of the schedule from the words before it, the latest first. -/
def nextWord (words : List UInt32) : UInt32 :=
  let x := words.getD 14 0
  let y := words.getD 1 0
  words.getD 15 0 + (rotateRight x 7 ^^^ rotateRight x 18 ^^^ (x >>> 3)) + words.getD 6 0 +
    (rotateRight y 17 ^^^ rotateRight y 19 ^^^ (y >>> 10))

/-- Adds `n` words to the schedule; the words are kept with the latest first. -/
def extend : Nat → List UInt32 → List UInt32
  | 0, words => words
  | n + 1, words => extend n (nextWord words :: words)

/-- One round, with the sum of its constant and its word. -/
def round (s : Words) (k w : UInt32) : Words :=
  let t := s.h + (rotateRight s.e 6 ^^^ rotateRight s.e 11 ^^^ rotateRight s.e 25) +
    ((s.e &&& s.f) ^^^ (~~~ s.e &&& s.g)) + k + w
  let u := (rotateRight s.a 2 ^^^ rotateRight s.a 13 ^^^ rotateRight s.a 22) +
    ((s.a &&& s.b) ^^^ (s.a &&& s.c) ^^^ (s.b &&& s.c))
  ⟨t + u, s.a, s.b, s.c, s.d + t, s.e, s.f, s.g⟩

/-- All rounds. -/
def rounds (s : Words) : List UInt32 → List UInt32 → Words
  | k :: ks, w :: ws => rounds (round s k w) ks ws
  | _, _ => s

/-- Mixes a block of 64 bytes into the state. -/
def compress (s : Words) (block : Bytes) : Words :=
  let schedule := (extend 48 (wordsFrom [] block).reverse).reverse
  let t := rounds s roundConstants schedule
  ⟨s.a + t.a, s.b + t.b, s.c + t.c, s.d + t.d, s.e + t.e, s.f + t.f, s.g + t.g, s.h + t.h⟩

/-- A number in eight bytes, the highest first. -/
def lengthBytes (n : Nat) : Bytes :=
  [56, 48, 40, 32, 24, 16, 8, 0].map fun shift => UInt8.ofNat (n >>> shift)

/-- What follows a message of `n` bytes to fill its last block: a one bit, zeros, and the number of
bits. -/
def padding (n : Nat) : Bytes :=
  0x80 :: List.replicate ((119 - n % 64) % 64) 0 ++ lengthBytes (8 * n)

/-- Mixes every full block into the state; `block` has the `filled` bytes since the last one,
reversed. -/
def absorb (s : Words) (block : Bytes) (filled : Nat) : Bytes → Words
  | [] => s
  | b :: rest =>
    if filled = 63 then absorb (compress s (b :: block).reverse) [] 0 rest
    else absorb s (b :: block) (filled + 1) rest

/-- The digest of a message, 32 bytes. -/
def sha256 (message : Bytes) : Bytes :=
  let s := absorb initial [] 0 (message ++ padding message.length)
  [s.a, s.b, s.c, s.d, s.e, s.f, s.g, s.h].flatMap wordBytes

end Switchboard.Digest
