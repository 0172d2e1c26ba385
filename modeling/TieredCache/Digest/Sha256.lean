import TieredCache.Bytes

/-!
The SHA-256 digest of a byte string: the message is padded to a whole number of 64 octet blocks,
each block is spread over 64 words, and the words are folded into a state of eight words.
-/

namespace TieredCache.Digest

structure State where
  a : UInt32
  b : UInt32
  c : UInt32
  d : UInt32
  e : UInt32
  f : UInt32
  g : UInt32
  h : UInt32

namespace State

/-- The first 32 bits of the fractional parts of the square roots of the first eight primes. -/
def start : State :=
  ⟨0x6a09e667, 0xbb67ae85, 0x3c6ef372, 0xa54ff53a, 0x510e527f, 0x9b05688c, 0x1f83d9ab, 0x5be0cd19⟩

def add (left right : State) : State :=
  ⟨left.a + right.a, left.b + right.b, left.c + right.c, left.d + right.d,
    left.e + right.e, left.f + right.f, left.g + right.g, left.h + right.h⟩

def words (state : State) : List UInt32 :=
  [state.a, state.b, state.c, state.d, state.e, state.f, state.g, state.h]

end State

/-- The first 32 bits of the fractional parts of the cube roots of the first 64 primes. -/
def roundConstants : List UInt32 :=
  [0x428a2f98, 0x71374491, 0xb5c0fbcf, 0xe9b5dba5, 0x3956c25b, 0x59f111f1, 0x923f82a4, 0xab1c5ed5,
   0xd807aa98, 0x12835b01, 0x243185be, 0x550c7dc3, 0x72be5d74, 0x80deb1fe, 0x9bdc06a7, 0xc19bf174,
   0xe49b69c1, 0xefbe4786, 0x0fc19dc6, 0x240ca1cc, 0x2de92c6f, 0x4a7484aa, 0x5cb0a9dc, 0x76f988da,
   0x983e5152, 0xa831c66d, 0xb00327c8, 0xbf597fc7, 0xc6e00bf3, 0xd5a79147, 0x06ca6351, 0x14292967,
   0x27b70a85, 0x2e1b2138, 0x4d2c6dfc, 0x53380d13, 0x650a7354, 0x766a0abb, 0x81c2c92e, 0x92722c85,
   0xa2bfe8a1, 0xa81a664b, 0xc24b8b70, 0xc76c51a3, 0xd192e819, 0xd6990624, 0xf40e3585, 0x106aa070,
   0x19a4c116, 0x1e376c08, 0x2748774c, 0x34b0bcb5, 0x391c0cb3, 0x4ed8aa4a, 0x5b9cca4f, 0x682e6ff3,
   0x748f82ee, 0x78a5636f, 0x84c87814, 0x8cc70208, 0x90befffa, 0xa4506ceb, 0xbef9a3f7, 0xc67178f2]

def rotateRight (word : UInt32) (count : UInt32) : UInt32 :=
  (word >>> count) ||| (word <<< (32 - count))

/-- Big-endian words of four octets; an incomplete last word is left out. -/
def wordsOf : Bytes → List UInt32
  | first :: second :: third :: fourth :: rest =>
      ((first.toUInt32 <<< 24) ||| (second.toUInt32 <<< 16) ||| (third.toUInt32 <<< 8) |||
        fourth.toUInt32) :: wordsOf rest
  | _ => []

def bytesOfWord (word : UInt32) : Bytes :=
  [(word >>> 24).toUInt8, (word >>> 16).toUInt8, (word >>> 8).toUInt8, word.toUInt8]

/-- Appends `count` further schedule words; `latest` holds the last sixteen, newest first. -/
def extendSchedule : Nat → List UInt32 → List UInt32 → List UInt32
  | 0, schedule, _ => schedule
  | count + 1, schedule, latest =>
      let second := latest.getD 1 0
      let fifteenth := latest.getD 14 0
      let low := rotateRight fifteenth 7 ^^^ rotateRight fifteenth 18 ^^^ (fifteenth >>> 3)
      let high := rotateRight second 17 ^^^ rotateRight second 19 ^^^ (second >>> 10)
      let word := latest.getD 15 0 + low + latest.getD 6 0 + high
      extendSchedule count (word :: schedule) ((word :: latest).take 16)

def schedule (block : List UInt32) : List UInt32 :=
  (extendSchedule 48 block.reverse block.reverse).reverse

def round (state : State) (constant word : UInt32) : State :=
  let high := rotateRight state.e 6 ^^^ rotateRight state.e 11 ^^^ rotateRight state.e 25
  let choice := (state.e &&& state.f) ^^^ (~~~state.e &&& state.g)
  let first := state.h + high + choice + constant + word
  let low := rotateRight state.a 2 ^^^ rotateRight state.a 13 ^^^ rotateRight state.a 22
  let majority := (state.a &&& state.b) ^^^ (state.a &&& state.c) ^^^ (state.b &&& state.c)
  ⟨first + (low + majority), state.a, state.b, state.c, state.d + first, state.e, state.f, state.g⟩

def compress (state : State) (block : List UInt32) : State :=
  state.add <| (roundConstants.zip (schedule block)).foldl
    (fun current (constant, word) => round current constant word) state

/-- One octet 128, zeros up to eight octets before a block's end, and the length in bits. -/
def padding (length : Nat) : Bytes :=
  128 :: List.replicate ((119 - length % 64) % 64) 0 ++
    (List.range 8).map fun index => UInt8.ofNat (8 * length / Nat.pow 256 (7 - index) % 256)

def compressAll : Nat → State → List UInt32 → State
  | 0, state, _ => state
  | blocks + 1, state, words =>
      compressAll blocks (compress state (words.take 16)) (words.drop 16)

def sha256 (message : Bytes) : Bytes :=
  let words := wordsOf (message ++ padding message.length)
  ((compressAll (words.length / 16) State.start words).words).flatMap bytesOfWord

end TieredCache.Digest
