import ConfigGate.Decimal.Literal

/-!
# SHA-256

The hash of a text's UTF-8 bytes, as 64 lower-case digits of base sixteen. The message is padded to
blocks of sixteen words; each block is expanded to 64 words that drive the rounds.
-/

namespace ConfigGate.Digest

/-- The words that drive the rounds: the first 32 bits of the fractional parts of the cube roots of
the first 64 primes. -/
def roundWords : Array UInt32 := #[
  0x428a2f98, 0x71374491, 0xb5c0fbcf, 0xe9b5dba5, 0x3956c25b, 0x59f111f1, 0x923f82a4, 0xab1c5ed5,
  0xd807aa98, 0x12835b01, 0x243185be, 0x550c7dc3, 0x72be5d74, 0x80deb1fe, 0x9bdc06a7, 0xc19bf174,
  0xe49b69c1, 0xefbe4786, 0x0fc19dc6, 0x240ca1cc, 0x2de92c6f, 0x4a7484aa, 0x5cb0a9dc, 0x76f988da,
  0x983e5152, 0xa831c66d, 0xb00327c8, 0xbf597fc7, 0xc6e00bf3, 0xd5a79147, 0x06ca6351, 0x14292967,
  0x27b70a85, 0x2e1b2138, 0x4d2c6dfc, 0x53380d13, 0x650a7354, 0x766a0abb, 0x81c2c92e, 0x92722c85,
  0xa2bfe8a1, 0xa81a664b, 0xc24b8b70, 0xc76c51a3, 0xd192e819, 0xd6990624, 0xf40e3585, 0x106aa070,
  0x19a4c116, 0x1e376c08, 0x2748774c, 0x34b0bcb5, 0x391c0cb3, 0x4ed8aa4a, 0x5b9cca4f, 0x682e6ff3,
  0x748f82ee, 0x78a5636f, 0x84c87814, 0x8cc70208, 0x90befffa, 0xa4506ceb, 0xbef9a3f7, 0xc67178f2]

/-- The eight words of a running hash. -/
structure HashState where
  a : UInt32
  b : UInt32
  c : UInt32
  d : UInt32
  e : UInt32
  f : UInt32
  g : UInt32
  h : UInt32

/-- The hash before any block. -/
def initialState : HashState :=
  ⟨0x6a09e667, 0xbb67ae85, 0x3c6ef372, 0xa54ff53a, 0x510e527f, 0x9b05688c, 0x1f83d9ab, 0x5be0cd19⟩

/-- Rotation to the right. -/
def rotateRight (word amount : UInt32) : UInt32 := (word >>> amount) ||| (word <<< (32 - amount))

/-- The number of zero bytes after the end mark that fill the last block up to the length field. -/
def fillLength (size : Nat) : Nat := (119 - size % 64) % 64

/-- The message, an end mark, zeros, and the message's length in bits as eight bytes. -/
def padded (message : List UInt8) : List UInt8 :=
  let bits := message.length * 8
  let lengthField : List UInt8 :=
    [56, 48, 40, 32, 24, 16, 8, 0].map fun shift : Nat => (bits >>> shift).toUInt8
  message ++ 0x80 :: (List.replicate (fillLength message.length) 0 ++ lengthField)

/-- The big-endian words of a list of bytes. -/
def wordsOf : List UInt8 → List UInt32
  | p :: q :: r :: s :: rest =>
      ((p.toUInt32 <<< 24) ||| (q.toUInt32 <<< 16) ||| (r.toUInt32 <<< 8) ||| s.toUInt32) ::
        wordsOf rest
  | _ => []

/-- The next word of a schedule. -/
def nextWord (words : Array UInt32) : UInt32 :=
  let word (back : Nat) := words.getD (words.size - back) 0
  let first := word 15
  let second := word 2
  let low := rotateRight first 7 ^^^ rotateRight first 18 ^^^ (first >>> 3)
  let high := rotateRight second 17 ^^^ rotateRight second 19 ^^^ (second >>> 10)
  word 16 + low + word 7 + high

/-- A block's words, extended by `count` more. -/
def extend (words : Array UInt32) : Nat → Array UInt32
  | 0 => words
  | count + 1 => extend (words.push (nextWord words)) count

/-- One round. -/
def step (state : HashState) (key word : UInt32) : HashState :=
  let big := rotateRight state.e 6 ^^^ rotateRight state.e 11 ^^^ rotateRight state.e 25
  let choice := (state.e &&& state.f) ^^^ (~~~state.e &&& state.g)
  let first := state.h + big + choice + key + word
  let small := rotateRight state.a 2 ^^^ rotateRight state.a 13 ^^^ rotateRight state.a 22
  let majority := (state.a &&& state.b) ^^^ (state.a &&& state.c) ^^^ (state.b &&& state.c)
  { a := first + (small + majority)
    b := state.a
    c := state.b
    d := state.c
    e := state.d + first
    f := state.e
    g := state.f
    h := state.g }

/-- The hash after one more block of sixteen words. -/
def absorb (state : HashState) (block : List UInt32) : HashState :=
  let schedule := extend block.toArray 48
  let final := (roundWords.toList.zip schedule.toList).foldl
    (fun state pair => step state pair.1 pair.2) state
  { a := state.a + final.a
    b := state.b + final.b
    c := state.c + final.c
    d := state.d + final.d
    e := state.e + final.e
    f := state.f + final.f
    g := state.g + final.g
    h := state.h + final.h }

/-- The hash after the first `count` blocks of some words. -/
def absorbAll (state : HashState) (words : List UInt32) : Nat → HashState
  | 0 => state
  | count + 1 => absorbAll (absorb state (words.take 16)) (words.drop 16) count

/-- A word as eight digits of base sixteen. -/
def hexWord (word : UInt32) : List Char :=
  [28, 24, 20, 16, 12, 8, 4, 0].map fun shift : UInt32 =>
    Decimal.hexDigit ((word >>> shift) &&& 15).toNat

/-- The SHA-256 hash of a text, in base sixteen. -/
def sha256 (text : String) : String :=
  let words := wordsOf (padded text.toUTF8.toList)
  let final := absorbAll initialState words (words.length / 16)
  String.ofList ([final.a, final.b, final.c, final.d, final.e, final.f, final.g, final.h].flatMap
    hexWord)

end ConfigGate.Digest
