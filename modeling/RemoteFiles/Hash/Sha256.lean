import RemoteFiles.Hash.Padding

/-!
# SHA-256

The digest of 32 bytes.  The sixteen words of a block are drawn out to 64, and each of them is
mixed into eight words by one step.
-/

namespace RemoteFiles.Hash.Sha256

open RemoteFiles.Hash

/-- The eight words that a block is mixed into. -/
structure State where
  a : UInt32
  b : UInt32
  c : UInt32
  d : UInt32
  e : UInt32
  f : UInt32
  g : UInt32
  h : UInt32
  deriving DecidableEq, Repr

/-- The words before the first block: the first 32 bits after the point of the square roots of
the first eight primes. -/
def State.initial : State :=
  ⟨0x6a09e667, 0xbb67ae85, 0x3c6ef372, 0xa54ff53a,
    0x510e527f, 0x9b05688c, 0x1f83d9ab, 0x5be0cd19⟩

/-- Word by word addition. -/
def State.add (s t : State) : State :=
  ⟨s.a + t.a, s.b + t.b, s.c + t.c, s.d + t.d, s.e + t.e, s.f + t.f, s.g + t.g, s.h + t.h⟩

/-- The constant of each step: the first 32 bits after the point of the cube roots of the first
64 primes. -/
def constants : List UInt32 := [
  0x428a2f98, 0x71374491, 0xb5c0fbcf, 0xe9b5dba5, 0x3956c25b, 0x59f111f1,
  0x923f82a4, 0xab1c5ed5, 0xd807aa98, 0x12835b01, 0x243185be, 0x550c7dc3,
  0x72be5d74, 0x80deb1fe, 0x9bdc06a7, 0xc19bf174, 0xe49b69c1, 0xefbe4786,
  0x0fc19dc6, 0x240ca1cc, 0x2de92c6f, 0x4a7484aa, 0x5cb0a9dc, 0x76f988da,
  0x983e5152, 0xa831c66d, 0xb00327c8, 0xbf597fc7, 0xc6e00bf3, 0xd5a79147,
  0x06ca6351, 0x14292967, 0x27b70a85, 0x2e1b2138, 0x4d2c6dfc, 0x53380d13,
  0x650a7354, 0x766a0abb, 0x81c2c92e, 0x92722c85, 0xa2bfe8a1, 0xa81a664b,
  0xc24b8b70, 0xc76c51a3, 0xd192e819, 0xd6990624, 0xf40e3585, 0x106aa070,
  0x19a4c116, 0x1e376c08, 0x2748774c, 0x34b0bcb5, 0x391c0cb3, 0x4ed8aa4a,
  0x5b9cca4f, 0x682e6ff3, 0x748f82ee, 0x78a5636f, 0x84c87814, 0x8cc70208,
  0x90befffa, 0xa4506ceb, 0xbef9a3f7, 0xc67178f2]

/-- A word with its bits moved `n` places down, those that leave at the bottom coming back
above. -/
def rotateRight (w : UInt32) (n : UInt32) : UInt32 :=
  rotateLeft w (32 - n)

/-- The word of four bytes with the highest first. -/
def wordHigh (a b c d : UInt8) : UInt32 := wordLow d c b a

/-- The four bytes of a word, highest first. -/
def bytesHigh (w : UInt32) : List UInt8 := (bytesLow w).reverse

/-- The word that follows sixteen words of the schedule. -/
def nextWord (w0 w1 w9 w14 : UInt32) : UInt32 :=
  let s0 := rotateRight w1 7 ^^^ rotateRight w1 18 ^^^ (w1 >>> 3)
  let s1 := rotateRight w14 17 ^^^ rotateRight w14 19 ^^^ (w14 >>> 10)
  w0 + s0 + w9 + s1

/-- The block drawn out by `n` more words. -/
def extend (ws : Array UInt32) : Nat → Array UInt32
  | 0 => ws
  | n + 1 =>
    let earlier (back : Nat) := ws.getD (ws.size - back) 0
    extend (ws.push (nextWord (earlier 16) (earlier 15) (earlier 7) (earlier 2))) n

/-- One step over a word of the schedule and its constant. -/
def step (s : State) (word constant : UInt32) : State :=
  let s1 := rotateRight s.e 6 ^^^ rotateRight s.e 11 ^^^ rotateRight s.e 25
  let choice := (s.e &&& s.f) ^^^ (~~~s.e &&& s.g)
  let t1 := s.h + s1 + choice + constant + word
  let s0 := rotateRight s.a 2 ^^^ rotateRight s.a 13 ^^^ rotateRight s.a 22
  let majority := (s.a &&& s.b) ^^^ (s.a &&& s.c) ^^^ (s.b &&& s.c)
  ⟨t1 + (s0 + majority), s.a, s.b, s.c, s.d + t1, s.e, s.f, s.g⟩

/-- All steps of one block, added to the words before it. -/
def absorb (s : State) (block : List UInt32) : State :=
  let schedule := (extend block.toArray 48).toList
  s.add ((schedule.zip constants).foldl (fun t x => step t x.1 x.2) s)

/-- The digest of a message. -/
def digest (message : List UInt8) : List UInt8 :=
  let padded := pad message (lengthBytesLow message.length).reverse
  let s := (blocks (words wordHigh padded)).foldl absorb State.initial
  [s.a, s.b, s.c, s.d, s.e, s.f, s.g, s.h].flatMap bytesHigh

/-- A digest has 32 bytes. -/
theorem length_digest (message : List UInt8) : (digest message).length = 32 := by
  simp [digest, bytesHigh, bytesLow]

end RemoteFiles.Hash.Sha256
