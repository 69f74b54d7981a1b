import RemoteFiles.Hash.Padding

/-!
# MD5

The message digest of sixteen bytes.  Four words go through 64 steps for each block; each
step mixes one word of the block into them by one of four functions, one for each quarter of
the steps.
-/

namespace RemoteFiles.Hash.Md5

open RemoteFiles.Hash

/-- The four words that a block is mixed into. -/
structure State where
  a : UInt32
  b : UInt32
  c : UInt32
  d : UInt32
  deriving DecidableEq, Repr

/-- The words before the first block. -/
def State.initial : State :=
  ⟨0x67452301, 0xefcdab89, 0x98badcfe, 0x10325476⟩

/-- Word by word addition. -/
def State.add (s t : State) : State :=
  ⟨s.a + t.a, s.b + t.b, s.c + t.c, s.d + t.d⟩

/-- The constant of each step: the first 32 bits after the point of the sine of the number of
the step, counted from one. -/
def constants : List UInt32 := [
  0xd76aa478, 0xe8c7b756, 0x242070db, 0xc1bdceee, 0xf57c0faf, 0x4787c62a,
  0xa8304613, 0xfd469501, 0x698098d8, 0x8b44f7af, 0xffff5bb1, 0x895cd7be,
  0x6b901122, 0xfd987193, 0xa679438e, 0x49b40821, 0xf61e2562, 0xc040b340,
  0x265e5a51, 0xe9b6c7aa, 0xd62f105d, 0x02441453, 0xd8a1e681, 0xe7d3fbc8,
  0x21e1cde6, 0xc33707d6, 0xf4d50d87, 0x455a14ed, 0xa9e3e905, 0xfcefa3f8,
  0x676f02d9, 0x8d2a4c8a, 0xfffa3942, 0x8771f681, 0x6d9d6122, 0xfde5380c,
  0xa4beea44, 0x4bdecfa9, 0xf6bb4b60, 0xbebfbc70, 0x289b7ec6, 0xeaa127fa,
  0xd4ef3085, 0x04881d05, 0xd9d4d039, 0xe6db99e5, 0x1fa27cf8, 0xc4ac5665,
  0xf4292244, 0x432aff97, 0xab9423a7, 0xfc93a039, 0x655b59c3, 0x8f0ccc92,
  0xffeff47d, 0x85845dd1, 0x6fa87e4f, 0xfe2ce6e0, 0xa3014314, 0x4e0811a1,
  0xf7537e82, 0xbd3af235, 0x2ad7d2bb, 0xeb86d391]

/-- How far each step rotates: four distances in turn in each quarter. -/
def rotations : List UInt32 :=
  let quarter (ds : List UInt32) := ds ++ ds ++ ds ++ ds
  quarter [7, 12, 17, 22] ++ quarter [5, 9, 14, 20] ++ quarter [4, 11, 16, 23] ++
    quarter [6, 10, 15, 21]

/-- The mixing function of step `i`. -/
def mix (i : Nat) (b c d : UInt32) : UInt32 :=
  match i / 16 with
  | 0 => (b &&& c) ||| (~~~b &&& d)
  | 1 => (d &&& b) ||| (~~~d &&& c)
  | 2 => b ^^^ c ^^^ d
  | _ => c ^^^ (b ||| ~~~d)

/-- Which word of the block step `i` takes. -/
def wordIndex (i : Nat) : Nat :=
  match i / 16 with
  | 0 => i
  | 1 => (5 * i + 1) % 16
  | 2 => (3 * i + 5) % 16
  | _ => 7 * i % 16

/-- Step `i` with its constant and rotation, over the words of a block. -/
def step (block : Array UInt32) (s : State) (i : Nat) (constant rotation : UInt32) : State :=
  let sum := s.a + mix i s.b s.c s.d + constant + block.getD (wordIndex i) 0
  ⟨s.d, s.b + rotateLeft sum rotation, s.b, s.c⟩

/-- All steps of one block, added to the words before it. -/
def absorb (s : State) (block : List UInt32) : State :=
  let ws := block.toArray
  let mixed := ((constants.zip rotations).zipIdx).foldl
    (fun t x => step ws t x.2 x.1.1 x.1.2) s
  s.add mixed

/-- The digest of a message. -/
def digest (message : List UInt8) : List UInt8 :=
  let padded := pad message (lengthBytesLow message.length)
  let s := (blocks (words wordLow padded)).foldl absorb State.initial
  bytesLow s.a ++ bytesLow s.b ++ bytesLow s.c ++ bytesLow s.d

/-- A digest has sixteen bytes. -/
theorem length_digest (message : List UInt8) : (digest message).length = 16 := by
  simp [digest, bytesLow]

end RemoteFiles.Hash.Md5
