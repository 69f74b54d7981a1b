import RemoteFiles.Text.Hex

/-!
# Padding a message to whole blocks

MD5 and SHA-256 read their message in blocks of 64 bytes.  A message is first padded: a byte
with only its top bit set, zeros up to eight bytes short of a whole block, and the length of
the message in bits as a word of eight bytes.  The two functions differ in the order of those
eight bytes only, so `pad` takes them as they are to be written.
-/

namespace RemoteFiles.Hash

/-- The bytes of a block. -/
def blockSize : Nat := 64

/-- How many zeros stand between the marker byte and the length of a message. -/
def zeroCount (messageSize : Nat) : Nat :=
  (2 * blockSize - 9 - messageSize % blockSize) % blockSize

/-- The message followed by the marker byte, the zeros and the given bytes of its length. -/
def pad (message lengthBytes : List UInt8) : List UInt8 :=
  message ++ 0x80 :: (List.replicate (zeroCount message.length) 0 ++ lengthBytes)

/-- A padded message fills whole blocks. -/
theorem length_pad_mod (message lengthBytes : List UInt8) (h : lengthBytes.length = 8) :
    (pad message lengthBytes).length % blockSize = 0 := by
  simp only [pad, zeroCount, blockSize, List.length_append, List.length_cons,
    List.length_replicate, h]
  omega

/-- The bits of a length, as eight bytes with the lowest first. -/
def lengthBytesLow (messageSize : Nat) : List UInt8 :=
  (List.range 8).map fun i => UInt8.ofNat (messageSize * 8 / Nat.pow 256 i)

/-- The word of four bytes with the lowest first. -/
def wordLow (a b c d : UInt8) : UInt32 :=
  a.toUInt32 ||| b.toUInt32 <<< 8 ||| c.toUInt32 <<< 16 ||| d.toUInt32 <<< 24

/-- The four bytes of a word, lowest first. -/
def bytesLow (w : UInt32) : List UInt8 :=
  [w.toUInt8, (w >>> 8).toUInt8, (w >>> 16).toUInt8, (w >>> 24).toUInt8]

/-- The bytes in groups of four, each read as a word by `word`. -/
def words (word : UInt8 → UInt8 → UInt8 → UInt8 → UInt32) : List UInt8 → List UInt32
  | a :: b :: c :: d :: rest => word a b c d :: words word rest
  | _ => []

/-- The words in groups of sixteen, the blocks of a padded message. -/
def blocks (ws : List UInt32) : List (List UInt32) :=
  if _h : ws.drop 15 = [] then [] else ws.take 16 :: blocks (ws.drop 16)
termination_by ws.length
decreasing_by
  rw [List.drop_eq_nil_iff] at _h
  simp only [List.length_drop]
  omega

/-- A word with its bits moved `n` places up, those that leave at the top coming back below. -/
def rotateLeft (w : UInt32) (n : UInt32) : UInt32 :=
  w <<< n ||| w >>> (32 - n)

end RemoteFiles.Hash
