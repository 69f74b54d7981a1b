/-!
# Bytes as characters

A byte sequence is read as UTF-8 without losing anything: `Glyph.ofBytes` cuts it into the
characters that it encodes and the stray bytes that are part of no character.  A text is the
sequence of its characters (`Glyph.ofString`).
-/

namespace RemoteFiles.Text

/-- Bytes are compared by their own function, whatever other instances are around. -/
instance decidableEqBytes : DecidableEq ByteArray := ByteArray.decEq

/-- One step of a byte sequence read as UTF-8: a character, or a byte that belongs to none. -/
inductive Glyph
  | char (c : Char)
  | stray (b : UInt8)
  deriving DecidableEq, Repr

namespace Glyph

/-- How many bytes a glyph takes. -/
def size : Glyph → Nat
  | char c => c.utf8Size
  | stray _ => 1

theorem size_pos (g : Glyph) : 0 < g.size := by
  cases g with
  | char c => exact c.utf8Size_pos
  | stray b => exact Nat.one_pos

/-- How many bytes some glyphs take. -/
def totalSize (gs : List Glyph) : Nat := gs.foldl (· + ·.size) 0

/-- A glyph is this character. -/
def is (c : Char) (g : Glyph) : Bool :=
  match g with
  | char d => d == c
  | stray _ => false

/-- The glyphs of the bytes from a position on. -/
def ofBytesFrom (bytes : ByteArray) (i : Nat) : List Glyph :=
  if h : i < bytes.size then
    match bytes.utf8DecodeChar? i with
    | some c => char c :: ofBytesFrom bytes (i + c.utf8Size)
    | none => stray bytes[i] :: ofBytesFrom bytes (i + 1)
  else []
termination_by bytes.size - i
decreasing_by
  · have := Char.utf8Size_pos ‹_›; omega
  · omega

/-- The glyphs of a byte sequence. -/
def ofBytes (bytes : ByteArray) : List Glyph := ofBytesFrom bytes 0

/-- The glyphs of a text. -/
def ofString (s : String) : List Glyph := s.toList.map char

/-- The stray bytes at the head of some glyphs. -/
def strayHead : List Glyph → List UInt8
  | stray b :: gs => b :: strayHead gs
  | _ => []

/-- A byte that continues a character. -/
def isContinuation (b : UInt8) : Bool := 0x80 ≤ b && b ≤ 0xBF

/-- How many bytes the character has that begins with a byte, and the bounds of its second
byte. -/
def leadShape? (b : UInt8) : Option (Nat × UInt8 × UInt8) :=
  if 0xC2 ≤ b ∧ b ≤ 0xDF then some (2, 0x80, 0xBF)
  else if b = 0xE0 then some (3, 0xA0, 0xBF)
  else if b = 0xED then some (3, 0x80, 0x9F)
  else if 0xE1 ≤ b ∧ b ≤ 0xEF then some (3, 0x80, 0xBF)
  else if b = 0xF0 then some (4, 0x90, 0xBF)
  else if 0xF1 ≤ b ∧ b ≤ 0xF3 then some (4, 0x80, 0xBF)
  else if b = 0xF4 then some (4, 0x80, 0x8F)
  else none

/-- How many of some stray bytes are one fault: the longest beginning of a character, or one
byte; and whether that beginning only lacks bytes. -/
def faultSize : List UInt8 → Nat × Bool
  | [] => (0, false)
  | b :: bs =>
    match leadShape? b, bs with
    | none, _ => (1, false)
    | some _, [] => (1, true)
    | some (size, low, high), c :: cs =>
      if low ≤ c ∧ c ≤ high then
        let more := (cs.takeWhile isContinuation).take (size - 3)
        (2 + more.length, more.length == cs.length)
      else (1, false)

/-- The text of glyphs, with one replacement character for each fault. -/
def lossy : List Glyph → List Char
  | [] => []
  | char c :: gs => c :: lossy gs
  | stray b :: gs =>
    '\uFFFD' :: lossy (gs.drop ((faultSize (b :: strayHead gs)).1 - 1))
termination_by gs => gs.length
decreasing_by
  · simp
  · simp only [List.length_drop, List.length_cons]; omega

/-- Where bytes are not UTF-8: the place of the first fault and its size, or none if the bytes
end in the middle of a character. -/
structure Fault where
  index : Nat
  size : Option Nat
  deriving DecidableEq, Repr

/-- The first fault of some glyphs that stand from a byte on. -/
def fault? (index : Nat) : List Glyph → Option Fault
  | [] => none
  | char c :: gs => fault? (index + c.utf8Size) gs
  | stray b :: gs =>
    let (size, isCut) := faultSize (b :: strayHead gs)
    some ⟨index, if isCut && gs.length + 1 == size then none else some size⟩

/-- The text shown for a fault. -/
def Fault.message (f : Fault) : String :=
  match f.size with
  | some n => "invalid utf-8 sequence of " ++ toString n ++ " bytes from index " ++
      toString f.index
  | none => "incomplete utf-8 byte sequence from index " ++ toString f.index

/-- The text of glyphs without stray bytes. -/
def toString? : List Glyph → Option (List Char)
  | [] => some []
  | char c :: gs => (toString? gs).map (c :: ·)
  | stray _ :: _ => none

end Glyph

/-- The text that a byte sequence encodes, if it is valid UTF-8. -/
def decodeUtf8? (bytes : ByteArray) : Option String :=
  String.fromUTF8? bytes

end RemoteFiles.Text
