import RemoteFiles.Text.Hex

/-!
# Percent-encoding

A byte is written as a percent sign and two hexadecimal digits.  Each part of a URL encodes the
characters of a set of its own; whatever is not ASCII is always encoded, as its bytes in UTF-8.
-/

namespace RemoteFiles.Url

/-- A set of ASCII characters that a part of a URL encodes. -/
abbrev EncodeSet := Char → Bool

/-- Controls, encoded in every part. -/
def controlSet : EncodeSet := fun c => c.toNat < 0x20 || c.toNat == 0x7f

/-- Encoded in a fragment. -/
def fragmentSet : EncodeSet := fun c => controlSet c || [' ', '"', '<', '>', '\x60'].contains c

/-- Encoded in a path. -/
def pathSet : EncodeSet := fun c => fragmentSet c || ['#', '?', '\x7b', '\x7d'].contains c

/-- Encoded in user information. -/
def userInfoSet : EncodeSet := fun c =>
  pathSet c || ['/', ':', ';', '=', '@', '[', '\\', ']', '^', '|'].contains c

/-- Encoded in a segment that is added to a path: so it stays one segment, and a percent sign in
it stays one. -/
def segmentSet : EncodeSet := fun c => pathSet c || ['/', '%'].contains c

/-- The same where a backslash would part segments too. -/
def specialSegmentSet : EncodeSet := fun c => segmentSet c || c == '\\'

/-- Encoded in a query. -/
def querySet : EncodeSet := fun c => controlSet c || [' ', '"', '#', '<', '>'].contains c

/-- Encoded in a query of a special scheme. -/
def specialQuerySet : EncodeSet := fun c => querySet c || c == '\''

/-- A byte as a percent sign and two digits. -/
def encodeByte (b : UInt8) : List Char :=
  '%' :: (Text.Hex.byteDigits b).map Char.toUpper

/-- A character, encoded if it is in the set or not ASCII. -/
def encodeChar (set : EncodeSet) (c : Char) : List Char :=
  if c.toNat < 0x80 && !set c then [c]
  else (String.utf8EncodeChar c).flatMap encodeByte

/-- A text with the characters of a set encoded. -/
def encode (set : EncodeSet) (cs : List Char) : List Char := cs.flatMap (encodeChar set)

/-- The bytes that a percent-encoded text stands for: each percent sign with two digits after it
is a byte, everything else is itself. -/
def decode : List Char → List UInt8
  | [] => []
  | c :: rest =>
    if c = '%' then
      match rest with
      | a :: b :: rest' =>
        match Text.Hex.digitValue? a, Text.Hex.digitValue? b with
        | some x, some y => UInt8.ofNat (16 * x + y) :: decode rest'
        | _, _ => String.utf8EncodeChar c ++ decode (a :: b :: rest')
      | rest => String.utf8EncodeChar c ++ decode rest
    else String.utf8EncodeChar c ++ decode rest

end RemoteFiles.Url
