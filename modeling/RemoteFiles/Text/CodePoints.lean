import RemoteFiles.Text.Hex

/-!
# Sets of code points

A set of code points is written as text: ranges with a hyphen between their ends and single
code points, all in hexadecimal and parted by commas.  Larger tables are made of entries parted
by semicolons.  Line breaks and blanks have no meaning.
-/

namespace RemoteFiles.Text

/-- A set of code points by its ranges, both ends included. -/
structure CodePoints where
  ranges : List (Nat × Nat)
  deriving DecidableEq, Repr

namespace CodePoints

/-- A character is in the set. -/
def contains (s : CodePoints) (c : Char) : Bool :=
  s.ranges.any fun r => r.1 ≤ c.toNat && c.toNat ≤ r.2

/-! ### Reading -/

/-- The parts of a text between separators. -/
def parts (separator : Char) (cs : List Char) : List (List Char) := cs.splitOn separator

/-- The number that digits write in a base of at most sixteen. -/
def value (base : Nat) (ds : List Char) : Nat :=
  ds.foldl (fun n c => n * base + (Hex.digitValue? c).getD 0) 0

/-- The ends of a range, or a single code point as both ends. -/
def range? (cs : List Char) : Option (Nat × Nat) :=
  match parts '-' cs with
  | [single] => some (value 16 single, value 16 single)
  | [first, last] => some (value 16 first, value 16 last)
  | _ => none

/-- The set whose ranges and code points stand between commas. -/
def ofRanges (cs : List Char) : CodePoints := ⟨(parts ',' cs).filterMap range?⟩

/-- A text without line breaks and blanks. -/
def dense (s : String) : List Char := s.toList.filter (!·.isWhitespace)

/-- The set that a text writes. -/
def ofText (s : String) : CodePoints := ofRanges (dense s)

/-- The entries of a table. -/
def entries (s : String) : List (List Char) := parts ';' (dense s)

end CodePoints

end RemoteFiles.Text
