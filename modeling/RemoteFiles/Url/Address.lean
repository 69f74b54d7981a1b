import RemoteFiles.Text.Hex

/-!
# Internet addresses as hosts

A host whose last part is a number is an address of version 4: up to four parts, each decimal,
octal after a zero, or hexadecimal after `0x`, the last one filling all bytes that are left.  A
host in brackets is an address of version 6.
-/

namespace RemoteFiles.Url

/-! ### Version 4 -/

/-- What a part of a version 4 address is. -/
inductive Part
  /-- No number. -/
  | text
  /-- A number that is too large for an address. -/
  | tooLarge
  | number (n : Nat)
  deriving DecidableEq, Repr

/-- The value of digits in a base. -/
def valueIn (base : Nat) (ds : List Char) : Nat :=
  ds.foldl (fun n c => n * base + (Text.Hex.digitValue? c).getD 0) 0

/-- The number that a part of an address writes. -/
def Part.ofText (cs : List Char) : Part :=
  let check (base : Nat) (ds : List Char) : Part :=
    if ds.all fun c => match Text.Hex.digitValue? c with
      | some d => d < base
      | none => false
    then
      let n := valueIn base ds
      if n < 0x100000000 then .number n else .tooLarge
    else .text
  match cs with
  | [] => .text
  | '0' :: 'x' :: ds => check 16 ds
  | '0' :: 'X' :: ds => check 16 ds
  | '0' :: d :: ds => check 8 (d :: ds)
  | ds => check 10 ds

/-- The parts of a host between its points, without an empty one at the end. -/
def hostParts (cs : List Char) : List (List Char) :=
  let parts := cs.splitOn '.'
  if parts.getLast? = some [] then parts.dropLast else parts

/-- A host is to be read as a version 4 address when its last part is a number. -/
def endsInNumber (cs : List Char) : Bool :=
  match (hostParts cs).getLast? with
  | none => false
  | some [] => false
  | some part => part.all Char.isDigit || Part.ofText part != .text

/-- The number of a version 4 address from the numbers of its parts. -/
def combineParts (parts : List Nat) : Option Nat :=
  match parts.reverse with
  | [] => none
  | last :: before =>
    let lead := before.reverse
    if 4 ≤ lead.length ∨ Nat.pow 256 (4 - lead.length) ≤ last ∨ lead.any (256 ≤ ·) then none
    else some (lead.zipIdx.foldl (fun n (p, i) => n + p * Nat.pow 256 (3 - i)) last)

/-- The number of the version 4 address that a host writes. -/
def address4? (cs : List Char) : Option Nat := do
  let numbers ← (hostParts cs).mapM fun part =>
    match Part.ofText part with
    | .number n => some n
    | _ => none
  combineParts numbers

/-- A version 4 address as four decimal numbers. -/
def renderAddress4 (n : Nat) : String :=
  ".".intercalate ([3, 2, 1, 0].map fun i => toString (n / Nat.pow 256 i % 256))

/-! ### Version 6 -/

/-- The number of up to four hexadecimal digits, after those read so far, and what follows. -/
def hexPiece : Nat → Nat → List Char → Nat × List Char
  | 0, n, cs => (n, cs)
  | _ + 1, n, [] => (n, [])
  | room + 1, n, c :: cs =>
    match Text.Hex.digitValue? c with
    | some d => hexPiece room (n * 16 + d) cs
    | none => (n, c :: cs)

/-- A number from 0 to 255 in decimal, without a zero in front. -/
def decimalByte? (cs : List Char) : Option Nat :=
  match cs with
  | [] => none
  | '0' :: _ :: _ => none
  | _ => if cs.all Char.isDigit && valueIn 10 cs ≤ 255 then some (valueIn 10 cs) else none

/-- The two pieces of a version 4 address at the end of a version 6 address. -/
def embeddedPieces? (cs : List Char) : Option (List Nat) :=
  match (cs.splitOn '.').map decimalByte? with
  | [some a, some b, some c, some d] => some [a * 256 + b, c * 256 + d]
  | _ => none

/-- The pieces of a version 6 address, after those read so far (last first), and where among
them zeros were left out; `budget` bounds the characters. -/
def pieces6 : Nat → List Nat → Option Nat → List Char → Option (List Nat × Option Nat)
  | 0, _, _, _ => none
  | _ + 1, pieces, gap, [] => some (pieces.reverse, gap)
  | budget + 1, pieces, gap, c :: cs =>
    if pieces.length = 8 then none
    else if c = ':' then
      if gap.isSome then none
      else pieces6 budget (0 :: pieces) (some (pieces.length + 1)) cs
    else
      match hexPiece 4 0 (c :: cs) with
      | (n, []) => some ((n :: pieces).reverse, gap)
      | (n, d :: rest) =>
        if d = '.' then
          if rest.length + 1 = (c :: cs).length ∨ 6 < pieces.length then none
          else (embeddedPieces? (c :: cs)).map fun ps => (pieces.reverse ++ ps, gap)
        else if d = ':' ∧ rest ≠ [] then pieces6 budget (n :: pieces) gap rest
        else none

/-- The eight pieces of the version 6 address that a text writes. -/
def address6? (cs : List Char) : Option (List Nat) :=
  let read := match cs with
    | ':' :: ':' :: rest => pieces6 (cs.length + 1) [0] (some 1) rest
    | ':' :: _ => none
    | [] => none
    | [_] => none
    | _ => pieces6 (cs.length + 1) [] none cs
  match read with
  | some (pieces, some gap) =>
    if pieces.length ≤ 8 then
      some (pieces.take gap ++ List.replicate (8 - pieces.length) 0 ++ pieces.drop gap)
    else none
  | some (pieces, none) => if pieces.length = 8 then some pieces else none
  | none => none

/-- How many zeros a list begins with. -/
def zeroRun (ps : List Nat) : Nat := (ps.takeWhile (· == 0)).length

/-- The place and the length of the first of the longest runs of zeros. -/
def longestZeroRun (ps : List Nat) : Nat × Nat :=
  (List.range ps.length).foldl (fun (start, size) i =>
    let run := zeroRun (ps.drop i)
    if size < run then (i, run) else (start, size)) (0, 0)

/-- The pieces in hexadecimal, parted by colons. -/
def joinPieces (ps : List Nat) : String :=
  ":".intercalate (ps.map fun p => String.ofList (Nat.toDigits 16 p))

/-- A version 6 address in brackets, with two colons for its longest run of zeros. -/
def renderAddress6 (ps : List Nat) : String :=
  let (start, size) := longestZeroRun ps
  if size < 2 then "[" ++ joinPieces ps ++ "]"
  else "[" ++ joinPieces (ps.take start) ++ "::" ++ joinPieces (ps.drop (start + size)) ++ "]"

end RemoteFiles.Url
