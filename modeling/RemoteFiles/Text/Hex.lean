/-!
# Hexadecimal text

Digits are lower case.  `encode` writes bytes as two digits each, `lowDigits` the lowest digits
of a number in a fixed width, and `digitValue?` reads one digit of either case.
-/

namespace RemoteFiles.Text.Hex

/-- The digit of a number below sixteen. -/
def digit (n : Nat) : Char :=
  Nat.digitChar (n % 16)

/-- The value of a digit of either case. -/
def digitValue? (c : Char) : Option Nat :=
  if '0' ≤ c ∧ c ≤ '9' then some (c.toNat - '0'.toNat)
  else if 'a' ≤ c ∧ c ≤ 'f' then some (c.toNat - 'a'.toNat + 10)
  else if 'A' ≤ c ∧ c ≤ 'F' then some (c.toNat - 'A'.toNat + 10)
  else none

/-- The two digits of a byte. -/
def byteDigits (b : UInt8) : List Char :=
  [digit (b.toNat / 16), digit b.toNat]

/-- Two digits for each byte. -/
def encode (bytes : List UInt8) : String :=
  String.ofList (bytes.flatMap byteDigits)

/-- The lowest `width` digits of a number, highest first. -/
def lowDigits : Nat → Nat → List Char
  | 0, _ => []
  | width + 1, n => lowDigits width (n / 16) ++ [digit n]

end RemoteFiles.Text.Hex
