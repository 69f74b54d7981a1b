/-!
# Binary floating point numbers as exact numbers

A finite binary floating point number of 64 bits is a sign and a number `m · 2 ^ q` with a
natural `m`.  The decimals that are rounded to it are those between the middles to its two
neighbours, the middles included when `m` is even.
-/

namespace RemoteFiles.Number

/-- A finite binary number: its sign, and the magnitude `mantissa * 2 ^ exponent`. -/
structure Binary64 where
  negative : Bool
  mantissa : Nat
  exponent : Int
  /-- The neighbour below lies half as far away as the one above. -/
  lowerIsCloser : Bool
  deriving DecidableEq, Repr

namespace Binary64

/-- The number of 64 bits; `none` for infinities and for what is no number. -/
def ofBits? (bits : UInt64) : Option Binary64 :=
  let n := bits.toNat
  let fraction : Nat := n % 0x10000000000000
  let field : Nat := n / 0x10000000000000 % 0x800
  let negative := decide (0x8000000000000000 ≤ n)
  if field = 2047 then none
  else if field = 0 then some ⟨negative, fraction, -1074, false⟩
  else some ⟨negative, 0x10000000000000 + fraction, Int.ofNat field - 1075, fraction == 0 && field != 1⟩

end Binary64

end RemoteFiles.Number
