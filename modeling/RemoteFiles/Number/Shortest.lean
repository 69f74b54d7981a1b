import RemoteFiles.Number.Binary64

/-!
# The shortest decimal of a binary number

Of the decimals that are rounded to a binary number, `shortest` takes one with the fewest
digits, and among those the nearest.  All arithmetic is exact: the number and the ends of its
interval are fractions of natural numbers.
-/

namespace RemoteFiles.Number

/-- A decimal number: `digits * 10 ^ exponent`. -/
structure Decimal where
  digits : Nat
  exponent : Int
  deriving DecidableEq, Repr

namespace Binary64

/-- Four times the magnitude as a fraction, and four times the ends of its interval over the
same denominator. -/
def fractions (x : Binary64) : (Nat × Nat × Nat) × Nat :=
  let low := if x.lowerIsCloser then 4 * x.mantissa - 1 else 4 * x.mantissa - 2
  let scale := Nat.pow 2 (x.exponent - 2).toNat
  ((low * scale, 4 * x.mantissa * scale, (4 * x.mantissa + 2) * scale),
    Nat.pow 2 (2 - x.exponent).toNat)

/-- The exponent of the first decimal digit of a positive fraction. -/
def leadingExponent (num den : Nat) : Int :=
  let e : Int := (Nat.toDigits 10 num).length - (Nat.toDigits 10 den).length
  if den * Nat.pow 10 e.toNat ≤ num * Nat.pow 10 (-e).toNat then e else e - 1

/-- The decimal on the grid of `10 ^ unit` that is nearest to the fraction and in its interval,
if there is one; of two equally near ones the even. -/
def onGrid (x : Binary64) (unit : Int) : Option Nat :=
  let ((low, mid, high), den) := x.fractions
  let up := Nat.pow 10 (-unit).toNat
  let step := den * Nat.pow 10 unit.toNat
  let inside (k : Nat) : Bool :=
    if x.mantissa % 2 = 0 then low * up ≤ k * step && k * step ≤ high * up
    else low * up < k * step && k * step < high * up
  let k := mid * up / step
  let below := mid * up - k * step
  let above := (k + 1) * step - mid * up
  let nearer := if below < above ∨ (below = above ∧ k % 2 = 0) then k else k + 1
  let other := if nearer = k then k + 1 else k
  if inside nearer then some nearer else if inside other then some other else none

/-- Drops the zeros at the end of a decimal. -/
def stripZeros (d : Decimal) : Nat → Decimal
  | 0 => d
  | n + 1 => if d.digits % 10 = 0 ∧ d.digits ≠ 0 then stripZeros ⟨d.digits / 10, d.exponent + 1⟩ n
    else d

/-- The shortest decimal with at least `17 - budget` digits. -/
def shortest.go (x : Binary64) (leading : Int) : Nat → Decimal
  | 0 => ⟨x.mantissa, 0⟩
  | budget + 1 =>
    let unit := leading - (16 - budget : Nat)
    match x.onGrid unit with
    | some k => stripZeros ⟨k, unit⟩ 17
    | none => shortest.go x leading budget

/-- The shortest decimal that is rounded to the magnitude of a number. -/
def shortest (x : Binary64) : Decimal :=
  if x.mantissa = 0 then ⟨0, 0⟩
  else
    let ((_, mid, _), den) := x.fractions
    shortest.go x (leadingExponent mid den) 17

end Binary64

/-- How a decimal is written: positionally while the exponent of its first digit lies between
two bounds, else with one digit before the point and an exponent. -/
structure DecimalStyle where
  leastPositional : Int
  greatestPositional : Int

/-- A digit string in positional notation, with at least one digit on either side of the
point. -/
def positional (digits : List Char) (exponent : Int) : List Char :=
  let whole := digits.length + exponent
  if 0 ≤ exponent then digits ++ List.replicate exponent.toNat '0' ++ ['.', '0']
  else if 0 < whole then digits.take whole.toNat ++ '.' :: digits.drop whole.toNat
  else '0' :: '.' :: (List.replicate (-whole).toNat '0' ++ digits)

/-- A digit string with one digit before the point, and an exponent with its sign and at least
two digits. -/
def scientific (digits : List Char) (leading : Int) : List Char :=
  let exponent := Nat.toDigits 10 leading.natAbs
  digits.take 1 ++ (if digits.length ≤ 1 then [] else '.' :: digits.drop 1) ++
    ['e', if leading < 0 then '-' else '+'] ++
    List.replicate (2 - exponent.length) '0' ++ exponent

/-- A decimal in a style. -/
def Decimal.render (style : DecimalStyle) (d : Decimal) : List Char :=
  let digits := Nat.toDigits 10 d.digits
  let leading := d.exponent + digits.length - 1
  if d.digits = 0 ∨ (style.leastPositional ≤ leading ∧ leading ≤ style.greatestPositional) then
    positional digits d.exponent
  else scientific digits leading

/-- The text of a binary number given by its bits. -/
def renderBits (style : DecimalStyle) (bits : UInt64) : String :=
  match Binary64.ofBits? bits with
  | some x => String.ofList ((if x.negative then ['-'] else []) ++ x.shortest.render style)
  | none =>
    if bits.toNat % 0x10000000000000 ≠ 0 then "NaN"
    else if 0x8000000000000000 ≤ bits.toNat then "-inf" else "inf"

end RemoteFiles.Number
