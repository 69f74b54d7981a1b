import RemoteFiles.Toml.Node

/-!
# Numbers, truth values and dates in TOML

A scalar is read from a run of letters, digits and the marks of numbers and dates, which has to
be one of the written forms as a whole.
-/

namespace RemoteFiles.Toml

/-- The characters of a scalar without quotes. -/
def isScalarChar (c : Char) : Bool :=
  c.isAlphanum || c == '+' || c == '-' || c == '_' || c == '.' || c == ':'

/-- Digits with single underscores between them, without the underscores. -/
def plainDigits? (isDigit : Char → Bool) (cs : List Char) : Option (List Char) :=
  let groups := cs.splitOn '_'
  if groups.all fun g => !g.isEmpty && g.all isDigit then some groups.flatten else none

/-- The value of digits in a base. -/
def digitsValue (base : Nat) (ds : List Char) : Nat :=
  ds.foldl (fun n c =>
    let d := if c.isDigit then c.toNat - '0'.toNat else c.toLower.toNat - 'a'.toNat + 10
    n * base + d) 0

/-- A decimal whole number without a sign: digits, without a zero in front of others. -/
def wholeDigits? (cs : List Char) : Option (List Char) :=
  match plainDigits? Char.isDigit cs with
  | some ('0' :: _ :: _) => none
  | other => other

/-- A sign and what follows it. -/
def splitSign : List Char → Bool × List Char
  | '-' :: rest => (true, rest)
  | '+' :: rest => (false, rest)
  | cs => (false, cs)

/-- Integers have 64 bits. -/
def inRange (n : Int) : Bool := -0x8000000000000000 ≤ n && n < 0x8000000000000000

/-- An integer, in base ten with an optional sign, or in another base after its mark. -/
def integer? (cs : List Char) : Option Int :=
  let based (base : Nat) (isDigit : Char → Bool) (ds : List Char) : Option Int :=
    (plainDigits? isDigit ds).map fun ds => Int.ofNat (digitsValue base ds)
  let n := match cs with
    | '0' :: 'x' :: ds => based 16 (fun c => c.isDigit || ('a' ≤ c.toLower && c.toLower ≤ 'f')) ds
    | '0' :: 'o' :: ds => based 8 (fun c => '0' ≤ c && c ≤ '7') ds
    | '0' :: 'b' :: ds => based 2 (fun c => c == '0' || c == '1') ds
    | _ =>
      let (negative, ds) := splitSign cs
      (wholeDigits? ds).map fun ds =>
        let n := Int.ofNat (digitsValue 10 ds)
        if negative then -n else n
  n.filter inRange

/-- The bits of `digits * 10 ^ exponent`, correctly rounded. -/
def floatOf (negative : Bool) (digits : Nat) (exponent : Int) : Float :=
  let f :=
    if digits = 0 then 0.0
    else if exponent < -5000 then 0.0
    else if 5000 < exponent then 1.0 / 0.0
    else Float.ofScientific digits (exponent < 0) exponent.natAbs
  if negative then -f else f

/-- A floating point number: digits with a point or an exponent or both, or one of the names of
infinity and of what is no number.  A positive one must not be too large. -/
def float? (cs : List Char) : Option UInt64 :=
  let (negative, body) := splitSign cs
  if body = "inf".toList then
    some (if negative then -1.0 / 0.0 else 1.0 / 0.0 : Float).toBits
  else if body = "nan".toList then
    some (if negative then 0xFFF8000000000000 else 0x7FF8000000000000)
  else
    let isMark (c : Char) : Bool := c == 'e' || c == 'E'
    let mantissa := body.takeWhile (!isMark ·)
    let whole := mantissa.takeWhile (· != '.')
    let power? : Option Int :=
      match body.dropWhile (!isMark ·) with
      | [] => some 0
      | _ :: e =>
        let (down, ds) := splitSign e
        (plainDigits? Char.isDigit ds).map fun ds =>
          let n := Int.ofNat (digitsValue 10 ds)
          if down then -n else n
    let fraction? : Option (List Char) :=
      match mantissa.dropWhile (· != '.') with
      | [] => some []
      | _ :: ds => plainDigits? Char.isDigit ds
    if whole.length = body.length then none
    else match wholeDigits? whole, fraction?, power? with
      | some ws, some fs, some power =>
        let f := floatOf negative (digitsValue 10 (ws ++ fs)) (power - Int.ofNat fs.length)
        if f == 1.0 / 0.0 then none else some f.toBits
      | _, _, _ => none

/-! ### Dates and times -/

/-- The number of exactly two digits. -/
def twoDigits? : List Char → Option Nat
  | [a, b] => if a.isDigit && b.isDigit then some (digitsValue 10 [a, b]) else none
  | _ => none

/-- The days of a month. -/
def monthDays (year month : Nat) : Nat :=
  if month = 2 then
    if year % 4 = 0 ∧ (year % 100 ≠ 0 ∨ year % 400 = 0) then 29 else 28
  else if month = 4 ∨ month = 6 ∨ month = 9 ∨ month = 11 then 30
  else 31

/-- A date: year, month and day. -/
def isDate (cs : List Char) : Bool :=
  match cs.splitOn '-' with
  | [y, m, d] =>
    match twoDigits? (y.take 2), twoDigits? (y.drop 2), twoDigits? m, twoDigits? d with
    | some century, some rest, some month, some day =>
      1 ≤ month && month ≤ 12 && 1 ≤ day && day ≤ monthDays (century * 100 + rest) month
    | _, _, _, _ => false
  | _ => false

/-- Hours and minutes. -/
def isClock (h m : List Char) : Bool :=
  match twoDigits? h, twoDigits? m with
  | some hour, some minute => hour ≤ 23 && minute ≤ 59
  | _, _ => false

/-- A time: hours, minutes, seconds up to a leap second, and possibly a fraction. -/
def isTime (cs : List Char) : Bool :=
  match cs.splitOn ':' with
  | [h, m, s] =>
    let second := s.takeWhile (· != '.')
    let fractionOk := match s.dropWhile (· != '.') with
      | [] => true
      | _ :: ds => !ds.isEmpty && ds.all Char.isDigit
    isClock h m && fractionOk && (match twoDigits? second with
      | some n => n ≤ 60
      | none => false)
  | _ => false

/-- A time with or without the distance of its zone. -/
def isZonedTime (cs : List Char) : Bool :=
  let clock := cs.takeWhile fun c => c.isDigit || c == ':' || c == '.'
  isTime clock && (match cs.dropWhile fun c => c.isDigit || c == ':' || c == '.' with
    | [] => true
    | ['Z'] => true
    | ['z'] => true
    | sign :: zone =>
      (sign == '+' || sign == '-') && (match zone.splitOn ':' with
        | [h, m] => isClock h m
        | _ => false))

/-- A date, a time, or a date and a time with a letter between them. -/
def isMoment (cs : List Char) : Bool :=
  let day := cs.takeWhile fun c => c != 'T' && c != 't'
  match cs.dropWhile fun c => c != 'T' && c != 't' with
  | [] => isDate cs || isTime cs
  | _ :: time => isDate day && isZonedTime time

/-- A scalar from its text. -/
def scalar (span : Span) (cs : List Char) : Option Node :=
  if cs = "true".toList then some (.boolean span true)
  else if cs = "false".toList then some (.boolean span false)
  else match integer? cs with
    | some n => some (.integer span n)
    | none => match float? cs with
      | some bits => some (.float span bits)
      | none => if isMoment cs then some (.moment span) else none

end RemoteFiles.Toml
