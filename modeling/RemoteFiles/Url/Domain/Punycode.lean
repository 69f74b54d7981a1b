/-!
# Labels of other scripts in ASCII

A label with characters outside ASCII is written as its ASCII characters, a hyphen unless there
are none, and the other characters as insertions in the order of their code points.  Each
insertion is the number of steps since the last one, counted over all places of all code points,
in digits to the base 36; a digit below a threshold ends a number, and the thresholds adapt to
the size of the last number.
-/

namespace RemoteFiles.Url.Punycode

/-! ### Digits -/

/-- The digit of a number below 36: a letter, or from 26 on a decimal digit. -/
def digit (n : Nat) : Char :=
  if n < 26 then Char.ofNat ('a'.toNat + n) else Char.ofNat ('0'.toNat + (n - 26))

/-- The number of a digit in lower case. -/
def digitValue? (c : Char) : Option Nat :=
  if 'a' ≤ c ∧ c ≤ 'z' then some (c.toNat - 'a'.toNat)
  else if '0' ≤ c ∧ c ≤ '9' then some (c.toNat - '0'.toNat + 26)
  else none

/-- A digit is read back as its number. -/
theorem digitValue?_digit {n : Nat} (h : n < 36) : digitValue? (digit n) = some n := by
  have all : ∀ m < 36, digitValue? (digit m) = some m := by decide
  exact all n h

/-- The threshold of the digit at a place, counted in steps of 36. -/
def threshold (place bias : Nat) : Nat :=
  max 1 (min 26 (place - bias))

theorem threshold_pos (place bias : Nat) : 1 ≤ threshold place bias := by
  unfold threshold; omega

theorem threshold_le (place bias : Nat) : threshold place bias ≤ 26 := by
  unfold threshold; omega

/-- The bias that a reduced number leads to. -/
def biasOf (delta place : Nat) : Nat :=
  if 455 < delta then biasOf (delta / 35) (place + 36)
  else place + 36 * delta / (delta + 38)
termination_by delta
decreasing_by omega

/-- The bias after a number, with the count of characters so far, and whether the number is the
first one. -/
def adapt (delta count : Nat) (isFirst : Bool) : Nat :=
  let reduced := if isFirst then delta / 700 else delta / 2
  biasOf (reduced + reduced / count) 0

/-! ### Writing -/

/-- The digits of a number. -/
def digits (bias place n : Nat) : List Char :=
  let t := threshold place bias
  if n < t then [digit n]
  else digit (t + (n - t) % (36 - t)) :: digits bias (place + 36) ((n - t) / (36 - t))
termination_by n
decreasing_by
  have := threshold_pos place bias
  have := Nat.div_le_self (n - threshold place bias) (36 - threshold place bias)
  omega

/-- What writing has come to: the steps since the last insertion, the bias, the characters
written, the text. -/
structure Progress where
  delta : Nat
  bias : Nat
  count : Nat
  text : List Char

/-- Passes one character of the label when the code point `n` is inserted, where the label has
`basic` ASCII characters. -/
def Progress.pass (basic n : Nat) (p : Progress) (c : Char) : Progress :=
  if c.toNat < n then { p with delta := p.delta + 1 }
  else if c.toNat = n then
    ⟨0, adapt p.delta (p.count + 1) (p.count == basic), p.count + 1,
      p.text ++ digits p.bias 36 p.delta⟩
  else p

/-- Inserts code points in order, the first of which is counted from `start`. -/
def insertAll (label : List Char) (basic : Nat) : Nat → List Nat → Progress → Progress
  | _, [], p => p
  | start, n :: ns, p =>
    let p := { p with delta := p.delta + (n - start) * (p.count + 1) }
    let p := label.foldl (Progress.pass basic n) p
    insertAll label basic (n + 1) ns { p with delta := p.delta + 1 }

/-- The code points of a label outside ASCII, in order and without repetition. -/
def wideCodePoints (label : List Char) : List Nat :=
  (((label.map Char.toNat).filter (128 ≤ ·)).mergeSort).eraseDups

/-- The ASCII form of a label, without what marks it as one. -/
def encode (label : List Char) : List Char :=
  let ascii := label.filter (·.toNat < 128)
  let start := if ascii = [] then [] else ascii ++ ['-']
  (insertAll label ascii.length 128 (wideCodePoints label) ⟨0, 72, ascii.length, start⟩).text

/-! ### Reading -/

/-- Weights of digits stay below this bound. -/
def weightBound : Nat := 0x100000000

/-- Reads a number, to be added to `sum`, and gives what follows its last digit. -/
def readNumber (bias : Nat) : Nat → Nat → Nat → List Char → Option (Nat × List Char)
  | _, _, _, [] => none
  | place, weight, sum, c :: cs =>
    match digitValue? c with
    | none => none
    | some d =>
      let t := threshold place bias
      let sum := sum + d * weight
      if d < t then some (sum, cs)
      else if weightBound ≤ weight * (36 - t) then none
      else readNumber bias (place + 36) (weight * (36 - t)) sum cs

theorem length_of_readNumber {bias place weight sum : Nat} {cs rest : List Char} {n : Nat}
    (h : readNumber bias place weight sum cs = some (n, rest)) : rest.length < cs.length := by
  induction cs generalizing place weight sum with
  | nil => simp [readNumber] at h
  | cons c cs ih =>
    simp only [readNumber] at h
    split at h
    · simp at h
    · split at h
      · simp at h; simp [h.2]
      · split at h
        · simp at h
        · have := ih h
          simp only [List.length_cons]
          omega

/-- Inserts the characters that digits describe, from the code point `n` and the place `i` on. -/
def readAll (n i bias : Nat) (label : List Char) : List Char → Option (List Char)
  | [] => some label
  | c :: cs =>
    match _read : readNumber bias 36 1 i (c :: cs) with
    | none => none
    | some (sum, rest) =>
      let count := label.length + 1
      if Nat.isValidChar (n + sum / count) then
        readAll (n + sum / count) (sum % count + 1) (adapt (sum - i) count (i == 0))
          (label.insertIdx (sum % count) (Char.ofNat (n + sum / count))) rest
      else none
termination_by cs => cs.length
decreasing_by simpa using length_of_readNumber _read

/-- The ASCII characters of a label, and the digits after its last hyphen; a hyphen at the very
beginning parts nothing. -/
def split (cs : List Char) : List Char × List Char :=
  let wide := (cs.reverse.takeWhile (· != '-')).reverse
  let ascii := cs.take (cs.length - wide.length - 1)
  if ascii = [] then ([], cs) else (ascii, wide)

/-- The label that an ASCII form writes. -/
def decode? (cs : List Char) : Option (List Char) :=
  let (ascii, wide) := split cs
  readAll 128 0 72 ascii wide

end RemoteFiles.Url.Punycode
