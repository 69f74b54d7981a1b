import RemoteFiles.Text.Composition.Data

/-!
# The composed form of a text

A letter with marks can be written in several ways.  The composed form is the one in which
letters are taken apart, the marks after a letter are put in order, and then everything is put
together that has a character of its own.  Syllables of the Hangul script are composed by
arithmetic, everything else by a table.
-/

namespace RemoteFiles.Text

/-! ### Syllables -/

/-- The first syllable of the Hangul script. -/
def firstSyllable : Nat := 0xAC00

/-- The first letters of the three places in a syllable; the one before the first final letter
stands for none. -/
def firstLead : Nat := 0x1100
def firstVowel : Nat := 0x1161
def beforeFinals : Nat := 0x11A7

/-- How many letters there are for the three places, counting no letter in the last one. -/
def leadCount : Nat := 19
def vowelCount : Nat := 21
def finalCount : Nat := 28

/-- The letters of a syllable. -/
def syllableLetters? (n : Nat) : Option (List Nat) :=
  if firstSyllable ≤ n ∧ n < firstSyllable + leadCount * vowelCount * finalCount then
    let i := n - firstSyllable
    let lead := firstLead + i / (vowelCount * finalCount)
    let vowel := firstVowel + i / finalCount % vowelCount
    if i % finalCount = 0 then some [lead, vowel]
    else some [lead, vowel, beforeFinals + i % finalCount]
  else none

/-- The syllable of a first letter and a vowel, or of an open syllable and a final letter. -/
def syllable? (first second : Nat) : Option Nat :=
  if firstLead ≤ first ∧ first < firstLead + leadCount ∧
      firstVowel ≤ second ∧ second < firstVowel + vowelCount then
    some (firstSyllable +
      ((first - firstLead) * vowelCount + (second - firstVowel)) * finalCount)
  else if firstSyllable ≤ first ∧
      first < firstSyllable + leadCount * vowelCount * finalCount ∧
      (first - firstSyllable) % finalCount = 0 ∧
      beforeFinals < second ∧ second < beforeFinals + finalCount then
    some (first + (second - beforeFinals))
  else none

/-! ### Taking apart -/

/-- The parts of a code point, taken apart again up to a depth. -/
def takeApartNumber : Nat → Nat → List Nat
  | 0, n => [n]
  | depth + 1, n =>
    match composedPairs.find? (·.whole == n) with
    | some pair => takeApartNumber depth pair.first ++ [pair.second]
    | none => (syllableLetters? n).getD [n]

/-- The parts of a character; a letter has at most three marks in it. -/
def takeApart (c : Char) : List Char :=
  (takeApartNumber 4 c.toNat).map Char.ofNat

/-! ### Order of marks -/

/-- Puts the marks of each run in the order of their classes; those of one class keep their
order. -/
def orderMarks (cs : List Char) : List Char :=
  match cs with
  | [] => []
  | c :: cs =>
    if orderClass c = 0 then c :: orderMarks cs
    else insert c (orderMarks cs)
where
  /-- Puts a mark into the ordered marks that follow it. -/
  insert (m : Char) : List Char → List Char
    | [] => [m]
    | c :: cs =>
      if orderClass c ≠ 0 ∧ orderClass c < orderClass m then c :: insert m cs else m :: c :: cs

/-! ### Putting together -/

/-- The character that stands for two others. -/
def composePair? (a b : Char) : Option Char :=
  match syllable? a.toNat b.toNat with
  | some n => some (Char.ofNat n)
  | none =>
    (composedPairs.find? fun pair => pair.first == a.toNat && pair.second == b.toNat).map
      fun pair => Char.ofNat pair.whole

/-- A mark between a letter and a character keeps the two apart: it has the class of the
character or a higher one. -/
def keepsApart (c : Char) : Option Char → Bool
  | none => false
  | some m => orderClass c ≤ orderClass m

/-- The composed form of ordered characters after a letter, if there has been one, and the marks
since then that did not go into it (last first). -/
def composeFrom : Option Char → List Char → List Char → List Char
  | none, marks, [] => marks.reverse
  | some letter, marks, [] => letter :: marks.reverse
  | none, marks, c :: cs =>
    if orderClass c = 0 then marks.reverse ++ composeFrom (some c) [] cs
    else composeFrom none (c :: marks) cs
  | some letter, marks, c :: cs =>
    match if keepsApart c marks.head? then none else composePair? letter c with
    | some whole => composeFrom (some whole) marks cs
    | none =>
      if orderClass c = 0 then letter :: marks.reverse ++ composeFrom (some c) [] cs
      else composeFrom (some letter) (c :: marks) cs

/-- The composed form of a text. -/
def composed (cs : List Char) : List Char :=
  composeFrom none [] (orderMarks (cs.flatMap takeApart))

end RemoteFiles.Text
