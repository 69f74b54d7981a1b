import RemoteFiles.Proofs.Json.Numbers
import RemoteFiles.Proofs.Json.Spelling
import Mathlib.Tactic.SplitIfs

/-!
# Number literals

A literal is a sign, a whole part, a fraction and an exponent as JSON has them.  As a type code
only a literal without sign, fraction and exponent counts, and only if its value fits into 32 bits
(`Literal.code?`); every other literal is refused there (`readUInt32_literal`), however large it
is.  Where nobody wants a number it is passed over (`skipNumber_magnitude`).
-/

namespace RemoteFiles.Json

open RemoteFiles.Text (Glyph decimalValue)
open RemoteFiles.Text.Glyph (ofList)

/-- One or more decimal digits. -/
structure Digits where
  first : Char
  more : List Char
  isDigit : ∀ c ∈ first :: more, c.isDigit = true

def Digits.text (ds : Digits) : List Char := ds.first :: ds.more

/-- The exponent of a number: how it is marked, its sign (`true` for a minus), and its digits. -/
structure Exponent where
  capital : Bool
  sign : Option Bool
  digits : Digits

def Exponent.signed (e : Exponent) : List Char :=
  (match e.sign with
    | none => []
    | some true => ['-']
    | some false => ['+']) ++ e.digits.text

def Exponent.text (e : Exponent) : List Char := (if e.capital then 'E' else 'e') :: e.signed

/-- A number as it is written.  A whole part of several digits does not begin with zero. -/
structure Literal where
  negative : Bool
  whole : Digits
  fraction : Option Digits
  exponent : Option Exponent
  noZero : whole.first = '0' → whole.more = []

namespace Literal

/-- The exponent, if there is one. -/
def exponentText (l : Literal) : List Char :=
  match l.exponent with
  | none => []
  | some e => e.text

/-- What follows the whole part. -/
def tail (l : Literal) : List Char :=
  match l.fraction with
  | none => l.exponentText
  | some ds => '.' :: (ds.text ++ l.exponentText)

/-- The number without its sign. -/
def magnitude (l : Literal) : List Char := l.whole.text ++ l.tail

def text (l : Literal) : List Char := (if l.negative then ['-'] else []) ++ l.magnitude

/-- The value of the whole part. -/
def value (l : Literal) : Nat := l.whole.text.foldl (fun n c => n * 10 + decimalValue c) 0

/-- The number of 32 bits that is written, if it is one. -/
def code? (l : Literal) : Option UInt32 :=
  if l.negative = false ∧ l.tail = [] ∧ l.value < 0x100000000 then some (UInt32.ofNat l.value)
  else none

end Literal

/-! ### Digits -/

variable {rest : List Glyph}

theorem Digits.digits_text (ds : Digits) (hrest : digits rest = ([], rest)) :
    digits (ofList ds.text ++ rest) = (ds.text.map decimalValue, rest) :=
  digits_ofList ds.isDigit hrest

theorem Digits.map_ne_nil (ds : Digits) : ds.text.map decimalValue ≠ [] :=
  List.cons_ne_nil _ _

theorem EndsNumber.digits_exponentText (hrest : EndsNumber rest) (l : Literal) :
    digits (ofList l.exponentText ++ rest) = ([], ofList l.exponentText ++ rest) := by
  rw [Literal.exponentText]
  cases l.exponent with
  | none => exact hrest.digits_eq
  | some e =>
    obtain ⟨capital, sign, ds⟩ := e
    cases capital <;> rfl

theorem EndsNumber.digits_tail (hrest : EndsNumber rest) (l : Literal) :
    digits (ofList l.tail ++ rest) = ([], ofList l.tail ++ rest) := by
  rw [Literal.tail]
  cases l.fraction with
  | none => exact hrest.digits_exponentText l
  | some ds => rfl

/-- A whole part of several digits does not begin with zero. -/
theorem Literal.whole_ne (l : Literal) (d : Nat) (ds : List Nat) :
    l.whole.text.map decimalValue ≠ 0 :: d :: ds := by
  intro h
  obtain ⟨c, cs, hcs, hc, htail⟩ := List.map_eq_cons_iff.mp h
  obtain ⟨rfl, rfl⟩ := List.cons_eq_cons.mp hcs
  have hdigit := l.whole.isDigit _ List.mem_cons_self
  rw [l.noZero ((Text.decimalValue_eq_zero_iff hdigit).mp hc)] at htail
  cases htail

/-! ### Passing over -/

/-- Passes over the exponent of a number, if one follows. -/
def skipExponent (gs : List Glyph) : Except Fault (List Glyph) :=
  let signed (gs : List Glyph) : Except Fault (List Glyph) :=
    let gs := match gs with
      | g :: rest => if g.is '-' || g.is '+' then rest else g :: rest
      | [] => []
    match digits gs with
    | ([], rest) => .error (.atNext .invalidNumber rest)
    | (_, rest) => .ok rest
  match gs with
  | .char 'e' :: rest => signed rest
  | .char 'E' :: rest => signed rest
  | rest => .ok rest

/-- Passes over what follows the whole part of a number. -/
def skipTail (gs : List Glyph) : Except Fault (List Glyph) :=
  match gs with
  | .char '.' :: rest =>
    match digits rest with
    | ([], rest) => .error (.atNext .invalidNumber rest)
    | (_, rest) => skipExponent rest
  | rest => skipExponent rest

theorem skipExponent_of_ne {gs : List Glyph} (hsmall : ∀ rest, gs ≠ .char 'e' :: rest)
    (hcapital : ∀ rest, gs ≠ .char 'E' :: rest) : skipExponent gs = .ok gs := by
  unfold skipExponent
  split
  · exact absurd rfl (hsmall _)
  · exact absurd rfl (hcapital _)
  · rfl

theorem skipTail_of_ne {gs : List Glyph} (hpoint : ∀ rest, gs ≠ .char '.' :: rest) :
    skipTail gs = skipExponent gs := by
  unfold skipTail
  split
  · exact absurd rfl (hpoint _)
  · rfl

/-- A number is passed over part by part. -/
theorem skipNumber_eq {gs : List Glyph} {ds : List Nat} (h : digits gs = (ds, rest))
    (hne : ds ≠ []) (hzero : ∀ d ds', ds ≠ 0 :: d :: ds') : skipNumber gs = skipTail rest := by
  rw [skipNumber]
  dsimp only
  rw [h]
  split <;> rename_i heq
  · exact absurd (Prod.mk.inj heq).1 hne
  · exact absurd (Prod.mk.inj heq).1 (hzero _ _)
  · -- behind a point a fraction is needed, and then an exponent may follow
    obtain ⟨-, rfl⟩ := Prod.mk.inj heq
    rename_i fraction _ _
    rw [skipTail]
    rcases digits fraction with ⟨_ | ⟨d, ds'⟩, more⟩
    · rfl
    · dsimp only
      split <;> rename_i heq
      · cases heq
      · obtain ⟨-, rfl⟩ := Prod.mk.inj heq
        rfl
      · obtain ⟨-, rfl⟩ := Prod.mk.inj heq
        rfl
      · rename_i hsmall hcapital
        obtain ⟨-, rfl⟩ := Prod.mk.inj heq
        rw [skipExponent_of_ne hsmall hcapital]
  · obtain ⟨-, rfl⟩ := Prod.mk.inj heq
    rfl
  · obtain ⟨-, rfl⟩ := Prod.mk.inj heq
    rfl
  · rename_i hpoint hsmall hcapital
    obtain ⟨-, rfl⟩ := Prod.mk.inj heq
    rw [skipTail_of_ne hpoint, skipExponent_of_ne hsmall hcapital]

theorem skipExponent_exponentText (l : Literal) (hrest : EndsNumber rest) :
    skipExponent (ofList l.exponentText ++ rest) = .ok rest := by
  have hnext : ∀ c, continuesNumber (.char c) = true → ∀ rest', rest ≠ .char c :: rest' := by
    rintro c hc rest' rfl
    rw [hrest (.char c) rfl] at hc
    cases hc
  rw [Literal.exponentText]
  cases l.exponent with
  | none => exact skipExponent_of_ne (hnext 'e' rfl) (hnext 'E' rfl)
  | some e =>
    obtain ⟨capital, sign, ds⟩ := e
    have hdigit := ds.isDigit _ List.mem_cons_self
    have hminus : ds.first ≠ '-' := Text.ne_of_isDigit hdigit rfl
    have hplus : ds.first ≠ '+' := Text.ne_of_isDigit hdigit rfl
    have hdigits : digits (.char ds.first :: (ofList ds.more ++ rest)) =
        (decimalValue ds.first :: ds.more.map decimalValue, rest) :=
      ds.digits_text hrest.digits_eq
    cases capital <;> rcases sign with _ | _ | _ <;>
      simp [skipExponent, Exponent.text, Exponent.signed, Digits.text, Glyph.is, hminus, hplus,
        hdigits]

theorem skipTail_tail (l : Literal) (hrest : EndsNumber rest) :
    skipTail (ofList l.tail ++ rest) = .ok rest := by
  have hexponent := skipExponent_exponentText l hrest
  rw [Literal.tail]
  cases l.fraction with
  | none =>
    have hpoint : ∀ rest', ofList l.exponentText ++ rest ≠ .char '.' :: rest' := by
      rw [Literal.exponentText]
      cases l.exponent with
      | none =>
        rintro rest' rfl
        exact absurd (hrest _ rfl) (by decide)
      | some e =>
        obtain ⟨capital, sign, ds⟩ := e
        cases capital <;> simp [Exponent.text]
    dsimp only
    rw [skipTail_of_ne hpoint, hexponent]
  | some ds =>
    have hdigits : digits (.char ds.first :: (ofList ds.more ++ (ofList l.exponentText ++ rest))) =
        (decimalValue ds.first :: ds.more.map decimalValue, ofList l.exponentText ++ rest) :=
      ds.digits_text (hrest.digits_exponentText l)
    simp [skipTail, Digits.text, hdigits, hexponent]

theorem skipNumber_magnitude (l : Literal) (hrest : EndsNumber rest) :
    skipNumber (ofList l.magnitude ++ rest) = .ok rest := by
  have hwhole := l.whole.digits_text (hrest.digits_tail l)
  rw [Literal.magnitude, Glyph.ofList_append, List.append_assoc,
    skipNumber_eq hwhole l.whole.map_ne_nil l.whole_ne, skipTail_tail l hrest]

/-! ### Type codes -/

section Natural

variable {negative : Bool} {significand n : Nat} {exponent : Int} {gs : List Glyph}

theorem not_natural_of_floatNumber
    (h : floatNumber negative significand exponent gs = .ok (.natural n, rest)) : False := by
  unfold floatNumber at h
  split at h <;> cases h

theorem not_natural_of_readExponent
    (h : readExponent negative significand exponent gs = .ok (.natural n, rest)) : False := by
  unfold readExponent at h
  dsimp only at h
  split at h
  · cases h
  · cases h
  · split at h
    · exact not_natural_of_floatNumber h
    · split_ifs at h <;> cases h

/-- Digits that are all taken give their value. -/
theorem foldl_of_wholePart {m : Nat} {ds : List Nat} (h : wholePart m ds = (n, 0)) :
    ds.foldl (fun m d => m * 10 + d) m = n := by
  induction ds generalizing m with
  | nil => exact (Prod.mk.inj h).1
  | cons d ds ih =>
    rw [wholePart] at h
    split at h
    · exact ih h
    · cases h

/-- Only digits without a sign in front and without point or exponent behind are read as a natural
number, and only if all of them have room. -/
theorem natural_of_readNumberRest (h : readNumberRest negative gs = .ok (.natural n, rest)) :
    negative = false ∧ ∃ ds, digits gs = (ds, rest) ∧ wholePart 0 ds = (n, 0) ∧
      ∀ c ∈ ['.', 'e', 'E'], ∀ rest', rest ≠ .char c :: rest' := by
  unfold readNumberRest at h
  dsimp only at h
  split at h
  · cases h
  · cases h
  · cases h
  · rename_i ds behind _ _ _ hdigits
    split at h
    · -- a point
      split at h
      · cases h
      · cases h
      · split at h
        · exact (not_natural_of_readExponent h).elim
        · exact (not_natural_of_readExponent h).elim
        · exact (not_natural_of_floatNumber h).elim
    · exact (not_natural_of_readExponent h).elim
    · exact (not_natural_of_readExponent h).elim
    · -- digits alone: too many of them make a floating-point number
      rename_i hpoint hsmall hcapital
      split at h
      · exact (not_natural_of_floatNumber h).elim
      · rename_i hroom
        split at h
        · rename_i hsign
          cases h
          refine ⟨by simpa using hsign, ds, hdigits, Prod.ext rfl (by simpa using hroom), ?_⟩
          simp only [List.forall_mem_cons]
          exact ⟨hpoint, hsmall, hcapital, by simp⟩
        · -- with a minus it is a negative integer or a floating-point number
          split at h
          · cases h
          · exact (not_natural_of_floatNumber h).elim

end Natural

/-- The type code that a number is. -/
def codeOf? : Except Fault (Parsed Number) → Option (Parsed UInt32)
  | .ok (.natural n, rest) => if n < 0x100000000 then some (UInt32.ofNat n, rest) else none
  | _ => none

theorem readUInt32_cons {g : Glyph} {gs : List Glyph} (hskip : skipSpace gs = g :: rest) :
    (readUInt32 gs).toOption =
      if g.is '-' then codeOf? (readNumberRest true rest)
      else if (digit? g).isSome then codeOf? (readNumberRest false (g :: rest))
      else none := by
  rw [readUInt32, hskip]
  dsimp only
  split_ifs
  case neg => rfl
  -- behind a minus and without one, any number may have been read
  all_goals
    generalize readNumberRest _ _ = r
    rcases r with fault | ⟨n | n | bits, rest⟩
    · rfl
    · by_cases hn : n < 0x100000000 <;> simp [codeOf?, hn]
    · rfl
    · rfl

theorem Literal.exists_cons_text (l : Literal) :
    ∃ c cs, l.text = c :: cs ∧ (c = '-' ∨ c.isDigit = true) := by
  obtain ⟨_ | _, whole, fraction, exponent, noZero⟩ := l
  · exact ⟨_, _, rfl, .inr (whole.isDigit _ List.mem_cons_self)⟩
  · exact ⟨_, _, rfl, .inl rfl⟩

/-- A type code is read off the digits behind the sign. -/
theorem readUInt32_text (l : Literal) {gs : List Glyph}
    (hskip : skipSpace gs = ofList l.text ++ rest) :
    (readUInt32 gs).toOption =
      codeOf? (readNumberRest l.negative (ofList l.magnitude ++ rest)) := by
  rw [Literal.text] at hskip
  cases hsign : l.negative with
  | true =>
    rw [hsign] at hskip
    exact readUInt32_cons hskip
  | false =>
    rw [hsign] at hskip
    obtain ⟨-, hminus, hdigit⟩ := isDigit_glyph (l.whole.isDigit _ List.mem_cons_self)
    refine (readUInt32_cons hskip).trans ?_
    rw [if_neg (by simp [hminus]), if_pos hdigit]
    rfl

theorem Literal.foldl_whole (l : Literal) :
    (l.whole.text.map decimalValue).foldl (fun m d => m * 10 + d) 0 = l.value :=
  List.foldl_map

/-- What is behind the whole part shows in its first character. -/
theorem Literal.tail_eq_nil {l : Literal}
    (h : ∀ c ∈ ['.', 'e', 'E'], ∀ rest', ofList l.tail ++ rest ≠ .char c :: rest') :
    l.tail = [] := by
  simp only [List.forall_mem_cons] at h
  obtain ⟨hpoint, hsmall, hcapital, -⟩ := h
  obtain ⟨negative, whole, _ | ds, _ | e, noZero⟩ := l
  · rfl
  · obtain ⟨_ | _, sign, ds⟩ := e
    · exact absurd rfl (hsmall _)
    · exact absurd rfl (hcapital _)
  · exact absurd rfl (hpoint _)
  · exact absurd rfl (hpoint _)

/-- A number is taken for a type code if it is a natural one of 32 bits, and refused otherwise. -/
theorem readUInt32_literal (l : Literal) {gs : List Glyph}
    (hskip : skipSpace gs = ofList l.text ++ rest) (hrest : EndsNumber rest) :
    (readUInt32 gs).toOption = l.code?.map (·, rest) := by
  have hdigits : digits (ofList l.magnitude ++ rest) =
      (l.whole.text.map decimalValue, ofList l.tail ++ rest) := by
    rw [Literal.magnitude, Glyph.ofList_append, List.append_assoc]
    exact l.whole.digits_text (hrest.digits_tail l)
  rw [readUInt32_text l hskip, Literal.code?]
  split_ifs with hcode
  · obtain ⟨hsign, htail, hlt⟩ := hcode
    have hroom : l.value < significandBound := Nat.lt_trans hlt (by decide)
    rw [htail] at hdigits
    rw [hsign, readNumberRest_digits hdigits l.whole.map_ne_nil l.whole_ne
      (l.foldl_whole.symm ▸ hroom) hrest, l.foldl_whole, codeOf?, if_pos hlt]
    rfl
  · rw [Option.map_none, Option.eq_none_iff_forall_ne_some]
    -- whatever is read as a natural number is one of the literals with a code
    intro result hresult
    unfold codeOf? at hresult
    split at hresult
    · rename_i n rest' hread
      obtain ⟨hsign, ds, hdigits', hwhole, hnext⟩ := natural_of_readNumberRest hread
      obtain ⟨rfl, rfl⟩ := Prod.mk.inj (hdigits.symm.trans hdigits')
      have hvalue : l.value = n := l.foldl_whole.symm.trans (foldl_of_wholePart hwhole)
      split_ifs at hresult with hlt
      · exact hcode ⟨hsign, Literal.tail_eq_nil hnext, hvalue ▸ hlt⟩
    · cases hresult

/-! ### Integers -/

/-- The digits of a natural number. -/
def Digits.ofNat (n : Nat) : Digits where
  first := (Nat.toDigits 10 n).head Nat.toDigits_ne_nil
  more := (Nat.toDigits 10 n).tail
  isDigit := by
    rw [List.cons_head_tail]
    exact fun c => Text.isDigit_of_mem_toDigits

theorem Digits.text_ofNat (n : Nat) : (ofNat n).text = Nat.toDigits 10 n :=
  List.cons_head_tail Nat.toDigits_ne_nil

/-- An integer in plain decimal. -/
def Literal.ofInt (n : Int) : Literal where
  negative := decide (n < 0)
  whole := .ofNat n.natAbs
  fraction := none
  exponent := none
  noZero := by
    intro hzero
    have htext := Digits.text_ofNat n.natAbs
    rw [Digits.text, hzero] at htext
    cases hmore : (Digits.ofNat n.natAbs).more with
    | nil => rfl
    | cons c cs =>
      -- a number that is not zero is written without zeros in front
      rw [hmore] at htext
      exact absurd htext.symm (Text.toDigits_ne_zero_cons _ c cs)

theorem Literal.text_ofInt (n : Nat) : (ofInt n).text = Nat.toDigits 10 n := by
  have hsign : (ofInt n).negative = false := decide_eq_false (Int.not_lt.mpr (Int.natCast_nonneg n))
  have htail : (ofInt n).tail = [] := rfl
  rw [text, hsign, magnitude, htail, List.append_nil]
  exact Digits.text_ofNat n

theorem Literal.value_ofInt (n : Int) : (ofInt n).value = n.natAbs := by
  show (Digits.ofNat n.natAbs).text.foldl _ 0 = _
  rw [Digits.text_ofNat, Text.foldl_toDigits]

/-- An integer is a type code if it has 32 bits, and then this one. -/
theorem Literal.code?_ofInt (n : Int) :
    (ofInt n).code? =
      if 0 ≤ n ∧ n < 0x100000000 then some (UInt32.ofNat n.toNat) else none := by
  have htail : (ofInt n).tail = [] := rfl
  have hsign : (ofInt n).negative = false ↔ ¬ n < 0 := decide_eq_false_iff_not
  have hcondition : (ofInt n).negative = false ∧ (ofInt n).tail = [] ∧ n.natAbs < 0x100000000 ↔
      0 ≤ n ∧ n < 0x100000000 := by
    simp only [hsign, htail, true_and]
    omega
  rw [code?, value_ofInt]
  by_cases h : 0 ≤ n ∧ n < 0x100000000
  · have hvalue : n.natAbs = n.toNat := by omega
    rw [if_pos (hcondition.mpr h), if_pos h, hvalue]
  · rw [if_neg fun hcode => h (hcondition.mp hcode), if_neg h]

example : (Literal.ofInt (-120)).text = "-120".toList := by decide

end RemoteFiles.Json
