import RemoteFiles.Json.Reader
import RemoteFiles.Proofs.Text.Glyphs

/-!
# Strings in any spelling

A string can be written in many ways: each character as itself, by an escape of one letter if it
has one, or by its code in UTF-16, in hexadecimal digits of either case.  A spelling is a list of
such pieces, and `chars?` says what it spells; half of a surrogate pair spells nothing.

A string is read as what it spells, and refused if it spells nothing (`readStringRest_spelling`).
Where nobody wants it, it is passed over in either case (`skipString_spelling`).
-/

namespace RemoteFiles.Json

open RemoteFiles.Text (Glyph)
open RemoteFiles.Text.Glyph (ofList)
open RemoteFiles.Text.Hex (digitValue?)

/-- Four hexadecimal digits. -/
structure HexCode where
  first : Char
  second : Char
  third : Char
  fourth : Char
  isHex : ∀ c ∈ [first, second, third, fourth], (digitValue? c).isSome

namespace HexCode

def text (h : HexCode) : List Char := [h.first, h.second, h.third, h.fourth]

/-- The number that the digits write. -/
def value (h : HexCode) : Nat :=
  h.text.foldl (fun n c => n * 16 + (digitValue? c).getD 0) 0

/-- The first half of a surrogate pair. -/
def IsHigh (h : HexCode) : Prop := 0xD800 ≤ h.value ∧ h.value ≤ 0xDBFF

/-- The second half of a surrogate pair. -/
def IsLow (h : HexCode) : Prop := 0xDC00 ≤ h.value ∧ h.value ≤ 0xDFFF

instance (h : HexCode) : Decidable h.IsHigh := inferInstanceAs (Decidable (_ ∧ _))

instance (h : HexCode) : Decidable h.IsLow := inferInstanceAs (Decidable (_ ∧ _))

end HexCode

/-- The escapes of one letter, and the characters that they stand for. -/
def letterEscapes : List (Char × Char) :=
  [('"', '"'), ('\\', '\\'), ('/', '/'), ('b', '\x08'), ('f', '\x0c'), ('n', '\n'), ('r', '\r'),
    ('t', '\t')]

/-- A piece of a string as it is written. -/
inductive Piece
  /-- A character that stands for itself. -/
  | plain (c : Char) (quote : c ≠ '"') (backslash : c ≠ '\\') (control : 0x20 ≤ c.toNat)
  /-- A backslash and a letter. -/
  | letter (e c : Char) (known : (e, c) ∈ letterEscapes)
  /-- A backslash, `u` and a code. -/
  | code (h : HexCode)

def Piece.text : Piece → List Char
  | .plain c _ _ _ => [c]
  | .letter e _ _ => ['\\', e]
  | .code h => '\\' :: 'u' :: h.text

/-- A string as it is written, without its quotes. -/
abbrev Spelling := List Piece

namespace Spelling

def text (s : Spelling) : List Char := s.flatMap Piece.text

/-- The string with its quotes. -/
def quoted (s : Spelling) : List Char := '"' :: (s.text ++ ['"'])

/-- The characters that are spelled.  Two codes of a surrogate pair spell one character, and one
half of a pair without the other spells none. -/
def chars? : Spelling → Option (List Char)
  | [] => some []
  | .plain c _ _ _ :: s => (chars? s).map (c :: ·)
  | .letter _ c _ :: s => (chars? s).map (c :: ·)
  | .code h :: s =>
    if h.IsHigh then
      match s with
      | .code l :: s =>
        if l.IsLow then
          (chars? s).map
            (Char.ofNat ((h.value - 0xD800) * 1024 + (l.value - 0xDC00) + 0x10000) :: ·)
        else none
      | _ => none
    else if h.IsLow then none
    else (chars? s).map (Char.ofNat h.value :: ·)

/-- The string that is spelled. -/
def string? (s : Spelling) : Option String := s.chars?.map String.ofList

/-- A character that can stand for itself. -/
def isPlain (c : Char) : Bool := c != '"' && c != '\\' && 0x20 ≤ c.toNat

theorem isPlain_iff {c : Char} : isPlain c = true ↔ c ≠ '"' ∧ c ≠ '\\' ∧ 0x20 ≤ c.toNat := by
  simp [isPlain, and_assoc]

/-- A string whose characters all stand for themselves. -/
def asIs (cs : List Char) (h : cs.all isPlain = true := by rfl) : Spelling :=
  cs.attach.map fun ⟨c, hc⟩ =>
    have hplain := isPlain_iff.mp (List.all_eq_true.mp h c hc)
    .plain c hplain.1 hplain.2.1 hplain.2.2

end Spelling

/-! ### What a reader gives, whatever a fault says -/

section Outcomes

variable {ε α β : Type}

@[simp] theorem toOption_ok (a : α) : (Except.ok a : Except ε α).toOption = some a := rfl

@[simp] theorem toOption_error (e : ε) : (Except.error e : Except ε α).toOption = none := rfl

theorem eq_ok_of_toOption {r : Except ε α} {a : α} (h : r.toOption = some a) : r = .ok a := by
  cases r with
  | error e => cases h
  | ok b => exact congrArg _ (Option.some.inj h)

theorem toOption_bind (r : Except ε α) (f : α → Except ε β) :
    (r >>= f).toOption = r.toOption.bind fun a => (f a).toOption := by
  cases r <;> rfl

end Outcomes

/-! ### Codes -/

theorem hexEscape_text (h : HexCode) (rest : List Glyph) :
    hexEscape (ofList h.text ++ rest) = .ok (h.value, rest) := by
  obtain ⟨a, b, c, d, hhex⟩ := h
  simp only [List.forall_mem_cons, Option.isSome_iff_exists] at hhex
  obtain ⟨⟨w, hw⟩, ⟨x, hx⟩, ⟨y, hy⟩, ⟨z, hz⟩, -⟩ := hhex
  simp [hexEscape, HexCode.text, HexCode.value, hw, hx, hy, hz]
  omega

/-- A code that is no half of a pair. -/
theorem unicodeEscape_single {h : HexCode} (hhigh : ¬ h.IsHigh) (hlow : ¬ h.IsLow)
    (rest : List Glyph) :
    unicodeEscape (ofList h.text ++ rest) = .ok (Char.ofNat h.value, rest) := by
  unfold HexCode.IsHigh at hhigh
  unfold HexCode.IsLow at hlow
  rw [unicodeEscape, hexEscape_text]
  simp only [bind, Except.bind]
  rw [if_neg hlow, if_pos (by omega)]

/-- Two codes that make a pair. -/
theorem unicodeEscape_pair {h l : HexCode} (hhigh : h.IsHigh) (hlow : l.IsLow)
    (rest : List Glyph) :
    unicodeEscape (ofList h.text ++ .char '\\' :: .char 'u' :: (ofList l.text ++ rest)) =
      .ok (Char.ofNat ((h.value - 0xD800) * 1024 + (l.value - 0xDC00) + 0x10000), rest) := by
  unfold HexCode.IsHigh at hhigh
  unfold HexCode.IsLow at hlow
  rw [unicodeEscape, hexEscape_text]
  simp only [bind, Except.bind, Glyph.is, beq_self_eq_true, if_true, hexEscape_text]
  rw [if_neg (by omega), if_neg (by omega), if_pos hlow]

/-- The second half of a pair does not stand alone. -/
theorem unicodeEscape_low {h : HexCode} (hlow : h.IsLow) (rest : List Glyph) :
    (unicodeEscape (ofList h.text ++ rest)).toOption = none := by
  unfold HexCode.IsLow at hlow
  rw [unicodeEscape, hexEscape_text]
  simp only [bind, Except.bind]
  rw [if_pos hlow]
  rfl

/-- What follows is not the code of the second half of a pair. -/
def NoLowNext : Spelling → Prop
  | .code l :: _ => ¬ l.IsLow
  | _ => True

/-- Nor does the first half. -/
theorem unicodeEscape_high {h : HexCode} (hhigh : h.IsHigh) {s : Spelling} (hs : NoLowNext s)
    (rest : List Glyph) :
    (unicodeEscape (ofList h.text ++ (ofList s.text ++ .char '"' :: rest))).toOption = none := by
  unfold HexCode.IsHigh at hhigh
  rw [unicodeEscape, hexEscape_text]
  simp only [bind, Except.bind]
  rw [if_neg (by omega), if_neg (by omega)]
  match s, hs with
  | [], _ => rfl
  | .plain c _ hbackslash _ :: s, _ =>
    simp [Spelling.text, Piece.text, Glyph.is, hbackslash]
  | .letter e c hknown :: s, _ =>
    have hletter : e ≠ 'u' := by
      rintro rfl
      simp [letterEscapes] at hknown
    simp [Spelling.text, Piece.text, Glyph.is, hletter]
  | .code l :: s, hs =>
    have hlow : ¬ (0xDC00 ≤ l.value ∧ l.value ≤ 0xDFFF) := hs
    simp [Spelling.text, Piece.text, Glyph.is, hexEscape_text, hlow]

/-! ### Whole strings -/

theorem shortEscape?_letter {e c : Char} (h : (e, c) ∈ letterEscapes) :
    shortEscape? (.char e) = some c := by
  simp only [letterEscapes, List.mem_cons, Prod.mk.injEq, List.not_mem_nil, or_false] at h
  rcases h with ⟨rfl, rfl⟩ | ⟨rfl, rfl⟩ | ⟨rfl, rfl⟩ | ⟨rfl, rfl⟩ | ⟨rfl, rfl⟩ | ⟨rfl, rfl⟩ |
    ⟨rfl, rfl⟩ | ⟨rfl, rfl⟩ <;> rfl

theorem Spelling.ofList_text_cons (p : Piece) (s : Spelling) (rest : List Glyph) :
    ofList (text (p :: s)) ++ rest = ofList p.text ++ (ofList s.text ++ rest) := by
  rw [text, List.flatMap_cons, Glyph.ofList_append, List.append_assoc, ← text]

theorem ofList_code_append (h : HexCode) (rest : List Glyph) :
    ofList (Piece.code h).text ++ rest = .char '\\' :: .char 'u' :: (ofList h.text ++ rest) :=
  rfl

theorem stringRest_code (budget : Nat) (cs : List Char) (h : HexCode) (rest : List Glyph) :
    stringRest (budget + 1) cs none (ofList (Piece.code h).text ++ rest) =
      unicodeEscape (ofList h.text ++ rest) >>= fun (c, rest) =>
        stringRest budget (c :: cs) none rest := by
  rw [ofList_code_append]
  simp [stringRest, Glyph.is, shortEscape?]

theorem stringRest_plain (budget : Nat) (cs : List Char) {c : Char} (hquote : c ≠ '"')
    (hbackslash : c ≠ '\\') (hcontrol : 0x20 ≤ c.toNat) (rest : List Glyph) :
    stringRest (budget + 1) cs none (.char c :: rest) = stringRest budget (c :: cs) none rest := by
  have hcontrol : ¬ c.toNat < 0x20 := Nat.not_lt.mpr hcontrol
  simp [stringRest, Glyph.is, isControl, hquote, hbackslash, hcontrol]

theorem stringRest_letter (budget : Nat) (cs : List Char) {e c : Char}
    (hknown : (e, c) ∈ letterEscapes) (rest : List Glyph) :
    stringRest (budget + 1) cs none (.char '\\' :: .char e :: rest) =
      stringRest budget (c :: cs) none rest := by
  simp [stringRest, Glyph.is, shortEscape?_letter hknown]

/-- A string is read as the characters that it spells. -/
theorem stringRest_spelling (s : Spelling) {budget : Nat} (hbudget : s.length < budget)
    (before : List Char) (rest : List Glyph) :
    (stringRest budget before none (ofList s.text ++ .char '"' :: rest)).toOption =
      s.chars?.map fun cs => (String.ofList (before.reverse ++ cs), rest) := by
  -- a step takes at least one piece
  obtain ⟨budget, rfl⟩ : ∃ n, budget = n + 1 := ⟨budget - 1, by omega⟩
  have hcons : ∀ (c : Char) (before : List Char) (o : Option (List Char)),
      (o.map fun cs => (String.ofList ((c :: before).reverse ++ cs), rest)) =
        (o.map (c :: ·)).map fun cs => (String.ofList (before.reverse ++ cs), rest) := by
    intro c before o
    simp [Function.comp_def]
  fun_induction Spelling.chars? s generalizing budget before with
  | case1 => simp [Spelling.text, stringRest, Glyph.is]
  | case2 c hquote hbackslash hcontrol s ih =>
    obtain ⟨budget, rfl⟩ : ∃ n, budget = n + 1 := ⟨budget - 1, by simp at hbudget; omega⟩
    rw [Spelling.ofList_text_cons, ← hcons, ← ih _ budget (by simpa using hbudget)]
    exact congrArg _ (stringRest_plain _ _ hquote hbackslash hcontrol _)
  | case3 e c hknown s ih =>
    obtain ⟨budget, rfl⟩ : ∃ n, budget = n + 1 := ⟨budget - 1, by simp at hbudget; omega⟩
    rw [Spelling.ofList_text_cons, ← hcons, ← ih _ budget (by simpa using hbudget)]
    exact congrArg _ (stringRest_letter _ _ hknown _)
  | case4 h hhigh l s hlow ih =>
    -- both codes of a pair are taken in one step
    obtain ⟨budget, rfl⟩ : ∃ n, budget = n + 1 := ⟨budget - 1, by simp at hbudget; omega⟩
    rw [Spelling.ofList_text_cons, Spelling.ofList_text_cons, ← hcons,
      ← ih _ budget (by simp at hbudget; omega), stringRest_code, ofList_code_append,
      unicodeEscape_pair hhigh hlow]
    rfl
  | case5 h hhigh l s hlow =>
    -- the first half of a pair, with a code behind it that is not the second
    rw [Spelling.ofList_text_cons, stringRest_code, toOption_bind,
      unicodeEscape_high hhigh (s := .code l :: s) hlow]
    rfl
  | case6 h s hhigh hs =>
    -- the same with no code behind it
    have hnext : NoLowNext s := by
      unfold NoLowNext
      split
      · exact absurd rfl (hs _ _)
      · trivial
    rw [Spelling.ofList_text_cons, stringRest_code, toOption_bind, unicodeEscape_high hhigh hnext]
    rfl
  | case7 h s hhigh hlow =>
    rw [Spelling.ofList_text_cons, stringRest_code, toOption_bind, unicodeEscape_low hlow]
    rfl
  | case8 h s hhigh hlow ih =>
    obtain ⟨budget, rfl⟩ : ∃ n, budget = n + 1 := ⟨budget - 1, by simp at hbudget; omega⟩
    rw [Spelling.ofList_text_cons, ← hcons, ← ih _ budget (by simpa using hbudget), stringRest_code,
      unicodeEscape_single hhigh hlow]
    rfl

theorem Spelling.length_le_length_text (s : Spelling) : s.length ≤ s.text.length := by
  induction s with
  | nil => exact Nat.le_refl 0
  | cons p s ih =>
    have hpos : 0 < p.text.length := by cases p <;> simp [Piece.text]
    rw [text, List.flatMap_cons, List.length_append, List.length_cons, ← text]
    omega

/-- How many steps there are is enough for the pieces of a string. -/
theorem Spelling.length_lt (s : Spelling) (rest : List Glyph) :
    s.length < (ofList s.text ++ .char '"' :: rest).length + 1 := by
  have hle := s.length_le_length_text
  rw [List.length_append, Glyph.length_ofList]
  omega

theorem readStringRest_spelling (s : Spelling) (rest : List Glyph) :
    (readStringRest (ofList s.text ++ .char '"' :: rest)).toOption = s.string?.map (·, rest) := by
  rw [readStringRest, stringRest_spelling s (s.length_lt rest), Spelling.string?, Option.map_map]
  rfl

/-- Where nobody wants a string it is passed over, whether it spells anything or not. -/
theorem skipString_text (s : Spelling) {budget : Nat} (hbudget : s.length < budget)
    (rest : List Glyph) :
    skipString budget (ofList s.text ++ .char '"' :: rest) = .ok rest := by
  induction s generalizing budget with
  | nil =>
    obtain ⟨budget, rfl⟩ := Nat.exists_eq_add_of_lt hbudget
    simp [Spelling.text, skipString, Glyph.is]
  | cons p s ih =>
    obtain ⟨budget, rfl⟩ : ∃ n, budget = n + 1 := ⟨budget - 1, by omega⟩
    rw [Spelling.ofList_text_cons, ← ih (show s.length < budget by simpa using hbudget)]
    cases p with
    | plain c hquote hbackslash hcontrol =>
      have hcontrol : ¬ c.toNat < 0x20 := Nat.not_lt.mpr hcontrol
      simp [Piece.text, skipString, Glyph.is, isControl, hquote, hbackslash, hcontrol]
    | letter e c hknown =>
      simp [Piece.text, skipString, Glyph.is, shortEscape?_letter hknown]
    | code h =>
      rw [ofList_code_append]
      simp [skipString, Glyph.is, shortEscape?, hexEscape_text, bind, Except.bind]

theorem skipString_spelling (s : Spelling) (rest : List Glyph) :
    skipString ((ofList s.text ++ .char '"' :: rest).length + 1)
      (ofList s.text ++ .char '"' :: rest) = .ok rest :=
  skipString_text s (s.length_lt rest) rest

end RemoteFiles.Json
