import RemoteFiles.Json.Reader
import RemoteFiles.Proofs.Text.Decimal
import RemoteFiles.Proofs.Text.Glyphs

/-!
# JSON digits read back

Digits whose value is below 2 ^ 64 are read as a natural number, if nothing follows that would go on
with the number (`readNumberRest_digits`).
-/

namespace RemoteFiles.Json

open RemoteFiles.Text (Glyph decimalValue)
open RemoteFiles.Text.Glyph (ofList)

/-- A glyph that would go on with a number. -/
def continuesNumber : Glyph → Bool
  | .char c => c.isDigit || c == '.' || c == 'e' || c == 'E'
  | .stray _ => false

/-- What follows does not go on with a number. -/
def EndsNumber (rest : List Glyph) : Prop := ∀ g ∈ rest.head?, continuesNumber g = false

theorem EndsNumber.nil : EndsNumber [] := by simp [EndsNumber]

theorem EndsNumber.cons {g : Glyph} (hg : continuesNumber g = false) (rest : List Glyph) :
    EndsNumber (g :: rest) := by
  simpa [EndsNumber] using hg

theorem EndsNumber.digits_eq {rest : List Glyph} (hrest : EndsNumber rest) :
    digits rest = ([], rest) := by
  cases rest with
  | nil => rfl
  | cons g rest =>
    have hg : continuesNumber g = false := hrest g rfl
    cases g with
    | char c =>
      have hc : c.isDigit = false := by
        simp only [continuesNumber, Bool.or_eq_false_iff] at hg
        exact hg.1.1.1
      simp [digits, digit?, hc]
    | stray b => simp [digits, digit?]

theorem digits_ofList {cs : List Char} (hcs : ∀ c ∈ cs, c.isDigit = true) {rest : List Glyph}
    (hrest : digits rest = ([], rest)) :
    digits (ofList cs ++ rest) = (cs.map decimalValue, rest) := by
  induction cs with
  | nil => exact hrest
  | cons c cs ih =>
    have hdigit : digit? (.char c) = some (decimalValue c) := by
      rw [digit?, if_pos (hcs c List.mem_cons_self), decimalValue]
    rw [Glyph.ofList_cons, List.cons_append, digits, hdigit,
      ih fun d hd => hcs d (List.mem_cons_of_mem c hd)]
    rfl

theorem le_foldl_digits (n : Nat) (ds : List Nat) :
    n ≤ ds.foldl (fun m d => m * 10 + d) n := by
  induction ds generalizing n with
  | nil => exact Nat.le_refl n
  | cons d ds ih =>
    have h := ih (n * 10 + d)
    rw [List.foldl_cons]
    omega

/-- Digits whose value has room are all taken. -/
theorem wholePart_of_lt {n : Nat} {ds : List Nat}
    (h : ds.foldl (fun m d => m * 10 + d) n < significandBound) :
    wholePart n ds = (ds.foldl (fun m d => m * 10 + d) n, 0) := by
  induction ds generalizing n with
  | nil => rfl
  | cons d ds ih =>
    rw [List.foldl_cons] at h ⊢
    have hle := le_foldl_digits (n * 10 + d) ds
    rw [wholePart, if_pos (Nat.lt_of_le_of_lt hle h), ih h]

/-- A digit is no blank and no sign. -/
theorem isDigit_glyph {c : Char} (hc : c.isDigit = true) :
    isSpace (.char c) = false ∧ Glyph.is '-' (.char c) = false ∧ (digit? (.char c)).isSome := by
  have hne : ∀ d : Char, d.isDigit = false → (c == d) = false := fun d hd =>
    beq_false_of_ne (Text.ne_of_isDigit hc hd)
  refine ⟨?_, hne '-' rfl, ?_⟩
  · simp [isSpace, Glyph.is, hne ' ' rfl, hne '\n' rfl, hne '\t' rfl, hne '\r' rfl]
  · simp [digit?, hc]

/-- Digits without sign, point and exponent are read as their value, if it has room. -/
theorem readNumberRest_digits {gs rest : List Glyph} {ds : List Nat}
    (hdigits : digits gs = (ds, rest)) (hne : ds ≠ []) (hzero : ∀ d ds', ds ≠ 0 :: d :: ds')
    (hroom : ds.foldl (fun m d => m * 10 + d) 0 < significandBound) (hrest : EndsNumber rest) :
    readNumberRest false gs = .ok (.natural (ds.foldl (fun m d => m * 10 + d) 0), rest) := by
  have hwhole := wholePart_of_lt hroom
  rw [readNumberRest, hdigits]
  split
  · rename_i h
    exact absurd (Prod.mk.inj h).1 hne
  · rename_i h
    exact absurd (Prod.mk.inj h).1 hne
  · rename_i h
    exact absurd (Prod.mk.inj h).1 (hzero _ _)
  · rename_i h
    obtain ⟨rfl, rfl⟩ := Prod.mk.inj h
    rw [hwhole]
    dsimp only
    -- what follows is no point and no exponent
    split
    · exact absurd (hrest _ rfl) (by decide)
    · exact absurd (hrest _ rfl) (by decide)
    · exact absurd (hrest _ rfl) (by decide)
    · rw [if_neg (by simp), if_pos (by decide)]

end RemoteFiles.Json
