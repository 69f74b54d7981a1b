/-!
# Decimal numbers

The digits of a number in base ten begin with a zero only if they are the single digit of zero
(`head?_toDigits`), and their value, taken from the left, is the number (`foldl_toDigits`).
-/

namespace RemoteFiles.Text

/-- The value of a decimal digit. -/
def decimalValue (c : Char) : Nat := c.toNat - '0'.toNat

theorem decimalValue_eq_zero_iff {c : Char} (hc : c.isDigit = true) :
    decimalValue c = 0 ↔ c = '0' := by
  have hbounds : '0'.toNat ≤ c.toNat := by
    simp only [Char.isDigit, Bool.and_eq_true, decide_eq_true_eq] at hc
    exact hc.1
  constructor
  · intro h
    have hle : c.toNat ≤ '0'.toNat := Nat.sub_eq_zero_iff_le.mp h
    exact Char.toNat_inj.mp (Nat.le_antisymm hle hbounds)
  · rintro rfl
    rfl

/-- A character that is no digit is told apart from one. -/
theorem ne_of_isDigit {c d : Char} (hc : c.isDigit = true) (hd : d.isDigit = false) : c ≠ d := by
  rintro rfl
  rw [hc] at hd
  cases hd

theorem isDigit_of_mem_toDigits {n : Nat} {c : Char} (hc : c ∈ Nat.toDigits 10 n) :
    c.isDigit = true :=
  Nat.isDigit_of_mem_toDigits (by decide) (by decide) hc

/-- A number begins with a digit. -/
theorem exists_cons_toDigits (n : Nat) :
    ∃ c cs, Nat.toDigits 10 n = c :: cs ∧ c.isDigit = true := by
  obtain ⟨c, cs, hdigits⟩ := List.exists_cons_of_ne_nil (Nat.toDigits_ne_nil (n := n) (b := 10))
  exact ⟨c, cs, hdigits, isDigit_of_mem_toDigits (n := n) (by simp [hdigits])⟩

/-- No number but zero is written with a zero in front. -/
theorem head?_toDigits {n : Nat} (hn : 0 < n) : (Nat.toDigits 10 n).head? ≠ some '0' := by
  induction n using Nat.strongRecOn with
  | ind n ih =>
    by_cases hsmall : n < 10
    · have all : ∀ m < 10, 0 < m → (Nat.toDigits 10 m).head? ≠ some '0' := by decide
      exact all n hsmall hn
    · have hhead := ih (n / 10) (by omega) (by omega)
      rw [Nat.toDigits_of_base_le (by decide) (Nat.le_of_not_lt hsmall), List.head?_append]
      obtain ⟨c, cs, hdigits, -⟩ := exists_cons_toDigits (n / 10)
      rw [hdigits] at hhead ⊢
      exact hhead

/-- A zero in front stands alone. -/
theorem toDigits_ne_zero_cons (n : Nat) (c : Char) (cs : List Char) :
    Nat.toDigits 10 n ≠ '0' :: c :: cs := by
  intro h
  rcases Nat.eq_zero_or_pos n with rfl | hn
  · rw [Nat.toDigits_zero] at h
    cases h
  · exact head?_toDigits hn (by rw [h, List.head?_cons])

/-- Digits read from the left give the number that they were written for. -/
theorem foldl_toDigits (n : Nat) :
    (Nat.toDigits 10 n).foldl (fun m c => m * 10 + decimalValue c) 0 = n := by
  have h := Nat.ofDigitChars_ten_toDigits (n := n)
  rw [Nat.ofDigitChars_eq_foldl] at h
  simpa only [decimalValue, Nat.mul_comm] using h

end RemoteFiles.Text
