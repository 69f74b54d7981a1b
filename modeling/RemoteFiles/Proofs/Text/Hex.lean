import RemoteFiles.Url.Address
import Mathlib.Data.List.Induction
import Mathlib.Tactic.Ring

/-!
# Hexadecimal digits read back

A digit is one of sixteen characters and is read back as its number (`digitValue?_digit`).  Digits
in a fixed width keep the number up to the power of sixteen that the width holds
(`valueIn_lowDigits`).
-/

namespace RemoteFiles.Text.Hex

open RemoteFiles.Url (valueIn)

/-- The digits in use. -/
def lowerDigits : List Char := "0123456789abcdef".toList

theorem digit_mem (n : Nat) : digit n ∈ lowerDigits := by
  have all : ∀ m < 16, Nat.digitChar m ∈ lowerDigits := by decide
  exact all (n % 16) (Nat.mod_lt n (by decide))

theorem digitValue?_digit (n : Nat) : digitValue? (digit n) = some (n % 16) := by
  have all : ∀ m < 16, digitValue? (Nat.digitChar m) = some m := by decide
  exact all (n % 16) (Nat.mod_lt n (by decide))

@[simp] theorem length_lowDigits (width n : Nat) : (lowDigits width n).length = width := by
  induction width generalizing n with
  | zero => rfl
  | succ width ih => rw [lowDigits, List.length_append, ih, List.length_singleton]

theorem mem_lowerDigits_of_mem_lowDigits {c : Char} {width n : Nat}
    (h : c ∈ lowDigits width n) : c ∈ lowerDigits := by
  induction width generalizing n with
  | zero => cases h
  | succ width ih =>
    rw [lowDigits, List.mem_append, List.mem_singleton] at h
    rcases h with h | rfl
    · exact ih h
    · exact digit_mem n

theorem valueIn_concat (base : Nat) (ds : List Char) (c : Char) :
    valueIn base (ds ++ [c]) = valueIn base ds * base + (digitValue? c).getD 0 := by
  rw [valueIn, List.foldl_append]
  rfl

/-- The digits of a number in a fixed width have the value of the number, as far as the width
goes. -/
theorem valueIn_lowDigits (width n : Nat) :
    valueIn 16 (lowDigits width n) = n % 16 ^ width := by
  induction width generalizing n with
  | zero =>
    rw [pow_zero, Nat.mod_one]
    rfl
  | succ width ih =>
    have hdigit : (digitValue? (digit n)).getD 0 = n % 16 := by
      rw [digitValue?_digit]
      rfl
    have hsplit : n % (16 * 16 ^ width) = n % 16 + 16 * (n / 16 % 16 ^ width) := Nat.mod_mul
    rw [lowDigits, valueIn_concat, ih, hdigit, pow_succ, mul_comm (16 ^ width), hsplit]
    ring

/-- Digits are determined by their value, if they are as many. -/
theorem eq_lowDigits_valueIn {ds : List Char} (h : ∀ c ∈ ds, c ∈ lowerDigits) :
    ds = lowDigits ds.length (valueIn 16 ds) := by
  induction ds using List.reverseRecOn with
  | nil => rfl
  | append_singleton ds c ih =>
    have hdigits : lowerDigits.all fun c =>
        (digitValue? c).getD 0 < 16 && Nat.digitChar ((digitValue? c).getD 0) == c := by
      decide
    obtain ⟨hlt, hchar⟩ : (digitValue? c).getD 0 < 16 ∧
        Nat.digitChar ((digitValue? c).getD 0) = c := by
      simpa using List.all_eq_true.mp hdigits c (h c (by simp))
    have hhead := ih fun d hd => h d (List.mem_append_left [c] hd)
    have hdiv : (valueIn 16 ds * 16 + (digitValue? c).getD 0) / 16 = valueIn 16 ds := by omega
    have hmod : (valueIn 16 ds * 16 + (digitValue? c).getD 0) % 16 = (digitValue? c).getD 0 := by
      omega
    rw [List.length_append, List.length_singleton, lowDigits, valueIn_concat, hdiv, digit, hmod,
      hchar, ← hhead]

end RemoteFiles.Text.Hex
