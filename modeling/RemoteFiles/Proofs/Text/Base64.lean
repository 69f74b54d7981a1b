import RemoteFiles.Text.Base64
import Mathlib.Data.List.Basic

/-!
# Base64 read back

`decode?` reads base64 text as RFC 4648 has it: four characters at a time, `=` only at the end of
the last group, and no bits left over there.  What was written is read back (`decode?_encode`), and
it is made of letters, digits, plus and slash, completed by as many `=` as the last group lacks
(`isPadded_encode`).
-/

namespace RemoteFiles.Text.Base64

/-- The six bits of a character: the letters of either case come first, then the digits. -/
def value? (c : Char) : Option Nat :=
  if 'A' ≤ c ∧ c ≤ 'Z' then some (c.toNat - 'A'.toNat)
  else if 'a' ≤ c ∧ c ≤ 'z' then some (c.toNat - 'a'.toNat + 26)
  else if '0' ≤ c ∧ c ≤ '9' then some (c.toNat - '0'.toNat + 52)
  else if c = '+' then some 62
  else if c = '/' then some 63
  else none

/-- The bytes of a last group that ends in `=`: two bytes of three characters, or one byte of two
characters and a further `=`. -/
def decodeLast? (a b c : Char) : Option (List UInt8) := do
  let x ← value? a
  let y ← value? b
  if c = '=' then
    if y % 16 = 0 then some [UInt8.ofNat (x * 4 + y / 16)] else none
  else
    let z ← value? c
    if z % 4 = 0 then some [UInt8.ofNat (x * 4 + y / 16), UInt8.ofNat (y * 16 + z / 4)] else none

/-- The bytes that a text stands for. -/
def decode? : List Char → Option (List UInt8)
  | [] => some []
  | a :: b :: c :: d :: rest =>
    if d = '=' then
      if rest = [] then decodeLast? a b c else none
    else do
      let w ← value? a
      let x ← value? b
      let y ← value? c
      let z ← value? d
      let bytes ← decode? rest
      some (UInt8.ofNat (w * 4 + x / 16) :: UInt8.ofNat (x * 16 + y / 4) ::
        UInt8.ofNat (y * 64 + z) :: bytes)
  | _ => none

theorem value?_sextet (n : Nat) : value? (sextet n) = some (n % 64) := by
  have all : ∀ m < 64, value? (alphabet.getD m '=') = some m := by decide +kernel
  exact all (n % 64) (Nat.mod_lt n (by decide))

theorem sextet_ne_pad (n : Nat) : sextet n ≠ '=' := by
  intro h
  have hvalue := value?_sextet n
  rw [h] at hvalue
  cases hvalue

/-- A byte is given by its value, up to a multiple of 256. -/
theorem ofNat_eq_of_mod_eq {n : Nat} {b : UInt8} (h : n % 256 = b.toNat) : UInt8.ofNat n = b := by
  apply UInt8.toNat_inj.mp
  rw [UInt8.toNat_ofNat']
  exact h

/-- What was written is read back. -/
theorem decode?_encode (bytes : List UInt8) : decode? (encode bytes) = some bytes := by
  fun_induction encode bytes with
  | case1 a b c rest n ih =>
    have ha := a.toNat_lt
    have hb := b.toNat_lt
    have hc := c.toNat_lt
    -- each byte comes back from the two sextets over which its bits were spread
    have hfirst : (n / 262144 % 64 * 4 + n / 4096 % 64 / 16) % 256 = a.toNat := by omega
    have hsecond : (n / 4096 % 64 * 16 + n / 64 % 64 / 4) % 256 = b.toNat := by omega
    have hthird : (n / 64 % 64 * 64 + n % 64) % 256 = c.toNat := by omega
    rw [decode?, if_neg (sextet_ne_pad n), ih]
    simp only [value?_sextet, Option.bind_eq_bind, Option.bind_some]
    rw [ofNat_eq_of_mod_eq hfirst, ofNat_eq_of_mod_eq hsecond, ofNat_eq_of_mod_eq hthird]
  | case2 a b n =>
    have ha := a.toNat_lt
    have hb := b.toNat_lt
    have hfirst : (n / 4096 % 64 * 4 + n / 64 % 64 / 16) % 256 = a.toNat := by omega
    have hsecond : (n / 64 % 64 * 16 + n % 64 / 4) % 256 = b.toNat := by omega
    -- the bits that complete the last sextet are zero
    have hrest : n % 64 % 4 = 0 := by omega
    rw [decode?, if_pos rfl, if_pos rfl, decodeLast?]
    simp only [value?_sextet, Option.bind_eq_bind, Option.bind_some]
    rw [if_neg (sextet_ne_pad n), if_pos hrest, ofNat_eq_of_mod_eq hfirst,
      ofNat_eq_of_mod_eq hsecond]
  | case3 a n =>
    have ha := a.toNat_lt
    have hfirst : (n / 64 % 64 * 4 + n % 64 / 16) % 256 = a.toNat := by omega
    have hrest : n % 64 % 16 = 0 := by omega
    rw [decode?, if_pos rfl, if_pos rfl, decodeLast?]
    simp only [value?_sextet, Option.bind_eq_bind, Option.bind_some]
    rw [if_true, if_pos hrest, ofNat_eq_of_mod_eq hfirst]
  | case4 => rfl

/-! ### The characters in use -/

/-- The characters that stand for six bits. -/
def isDigit64 (c : Char) : Bool := c.isAlphanum || c == '+' || c == '/'

theorem isDigit64_sextet (n : Nat) : isDigit64 (sextet n) = true := by
  have all : ∀ m < 64, isDigit64 (alphabet.getD m '=') = true := by decide +kernel
  exact all (n % 64) (Nat.mod_lt n (by decide))

/-- A text for so many bytes: digits, four for each group of three bytes, where `=` stand in for
the bytes that the last group lacks. -/
def IsPadded (size : Nat) (text : List Char) : Prop :=
  ∃ digits pad, text = digits ++ List.replicate pad '=' ∧ (∀ c ∈ digits, isDigit64 c = true) ∧
    pad < 3 ∧ (size + pad) % 3 = 0 ∧ text.length = 4 * ((size + pad) / 3)

theorem isPadded_encode (bytes : List UInt8) : IsPadded bytes.length (encode bytes) := by
  fun_induction encode bytes with
  | case1 a b c rest n ih =>
    obtain ⟨digits, pad, htext, hdigits, hpad, hgroups, hlength⟩ := ih
    refine ⟨sextet (n / 262144) :: sextet (n / 4096) :: sextet (n / 64) :: sextet n :: digits, pad,
      by rw [htext]; rfl, ?_, hpad, ?_, ?_⟩
    · simp only [List.forall_mem_cons]
      exact ⟨isDigit64_sextet _, isDigit64_sextet _, isDigit64_sextet _, isDigit64_sextet _,
        hdigits⟩
    · simp only [List.length_cons]
      omega
    · simp only [List.length_cons, hlength]
      omega
  | case2 a b n =>
    refine ⟨[sextet (n / 4096), sextet (n / 64), sextet n], 1, rfl, ?_, by decide, by simp, by simp⟩
    simp only [List.forall_mem_cons]
    exact ⟨isDigit64_sextet _, isDigit64_sextet _, isDigit64_sextet _, by simp⟩
  | case3 a n =>
    refine ⟨[sextet (n / 64), sextet n], 2, rfl, ?_, by decide, by simp, by simp⟩
    simp only [List.forall_mem_cons]
    exact ⟨isDigit64_sextet _, isDigit64_sextet _, by simp⟩
  | case4 => exact ⟨[], 0, rfl, by simp, by decide, rfl, by simp⟩

end RemoteFiles.Text.Base64
