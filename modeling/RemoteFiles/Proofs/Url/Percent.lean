import RemoteFiles.Proofs.Text.Hex
import RemoteFiles.Url.Path

/-!
# Percent-encoding read back

What is encoded with a set that holds the percent sign is decoded to the bytes of the text, with
anything behind it (`decode_encode_append`), and so no two texts are encoded alike
(`encode_injective`).  The other way round, what is written without characters of the set is its
own encoding (`encode_eq_self`), and that includes every text that has been encoded once
(`mem_encode`).

A segment is read as dots exactly when it encodes dots: a text cannot be made to look like dots by
writing them percent-encoded, since its percent signs are encoded (`isDoubleDot_encode`,
`isSingleDot_encode`).
-/

namespace RemoteFiles.Url

open Text.Hex (digit digitValue?)

/-- The bytes of a text. -/
def bytes (cs : List Char) : List UInt8 := cs.flatMap String.utf8EncodeChar

@[simp] theorem bytes_nil : bytes [] = [] := rfl

@[simp] theorem bytes_cons (c : Char) (cs : List Char) :
    bytes (c :: cs) = String.utf8EncodeChar c ++ bytes cs := rfl

@[simp] theorem bytes_append (cs ds : List Char) : bytes (cs ++ ds) = bytes cs ++ bytes ds :=
  List.flatMap_append

theorem toUTF8_eq (s : String) : s.toUTF8 = (bytes s.toList).toByteArray := by
  conv_lhs => rw [← String.ofList_toList (s := s)]
  rfl

theorem bytes_injective {cs ds : List Char} (h : bytes cs = bytes ds) : cs = ds := by
  have hbytes : (String.ofList cs).toByteArray = (String.ofList ds).toByteArray :=
    congrArg List.toByteArray h
  exact String.ofList_injective (String.toByteArray_inj.mp hbytes)

/-! ### Reading back -/

theorem digitValue?_upper_digit (n : Nat) : digitValue? (digit n).toUpper = some (n % 16) := by
  have all : ∀ m < 16, digitValue? (Nat.digitChar m).toUpper = some m := by decide
  exact all (n % 16) (Nat.mod_lt n (by decide))

theorem decode_cons_of_ne {c : Char} (h : c ≠ '%') (rest : List Char) :
    decode (c :: rest) = String.utf8EncodeChar c ++ decode rest := by
  rw [decode.eq_def]
  exact if_neg h

theorem decode_encodeByte_append (b : UInt8) (rest : List Char) :
    decode (encodeByte b ++ rest) = b :: decode rest := by
  have hvalue : 16 * (b.toNat / 16 % 16) + b.toNat % 16 = b.toNat := by
    have hlt := b.toNat_lt
    omega
  rw [encodeByte, Text.Hex.byteDigits]
  simp only [List.map_cons, List.map_nil, List.cons_append, List.nil_append]
  rw [decode.eq_def]
  simp only [if_true, digitValue?_upper_digit, hvalue, UInt8.ofNat_toNat]

theorem decode_encodeBytes_append (bs : List UInt8) (rest : List Char) :
    decode (bs.flatMap encodeByte ++ rest) = bs ++ decode rest := by
  induction bs with
  | nil => rfl
  | cons b bs ih =>
    rw [List.flatMap_cons, List.append_assoc, decode_encodeByte_append, ih, List.cons_append]

variable {set : EncodeSet}

/-- What is left as it is is no percent sign, and so it is read as it is. -/
theorem decode_encodeChar_append (hset : set '%' = true) (c : Char) (rest : List Char) :
    decode (encodeChar set c ++ rest) = String.utf8EncodeChar c ++ decode rest := by
  unfold encodeChar
  split
  · rename_i hkept
    have hne : c ≠ '%' := by
      rintro rfl
      simp [hset] at hkept
    exact decode_cons_of_ne hne rest
  · exact decode_encodeBytes_append _ rest

theorem decode_encode_append (hset : set '%' = true) (cs rest : List Char) :
    decode (encode set cs ++ rest) = bytes cs ++ decode rest := by
  induction cs with
  | nil => rfl
  | cons c cs ih =>
    rw [encode, List.flatMap_cons, List.append_assoc, decode_encodeChar_append hset, ← encode, ih,
      bytes_cons, List.append_assoc]

theorem decode_encode (hset : set '%' = true) (cs : List Char) :
    decode (encode set cs) = bytes cs := by
  have h := decode_encode_append hset cs []
  rwa [List.append_nil, decode, List.append_nil] at h

theorem encode_injective (hset : set '%' = true) {cs ds : List Char}
    (h : encode set cs = encode set ds) : cs = ds := by
  apply bytes_injective
  rw [← decode_encode hset cs, h, decode_encode hset ds]

/-! ### The characters in use -/

/-- What holds of the ASCII characters one by one holds of them all. -/
theorem of_ascii {P : Char → Prop} (h : ∀ n < 0x80, P (Char.ofNat n)) {c : Char}
    (hc : c.toNat < 0x80) : P c := by
  have hcode := h c.toNat hc
  rwa [Char.ofNat_toNat] at hcode

/-- The characters that bytes are written with. -/
def escapes : List Char := "%0123456789ABCDEF".toList

theorem mem_encodeByte {b : UInt8} {c : Char} (h : c ∈ encodeByte b) : c ∈ escapes := by
  have hdigit : ∀ n, (digit n).toUpper ∈ escapes := by
    have all : ∀ m < 16, (Nat.digitChar m).toUpper ∈ escapes := by decide
    exact fun n => all (n % 16) (Nat.mod_lt n (by decide))
  rw [encodeByte, Text.Hex.byteDigits, List.map_cons, List.map_cons, List.map_nil] at h
  simp only [List.mem_cons, List.not_mem_nil, or_false] at h
  rcases h with rfl | rfl | rfl
  · decide
  · exact hdigit _
  · exact hdigit _

/-- A character may stay as it is. -/
def IsKept (set : EncodeSet) (c : Char) : Prop := c.toNat < 0x80 ∧ set c = false

theorem of_kept {P : Char → Prop} (h : ∀ n < 0x80, set (Char.ofNat n) = false → P (Char.ofNat n))
    {c : Char} (hc : IsKept set c) : P c :=
  of_ascii (P := fun c => set c = false → P c) h hc.1 hc.2

theorem encodeChar_of_kept {c : Char} (h : IsKept set c) : encodeChar set c = [c] :=
  if_pos (by simp [h.1, h.2])

theorem encode_eq_self {cs : List Char} (h : ∀ c ∈ cs, IsKept set c) : encode set cs = cs := by
  induction cs with
  | nil => rfl
  | cons c cs ih =>
    obtain ⟨hc, hcs⟩ := List.forall_mem_cons.mp h
    rw [encode, List.flatMap_cons, encodeChar_of_kept hc, ← encode, ih hcs]
    rfl

theorem mem_encode {cs : List Char} {c : Char} (h : c ∈ encode set cs) :
    c ∈ cs ∧ IsKept set c ∨ c ∈ escapes := by
  obtain ⟨d, hd, hc⟩ := List.mem_flatMap.mp h
  unfold encodeChar at hc
  split at hc
  · rename_i hkept
    rw [List.mem_singleton] at hc
    simp only [Bool.and_eq_true, decide_eq_true_eq, Bool.not_eq_eq_eq_not, Bool.not_true] at hkept
    exact .inl ⟨hc ▸ hd, hc ▸ hkept⟩
  · obtain ⟨b, -, hb⟩ := List.mem_flatMap.mp hc
    exact .inr (mem_encodeByte hb)

theorem encode_eq_nil_iff {cs : List Char} : encode set cs = [] ↔ cs = [] := by
  constructor
  · intro h
    cases cs with
    | nil => rfl
    | cons c cs =>
      have hc : encodeChar set c = [] := (List.append_eq_nil_iff.mp h).1
      unfold encodeChar at hc
      split at hc
      · exact absurd hc (List.cons_ne_nil _ _)
      · obtain ⟨b, bs, hbs⟩ := List.exists_cons_of_ne_nil (String.utf8EncodeChar_ne_nil (c := c))
        rw [hbs] at hc
        exact absurd hc (List.cons_ne_nil _ _)
  · rintro rfl
    rfl

/-! ### Dots -/

/-- A character in lower case is the character itself, unless it was a capital. -/
theorem eq_or_capital_of_toLower {c d : Char} (h : c.toLower = d) :
    c = d ∨ 65 ≤ c.toNat ∧ c.toNat + 32 = d.toNat := by
  unfold Char.toLower at h
  split at h
  · rename_i hcapital
    have hlow : 65 ≤ c.val.toNat := hcapital.1
    have hhigh : c.val.toNat ≤ 90 := hcapital.2
    refine .inr ⟨hlow, ?_⟩
    rw [← h]
    show c.val.toNat + 32 = (c.val + 32).toNat
    rw [UInt32.toNat_add]
    show c.val.toNat + 32 = (c.val.toNat + 32) % 4294967296
    omega
  · exact .inl h

/-- Whatever is before the small letters is no capital in lower case. -/
theorem eq_of_toLower {c d : Char} (hd : d.toNat < 97) (h : c.toLower = d) : c = d := by
  rcases eq_or_capital_of_toLower h with h | ⟨hlow, hsum⟩
  · exact h
  · omega

theorem eq_e_of_toLower {c : Char} (h : c.toLower = 'e') : c = 'e' ∨ c = 'E' := by
  rcases eq_or_capital_of_toLower h with h | ⟨-, hsum⟩
  · exact .inl h
  · have hcode : c.toNat = 'E'.toNat := by simpa using hsum
    exact .inr (Char.toNat_inj.mp hcode)

/-- The ways to write a dot in a segment. -/
def IsDot (cs : List Char) : Prop :=
  cs.map Char.toLower = ['.'] ∨ cs.map Char.toLower = ['%', '2', 'e']

theorem IsDot.decode_append {cs : List Char} (h : IsDot cs) (rest : List Char) :
    decode (cs ++ rest) = 0x2e :: decode rest := by
  rcases h with h | h
  · obtain ⟨c, _, rfl, hc, hnil⟩ := List.map_eq_cons_iff.mp h
    obtain rfl := List.map_eq_nil_iff.mp hnil
    obtain rfl := eq_of_toLower (by decide) hc
    exact decode_cons_of_ne (by decide) rest
  · obtain ⟨a, _, rfl, ha, h⟩ := List.map_eq_cons_iff.mp h
    obtain ⟨b, _, rfl, hb, h⟩ := List.map_eq_cons_iff.mp h
    obtain ⟨c, _, rfl, hc, hnil⟩ := List.map_eq_cons_iff.mp h
    obtain rfl := List.map_eq_nil_iff.mp hnil
    obtain rfl := eq_of_toLower (by decide) ha
    obtain rfl := eq_of_toLower (by decide) hb
    rcases eq_e_of_toLower hc with rfl | rfl <;> rfl

theorem isDot_of_isSingleDot {seg : List Char} (h : isSingleDot seg = true) : IsDot seg := by
  rw [isSingleDot, Bool.or_eq_true, beq_iff_eq, beq_iff_eq] at h
  rcases h with rfl | h
  · exact .inl rfl
  · exact .inr h

theorem isDot_of_isDoubleDot {seg : List Char} (h : isDoubleDot seg = true) :
    ∃ a b, seg = a ++ b ∧ IsDot a ∧ IsDot b := by
  have split : ∀ {x y : List Char}, seg.map Char.toLower = x ++ y →
      ∃ a b, seg = a ++ b ∧ a.map Char.toLower = x ∧ b.map Char.toLower = y :=
    fun h => List.map_eq_append_iff.mp h
  rw [isDoubleDot, List.contains_iff_mem] at h
  simp only [List.mem_cons, List.not_mem_nil, or_false, ← String.toList_inj,
    String.toList_ofList] at h
  rcases h with h | h | h | h
  · obtain ⟨a, b, rfl, ha, hb⟩ := split (x := ['.']) (y := ['.']) h
    exact ⟨a, b, rfl, .inl ha, .inl hb⟩
  · obtain ⟨a, b, rfl, ha, hb⟩ := split (x := ['%', '2', 'e']) (y := ['%', '2', 'e']) h
    exact ⟨a, b, rfl, .inr ha, .inr hb⟩
  · obtain ⟨a, b, rfl, ha, hb⟩ := split (x := ['.']) (y := ['%', '2', 'e']) h
    exact ⟨a, b, rfl, .inl ha, .inr hb⟩
  · obtain ⟨a, b, rfl, ha, hb⟩ := split (x := ['%', '2', 'e']) (y := ['.']) h
    exact ⟨a, b, rfl, .inr ha, .inl hb⟩

theorem decode_of_isSingleDot {seg : List Char} (h : isSingleDot seg = true) :
    decode seg = bytes ['.'] := by
  have hdot := (isDot_of_isSingleDot h).decode_append []
  rwa [List.append_nil] at hdot

theorem decode_of_isDoubleDot {seg : List Char} (h : isDoubleDot seg = true) :
    decode seg = bytes ['.', '.'] := by
  obtain ⟨a, b, rfl, ha, hb⟩ := isDot_of_isDoubleDot h
  have hdot := hb.decode_append []
  rw [List.append_nil] at hdot
  rw [ha.decode_append, hdot]
  rfl

/-- A text is read as one dot only if it is one. -/
theorem isSingleDot_encode (hset : set '%' = true) (hdot : set '.' = false) {cs : List Char} :
    isSingleDot (encode set cs) = true ↔ cs = ['.'] := by
  constructor
  · intro h
    apply bytes_injective
    rw [← decode_encode hset, decode_of_isSingleDot h]
  · rintro rfl
    rw [encode_eq_self (by simpa [IsKept] using hdot)]
    rfl

/-- A text is read as two dots only if it is two dots. -/
theorem isDoubleDot_encode (hset : set '%' = true) (hdot : set '.' = false) {cs : List Char} :
    isDoubleDot (encode set cs) = true ↔ cs = ['.', '.'] := by
  constructor
  · intro h
    apply bytes_injective
    rw [← decode_encode hset, decode_of_isDoubleDot h]
  · rintro rfl
    rw [encode_eq_self (by simpa [IsKept] using hdot)]
    decide

end RemoteFiles.Url
