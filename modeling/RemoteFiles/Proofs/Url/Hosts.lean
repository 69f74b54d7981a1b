import RemoteFiles.Proofs.Text.Decimal
import RemoteFiles.Proofs.Text.Hex
import RemoteFiles.Proofs.Url.Settled

/-!
# Hosts as they are written

A host of the web is a name or an address in brackets (`IsWrittenHost`,
`isWrittenHost_of_parseHost`).  A name is ASCII, whatever scripts it was given in, and has none of
the characters with a meaning elsewhere in a URL; an address of version 4 is written as such a name.
Between brackets there are digits and no more than eight colons.
-/

namespace RemoteFiles.Url

/-! ### Names in ASCII -/

namespace Punycode

theorem toNat_digit_lt {n : Nat} (h : n < 36) : (digit n).toNat < 0x80 := by
  have all : ∀ m < 36, (digit m).toNat < 0x80 := by decide
  exact all n h

theorem isAscii_digits (bias place n : Nat) : isAscii (digits bias place n) = true := by
  fun_induction digits bias place n with
  | case1 place n t hlt =>
    have hthreshold := threshold_le place bias
    have hdigit := toNat_digit_lt (n := n) (by omega)
    simpa [isAscii] using hdigit
  | case2 place n t hge ih =>
    have hthreshold := threshold_le place bias
    have hmod : (n - t) % (36 - t) < 36 - t := Nat.mod_lt _ (by omega)
    have hdigit := toNat_digit_lt (n := t + (n - t) % (36 - t)) (by omega)
    rw [isAscii, List.all_cons, ← isAscii, ih, Bool.and_true]
    exact decide_eq_true hdigit

theorem isAscii_pass {p : Progress} (h : isAscii p.text = true) (basic n : Nat) (c : Char) :
    isAscii (p.pass basic n c).text = true := by
  unfold Progress.pass
  split
  · exact h
  · split
    · rw [isAscii, List.all_append, ← isAscii, ← isAscii, h, isAscii_digits, Bool.and_true]
    · exact h

theorem isAscii_insertAll (label : List Char) (basic : Nat) (ns : List Nat) :
    ∀ (start : Nat) (p : Progress), isAscii p.text = true →
      isAscii (insertAll label basic start ns p).text = true := by
  have hfold : ∀ (n : Nat) (cs : List Char) (p : Progress), isAscii p.text = true →
      isAscii (cs.foldl (Progress.pass basic n) p).text = true := by
    intro n cs
    induction cs with
    | nil => exact fun p h => h
    | cons c cs ih => exact fun p h => ih _ (isAscii_pass h basic n c)
  induction ns with
  | nil => exact fun start p h => h
  | cons n ns ih => exact fun start p h => ih _ _ (hfold n label _ h)

theorem isAscii_encode (label : List Char) : isAscii (encode label) = true := by
  refine isAscii_insertAll label _ _ _ _ ?_
  have hbasic : isAscii (label.filter (·.toNat < 128)) = true := by
    rw [isAscii, List.all_filter]
    exact List.all_eq_true.mpr fun c _ => by simp
  dsimp only
  split
  · rfl
  · rw [isAscii, List.all_append, ← isAscii, hbasic]
    rfl

end Punycode

theorem isAscii_ofMapped? {cs : List Char} {label : Label} (h : Label.ofMapped? cs = some label) :
    isAscii label.ascii = true := by
  unfold Label.ofMapped? at h
  split at h
  · split at h
    · rename_i hascii
      obtain ⟨shown, -, rfl⟩ := Option.map_eq_some_iff.mp h
      exact hascii
    · cases h
  · split at h
    · rename_i hascii
      rw [← Option.some.inj h]
      exact hascii
    · split at h
      · rw [← Option.some.inj h, isAscii, List.all_append, ← isAscii, ← isAscii,
          Punycode.isAscii_encode]
        rfl
      · cases h

theorem isAscii_of_mem_labels {parts : List (List Char)} {labels : List Label}
    (h : parts.mapM Label.ofMapped? = some labels) :
    ∀ label ∈ labels, isAscii label.ascii = true := by
  induction parts generalizing labels with
  | nil =>
    rw [← Option.some.inj h]
    exact List.forall_mem_nil _
  | cons part parts ih =>
    rw [List.mapM_cons] at h
    obtain ⟨label, hlabel, h⟩ := Option.bind_eq_some_iff.mp h
    obtain ⟨rest, hrest, h⟩ := Option.bind_eq_some_iff.mp h
    rw [← Option.some.inj h]
    exact List.forall_mem_cons.mpr ⟨isAscii_ofMapped? hlabel, ih hrest⟩

/-- A domain is written in ASCII, without the characters that no domain holds. -/
theorem of_domainToAscii? {cs domain : List Char} (h : domainToAscii? cs = some domain) :
    isAscii domain = true ∧ domain.all (!isForbiddenInDomain ·) = true := by
  obtain ⟨mapped, -, h⟩ := Option.bind_eq_some_iff.mp h
  obtain ⟨labels, hlabels, h⟩ := Option.bind_eq_some_iff.mp h
  dsimp only at h
  split at h
  · rename_i hfits
    rw [← Option.some.inj h]
    refine ⟨Text.all_intercalate rfl ?_, (Bool.and_eq_true_iff.mp hfits).1⟩
    exact List.forall_mem_map.mpr (isAscii_of_mem_labels hlabels)
  · cases h

/-! ### Addresses -/

theorem toNat_lt_of_isDigit {c : Char} (h : c.isDigit = true) : c.toNat < 0x80 := by
  rw [Char.isDigit, Bool.and_eq_true, decide_eq_true_eq, decide_eq_true_eq] at h
  have hle : c.toNat ≤ '9'.toNat := h.2
  exact hle.trans_lt (by decide)

theorem of_isDigit {P : Char → Prop}
    (h : ∀ n < 0x80, (Char.ofNat n).isDigit = true → P (Char.ofNat n)) {c : Char}
    (hc : c.isDigit = true) : P c :=
  of_ascii (P := fun c => c.isDigit = true → P c) h (toNat_lt_of_isDigit hc) hc

theorem mem_renderAddress4 {n : Nat} {c : Char} (h : c ∈ (renderAddress4 n).toList) :
    c = '.' ∨ c.isDigit = true := by
  have hall : (renderAddress4 n).toList.all (fun c => c == '.' || c.isDigit) = true := by
    rw [renderAddress4, String.toList_intercalate]
    refine Text.all_intercalate rfl ?_
    rw [List.forall_mem_map, List.forall_mem_map]
    intro i hi
    rw [List.all_eq_true]
    intro c hc
    rw [Bool.or_eq_true]
    exact .inr (Text.isDigit_of_mem_toDigits (by simpa using hc))
  simpa using List.all_eq_true.mp hall c h

theorem mem_lowerDigits_of_mem_toDigits {n : Nat} {c : Char} (h : c ∈ Nat.toDigits 16 n) :
    c ∈ Text.Hex.lowerDigits := by
  induction n using Nat.strongRecOn with
  | ind n ih =>
    by_cases hsmall : n < 16
    · rw [Nat.toDigits_of_lt_base hsmall, List.mem_singleton] at h
      rw [h]
      have all : ∀ m < 16, Nat.digitChar m ∈ Text.Hex.lowerDigits := by decide
      exact all n hsmall
    · rw [Nat.toDigits_of_base_le (by decide) (by omega), List.mem_append, List.mem_singleton] at h
      rcases h with h | rfl
      · exact ih (n / 16) (by omega) h
      · exact Text.Hex.digit_mem n

/-- Pieces have colons only between them. -/
theorem count_joinPieces_le (ps : List Nat) : (joinPieces ps).toList.count ':' ≤ ps.length - 1 := by
  have hpiece : ∀ p, (Nat.toDigits 16 p).count ':' = 0 := fun p =>
    List.count_eq_zero.mpr fun h => absurd (mem_lowerDigits_of_mem_toDigits h) (by decide)
  rw [joinPieces, String.toList_intercalate, List.map_map]
  induction ps with
  | nil => exact Nat.zero_le _
  | cons p ps ih =>
    by_cases hps : ps = []
    · rw [hps, List.map_singleton, List.intercalate_singleton, Function.comp_apply,
        String.toList_ofList, hpiece]
      exact Nat.zero_le _
    · have hpos := List.length_pos_of_ne_nil hps
      rw [List.map_cons, List.intercalate_cons_of_ne_nil (by simpa using hps), List.count_append,
        List.count_append, Function.comp_apply, String.toList_ofList, hpiece, List.length_cons]
      have hone : (":".toList).count ':' = 1 := rfl
      omega

theorem mem_joinPieces {ps : List Nat} {c : Char} (h : c ∈ (joinPieces ps).toList) :
    c = ':' ∨ c ∈ Text.Hex.lowerDigits := by
  have hall : (joinPieces ps).toList.all
      (fun c => c == ':' || Text.Hex.lowerDigits.contains c) = true := by
    rw [joinPieces, String.toList_intercalate]
    refine Text.all_intercalate rfl ?_
    rw [List.forall_mem_map, List.forall_mem_map]
    intro p _
    rw [List.all_eq_true]
    intro c hc
    rw [String.toList_ofList] at hc
    rw [Bool.or_eq_true, List.contains_iff_mem]
    exact .inr (mem_lowerDigits_of_mem_toDigits hc)
  have hc := List.all_eq_true.mp hall c h
  rwa [Bool.or_eq_true, beq_iff_eq, List.contains_iff_mem] at hc

/-- The longest run of zeros begins at one of the pieces. -/
theorem longestZeroRun_lt {ps : List Nat} (hps : ps ≠ []) :
    (longestZeroRun ps).1 < ps.length := by
  refine List.foldlRecOn (motive := fun run : Nat × Nat => run.1 < ps.length) _ _
    (List.length_pos_of_ne_nil hps) ?_
  intro run hrun i hi
  dsimp only
  split
  · exact List.mem_range.mp hi
  · exact hrun

/-- The eight pieces of an address. -/
theorem length_address6? {cs : List Char} {ps : List Nat} (h : address6? cs = some ps) :
    ps.length = 8 := by
  unfold address6? at h
  dsimp only at h
  split at h
  · rename_i pieces gap hread
    split at h
    · rename_i hle
      rw [← Option.some.inj h, List.length_append, List.length_append, List.length_replicate,
        List.length_take, List.length_drop]
      omega
    · cases h
  · rename_i pieces hread
    split at h
    · rename_i height
      rwa [← Option.some.inj h]
    · cases h
  · cases h

/-! ### Hosts -/

/-- A host as it is written. -/
inductive IsWrittenHost : List Char → Prop
  | name {cs : List Char} (ne_nil : cs ≠ []) (ascii : isAscii cs = true)
    (free : cs.all (!isForbiddenInDomain ·) = true) : IsWrittenHost cs
  | address6 {inner : List Char} (digits : ∀ c ∈ inner, c = ':' ∨ c ∈ Text.Hex.lowerDigits)
    (colons : inner.count ':' ≤ 8) : IsWrittenHost ('[' :: (inner ++ [']']))

theorem IsWrittenHost.ne_nil {cs : List Char} (h : IsWrittenHost cs) : cs ≠ [] := by
  cases h with
  | name ne_nil ascii free => exact ne_nil
  | address6 digits colons => exact List.cons_ne_nil _ _

/-- What holds of the characters that domains may have one by one holds of those of a name. -/
theorem of_name {P : Char → Prop}
    (h : ∀ n < 0x80, (!isForbiddenInDomain (Char.ofNat n)) = true → P (Char.ofNat n))
    {cs : List Char} (ascii : isAscii cs = true) (free : cs.all (!isForbiddenInDomain ·) = true) :
    ∀ c ∈ cs, P c := by
  intro c hc
  have hascii : c.toNat < 0x80 := by simpa using List.all_eq_true.mp ascii c hc
  exact of_ascii (P := fun c => (!isForbiddenInDomain c) = true → P c) h hascii
    (List.all_eq_true.mp free c hc)

theorem isWrittenHost_address4 (n : Nat) : IsWrittenHost (renderAddress4 n).toList := by
  refine .name ?_ (List.all_eq_true.mpr fun c hc => ?_) (List.all_eq_true.mpr fun c hc => ?_)
  · intro hnil
    have hlength := congrArg List.length hnil
    simp [renderAddress4] at hlength
  · rcases mem_renderAddress4 hc with rfl | hc
    · rfl
    · exact decide_eq_true (toNat_lt_of_isDigit hc)
  · rcases mem_renderAddress4 hc with rfl | hc
    · rfl
    · exact of_isDigit (P := fun c => (!isForbiddenInDomain c) = true) (by decide) hc

theorem isWrittenHost_address6 {ps : List Nat} (hps : ps.length = 8) :
    IsWrittenHost (renderAddress6 ps).toList := by
  unfold renderAddress6
  dsimp only
  split
  · have hwritten : ("[" ++ joinPieces ps ++ "]").toList =
        '[' :: ((joinPieces ps).toList ++ [']']) := by
      simp
    rw [hwritten]
    refine .address6 (fun c => mem_joinPieces) ?_
    have hcount := count_joinPieces_le ps
    omega
  · rename_i hsize
    have hstart := longestZeroRun_lt (List.ne_nil_of_length_pos (by omega : 0 < ps.length))
    have hwritten : ∀ before behind : String, ("[" ++ before ++ "::" ++ behind ++ "]").toList =
        '[' :: (before.toList ++ ':' :: ':' :: behind.toList ++ [']']) := by
      simp
    rw [hwritten]
    refine .address6 (fun c hc => ?_) ?_
    · rcases List.mem_append.mp hc with hc | hc
      · exact mem_joinPieces hc
      · rcases List.mem_cons.mp hc with rfl | hc
        · exact .inl rfl
        · rcases List.mem_cons.mp hc with rfl | hc
          · exact .inl rfl
          · exact mem_joinPieces hc
    · -- The two colons stand for two pieces or more, so they are not too many.
      have hbefore := count_joinPieces_le (ps.take (longestZeroRun ps).1)
      have hbehind := count_joinPieces_le (ps.drop ((longestZeroRun ps).1 + (longestZeroRun ps).2))
      rw [List.length_take] at hbefore
      rw [List.length_drop] at hbehind
      rw [List.count_append, List.count_cons_self, List.count_cons_self]
      omega

theorem isWrittenHost_of_parseHost {cs : List Char} {host : String}
    (h : parseHost .special cs = .ok host) : IsWrittenHost host.toList := by
  unfold parseHost at h
  split at h
  · -- in brackets
    split at h
    · cases h
    · split at h
      · rename_i pieces hpieces
        rw [← Except.ok.inj h]
        exact isWrittenHost_address6 (length_address6? hpieces)
      · cases h
  · rw [if_neg (by decide)] at h
    split at h
    · cases h
    · cases h
    · rename_i domain hempty hdomain
      split at h
      · split at h
        · rw [← Except.ok.inj h]
          exact isWrittenHost_address4 _
        · cases h
      · obtain ⟨text, -, hascii⟩ := Option.bind_eq_some_iff.mp hdomain
        obtain ⟨hascii, hfree⟩ := of_domainToAscii? hascii
        rw [← Except.ok.inj h, String.toList_ofList]
        exact .name hempty hascii hfree

end RemoteFiles.Url
