import RemoteFiles.Proofs.Text.Hex
import RemoteFiles.Toml.Quoted

/-!
# TOML strings read back

A string is written in one of four forms, and each of them is read as the string that it was
written for (`readString_render`).  Between double quotes nothing is asked of the characters,
because those that the form has no place for are escaped (`basicBody_escaped`,
`longBasicBody_escaped`).  Between single quotes there are no escapes: a string is only written so
if its characters may all stand there (`literalBody_append`, `longLiteralBody_append`).

Quotes at the end of a string of several lines stand right before those that close it.  The
reader finds them by the length of the whole run, so that no more than two of them may come last,
nor stand together anywhere else (`closes_or_continues`).
-/

namespace RemoteFiles.Toml

open RemoteFiles.Text.Hex (digit lowDigits digitValue?)

/-! ### Plain characters -/

theorem isPlain_of_needsEscape {c : Char} (hc : needsEscape c = false) (hbreak : c ≠ '\n') :
    isPlain c = true := by
  simpa [needsEscape, hbreak] using hc

theorem lineBreak?_plain {c : Char} (hc : isPlain c = true) (cs : List Char) :
    lineBreak? (c :: cs) = none := by
  unfold lineBreak?
  split
  · rename_i heq
    cases heq
    exact absurd hc (by decide)
  · rename_i heq
    cases heq
    exact absurd hc (by decide)
  · rfl

/-- A character that is no line break and needs no escape stands for itself, also where line
breaks do. -/
theorem lineBreak?_cons {c : Char} (hc : needsEscape c = false) (cs : List Char) :
    (c = '\n' ∧ lineBreak? (c :: cs) = some cs) ∨
      (isPlain c = true ∧ lineBreak? (c :: cs) = none) := by
  by_cases hbreak : c = '\n'
  · rw [hbreak]
    exact .inl ⟨rfl, rfl⟩
  · have hplain := isPlain_of_needsEscape hc hbreak
    exact .inr ⟨hplain, lineBreak?_plain hplain cs⟩

/-! ### Escapes -/

theorem digitValue?_toUpper (n : Nat) : digitValue? (digit n).toUpper = some (n % 16) := by
  have all : ∀ m < 16, digitValue? (Nat.digitChar m).toUpper = some m := by decide
  exact all (n % 16) (Nat.mod_lt n (by decide))

theorem hexNumber_lowDigits {n : Nat} (hn : n < 65536) (rest : List Char) :
    hexNumber 4 0 ((lowDigits 4 n).map Char.toUpper ++ rest) = some (n, rest) := by
  have hvalue : (((0 * 16 + n / 16 / 16 / 16 % 16) * 16 + n / 16 / 16 % 16) * 16 +
      n / 16 % 16) * 16 + n % 16 = n := by omega
  simp only [hexNumber, lowDigits, List.nil_append, List.cons_append, List.map_cons,
    List.map_nil, digitValue?_toUpper, hvalue]

theorem scalar?_toNat {c : Char} (hc : c.toNat < 0x80) : scalar? c.toNat = some c := by
  rw [scalar?, if_pos (Or.inl (by omega)), Char.ofNat_toNat]

/-- An escape is read as the character that it was written for, and it does not look like the end
of a line. -/
theorem escapeChar_reads {c : Char} (hc : c.toNat < 0x80) :
    ∃ e ds, escapeChar c = '\\' :: e :: ds ∧ isBlank e = false ∧ isPlain e = true ∧
      ∀ rest, escape (e :: (ds ++ rest)) = some (c, rest) := by
  unfold escapeChar
  split
  · exact ⟨'b', [], rfl, rfl, rfl, fun _ => rfl⟩
  · exact ⟨'t', [], rfl, rfl, rfl, fun _ => rfl⟩
  · exact ⟨'n', [], rfl, rfl, rfl, fun _ => rfl⟩
  · exact ⟨'f', [], rfl, rfl, rfl, fun _ => rfl⟩
  · exact ⟨'r', [], rfl, rfl, rfl, fun _ => rfl⟩
  · exact ⟨'"', [], rfl, rfl, rfl, fun _ => rfl⟩
  · exact ⟨'\\', [], rfl, rfl, rfl, fun _ => rfl⟩
  · refine ⟨'u', (lowDigits 4 c.toNat).map Char.toUpper, rfl, rfl, rfl, fun rest => ?_⟩
    have hnumber := hexNumber_lowDigits (n := c.toNat) (by omega) rest
    simp [escape, hnumber, scalar?_toNat hc]

theorem basicBody_escapeChar {c : Char} (hc : c.toNat < 0x80) (budget : Nat) (rest : List Char) :
    basicBody (budget + 1) (escapeChar c ++ rest) = prepend c (basicBody budget rest) := by
  obtain ⟨e, ds, hform, -, -, hread⟩ := escapeChar_reads hc
  simp [hform, basicBody, hread]

theorem longBasicBody_escapeChar {c : Char} (hc : c.toNat < 0x80) (budget : Nat)
    (rest : List Char) :
    longBasicBody (budget + 1) (escapeChar c ++ rest) = prepend c (longBasicBody budget rest) := by
  obtain ⟨e, ds, hform, hblank, hplain, hread⟩ := escapeChar_reads hc
  have hline : lineBreak? ((e :: (ds ++ rest)).dropWhile isBlank) = none := by
    rw [List.dropWhile_cons_of_neg (by simp [hblank])]
    exact lineBreak?_plain hplain _
  simp [hform, longBasicBody, hread, hline]

/-! ### Strings between double quotes -/

theorem toNat_lt_of_needsEscape {c : Char} (hc : needsEscape c = true) : c.toNat < 0x80 := by
  simp only [needsEscape, isPlain, Bool.and_eq_true, Bool.not_eq_true', Bool.or_eq_false_iff,
    Bool.and_eq_false_iff, decide_eq_false_iff_not, bne_eq_false_iff_eq] at hc
  omega

/-- How the next character of a string between double quotes is written. -/
theorem escaped_cons_cases (long : Bool) (run : Nat) (c : Char) (cs : List Char) :
    (c.toNat < 0x80 ∧ escaped long run (c :: cs) = escapeChar c ++ escaped long 0 cs) ∨
      (long = true ∧ c = '"' ∧ run < 2 ∧
        escaped long run (c :: cs) = '"' :: escaped long (run + 1) cs) ∨
      (long = true ∧ c = '\n' ∧ escaped long run (c :: cs) = '\n' :: escaped long 0 cs) ∨
      (c ≠ '"' ∧ c ≠ '\\' ∧ isPlain c = true ∧
        escaped long run (c :: cs) = c :: escaped long 0 cs) := by
  rw [escaped]
  split_ifs with hquote hshort hbreak hlong hescape
  · simp only [Bool.and_eq_true, decide_eq_true_eq] at hshort
    exact .inr (.inl ⟨hshort.1, hquote, hshort.2, by rw [hquote]⟩)
  · exact .inl ⟨by rw [hquote]; decide, rfl⟩
  · exact .inr (.inr (.inl ⟨hlong, hbreak, by rw [hbreak]⟩))
  · exact .inl ⟨by rw [hbreak]; decide, rfl⟩
  · refine .inl ⟨?_, rfl⟩
    rcases hescape with rfl | rfl | hescape
    · decide
    · decide
    · exact toNat_lt_of_needsEscape hescape
  · simp only [not_or, Bool.not_eq_true] at hescape
    exact .inr (.inr (.inr ⟨hquote, hescape.2.1, isPlain_of_needsEscape hescape.2.2 hbreak, rfl⟩))

theorem length_le_length_escaped (long : Bool) (run : Nat) (cs : List Char) :
    cs.length ≤ (escaped long run cs).length := by
  induction cs generalizing run with
  | nil => exact Nat.le_refl 0
  | cons c cs ih =>
    have hescape : c.toNat < 0x80 → 0 < (escapeChar c).length := by
      intro hc
      obtain ⟨e, ds, hform, -⟩ := escapeChar_reads hc
      simp [hform]
    have hzero := ih 0
    have hnext := ih (run + 1)
    rcases escaped_cons_cases long run c cs with ⟨hc, heq⟩ | ⟨-, -, -, heq⟩ | ⟨-, -, heq⟩ |
        ⟨-, -, -, heq⟩
    · have hpos := hescape hc
      rw [heq, List.length_append, List.length_cons]
      omega
    all_goals
      rw [heq, List.length_cons, List.length_cons]
      omega

theorem head?_escaped_ne_quote (run : Nat) (cs : List Char) :
    (escaped false run cs).head? ≠ some '"' := by
  cases cs with
  | nil => rw [escaped]; decide
  | cons c cs =>
    rcases escaped_cons_cases false run c cs with ⟨hc, heq⟩ | ⟨h, -⟩ | ⟨h, -⟩ | ⟨hquote, -, -, heq⟩
    · obtain ⟨e, ds, hform, -⟩ := escapeChar_reads hc
      simp [heq, hform]
    · cases h
    · cases h
    · simpa [heq] using hquote

/-- On one line a string is read up to the quote that closes it. -/
theorem basicBody_escaped {budget : Nat} (run : Nat) {cs : List Char} (rest : List Char)
    (hbudget : cs.length < budget) :
    basicBody budget (escaped false run cs ++ '"' :: rest) = some (cs, rest) := by
  induction cs generalizing budget run with
  | nil =>
    obtain ⟨budget, rfl⟩ := Nat.exists_eq_add_of_lt hbudget
    simp [escaped, basicBody]
  | cons c cs ih =>
    obtain ⟨budget, rfl⟩ : ∃ n, budget = n + 1 := ⟨budget - 1, by omega⟩
    have hrest := ih 0 (by simpa using hbudget)
    rcases escaped_cons_cases false run c cs with ⟨hc, heq⟩ | ⟨h, -⟩ | ⟨h, -⟩ |
        ⟨hquote, hbackslash, hplain, heq⟩
    · rw [heq, List.append_assoc, basicBody_escapeChar hc, hrest]
      rfl
    · cases h
    · cases h
    · simp [heq, basicBody, hquote, hbackslash, hplain, hrest, prepend]

/-! ### Quotes in strings of several lines -/

/-- How many quotes stand at the head of a text. -/
def leadingQuotes (quote : Char) (cs : List Char) : Nat :=
  (cs.takeWhile (· == quote)).length

theorem leadingQuotes_cons_self (quote : Char) (cs : List Char) :
    leadingQuotes quote (quote :: cs) = leadingQuotes quote cs + 1 := by
  simp [leadingQuotes]

theorem leadingQuotes_cons_of_ne {quote c : Char} (hc : c ≠ quote) (cs : List Char) :
    leadingQuotes quote (c :: cs) = 0 := by
  simp [leadingQuotes, hc]

theorem leadingQuotes_replicate_append (quote : Char) (n : Nat) {rest : List Char}
    (hrest : rest.head? ≠ some quote) :
    leadingQuotes quote (List.replicate n quote ++ rest) = n := by
  induction n with
  | zero =>
    cases rest with
    | nil => rfl
    | cons c rest =>
      exact leadingQuotes_cons_of_ne (by simpa using hrest) rest
  | succ n ih => rw [List.replicate_succ, List.cons_append, leadingQuotes_cons_self, ih]

/-- The quotes that close a string of several lines, with no other one behind them. -/
theorem leadingQuotes_close {quote : Char} {rest : List Char} (hrest : rest.head? ≠ some quote) :
    leadingQuotes quote (quote :: quote :: quote :: rest) = 3 :=
  leadingQuotes_replicate_append quote 3 hrest

/-- A text whose quotes at its head are not the whole of it hides the quotes behind it. -/
theorem leadingQuotes_append_of_ne {quote c : Char} {cs : List Char} (hmem : c ∈ cs)
    (hc : c ≠ quote) (rest : List Char) :
    leadingQuotes quote (cs ++ rest) = leadingQuotes quote cs := by
  induction cs with
  | nil => cases hmem
  | cons d cs ih =>
    by_cases hd : d = quote
    · have hmem : c ∈ cs := (List.mem_cons.mp hmem).resolve_left (hd ▸ hc)
      rw [hd, List.cons_append, leadingQuotes_cons_self, leadingQuotes_cons_self, ih hmem]
    · rw [List.cons_append, leadingQuotes_cons_of_ne hd, leadingQuotes_cons_of_ne hd]

/-- Before the quotes that close a string stand quotes only, and then the whole run is taken apart
again, or something else, and then the run is too short to close the string. -/
theorem closes_or_continues {quote : Char} {cs rest : List Char}
    (hcs : leadingQuotes quote cs ≤ 2) (hrest : rest.head? ≠ some quote) :
    (cs = List.replicate cs.length quote ∧
        ¬ leadingQuotes quote (cs ++ (List.replicate 3 quote ++ rest)) < 3 ∧
        closing quote (leadingQuotes quote (cs ++ (List.replicate 3 quote ++ rest)))
          (cs ++ (List.replicate 3 quote ++ rest)) = (cs, rest)) ∨
      ((∃ c ∈ cs, c ≠ quote) ∧
        leadingQuotes quote (cs ++ (List.replicate 3 quote ++ rest)) < 3) := by
  by_cases hall : ∀ c ∈ cs, c = quote
  · have hcs' := List.eq_replicate_of_mem hall
    have hlen : cs.length ≤ 2 := by
      rw [hcs', ← List.append_nil (List.replicate _ _),
        leadingQuotes_replicate_append quote _ (by simp)] at hcs
      exact hcs
    have hjoin : cs ++ (List.replicate 3 quote ++ rest) =
        List.replicate (cs.length + 3) quote ++ rest := by
      rw [← List.replicate_append_replicate, List.append_assoc, ← hcs']
    have hrun : leadingQuotes quote (cs ++ (List.replicate 3 quote ++ rest)) = cs.length + 3 := by
      rw [hjoin, leadingQuotes_replicate_append quote _ hrest]
    refine .inl ⟨hcs', by omega, ?_⟩
    rw [hrun, closing, Nat.add_sub_cancel, Nat.min_eq_left hlen, ← hcs', hjoin,
      List.drop_left' (List.length_replicate)]
  · simp only [not_forall] at hall
    obtain ⟨c, hmem, hc⟩ := hall
    refine .inr ⟨⟨c, hmem, hc⟩, ?_⟩
    rw [leadingQuotes_append_of_ne hmem hc]
    omega

/-! ### Strings of several lines between double quotes -/

theorem leadingQuotes_escaped {run : Nat} (hrun : run ≤ 2) (cs : List Char) :
    run + leadingQuotes '"' (escaped true run cs) ≤ 2 := by
  induction cs generalizing run with
  | nil => exact hrun
  | cons c cs ih =>
    rcases escaped_cons_cases true run c cs with ⟨hc, heq⟩ | ⟨-, -, hshort, heq⟩ | ⟨-, -, heq⟩ |
        ⟨hquote, -, -, heq⟩
    · obtain ⟨e, ds, hform, -⟩ := escapeChar_reads hc
      rw [heq, hform, List.cons_append, leadingQuotes_cons_of_ne (by decide)]
      exact hrun
    · have hnext := ih (show run + 1 ≤ 2 by omega)
      rw [heq, leadingQuotes_cons_self]
      omega
    · rw [heq, leadingQuotes_cons_of_ne (by decide)]
      exact hrun
    · rw [heq, leadingQuotes_cons_of_ne hquote]
      exact hrun

/-- What is written as quotes alone is written as it is. -/
theorem eq_of_escaped_eq_replicate {run n : Nat} {cs : List Char}
    (h : escaped true run cs = List.replicate n '"') : escaped true run cs = cs := by
  induction cs generalizing run n with
  | nil => rw [escaped]
  | cons c cs ih =>
    have hquotes : ∀ d ∈ escaped true run (c :: cs), d = '"' := by
      rw [h]
      exact fun d hd => List.eq_of_mem_replicate hd
    rcases escaped_cons_cases true run c cs with ⟨hc, heq⟩ | ⟨-, hquote, -, heq⟩ | ⟨-, -, heq⟩ |
        ⟨hquote, -, -, heq⟩
    · obtain ⟨e, ds, hform, -⟩ := escapeChar_reads hc
      exact absurd (hquotes '\\' (by simp [heq, hform])) (by decide)
    · have hrest : escaped true (run + 1) cs =
          List.replicate (escaped true (run + 1) cs).length '"' :=
        List.eq_replicate_of_mem fun d hd => hquotes d (by simp [heq, hd])
      rw [heq, ih hrest, hquote]
    · exact absurd (hquotes '\n' (by simp [heq])) (by decide)
    · exact absurd (hquotes c (by simp [heq])) hquote

theorem longBasicBody_quote (budget : Nat) (cs : List Char) :
    longBasicBody (budget + 1) ('"' :: cs) =
      if leadingQuotes '"' ('"' :: cs) < 3 then prepend '"' (longBasicBody budget cs)
      else some (closing '"' (leadingQuotes '"' ('"' :: cs)) ('"' :: cs)) := by
  rw [longBasicBody, if_pos rfl]
  rfl

/-- On several lines a string is read up to the last three quotes. -/
theorem longBasicBody_escaped {budget run : Nat} {cs rest : List Char} (hrun : run ≤ 2)
    (hrest : rest.head? ≠ some '"') (hbudget : cs.length < budget) :
    longBasicBody budget (escaped true run cs ++ (List.replicate 3 '"' ++ rest)) =
      some (cs, rest) := by
  induction cs generalizing budget run with
  | nil =>
    obtain ⟨budget, rfl⟩ : ∃ n, budget = n + 1 := ⟨budget - 1, by omega⟩
    show longBasicBody (budget + 1) ('"' :: '"' :: '"' :: rest) = _
    rw [longBasicBody_quote, leadingQuotes_close hrest]
    rfl
  | cons c cs ih =>
    obtain ⟨budget, rfl⟩ : ∃ n, budget = n + 1 := ⟨budget - 1, by omega⟩
    have hlen : cs.length < budget := by simpa using hbudget
    have hnext := ih (Nat.zero_le 2) hlen
    rcases escaped_cons_cases true run c cs with ⟨hc, heq⟩ | ⟨-, hquote, hshort, heq⟩ |
        ⟨-, hbreak, heq⟩ | ⟨hquote, hbackslash, hplain, heq⟩
    · rw [heq, List.append_assoc, longBasicBody_escapeChar hc, hnext]
      rfl
    · have hlead : leadingQuotes '"' (escaped true run (c :: cs)) ≤ 2 :=
        Nat.le_of_add_left_le (leadingQuotes_escaped hrun (c :: cs))
      rcases closes_or_continues hlead hrest with
        ⟨hall, hclosed, hclosing⟩ | ⟨-, hopen⟩
      · have hsame := eq_of_escaped_eq_replicate hall
        rw [heq, List.cons_append] at hclosed hclosing
        rw [heq, List.cons_append, longBasicBody_quote, if_neg hclosed, hclosing, ← heq, hsame]
      · rw [heq, List.cons_append] at hopen
        rw [heq, List.cons_append, longBasicBody_quote, if_pos hopen,
          ih (show run + 1 ≤ 2 by omega) hlen, hquote]
        rfl
    · rw [heq, List.cons_append, longBasicBody, if_neg (by decide), if_neg (by decide)]
      simp only [lineBreak?, hnext, hbreak]
      rfl
    · rw [heq, List.cons_append, longBasicBody, if_neg hquote, if_neg hbackslash,
        lineBreak?_plain hplain]
      simp only [hplain, if_true, hnext]
      rfl

/-! ### Strings between single quotes -/

theorem literalBody_append {cs : List Char} (rest : List Char)
    (hplain : ∀ c ∈ cs, isPlain c = true) (hquote : '\'' ∉ cs) :
    literalBody (cs ++ '\'' :: rest) = some (cs, rest) := by
  induction cs with
  | nil => simp [literalBody]
  | cons c cs ih =>
    obtain ⟨hc, hcs⟩ := List.forall_mem_cons.mp hplain
    rw [List.mem_cons, not_or] at hquote
    rw [List.cons_append, literalBody, if_neg (Ne.symm hquote.1), if_pos hc, ih hcs hquote.2]
    rfl

theorem add_leadingQuotes_le_longestRun (quote : Char) (run : Nat) (cs : List Char) :
    run + leadingQuotes quote cs ≤ longestRun quote run cs := by
  induction cs generalizing run with
  | nil => exact Nat.le_refl run
  | cons c cs ih =>
    rw [longestRun]
    split
    · rename_i hc
      have hnext := ih (run + 1)
      rw [hc, leadingQuotes_cons_self]
      omega
    · rename_i hc
      rw [leadingQuotes_cons_of_ne hc]
      exact Nat.le_max_left run _

theorem longestRun_mono (quote : Char) {run run' : Nat} (h : run ≤ run') (cs : List Char) :
    longestRun quote run cs ≤ longestRun quote run' cs := by
  induction cs generalizing run run' with
  | nil => exact h
  | cons c cs ih =>
    rw [longestRun, longestRun]
    split
    · exact ih (Nat.succ_le_succ h)
    · exact max_le_max_right _ h

theorem longestRun_le_cons (quote : Char) (run : Nat) (c : Char) (cs : List Char) :
    longestRun quote 0 cs ≤ longestRun quote run (c :: cs) := by
  rw [longestRun]
  split
  · exact longestRun_mono quote (Nat.zero_le _) cs
  · exact Nat.le_max_right run _

theorem notMem_of_longestRun {quote : Char} {cs : List Char} (h : longestRun quote 0 cs = 0) :
    quote ∉ cs := by
  induction cs with
  | nil => exact List.not_mem_nil
  | cons c cs ih =>
    have hlead := add_leadingQuotes_le_longestRun quote 0 (c :: cs)
    have htail := longestRun_le_cons quote 0 c cs
    rw [List.mem_cons, not_or]
    refine ⟨?_, ih (by omega)⟩
    rintro rfl
    rw [leadingQuotes_cons_self] at hlead
    omega

theorem longLiteralBody_quote (budget : Nat) (cs : List Char) :
    longLiteralBody (budget + 1) ('\'' :: cs) =
      if leadingQuotes '\'' ('\'' :: cs) < 3 then prepend '\'' (longLiteralBody budget cs)
      else some (closing '\'' (leadingQuotes '\'' ('\'' :: cs)) ('\'' :: cs)) := by
  rw [longLiteralBody, if_pos rfl]
  rfl

theorem longLiteralBody_append {budget : Nat} {cs rest : List Char}
    (hplain : ∀ c ∈ cs, needsEscape c = false) (hruns : longestRun '\'' 0 cs ≤ 2)
    (hrest : rest.head? ≠ some '\'') (hbudget : cs.length < budget) :
    longLiteralBody budget (cs ++ (List.replicate 3 '\'' ++ rest)) = some (cs, rest) := by
  induction cs generalizing budget with
  | nil =>
    obtain ⟨budget, rfl⟩ : ∃ n, budget = n + 1 := ⟨budget - 1, by omega⟩
    show longLiteralBody (budget + 1) ('\'' :: '\'' :: '\'' :: rest) = _
    rw [longLiteralBody_quote, leadingQuotes_close hrest]
    rfl
  | cons c cs ih =>
    obtain ⟨budget, rfl⟩ : ∃ n, budget = n + 1 := ⟨budget - 1, by omega⟩
    obtain ⟨hc, hcs⟩ := List.forall_mem_cons.mp hplain
    have hnext := ih hcs ((longestRun_le_cons '\'' 0 c cs).trans hruns) (by simpa using hbudget)
    by_cases hquote : c = '\''
    · have hlead : leadingQuotes '\'' (c :: cs) ≤ 2 :=
        (Nat.le_add_left _ 0).trans
          ((add_leadingQuotes_le_longestRun '\'' 0 (c :: cs)).trans hruns)
      rcases closes_or_continues hlead hrest with
        ⟨-, hclosed, hclosing⟩ | ⟨-, hopen⟩
      · rw [List.cons_append, hquote] at hclosed hclosing
        rw [List.cons_append, hquote, longLiteralBody_quote, if_neg hclosed, hclosing]
      · rw [List.cons_append, hquote] at hopen
        rw [List.cons_append, hquote, longLiteralBody_quote, if_pos hopen, hnext]
        rfl
    · rw [List.cons_append, longLiteralBody, if_neg hquote]
      rcases lineBreak?_cons hc (cs ++ (List.replicate 3 '\'' ++ rest)) with
        ⟨hbreak, hline⟩ | ⟨hplain, hline⟩
      · simp only [hline, hnext]
        rw [hbreak]
        rfl
      · simp only [hline, hplain, if_true, hnext]
        rfl

/-! ### Whole strings -/

/-- A string on one line does not look like one of several lines. -/
theorem isPrefixOf_replicate_eq_false {quote : Char} {cs rest : List Char}
    (hcs : cs.head? ≠ some quote) (hrest : rest.head? ≠ some quote) :
    (List.replicate 3 quote).isPrefixOf (quote :: (cs ++ quote :: rest)) = false := by
  cases cs with
  | nil =>
    cases rest with
    | nil => simp [List.replicate]
    | cons c rest =>
      have hc : c ≠ quote := by simpa using hrest
      simp [List.replicate, List.isPrefixOf, beq_false_of_ne hc.symm]
  | cons c cs =>
    have hc : c ≠ quote := by simpa using hcs
    simp [List.replicate, List.isPrefixOf, beq_false_of_ne hc.symm]

section

variable {rest : List Char}

theorem readString_basic (cs : List Char) (hrest : rest.head? ≠ some '"') :
    readString ('"' :: (escaped false 0 cs ++ '"' :: rest)) = some (cs, rest) := by
  have hdouble := isPrefixOf_replicate_eq_false (head?_escaped_ne_quote 0 cs) hrest
  have hlen := length_le_length_escaped false 0 cs
  simp only [readString, hdouble, Bool.false_eq_true, if_false]
  rw [if_neg (by simp [List.replicate])]
  refine basicBody_escaped 0 rest ?_
  rw [List.length_cons, List.length_append]
  omega

theorem readString_literal {cs : List Char} (hplain : ∀ c ∈ cs, isPlain c = true)
    (hquote : '\'' ∉ cs) (hrest : rest.head? ≠ some '\'') :
    readString ('\'' :: (cs ++ '\'' :: rest)) = some (cs, rest) := by
  have hhead : cs.head? ≠ some '\'' := fun h => hquote (List.mem_of_mem_head? h)
  have hsingle := isPrefixOf_replicate_eq_false hhead hrest
  simp only [readString, hsingle, Bool.false_eq_true, if_false]
  rw [if_neg (by simp [List.replicate])]
  exact literalBody_append rest hplain hquote

theorem readString_tripleDouble (cs : List Char) :
    readString (List.replicate 3 '"' ++ cs) = longBasicBody (cs.length + 3) (dropLineBreak cs) :=
  rfl

theorem readString_tripleSingle (cs : List Char) :
    readString (List.replicate 3 '\'' ++ cs) =
      longLiteralBody (cs.length + 3) (dropLineBreak cs) :=
  rfl

/-- The line break that is put in front of a string with line breaks is taken for no part of it.
A string without any does not begin with one, also where `body` is how it is written. -/
theorem dropLineBreak_lead {cs body : List Char}
    (hbody : '\n' ∉ cs → ∃ c tail, body = c :: tail ∧ isPlain c = true) :
    dropLineBreak ((if cs.contains '\n' then ['\n'] else []) ++ body) = body := by
  by_cases hbreak : '\n' ∈ cs
  · rw [if_pos (by simpa using hbreak)]
    rfl
  · obtain ⟨c, tail, hform, hc⟩ := hbody hbreak
    rw [if_neg (by simpa using hbreak), List.nil_append, hform, dropLineBreak,
      lineBreak?_plain hc]
    rfl

theorem escaped_starts_plain {cs : List Char} (hbreak : '\n' ∉ cs) :
    ∃ c tail, escaped true 0 cs ++ (List.replicate 3 '"' ++ rest) = c :: tail ∧
      isPlain c = true := by
  cases cs with
  | nil => exact ⟨'"', '"' :: '"' :: rest, rfl, rfl⟩
  | cons c cs =>
    rcases escaped_cons_cases true 0 c cs with ⟨hc, heq⟩ | ⟨-, -, -, heq⟩ | ⟨-, hc, -⟩ |
        ⟨-, -, hplain, heq⟩
    · obtain ⟨e, ds, hform, -⟩ := escapeChar_reads hc
      exact ⟨'\\', _, by rw [heq, hform]; rfl, rfl⟩
    · exact ⟨'"', _, by rw [heq]; rfl, rfl⟩
    · exact absurd (hc ▸ List.mem_cons_self) hbreak
    · exact ⟨c, _, by rw [heq]; rfl, hplain⟩

theorem literal_starts_plain {cs : List Char} (hplain : ∀ c ∈ cs, needsEscape c = false)
    (hbreak : '\n' ∉ cs) :
    ∃ c tail, cs ++ (List.replicate 3 '\'' ++ rest) = c :: tail ∧ isPlain c = true := by
  cases cs with
  | nil => exact ⟨'\'', '\'' :: '\'' :: rest, rfl, rfl⟩
  | cons c cs =>
    have hc : c ≠ '\n' := fun h => hbreak (h ▸ List.mem_cons_self)
    exact ⟨c, _, rfl, isPlain_of_needsEscape (hplain c List.mem_cons_self) hc⟩

theorem readString_longBasic (cs : List Char) (hrest : rest.head? ≠ some '"') :
    readString (List.replicate 3 '"' ++ ((if cs.contains '\n' then ['\n'] else []) ++
      (escaped true 0 cs ++ (List.replicate 3 '"' ++ rest)))) = some (cs, rest) := by
  have hlen := length_le_length_escaped true 0 cs
  rw [readString_tripleDouble, dropLineBreak_lead escaped_starts_plain]
  refine longBasicBody_escaped (Nat.zero_le 2) hrest ?_
  simp only [List.length_append]
  omega

theorem readString_longLiteral {cs : List Char} (hplain : ∀ c ∈ cs, needsEscape c = false)
    (hruns : longestRun '\'' 0 cs ≤ 2) (hrest : rest.head? ≠ some '\'') :
    readString (List.replicate 3 '\'' ++ ((if cs.contains '\n' then ['\n'] else []) ++
      (cs ++ (List.replicate 3 '\'' ++ rest)))) = some (cs, rest) := by
  rw [readString_tripleSingle, dropLineBreak_lead (literal_starts_plain hplain)]
  refine longLiteralBody_append hplain hruns hrest ?_
  simp only [List.length_append]
  omega

end

/-- The form of a string between single quotes is only taken where it can be read back. -/
theorem render_cases (s : String) :
    render s = '"' :: (escaped false 0 s.toList ++ ['"']) ∨
      ((∀ c ∈ s.toList, isPlain c = true) ∧ '\'' ∉ s.toList ∧
        render s = '\'' :: (s.toList ++ ['\''])) ∨
      render s = List.replicate 3 '"' ++ (if s.toList.contains '\n' then ['\n'] else []) ++
        escaped true 0 s.toList ++ List.replicate 3 '"' ∨
      ((∀ c ∈ s.toList, needsEscape c = false) ∧ longestRun '\'' 0 s.toList ≤ 2 ∧
        render s = List.replicate 3 '\'' ++ (if s.toList.contains '\n' then ['\n'] else []) ++
          s.toList ++ List.replicate 3 '\'') := by
  simp only [render]
  -- Whether there is a line break is asked twice; only the second question picks the form.
  generalize (if s.toList.contains '\n' then ['\n'] else []) = lead
  split_ifs with hplain hliteral hlong hlongLiteral hbreak
  · exact .inl rfl
  · simp only [Bool.and_eq_true, Bool.not_eq_true', beq_iff_eq, List.any_eq_false,
      Bool.not_eq_true] at hliteral
    obtain ⟨⟨hcontrols, hsingle⟩, hbreak⟩ := hliteral
    have hbreak : '\n' ∉ s.toList := by simpa using hbreak
    refine .inr (.inl ⟨fun c hc => ?_, notMem_of_longestRun hsingle, rfl⟩)
    exact isPlain_of_needsEscape (hcontrols c hc) (fun h => hbreak (h ▸ hc))
  · exact .inr (.inr (.inl rfl))
  · simp only [Bool.and_eq_true, Bool.not_eq_true', List.any_eq_false, Bool.not_eq_true,
      decide_eq_true_eq] at hlongLiteral
    exact .inr (.inr (.inr ⟨hlongLiteral.1, hlongLiteral.2, rfl⟩))
  · exact .inr (.inr (.inl rfl))
  · exact .inl rfl

/-- A string that was written is read as itself, unless a quote stands right behind it. -/
theorem readString_render (s : String) {rest : List Char} (hdouble : rest.head? ≠ some '"')
    (hsingle : rest.head? ≠ some '\'') :
    readString (render s ++ rest) = some (s.toList, rest) := by
  rcases render_cases s with heq | ⟨hplain, hquote, heq⟩ | heq | ⟨hplain, hruns, heq⟩
  · simpa [heq] using readString_basic s.toList hdouble
  · simpa [heq] using readString_literal hplain hquote hsingle
  · rw [heq]
    simpa only [List.append_assoc] using readString_longBasic s.toList hdouble
  · rw [heq]
    simpa only [List.append_assoc] using readString_longLiteral hplain hruns hsingle

end RemoteFiles.Toml
