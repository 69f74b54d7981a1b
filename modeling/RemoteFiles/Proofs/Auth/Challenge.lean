import RemoteFiles.Proofs.Auth.Directives

/-!
# Challenges and their texts

A challenge keeps its text without the blanks at either end.  `Challenge.parse_raw` says that
this text reads as the same challenge again, and so two challenges that were read and have the
same text are the same (`Challenge.eq_of_raw_eq`): scheme and directives add nothing to it.
-/

namespace RemoteFiles

namespace Text

/-- Trimming leaves no blank in front. -/
theorem isBlank_head_trim {cs rest : List Char} {c : Char} (h : trim cs = c :: rest) :
    isBlank c = false := by
  have hprefix : trim cs <+: cs.dropWhile isBlank := by
    rw [trim, trimEnd, ← List.reverse_suffix, List.reverse_reverse]
    exact List.dropWhile_suffix isBlank
  rw [h] at hprefix
  obtain ⟨more, hmore⟩ := hprefix
  have hne : cs.dropWhile isBlank ≠ [] := by
    rw [← hmore]
    exact List.cons_ne_nil _ _
  have hhead := List.head_dropWhile_not isBlank hne
  simpa only [← hmore, List.cons_append, List.head_cons] using hhead

/-- Trimming leaves no blank at the end. -/
theorem isBlank_getLast_trim {cs : List Char} {c : Char} (h : (trim cs).getLast? = some c) :
    isBlank c = false := by
  rw [trim, trimEnd, List.getLast?_reverse] at h
  have hne : (cs.dropWhile isBlank).reverse.dropWhile isBlank ≠ [] := by
    intro hnil
    rw [hnil] at h
    cases h
  have hhead := List.head_dropWhile_not isBlank hne
  rw [List.head?_eq_some_head hne, Option.some_inj] at h
  rwa [h] at hhead

/-- What was trimmed is trimmed to itself. -/
theorem trim_trim (cs : List Char) : trim (trim cs) = trim cs := by
  cases h : trim cs with
  | nil => rfl
  | cons c rest =>
    obtain ⟨last, hlast⟩ : ∃ last, (c :: rest).getLast? = some last :=
      ⟨_, List.getLast?_eq_getLast_of_ne_nil (List.cons_ne_nil c rest)⟩
    have hend : isBlank last = false := isBlank_getLast_trim (h ▸ hlast)
    exact Auth.trim_eq_self (isBlank_head_trim h) ⟨last, hlast, hend⟩

end Text

namespace Auth.Challenge

open RemoteFiles.Text (trim trim_trim)

/-- The text of a challenge that was read is the text without the blanks around it. -/
theorem raw_of_parse {text : String} {ch : Challenge} (h : parse text = .ok ch) :
    ch.raw.toList = trim text.toList := by
  rw [parse] at h
  split at h
  · cases h
  · cases h
    exact String.toList_ofList

theorem parse_congr {text text' : String} (h : trim text.toList = trim text'.toList) :
    parse text = parse text' := by
  rw [parse, parse, h]

/-- The text of a challenge reads as that challenge. -/
theorem parse_raw {text : String} {ch : Challenge} (h : parse text = .ok ch) :
    parse ch.raw = .ok ch := by
  have htrim : trim ch.raw.toList = trim text.toList := by
    rw [raw_of_parse h, trim_trim]
  rw [parse_congr htrim, h]

theorem parse_basic : parse basic.raw = .ok basic := by
  have htrim : trim basic.raw.toList = 'B' :: "asic".toList := by decide
  rw [parse, htrim]
  show Except.ok (Challenge.mk _ _ (Auth.directives [])) = _
  rw [directives_nil]
  decide

theorem eq_of_raw_eq {ch ch' : Challenge} (h : parse ch.raw = .ok ch)
    (h' : parse ch'.raw = .ok ch') (hraw : ch.raw = ch'.raw) : ch = ch' := by
  rw [hraw, h', Except.ok.injEq] at h
  exact h.symm

end Auth.Challenge

end RemoteFiles
