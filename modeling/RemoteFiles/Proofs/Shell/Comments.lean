import RemoteFiles.Proofs.Shell.Commands
import Mathlib.Data.List.TakeWhile

/-!
# Comments

The text of a comment is cut into words like any other before its first word shows that it is one.
So a quote in it, such as an apostrophe, is read as the beginning of a quotation, and if that is
never closed the line is refused (`comment_ignored_not`).  `comment_ignored_iff` says that this is
the only way in which a comment can fail to be passed over.

`IsClosed` says of a text that every quote that is opened in it is closed again, by what a text is
made of; `isSome_go_iff` says that a text has words exactly if it is so.
-/

namespace RemoteFiles.Shell

open RemoteFiles.Text (isBlank)

/-! ### Closed quotations -/

/-- What can stand between double quotes: a double quote has a backslash before it, and a backslash
has a character behind it. -/
inductive IsQuotable : List Char → Prop
  | nil : IsQuotable []
  | escaped (c : Char) {cs} (rest : IsQuotable cs) : IsQuotable ('\\' :: c :: cs)
  | plain {c cs} (hbackslash : c ≠ '\\') (hquote : c ≠ '"') (rest : IsQuotable cs) :
      IsQuotable (c :: cs)

/-- Every quote that is opened in the text is closed again.  A quote behind a backslash opens
nothing, and a backslash at the end of the text stands for nothing. -/
inductive IsClosed : List Char → Prop
  | nil : IsClosed []
  | lone : IsClosed ['\\']
  | escaped (c : Char) {cs} (rest : IsClosed cs) : IsClosed ('\\' :: c :: cs)
  | plain {c cs} (hbackslash : c ≠ '\\') (hdouble : c ≠ '"') (hsingle : c ≠ '\'')
      (rest : IsClosed cs) : IsClosed (c :: cs)
  | single {body cs} (inside : '\'' ∉ body) (rest : IsClosed cs) :
      IsClosed ('\'' :: (body ++ '\'' :: cs))
  | double {body cs} (inside : IsQuotable body) (rest : IsClosed cs) :
      IsClosed ('"' :: (body ++ '"' :: cs))

/-- What may follow under a way of quoting: between quotes, the closing one has to come first. -/
def Quoting.IsClosedBy : Quoting → List Char → Prop
  | .bare, cs => IsClosed cs
  | .single, cs => ∃ body rest, cs = body ++ '\'' :: rest ∧ '\'' ∉ body ∧ IsClosed rest
  | .double, cs => ∃ body rest, cs = body ++ '"' :: rest ∧ IsQuotable body ∧ IsClosed rest

/-- What stands between double quotes is read up to the closing one. -/
theorem exists_go_double {body : List Char} (h : IsQuotable body) (w : Partial)
    (rest : List Char) :
    ∃ w', words.go .double w (body ++ '"' :: rest) = words.go .bare w' rest := by
  induction h generalizing w with
  | nil => exact ⟨w, go_double_close w rest⟩
  | escaped c _ ih =>
    obtain ⟨w', hw'⟩ := ih (w.extend [c])
    exact ⟨w', by rw [List.cons_append, List.cons_append, go_double_escaped, hw']⟩
  | plain hbackslash hquote _ ih =>
    obtain ⟨w', hw'⟩ := ih (w.extend [_])
    exact ⟨w', by rw [List.cons_append, go_double w _ hbackslash hquote, hw']⟩

/-- A text without open quotes has words, behind whatever word is in progress. -/
theorem IsClosed.isSome_go {cs : List Char} (h : IsClosed cs) (w : Partial) :
    (words.go .bare w cs).isSome = true := by
  induction h generalizing w with
  | nil | lone => rfl
  | escaped c _ ih => exact ih (w.push c)
  | @plain c cs hbackslash hdouble hsingle _ ih =>
    by_cases hblank : isBlank c = true
    · rw [go_blank w cs hblank, Option.isSome_map]
      exact ih none
    · rw [go_bare w cs (by simp [isBareChar, hblank, hbackslash, hdouble, hsingle])]
      exact ih _
  | single inside _ ih =>
    rw [go_single_open, go_single_chars inside (Partial.isSome_start w), go_single_close]
    exact ih _
  | double inside _ ih =>
    obtain ⟨w', hw'⟩ := exists_go_double inside w.start _
    rw [go_double_open, hw']
    exact ih w'

/-- A text that has words closes what it opens, and what was open before it. -/
theorem isClosedBy_of_isSome {q : Quoting} {w : Partial} {cs : List Char}
    (h : (words.go q w cs).isSome = true) : q.IsClosedBy cs := by
  fun_induction words.go q w cs with
  -- the end of the text
  | case1 => exact .nil
  | case2 | case3 => exact absurd h Bool.false_ne_true
  -- between single quotes
  | case4 w cs ih => exact ⟨[], cs, rfl, List.not_mem_nil, ih h⟩
  | case5 w c cs hc ih =>
    obtain ⟨body, rest, rfl, inside, hrest⟩ := ih h
    exact ⟨c :: body, rest, rfl, List.not_mem_cons_of_ne_of_not_mem (Ne.symm hc) inside, hrest⟩
  -- between double quotes
  | case6 w c cs ih =>
    obtain ⟨body, rest, rfl, inside, hrest⟩ := ih h
    exact ⟨'\\' :: c :: body, rest, rfl, .escaped c inside, hrest⟩
  | case7 w cs hlone ih =>
    -- a backslash that ends the text leaves the quotation open
    cases cs with
    | nil => exact absurd h Bool.false_ne_true
    | cons c cs => exact (hlone c cs rfl rfl).elim
  | case8 w cs _ _ ih => exact ⟨[], cs, rfl, .nil, ih h⟩
  | case9 w c cs _ hbackslash hquote ih =>
    obtain ⟨body, rest, rfl, inside, hrest⟩ := ih h
    exact ⟨c :: body, rest, rfl, .plain hbackslash hquote inside, hrest⟩
  -- outside quotes
  | case10 w c cs ih => exact .escaped c (ih h)
  | case11 w cs hlone ih =>
    cases cs with
    | nil => exact .lone
    | cons c cs => exact (hlone c cs rfl rfl).elim
  | case12 w cs _ _ ih =>
    obtain ⟨body, rest, rfl, inside, hrest⟩ := ih h
    exact .double inside hrest
  | case13 w cs _ _ _ ih =>
    obtain ⟨body, rest, rfl, inside, hrest⟩ := ih h
    exact .single inside hrest
  | case14 w c cs _ hbackslash hdouble hsingle _ ih =>
    rw [Option.isSome_map] at h
    exact .plain hbackslash hdouble hsingle (ih h)
  | case15 w c cs _ hbackslash hdouble hsingle _ ih =>
    exact .plain hbackslash hdouble hsingle (ih h)

/-- A text has words exactly if every quote that is opened in it is closed. -/
theorem isSome_go_iff (w : Partial) (cs : List Char) :
    (words.go .bare w cs).isSome = true ↔ IsClosed cs :=
  ⟨isClosedBy_of_isSome, fun h => h.isSome_go w⟩

theorem isSome_words_iff (line : String) : (words line).isSome = true ↔ IsClosed line.toList :=
  isSome_go_iff none line.toList

instance (cs : List Char) : Decidable (IsClosed cs) :=
  decidable_of_iff _ (isSome_go_iff none cs)

/-! ### The first word -/

namespace Partial

/-- The word in progress is the front of the first of the words. -/
def IsFrontOf (w : Partial) (ws : List String) : Prop :=
  ∃ word rest, ws = word :: rest ∧ (w.getD []).reverse <+: word.toList

theorem IsFrontOf.of_push {w : Partial} {c : Char} {ws : List String}
    (h : (w.push c).IsFrontOf ws) : w.IsFrontOf ws := by
  obtain ⟨word, rest, rfl, hfront⟩ := h
  refine ⟨word, rest, rfl, ?_⟩
  rw [push, Option.getD_some, List.reverse_cons] at hfront
  exact (List.prefix_append _ _).trans hfront

theorem isFrontOf_finish {w : Partial} (hw : w.isSome = true) (ws : List String) :
    w.IsFrontOf (w.finish ws) := by
  obtain ⟨cs, rfl⟩ := Option.isSome_iff_exists.mp hw
  exact ⟨_, ws, rfl, by simp⟩

end Partial

/-- What is read goes behind the word in progress, and that word is the first to be finished. -/
theorem isFrontOf_go {q : Quoting} {w : Partial} {cs : List Char} {ws : List String}
    (hw : w.isSome = true) (h : words.go q w cs = some ws) : w.IsFrontOf ws := by
  fun_induction words.go q w cs generalizing ws with
  | case1 w =>
    obtain rfl := Option.some.inj h
    exact Partial.isFrontOf_finish hw []
  | case2 | case3 => exact absurd h (Option.some_ne_none ws).symm
  -- a blank finishes the word
  | case14 w c cs _ _ _ _ _ ih =>
    obtain ⟨rest, -, rfl⟩ := Option.map_eq_some_iff.mp h
    exact Partial.isFrontOf_finish hw rest
  -- quotes and a lone backslash leave it as it is; what is left adds to it
  | case4 w cs ih | case8 w cs _ _ ih => exact ih hw h
  | case7 | case11 | case12 | case13 =>
    rename_i ih
    exact ih rfl h
  | case5 | case6 | case9 | case10 | case15 =>
    rename_i ih
    exact (ih rfl h).of_push

/-! ### Comments -/

/-- The first character of a line that is not blank begins a comment. -/
def BeginsComment (line : String) : Prop :=
  (line.toList.dropWhile isBlank).head? = some '#'

instance (line : String) : Decidable (BeginsComment line) := inferInstanceAs (Decidable (_ = _))

/-- If a comment has words, the first one begins as the comment does. -/
theorem isComment_of_words {line : String} {ws : List String} (h : BeginsComment line)
    (hwords : words line = some ws) :
    ∃ word args, ws = word :: args ∧ Command.IsComment word := by
  obtain ⟨text, htext⟩ : ∃ text, line.toList.dropWhile isBlank = '#' :: text :=
    List.head?_eq_some_iff.mp h
  have hsplit : line.toList = line.toList.takeWhile isBlank ++ '#' :: text := by
    rw [← htext, List.takeWhile_append_dropWhile]
  rw [words, hsplit, go_front fun c hc => List.mem_takeWhile_imp hc, go_bare none text (by decide)]
    at hwords
  obtain ⟨word, args, rfl, hfront⟩ := isFrontOf_go rfl hwords
  refine ⟨word, args, rfl, ?_⟩
  obtain ⟨rest, hword⟩ := hfront
  rw [Command.IsComment, ← hword]
  rfl

/-- **Comments**: a line that begins a comment is passed over exactly if every quote in it is
closed; otherwise it is refused for the quote that stays open.  It is never read as a command. -/
theorem comment_ignored_iff {line : String} (h : BeginsComment line) :
    (Command.ofLine? line = .ok none ↔ IsClosed line.toList) ∧
      (¬IsClosed line.toList → Command.ofLine? line = .error .unterminatedQuote) := by
  rw [← isSome_words_iff]
  cases hwords : words line with
  | none =>
    have hline : Command.ofLine? line = .error .unterminatedQuote := by rw [Command.ofLine?, hwords]
    rw [hline]
    refine ⟨iff_of_false ?_ Bool.false_ne_true, fun _ => rfl⟩
    intro hok
    cases hok
  | some ws =>
    have hnone := (Command.ofWords?_eq_none_iff ws).mpr (.inr (isComment_of_words h hwords))
    rw [ofLine?_of_words hwords, hnone]
    exact ⟨iff_of_true rfl rfl, fun hopen => absurd rfl hopen⟩

/-- A comment with quotes of both kinds, one of them behind a backslash. -/
theorem comment_ignored_iff_of_quotes :
    BeginsComment "\t# rm 'a\" b' \\' \"it's\"" ∧
      Command.ofLine? "\t# rm 'a\" b' \\' \"it's\"" = .ok none :=
  ⟨by decide, (comment_ignored_iff (by decide)).1.mpr (by decide)⟩

/-- An apostrophe in a comment is an open quote, and the comment is not passed over. -/
theorem comment_ignored_not :
    ¬∀ line : String, BeginsComment line → Command.ofLine? line = .ok none := by
  intro hall
  have hrefused : Command.ofLine? "# it's" = .error .unterminatedQuote := by decide
  have hignored := hall "# it's" (by decide)
  rw [hrefused] at hignored
  cases hignored

end RemoteFiles.Shell
