import RemoteFiles.Proofs.Auth.Counts
import Mathlib.Data.List.TakeWhile

/-!
# Spellings of a challenge

Blanks around a challenge do not count, and they are all that does not: the texts that one challenge
is read from are its own text with blanks at either end (`Challenge.parse_eq_ok_iff`).  A text of
blanks alone is none (`Challenge.parse_eq_error_iff`).

So a session that is told of the challenge in effect, in whatever spelling, stays what it is, the
count of its tokens included, and so does one that is told of no challenge
(`spellings_change_nothing`).
-/

namespace RemoteFiles

/-! ### Texts with blanks around them -/

namespace Text

variable {cs front back : List Char}

theorem dropWhile_eq_nil_of_blank (h : cs.all isBlank = true) : cs.dropWhile isBlank = [] :=
  List.dropWhile_eq_nil_iff.mpr (List.all_eq_true.mp h)

theorem trimEnd_append_blank (h : back.all isBlank = true) (cs : List Char) :
    trimEnd (cs ++ back) = trimEnd cs := by
  have hback : ∀ c ∈ back.reverse, isBlank c = true := by
    intro c hc
    exact List.all_eq_true.mp h c (List.mem_reverse.mp hc)
  rw [trimEnd, List.reverse_append, List.dropWhile_append_of_pos hback, trimEnd]

theorem trim_blank_append (h : front.all isBlank = true) (cs : List Char) :
    trim (front ++ cs) = trim cs := by
  rw [trim, List.dropWhile_append_of_pos (List.all_eq_true.mp h), trim]

theorem trim_append_blank (h : back.all isBlank = true) (cs : List Char) :
    trim (cs ++ back) = trim cs := by
  rw [trim, List.dropWhile_append, trim]
  split
  · rename_i hempty
    rw [dropWhile_eq_nil_of_blank h, List.isEmpty_iff.mp hempty]
  · exact trimEnd_append_blank h _

/-- Blanks at either end do not count. -/
theorem trim_padded (hfront : front.all isBlank = true) (hback : back.all isBlank = true)
    (cs : List Char) : trim (front ++ cs ++ back) = trim cs := by
  rw [trim_append_blank hback, trim_blank_append hfront]

/-- What trimming takes away are blanks at either end. -/
theorem exists_padding (cs : List Char) :
    ∃ front back, front.all isBlank = true ∧ back.all isBlank = true ∧
      cs = front ++ trim cs ++ back := by
  have hfront : (cs.takeWhile isBlank).all isBlank = true := List.all_takeWhile
  have hback : (((cs.dropWhile isBlank).reverse.takeWhile isBlank).reverse).all isBlank = true := by
    rw [List.all_reverse]
    exact List.all_takeWhile
  refine ⟨_, _, hfront, hback, ?_⟩
  have hend : cs.dropWhile isBlank = trim cs ++
      ((cs.dropWhile isBlank).reverse.takeWhile isBlank).reverse := by
    rw [trim, trimEnd, ← List.reverse_append, List.takeWhile_append_dropWhile, List.reverse_reverse]
  rw [List.append_assoc, ← hend, List.takeWhile_append_dropWhile]

/-- Nothing is left of blanks alone. -/
theorem trim_eq_nil_iff : trim cs = [] ↔ cs.all isBlank = true := by
  constructor
  · intro h
    obtain ⟨front, back, hfront, hback, hcs⟩ := exists_padding cs
    rw [hcs, h, List.append_nil, List.all_append, hfront, hback, Bool.true_and]
  · intro h
    rw [trim, dropWhile_eq_nil_of_blank h]
    rfl

end Text

/-! ### What a challenge is read from -/

namespace Auth

open RemoteFiles.Text (isBlank trim)

/-- A text of blanks alone. -/
def IsBlankText (text : String) : Prop := text.toList.all isBlank = true

instance (text : String) : Decidable (IsBlankText text) := inferInstanceAs (Decidable (_ = _))

namespace Challenge

variable {text : String} {ch : Challenge}

/-- A text is no challenge exactly if there are only blanks in it. -/
theorem parse_eq_error_iff {e : ProtocolError} :
    parse text = .error e ↔ IsBlankText text ∧ e = .emptyChallenge := by
  rw [IsBlankText, ← Text.trim_eq_nil_iff, parse]
  split
  · rename_i hnil
    rw [Except.error.injEq, and_iff_right hnil, eq_comm]
  · rename_i hne
    refine iff_of_false ?_ fun hblank => hne hblank.1
    intro h
    cases h

theorem parse_padded {front back : String} (hfront : IsBlankText front)
    (hback : IsBlankText back) (text : String) : parse (front ++ text ++ back) = parse text := by
  refine parse_congr ?_
  rw [String.toList_append, String.toList_append]
  exact Text.trim_padded hfront hback _

/-- A challenge that was read once is read from its own text, with blanks around it, and from
nothing else. -/
theorem parse_eq_ok_iff (h : parse text = .ok ch) {other : String} :
    parse other = .ok ch ↔
      ∃ front back, IsBlankText front ∧ IsBlankText back ∧ other = front ++ ch.raw ++ back := by
  constructor
  · intro hother
    obtain ⟨front, back, hfront, hback, hcs⟩ := Text.exists_padding other.toList
    refine ⟨.ofList front, .ofList back, ?_, ?_, ?_⟩
    · rwa [IsBlankText, String.toList_ofList]
    · rwa [IsBlankText, String.toList_ofList]
    · rw [← raw_of_parse hother] at hcs
      rw [← String.toList_inj, hcs]
      simp only [String.toList_append, String.toList_ofList]
  · rintro ⟨front, back, hfront, hback, rfl⟩
    rw [parse_padded hfront hback, parse_raw h]

end Challenge

/-! ### What a session is told -/

/-- To be told of `raw` changes nothing in a session, nor in a client that has it or around it, and
what is answered is the text of the challenge that was in effect. -/
structure Session.Ignores (s : Session) (raw : Option String) : Prop where
  session_eq : s.challenged raw = s
  act_eq : ∀ {σ : Type} (h : Host (StateM σ)) (x : Scene σ), x.client.session = s →
    Client.act h (.setChallenge raw) x.client x.around =
      ((s.challenge.raw, x.client), x.around)

namespace Session

variable {s : Session} {text : String}

theorem Ignores.of_eq {raw : Option String} (hsame : s.challenged raw = s) : s.Ignores raw where
  session_eq := hsame
  act_eq h x hx := by
    subst hx
    have hact : Client.act h (.setChallenge raw) x.client x.around =
        (((x.client.session.challenged raw).challenge.raw,
          { x.client with session := x.client.session.challenged raw }), x.around) := rfl
    rw [hact, hsame]

/-- A session that is told once more of the challenge in effect stays what it is. -/
theorem ignores_of_parse (h : Challenge.parse text = .ok s.challenge) : s.Ignores (some text) := by
  refine .of_eq ?_
  rw [challenged, Option.map_some, h]
  dsimp only
  rw [if_pos rfl]

/-- A session that is told of no challenge stays what it is. -/
theorem ignores_of_blank (h : IsBlankText text) : s.Ignores (some text) := by
  refine .of_eq ?_
  rw [challenged, Option.map_some, Challenge.parse_eq_error_iff.mpr ⟨h, rfl⟩]

end Session

/-- **Spellings**: the texts that a challenge is read from are its own text with blanks around it,
and a text with blanks around it is the challenge that it is without them.  A text of blanks alone,
and no other, is no challenge.  To be told of the challenge in effect, in any of its spellings, or
of none, changes nothing at all. -/
theorem spellings_change_nothing :
    (∀ text ch, Challenge.parse text = .ok ch →
      (∀ front back, IsBlankText front → IsBlankText back →
        Challenge.parse (front ++ text ++ back) = .ok ch) ∧
      Challenge.parse ch.raw = .ok ch ∧
      ∀ other, (Challenge.parse other = .ok ch ↔ ∃ front back, IsBlankText front ∧
          IsBlankText back ∧ other = front ++ ch.raw ++ back) ∧
        (Challenge.parse other = .ok ch →
          ∀ s : Session, s.challenge = ch → s.Ignores (some other))) ∧
    ∀ text, (∀ e, Challenge.parse text = .error e ↔ IsBlankText text ∧ e = .emptyChallenge) ∧
      (IsBlankText text → ∀ s : Session, s.Ignores (some text)) := by
  refine ⟨fun text ch hparse => ⟨fun front back hfront hback => ?_, Challenge.parse_raw hparse,
    fun other => ⟨Challenge.parse_eq_ok_iff hparse, ?_⟩⟩, fun text => ⟨fun e =>
    Challenge.parse_eq_error_iff, fun hblank s => Session.ignores_of_blank hblank⟩⟩
  · rw [Challenge.parse_padded hfront hback, hparse]
  · rintro hother s rfl
    exact Session.ignores_of_parse hother

/-- A session that has made five tokens for a challenge has made five after it was told of it
with blanks of two kinds around it, and still five after it was told of blanks alone. -/
theorem spellings_change_nothing_of_repeated :
    let s : Session := { Session.anonymous with challenge := offeredChallenge, count := 5 }
    Challenge.parse ("\t\u3000" ++ offeredChallenge.raw ++ " ") = .ok offeredChallenge ∧
      s.challenged (some ("\t\u3000" ++ offeredChallenge.raw ++ " ")) = s ∧
      Challenge.parse "\u2028\r\n" = .error .emptyChallenge ∧
      s.challenged (some "\u2028\r\n") = s := by
  intro s
  obtain ⟨hread, hnone⟩ := spellings_change_nothing
  obtain ⟨hpadded, -, hspelled⟩ := hread _ _ parse_offeredChallenge
  have hparse := hpadded "\t\u3000" " " (by decide) (by decide)
  have hblank : IsBlankText "\u2028\r\n" := by decide
  obtain ⟨herror, htold⟩ := hnone "\u2028\r\n"
  exact ⟨hparse, ((hspelled _).2 hparse s rfl).session_eq, (herror _).mpr ⟨hblank, rfl⟩,
    (htold hblank s).session_eq⟩

end Auth

end RemoteFiles
