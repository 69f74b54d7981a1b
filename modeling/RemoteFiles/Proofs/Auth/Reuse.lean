import RemoteFiles.Proofs.Auth.Counts

/-!
# Counts used twice for one nonce

A service takes an answer for replayed if it has seen its nonce with its count before.
`repeats_iff` says when a run makes such answers: exactly when it answers one nonce on both sides
of a change of the challenge's text, be it that another wording came with the same nonce or that
an old nonce came again.  The count starts anew with every other text, not with every other
nonce.

In one direction, all counts between two changes differ while the digits suffice.  In the other,
the first answers after each of the two changes both carry the count one
(`Lived.exists_first`).
-/

namespace RemoteFiles.Auth

/-- Two tokens were given that carry the same nonce and the same count. -/
def Repeats (turns : List Turn) : Prop :=
  ∃ later between past method uri token method' uri' token' nonce count,
    turns = later ++ .made method' uri' (some token') ::
      (between ++ .made method uri (some token) :: past) ∧
    Carries past method uri token nonce count ∧
    Carries (between ++ .made method uri (some token) :: past) method' uri' token' nonce count

/-- Two tokens were given that carry the same nonce, and between them the text of the challenge
in effect changed. -/
def Reuses (turns : List Turn) : Prop :=
  ∃ later between past method uri token method' uri' token' nonce count count',
    turns = later ++ .made method' uri' (some token') ::
      (between ++ .made method uri (some token) :: past) ∧
    Carries past method uri token nonce count ∧
    Carries (between ++ .made method uri (some token) :: past) method' uri' token' nonce count' ∧
    ¬ Steady (.made method uri (some token) :: past) between

/-! ### Between two changes -/

theorem asked_append (before during earlier : List Turn) :
    asked before (during ++ earlier) = asked (earlier ++ before) during + asked before earlier := by
  induction during with
  | nil => exact (Nat.zero_add _).symm
  | cons turn during ih =>
    cases turn with
    | logged | told => exact ih
    | made =>
      rw [List.cons_append, asked, asked, ih, List.append_assoc]
      split <;> omega

theorem asked_made {before earlier : List Turn} {method uri token nonce count : String}
    (h : Carries (earlier ++ before) method uri token nonce count) :
    asked before (.made method uri (some token) :: earlier) = asked before earlier + 1 := by
  obtain ⟨-, -, -, -, credential, clientNonce, hholder, -⟩ := h
  rw [asked, hholder]
  rfl

/-- The count that a token carries, in terms of what was asked for. -/
theorem Carries.writesCount {before during : List Turn} {method uri token nonce count : String}
    {s : Session} (h : Carries (during ++ before) method uri token nonce count)
    (lived : Lived (.made method uri (some token) :: (during ++ before)) s)
    (since : Since before during) : WritesCount count ((asked before during + 1) % 2 ^ 32) := by
  have hscheme := h.1
  have hauth := h.2.1
  rw [since.steady.inEffect_eq] at hscheme hauth
  obtain ⟨nonce', count', carries, hwrites⟩ := lived.carries since hscheme hauth
  obtain ⟨-, rfl⟩ := h.unique carries
  exact hwrites

/-- What a token that was given counts is among the tokens that were given. -/
theorem Carries.asked_lt {before during : List Turn} {method uri token nonce count : String}
    {s : Session} (h : Carries (during ++ before) method uri token nonce count)
    (lived : Lived (during ++ before) s) (steady : Steady before during) :
    asked before during < (Turn.made method uri (some token) :: (during ++ before)).countP
      Turn.gives := by
  have hanswers := h.answers ⟨"", ""⟩ "" "" ⟨"", ""⟩
  rw [steady.inEffect_eq] at hanswers
  have hasked := asked_eq_countP lived steady hanswers
  rw [List.countP_cons_of_pos rfl, List.countP_append]
  omega

/-- As long as the text stays the same and the digits suffice, no count is used twice. -/
theorem Lived.not_steady_of_repeats {between past : List Turn}
    {method uri token method' uri' token' nonce nonce' count : String} {s : Session}
    (lived : Lived (.made method' uri' (some token') ::
      (between ++ .made method uri (some token) :: past)) s)
    (hfew : (Turn.made method' uri' (some token') ::
      (between ++ .made method uri (some token) :: past)).countP Turn.gives < 2 ^ 32)
    (h : Carries past method uri token nonce count)
    (h' : Carries (between ++ .made method uri (some token) :: past) method' uri' token' nonce'
      count) :
    ¬ Steady (.made method uri (some token) :: past) between := by
  intro steady
  obtain ⟨before, earlier, rfl, since⟩ := exists_since past
  let during := between ++ .made method uri (some token) :: earlier
  have hduring : between ++ .made method uri (some token) :: (earlier ++ before) =
      during ++ before := by
    rw [List.append_assoc, List.cons_append]
  have hsteady : Steady before during :=
    steady_append.mpr ⟨steady, not_changes_of_inEffect_eq rfl, since.steady⟩
  obtain ⟨s₂, lived₂⟩ := lived.of_cons
  obtain ⟨s₁, lived₁⟩ := lived₂.of_append
  have hwrites := h.writesCount lived₁ since
  rw [hduring] at lived lived₂ h' hfew
  have hwrites' := h'.writesCount lived ⟨since.begins, hsteady⟩
  -- the later token counts the earlier one
  have hmore : asked before earlier < asked before during := by
    rw [asked_append, asked_made h]
    omega
  have hbound := h'.asked_lt lived₂ hsteady
  have hsame := hwrites.value.symm.trans hwrites'.value
  rw [Nat.mod_eq_of_lt (by omega), Nat.mod_eq_of_lt (by omega)] at hsame
  omega

/-! ### After each change -/

/-- Among turns at which something was asked for, there is the first of these. -/
theorem exists_first_asked {before during : List Turn} (h : asked before during ≠ 0) :
    ∃ recent earlier method uri token,
      during = recent ++ .made method uri token :: earlier ∧
      (holder (earlier ++ before)).isSome ∧ asked before earlier = 0 := by
  induction during with
  | nil => exact absurd rfl h
  | cons turn rest ih =>
    by_cases hrest : asked before rest = 0
    · cases turn with
      | logged | told => exact absurd hrest h
      | made method uri token =>
        refine ⟨[], rest, method, uri, token, rfl, ?_, hrest⟩
        by_contra hnobody
        rw [asked, if_neg hnobody] at h
        exact h hrest
    · obtain ⟨recent, earlier, method, uri, token, rfl, hholder, hzero⟩ := ih hrest
      exact ⟨turn :: recent, earlier, method, uri, token, rfl, hholder, hzero⟩

/-- The time since the text changed has a first token, with the same nonce and the count one. -/
theorem Lived.exists_first {before during : List Turn} {method uri token nonce count : String}
    {s : Session} (lived : Lived (.made method uri (some token) :: (during ++ before)) s)
    (since : Since before during)
    (h : Carries (during ++ before) method uri token nonce count) :
    ∃ recent earlier method' uri' token' count',
      .made method uri (some token) :: during =
        recent ++ .made method' uri' (some token') :: earlier ∧
      Carries (earlier ++ before) method' uri' token' nonce count' ∧ WritesCount count' 1 := by
  have hasked : asked before (.made method uri (some token) :: during) ≠ 0 := by
    rw [asked_made h]
    omega
  obtain ⟨recent, earlier, method', uri', token', hsplit, hholder, hzero⟩ :=
    exists_first_asked hasked
  have hwhole : .made method uri (some token) :: (during ++ before) =
      recent ++ .made method' uri' token' :: (earlier ++ before) := by
    rw [← List.cons_append, hsplit, List.append_assoc, List.cons_append]
  have hsteady : Steady before (.made method uri (some token) :: during) :=
    ⟨not_changes_of_inEffect_eq rfl, since.steady⟩
  have hearlier : Steady before earlier := by
    rw [hsplit, steady_append] at hsteady
    exact hsteady.2.2
  -- the challenge is the same all the time
  have hchallenge : inEffect (during ++ before) = inEffect (earlier ++ before) :=
    since.steady.inEffect_eq.trans hearlier.inEffect_eq.symm
  rw [hwhole] at lived
  obtain ⟨s', lived'⟩ := lived.of_append
  have hanswers := h.answers ⟨"", ""⟩ "" "" ⟨"", ""⟩
  rw [hchallenge] at hanswers
  have hgiven := lived'.isSome_made hanswers
  rw [hholder] at hgiven
  obtain ⟨token'', rfl⟩ := Option.isSome_iff_exists.mp hgiven
  obtain ⟨hscheme, hauth, hnonce, -⟩ := h
  rw [hchallenge] at hnonce
  rw [since.steady.inEffect_eq] at hscheme hauth
  obtain ⟨nonce', count', carries, hwrites⟩ :=
    lived'.carries ⟨since.begins, hearlier⟩ hscheme hauth
  obtain rfl : nonce' = nonce := Option.some.inj (carries.2.2.1.symm.trans hnonce)
  rw [hzero] at hwrites
  exact ⟨recent, earlier, method', uri', token'', count', hsplit, carries, hwrites⟩

/-! ### Runs -/

/-- The turns since the change before a later token do not reach back over another change. -/
theorem exists_append_of_not_steady {between past before during : List Turn}
    (h : between ++ past = during ++ before) (steady : Steady before during)
    (hchange : ¬ Steady past between) : ∃ more, before = more ++ past := by
  rcases List.append_eq_append_iff.mp h with ⟨more, hduring, hpast⟩ | ⟨more, -, hbefore⟩
  · rw [hduring, steady_append, ← hpast] at steady
    exact absurd steady.1 hchange
  · exact ⟨more, hbefore⟩

/-- Where a nonce is answered on both sides of a change, the first answers after the changes
carry the same count. -/
theorem Lived.repeats_of_reuses {turns : List Turn} {s : Session} (lived : Lived turns s)
    (h : Reuses turns) : Repeats turns := by
  obtain ⟨later, between, past, method, uri, token, method', uri', token', nonce, count, count',
    rfl, carries, carries', hchange⟩ := h
  obtain ⟨s', lived'⟩ := lived.of_append
  obtain ⟨s₂, lived₂⟩ := lived'.of_cons
  obtain ⟨s₁, lived₁⟩ := lived₂.of_append
  obtain ⟨before, during, rfl, since⟩ := exists_since past
  obtain ⟨before', during', hpast', since'⟩ :=
    exists_since (between ++ .made method uri (some token) :: (during ++ before))
  obtain ⟨more, hmore⟩ := exists_append_of_not_steady hpast' since'.steady hchange
  obtain ⟨recent, earlier, m, u, t, first, hfirst, hcarries, hone⟩ :=
    lived₁.exists_first since carries
  rw [hpast'] at lived' carries'
  obtain ⟨recent', earlier', m', u', t', first', hfirst', hcarries', hone'⟩ :=
    lived'.exists_first since' carries'
  obtain rfl : first' = first := hone'.unique hone
  -- the first answer of the later time comes after all of the earlier time
  have hearlier : earlier' ++ before' =
      (earlier' ++ more ++ recent) ++ .made m u (some t) :: (earlier ++ before) := by
    rw [hmore, ← List.cons_append, hfirst]
    simp only [List.append_assoc, List.cons_append]
  refine ⟨later ++ recent', earlier' ++ more ++ recent, earlier ++ before, m, u, t, m', u', t',
    nonce, first', ?_, hcarries, hearlier ▸ hcarries'⟩
  rw [← hearlier, hpast', ← List.cons_append, hfirst']
  simp only [List.append_assoc, List.cons_append]

theorem Lived.reuses_of_repeats {turns : List Turn} {s : Session} (lived : Lived turns s)
    (hfew : turns.countP Turn.gives < 2 ^ 32) (h : Repeats turns) : Reuses turns := by
  obtain ⟨later, between, past, method, uri, token, method', uri', token', nonce, count, rfl,
    carries, carries'⟩ := h
  obtain ⟨s', lived'⟩ := lived.of_append
  rw [List.countP_append] at hfew
  have hchange := lived'.not_steady_of_repeats (by omega) carries carries'
  exact ⟨later, between, past, method, uri, token, method', uri', token', nonce, count, count, rfl,
    carries, carries', hchange⟩

variable {σ : Type}

/-- **Nonces and counts**: in every run that gives fewer than `2 ^ 32` tokens, no two tokens carry
the same nonce and the same count exactly if no nonce is answered both before and after a change
of the text of the challenge. -/
theorem repeats_iff (h : Host (StateM σ)) (directory : String) (s : σ) (actions : List Action)
    (hfew : (turns h.service.requestUri
      (run h actions ⟨.startingIn directory, s⟩).1).countP Turn.gives < 2 ^ 32) :
    ¬ Repeats (turns h.service.requestUri (run h actions ⟨.startingIn directory, s⟩).1) ↔
      ¬ Reuses (turns h.service.requestUri (run h actions ⟨.startingIn directory, s⟩).1) := by
  have lived := lived_run h directory s actions
  exact not_congr ⟨lived.reuses_of_repeats hfew, lived.repeats_of_reuses⟩

/-- `offeredChallenge` in other words, with the same nonce. -/
def restatedChallenge : Challenge :=
  ⟨"Digest nonce=\"n\", qop=\"auth\", stale=false", .digest,
    [("nonce", "n"), ("qop", "auth"), ("stale", "false")]⟩

theorem parse_restatedChallenge :
    Challenge.parse restatedChallenge.raw = .ok restatedChallenge := by
  have hwrites : List.Forall₂ Writes
      [quotedDirective "nonce" "n", quotedDirective "qop" "auth", "stale" ++ "=" ++ "false"]
      restatedChallenge.directives :=
    .cons (writes_plain (by decide) (by decide)) <|
      .cons (writes_plain (by decide) (by decide)) <|
      .cons (writes_bare (by decide) (by decide)) .nil
  have hraw : restatedChallenge.raw = "Digest " ++ ", ".intercalate
      [quotedDirective "nonce" "n", quotedDirective "qop" "auth", "stale" ++ "=" ++ "false"] := by
    decide
  rw [hraw, parse_written hwrites (List.cons_ne_nil _ _), ← hraw]
  rfl

/-- A challenge, a login with its probe, the challenge in other words, and one token more. -/
def restatedActions : List Action :=
  [.setChallenge (some offeredChallenge.raw), .inquireQuietly (.login ⟨"u", "p"⟩),
    .setChallenge (some restatedChallenge.raw), .makeToken "GET" "/"]

/-- The turns that `restatedActions` lead to: two tokens with a change between them. -/
theorem reuses_restated :
    (turns id (run (.constant (.ok .empty) (.ok none)) restatedActions
      ⟨.startingIn "/", ()⟩).1).countP Turn.gives < 2 ^ 32 ∧
    Reuses (turns id (run (.constant (.ok .empty) (.ok none)) restatedActions
      ⟨.startingIn "/", ()⟩).1) := by
  let before : List Turn := [.told (some offeredChallenge.raw)]
  obtain ⟨first, second, hturns⟩ : ∃ first second,
      turns id (run (.constant (.ok .empty) (.ok none)) restatedActions
        ⟨.startingIn "/", ()⟩).1 =
        .made "GET" "/" second :: ([.told (some restatedChallenge.raw), .told none] ++
          .made "GET" "/" first :: ([.logged (some ⟨"u", "p"⟩)] ++ before)) := ⟨_, _, rfl⟩
  have lived := lived_run (.constant (.ok .empty) (.ok none)) "/" () restatedActions
  have hlength := List.countP_le_length (p := Turn.gives) (l := turns id
    (run (.constant (.ok .empty) (.ok none)) restatedActions ⟨.startingIn "/", ()⟩).1)
  rw [hturns] at hlength ⊢
  refine ⟨hlength.trans_lt (by simp [before]), ?_⟩
  have hnonce : offeredChallenge.nonce? = some "n" := by decide
  have halgorithm : Algorithm.ofName? offeredChallenge.algorithm? = .ok .md5 := by decide
  have hnonce' : restatedChallenge.nonce? = some "n" := by decide
  have halgorithm' : Algorithm.ofName? restatedChallenge.algorithm? = .ok .md5 := by decide
  have hchallenge : inEffect before = offeredChallenge := by
    rw [inEffect, Option.bind_some, parse_offeredChallenge]
    rfl
  have since : Since before [.logged (some ⟨"u", "p"⟩)] :=
    ⟨.inr (changes_iff.mpr ⟨_, _, rfl, parse_offeredChallenge, by decide⟩),
      not_changes_of_inEffect_eq rfl, trivial⟩
  obtain ⟨s', lived'⟩ := (hturns ▸ lived : Lived _ _).of_cons
  obtain ⟨s₁, lived₁⟩ := lived'.of_append
  obtain ⟨token, count, rfl, carries, -⟩ := lived₁.exists_carries since hchallenge rfl (by decide)
    hnonce halgorithm rfl
  -- the other wording begins a time of its own
  let before' : List Turn := .told (some restatedChallenge.raw) :: .told none ::
    .made "GET" "/" (some token) :: ([.logged (some ⟨"u", "p"⟩)] ++ before)
  have hchallenge' : inEffect before' = restatedChallenge := by
    rw [inEffect, Option.bind_some, parse_restatedChallenge]
    rfl
  have hchanges : Changes before' := by
    refine changes_iff.mpr ⟨_, _, rfl, parse_restatedChallenge, ?_⟩
    show restatedChallenge.raw ≠ (inEffect before).raw
    rw [hchallenge]
    decide
  have since' : Since before' [] := ⟨.inr hchanges, trivial⟩
  obtain ⟨token', count', rfl, carries', -⟩ := Lived.exists_carries (hturns ▸ lived) since'
    hchallenge' rfl (by decide) hnonce' halgorithm' rfl
  exact ⟨[], _, _, _, _, _, _, _, _, _, _, _, rfl, carries, carries', fun steady =>
    steady.1 hchanges⟩

/-- Another wording of a challenge has its nonce answered with the same count again. -/
theorem repeats_iff_of_restated :
    (turns id (run (.constant (.ok .empty) (.ok none)) restatedActions
      ⟨.startingIn "/", ()⟩).1).countP Turn.gives < 2 ^ 32 ∧
    Repeats (turns id (run (.constant (.ok .empty) (.ok none)) restatedActions
      ⟨.startingIn "/", ()⟩).1) := by
  obtain ⟨hfew, hreuses⟩ := reuses_restated
  have hiff := repeats_iff (.constant (.ok .empty) (.ok none)) "/" () restatedActions hfew
  exact ⟨hfew, not_not.mp fun hrepeats => hiff.mp hrepeats hreuses⟩

/-- Not every run that gives few tokens keeps nonces and counts apart. -/
theorem repeats_restated_not :
    ¬ ∀ (h : Host (StateM Unit)) (directory : String) (actions : List Action),
      (turns h.service.requestUri
        (run h actions ⟨.startingIn directory, ()⟩).1).countP Turn.gives < 2 ^ 32 →
      ¬ Repeats (turns h.service.requestUri (run h actions ⟨.startingIn directory, ()⟩).1) := by
  intro hall
  obtain ⟨hfew, hreuses⟩ := reuses_restated
  have lived := lived_run (.constant (.ok .empty) (.ok none)) "/" () restatedActions
  exact hall _ "/" restatedActions hfew (lived.repeats_of_reuses hreuses)

end RemoteFiles.Auth
