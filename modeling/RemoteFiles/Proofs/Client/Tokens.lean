import RemoteFiles.Proofs.Client.Schedule

/-!
# Tokens and challenges of runs

Which token a call carries is a matter of the history before it, and of nothing else
(`tokenAfter`): there is none if nobody is logged in; otherwise it answers the last challenge
that came and could be read with the credential of the last login.  `tokens_and_challenges` says
so of every call of every run, and that the challenge shown to a user is always the one that is
in effect.

A history is a list of moments, the latest first, so that what was before a moment is the rest
of the list.  `Stands` is the invariant: the session is what the history makes of it, and every
call so far carried the token for the history before it.
-/

namespace RemoteFiles

open Auth (Challenge Credential Session)

/-- A moment of a history: an action began, or something passed. -/
inductive Moment
  | asked (a : Action)
  | met (i : Interaction)

/-- The history after more has passed. -/
def meet (past : List Moment) (log : List Interaction) : List Moment :=
  log.foldl (fun past i => .met i :: past) past

/-- The history of some episodes, the latest moment first. -/
def history (episodes : List Episode) : List Moment :=
  episodes.foldl (fun past e => meet (.asked e.action :: past) e.log) []

/-! ### What a history says -/

/-- Who is logged in once an inquiry begins, if it changes that. -/
def Inquiry.credential? : Inquiry → Option (Option Credential)
  | probe => none
  | login credential => some (some credential)
  | logout => some none

/-- A call to the service. -/
structure Call where
  method : String
  target : String
  token : Option String

/-- The challenge of a refusal. -/
def Refusal.challenge? : Refusal → Option String
  | authenticationRequired challenge => challenge
  | _ => none

/-- The challenge that came instead of an answer. -/
def challengeOf {α : Type} : Except Refusal α → Option String
  | .ok _ => none
  | .error refusal => refusal.challenge?

namespace Interaction

/-- The call that an interaction is. -/
def call? : Interaction → Option Call
  | submitted r token _ => some ⟨r.verb.method, r.target, token⟩
  | probed token _ => some ⟨Verb.read.method, Auth.probeTarget, token⟩
  | _ => none

/-- The service wants credentials. -/
def IsChallenge : Interaction → Prop
  | submitted _ _ outcome => ∃ raw, outcome = .error (.authenticationRequired raw)
  | probed _ answer => ∃ raw, answer = .error (.authenticationRequired raw)
  | _ => False

/-- The challenge that came. -/
def challenge? : Interaction → Option String
  | submitted _ _ outcome => challengeOf outcome
  | probed _ answer => challengeOf answer
  | _ => none

end Interaction

namespace Moment

/-- Who is logged in from this moment on, if it changes that. -/
def credential? : Moment → Option (Option Credential)
  | asked (.inquire q) | asked (.inquireQuietly q) => q.credential?
  | _ => none

/-- The challenge that came at this moment, if it can be read. -/
def challenge? (m : Moment) : Option Challenge :=
  let raw := match m with
    | asked (.setChallenge raw) => raw
    | met i => i.challenge?
    | _ => none
  raw.bind fun text => (Challenge.parse text).toOption

/-- The nonce that was drawn at this moment. -/
def nonce? : Moment → Option String
  | met (.drew nonce) => some nonce
  | _ => none

end Moment

/-- Who is logged in after a history. -/
def credentialAfter (past : List Moment) : Option Credential :=
  (past.findSome? Moment.credential?).join

/-- The challenge in effect after a history: the last one that came and could be read. -/
def challengeAfter (past : List Moment) : Challenge :=
  (past.findSome? Moment.challenge?).getD .basic

/-- How many tokens were made after the challenge changed; a token is made when a nonce is drawn
and somebody is logged in. -/
def countAfter : List Moment → UInt32
  | [] => 0
  | m :: past =>
    if challengeAfter (m :: past) ≠ challengeAfter past then 0
    else if m.nonce?.isSome ∧ (credentialAfter past).isSome then countAfter past + 1
    else countAfter past

/-- The token for a request after a history. -/
def tokenAfter (past : List Moment) (method uri : String) : Option String :=
  match credentialAfter past with
  | none => none
  | some credential =>
    (Auth.authorization (challengeAfter past) credential method uri
      (.of (countAfter past) ((past.findSome? Moment.nonce?).getD ""))).toOption

/-! ### Sessions and histories -/

/-- A session is what a history makes of it. -/
structure Tracks (past : List Moment) (s : Session) : Prop where
  credential_eq : s.credential = credentialAfter past
  challenge_eq : s.challenge = challengeAfter past
  count_eq : s.count = countAfter past

/-- Every call of a history carried the token for what was before it. -/
def AllCarry (uri : String → String) : List Moment → Prop
  | [] => True
  | .asked _ :: past => AllCarry uri past
  | .met i :: past =>
    (∀ call, i.call? = some call → call.token = tokenAfter past call.method (uri call.target)) ∧
      AllCarry uri past

theorem AllCarry.token_eq {uri : String → String} {later past : List Moment} {i : Interaction}
    {call : Call} (h : AllCarry uri (later ++ .met i :: past)) (hcall : i.call? = some call) :
    call.token = tokenAfter past call.method (uri call.target) := by
  induction later with
  | nil => exact h.1 call hcall
  | cons m later ih =>
    cases m with
    | asked a => exact ih h
    | met j => exact ih h.2

theorem credentialAfter_cons (m : Moment) (past : List Moment) :
    credentialAfter (m :: past) = m.credential?.getD (credentialAfter past) := by
  rw [credentialAfter, List.findSome?_cons]
  cases m.credential? <;> rfl

theorem challengeAfter_cons (m : Moment) (past : List Moment) :
    challengeAfter (m :: past) = m.challenge?.getD (challengeAfter past) := by
  rw [challengeAfter, List.findSome?_cons]
  cases m.challenge? <;> rfl

/-- The challenge of a session after one came. -/
theorem challenged_challenge (s : Session) (raw : Option String) :
    (s.challenged raw).challenge =
      (raw.bind fun text => (Challenge.parse text).toOption).getD s.challenge := by
  cases raw with
  | none => rfl
  | some text =>
    rw [Session.challenged, Option.map_some, Option.bind_some]
    cases Challenge.parse text <;> rfl

theorem challenged_count (s : Session) (raw : Option String) :
    (s.challenged raw).count =
      if (s.challenged raw).challenge ≠ s.challenge then 0 else s.count := by
  cases raw with
  | none => simp [Session.challenged]
  | some text =>
    rw [Session.challenged, Option.map_some]
    cases Challenge.parse text <;> simp

theorem challenged_credential (s : Session) (raw : Option String) :
    (s.challenged raw).credential = s.credential := by
  unfold Session.challenged
  split <;> rfl

namespace Tracks

variable {past : List Moment} {s s' : Session}

theorem startingIn (directory : String) : Tracks [] (Client.startingIn directory).session :=
  ⟨rfl, rfl, rfl⟩

/-- What a moment does to a session that tracks the history before it. -/
theorem step {m : Moment} (ht : Tracks past s)
    (hcredential : s'.credential = m.credential?.getD s.credential)
    (hchallenge : s'.challenge = m.challenge?.getD s.challenge)
    (hcount : s'.count = if s'.challenge ≠ s.challenge then 0
      else if m.nonce?.isSome ∧ s.credential.isSome then s.count + 1 else s.count) :
    Tracks (m :: past) s' := by
  have hchallenge' : s'.challenge = challengeAfter (m :: past) := by
    rw [hchallenge, ht.challenge_eq, challengeAfter_cons]
  refine ⟨?_, hchallenge', ?_⟩
  · rw [hcredential, ht.credential_eq, credentialAfter_cons]
  · rw [countAfter, ← hchallenge', ← ht.challenge_eq, ← ht.credential_eq, ← ht.count_eq]
    exact hcount

/-- A moment that tells a session nothing, or that brings it a challenge. -/
theorem challenged {m : Moment} (ht : Tracks past s) (raw : Option String)
    (hcredential : m.credential? = none) (hnonce : m.nonce? = none)
    (hchallenge : m.challenge? = raw.bind fun text => (Challenge.parse text).toOption) :
    Tracks (m :: past) (s.challenged raw) := by
  refine ht.step ?_ ?_ ?_
  · rw [hcredential, challenged_credential]
    rfl
  · rw [hchallenge, challenged_challenge]
  · rw [hnonce, challenged_count]
    simp

theorem asked (ht : Tracks past s) (q : Inquiry) {a : Action}
    (ha : a = .inquire q ∨ a = .inquireQuietly q) : Tracks (.asked a :: past) (q.prepare s) := by
  have hsame : (q.prepare s).challenge = s.challenge ∧ (q.prepare s).count = s.count := by
    cases q <;> exact ⟨rfl, rfl⟩
  have hstep : (q.prepare s).count =
      if (q.prepare s).challenge ≠ s.challenge then 0 else s.count := by
    rw [if_neg (not_not_intro hsame.1), hsame.2]
  rcases ha with rfl | rfl <;> cases q <;> exact ht.step rfl rfl hstep

theorem drawn (ht : Tracks past s) (nonce method uri : String) :
    Tracks (.met (.drew nonce) :: past) (s.answer nonce method uri).2 := by
  cases hs : s.credential with
  | none =>
    simp only [Session.answer, hs]
    exact ht.step rfl rfl (by simp [hs])
  | some credential =>
    simp only [Session.answer, hs]
    exact ht.step hs.symm rfl (by simp [hs, Moment.nonce?])

theorem answer_eq (ht : Tracks past s) (nonce method uri : String) :
    (s.answer nonce method uri).1 = tokenAfter (.met (.drew nonce) :: past) method uri := by
  have hdrawn := ht.drawn nonce method uri
  have hcredential : credentialAfter (.met (.drew nonce) :: past) = s.credential := by
    rw [ht.credential_eq]
    exact credentialAfter_cons _ _
  rw [tokenAfter, hcredential, ← hdrawn.challenge_eq, ← hdrawn.count_eq]
  unfold Session.answer
  cases s.credential <;> rfl

end Tracks

/-! ### Runs -/

variable {σ : Type}

/-- A session tracks a history in which every call carried its token. -/
structure Stands (h : Host (StateM σ)) (past : List Moment) (s : Session) : Prop where
  tracks : Tracks past s
  carried : AllCarry h.service.requestUri past

section
variable {h : Host (StateM σ)} {past : List Moment} {s : Session} {x y : Scene σ}

theorem Stands.startingIn (directory : String) :
    Stands h [] (Client.startingIn directory).session :=
  ⟨.startingIn directory, trivial⟩

/-- A refusal leaves the session as the challenge in it does. -/
theorem refused_session (s : Session) (refusal : Refusal) :
    (Client.refused s refusal).2 = s.challenged refusal.challenge? := by
  cases refusal <;> rfl

/-- After a nonce was drawn and a call was sent with the token for it. -/
theorem Stands.called {i : Interaction} {nonce method target : String} {token : Option String}
    {s' : Session} (hs : Stands h past s)
    (hanswer : s.answer nonce method (h.service.requestUri target) = (token, s'))
    (hcall : i.call? = some ⟨method, target, token⟩) :
    Stands h (meet past [.drew nonce, i]) (s'.challenged i.challenge?) := by
  have hdrawn := hs.tracks.drawn nonce method (h.service.requestUri target)
  have htoken := hs.tracks.answer_eq nonce method (h.service.requestUri target)
  rw [hanswer] at hdrawn htoken
  have hnonce : (Moment.met i).nonce? = none := by
    cases i with
    | drew => cases hcall
    | _ => rfl
  refine ⟨hdrawn.challenged _ rfl hnonce rfl, fun call hi => ?_, ?_, hs.carried⟩
  · rw [hcall] at hi
    obtain rfl := Option.some.inj hi
    exact htoken
  · rintro call ⟨⟩

theorem Stands.sent {r : Request} {nonce : String} {token : Option String} {outcome : Outcome}
    (hs : Stands h past x.client.session) (sent : Sends h x r nonce token outcome y) :
    Stands h (meet past [.drew nonce, .submitted r token outcome])
      (y.client.session.challenged (challengeOf outcome)) :=
  hs.called sent.answer_eq rfl

theorem Stands.probed {nonce : String} {token : Option String}
    {answer : Except Refusal (Option Identity)} (hs : Stands h past x.client.session)
    (asks : Asks h x nonce token answer y) :
    Stands h (meet past [.drew nonce, .probed token answer])
      (y.probed token answer).2.client.session := by
  have hcalled := hs.called (i := .probed token answer) asks.answer_eq rfl
  refine ⟨?_, hcalled.carried⟩
  -- an answer does not touch what a history tells of, but for the challenge in it
  obtain ⟨hcredential, hchallenge, hcount⟩ := hcalled.tracks
  cases answer with
  | ok identity => exact ⟨hcredential, hchallenge, hcount⟩
  | error refusal => cases refusal <;> exact ⟨hcredential, hchallenge, hcount⟩

/-- What is neither a call nor a nonce changes nothing. -/
theorem Stands.met {i : Interaction} (hs : Stands h past s) (hcall : i.call? = none)
    (hchallenge : i.challenge? = none) (hnonce : (Moment.met i).nonce? = none) :
    Stands h (.met i :: past) s := by
  refine ⟨hs.tracks.challenged none rfl hnonce ?_, ?_, hs.carried⟩
  · rw [Moment.challenge?]
    simp only [hchallenge]
  · intro call hi
    rw [hcall] at hi
    cases hi

theorem Course.stands {α : Type} {p : Plan α} {log : List Interaction}
    {result : Except OperationError α} (hc : Course h p x log result y)
    (hs : Stands h past x.client.session) : Stands h (meet past log) y.client.session := by
  induction hc generalizing past with
  | done | fail => exact hs
  | accepted sent rest ih => exact ih (hs.sent sent)
  | refused sent =>
    have hsent := hs.sent sent
    rw [challengeOf, ← refused_session] at hsent
    exact hsent
  | fetched read rest ih => exact ih (hs.met rfl rfl rfl)
  | unreadable read => exact hs.met rfl rfl rfl
  | changed rest ih => exact ih hs

theorem meet_append (past : List Moment) (log more : List Interaction) :
    meet past (log ++ more) = meet (meet past log) more :=
  List.foldl_append

theorem Occurs.stands {e : Episode} (occurs : Occurs h x e y)
    (hs : Stands h past x.client.session) :
    Stands h (meet (.asked e.action :: past) e.log) y.client.session := by
  -- most actions tell the session nothing when they begin
  have hasked : ∀ a, (Moment.asked a).credential? = none → (Moment.asked a).challenge? = none →
      Stands h (.asked a :: past) x.client.session := fun a hcredential hchallenge =>
    ⟨hs.tracks.challenged none hcredential rfl hchallenge, hs.carried⟩
  cases occurs with
  | @performed op log result y course =>
    have hbegan : Stands h (meet (.asked (.perform op) :: past) (x.begins op))
        (x.begun h op).client.session := (hasked (.perform op) rfl rfl).met rfl rfl rfl
    have hend := course.stands hbegan
    show Stands h (meet _ ((x.begins op ++ log) ++ [_])) _
    rw [meet_append, meet_append]
    exact hend.met rfl rfl rfl
  | cleared => exact hasked .clearClipboard rfl rfl
  | @inquired q nonce token answer y asked =>
    have hq : Stands h (.asked (.inquire q) :: past)
        (x.withSession (q.prepare x.client.session)).client.session :=
      ⟨hs.tracks.asked q (.inl rfl), hs.carried⟩
    have hend := hq.probed asked
    show Stands h (meet _ ([_, _] ++ _)) _
    rw [meet_append]
    cases (y.probed token answer).1.event? with
    | none => exact hend
    | some event => exact hend.met rfl rfl rfl
  | @inquiredQuietly q nonce token answer y asked =>
    have hq : Stands h (.asked (.inquireQuietly q) :: past)
        (x.withSession (q.prepare x.client.session)).client.session :=
      ⟨hs.tracks.asked q (.inr rfl), hs.carried⟩
    exact hq.probed asked
  | challenged => exact ⟨hs.tracks.challenged _ rfl rfl rfl, hs.carried⟩
  | @tokenMade method uri nonce _ _ _ drawn made =>
    have hasked' := hasked (.makeToken method uri) rfl rfl
    have hdrawn := hasked'.tracks.drawn nonce method uri
    rw [made] at hdrawn
    refine ⟨hdrawn, ?_, hs.carried⟩
    rintro call ⟨⟩

end

theorem history_append (episodes : List Episode) (e : Episode) :
    history (episodes ++ [e]) = meet (.asked e.action :: history episodes) e.log := by
  rw [history, List.foldl_append]
  rfl

/-- The challenge in an error. -/
def OperationError.challenge? : OperationError → Option String
  | authenticationRequired challenge => some challenge
  | _ => none

/-- The challenge in an outcome. -/
def ProbeOutcome.challenge? : ProbeOutcome → Option String
  | challenged challenge => some challenge
  | _ => none

/-- The challenge that was shown to the user when an episode ended: by the error of an operation
or by the outcome of an inquiry. -/
def Episode.shown? (e : Episode) : Option String :=
  (e.error?.bind OperationError.challenge?).or (e.probeOutcome?.bind ProbeOutcome.challenge?)

/-- An inquiry shows the challenge in effect after it, and only if one came. -/
theorem probed_shown {y : Scene σ} {token : Option String}
    {answer : Except Refusal (Option Identity)} {text : String}
    (h : (y.probed token answer).1.challenge? = some text) :
    (Interaction.probed token answer).IsChallenge ∧
      text = (y.probed token answer).2.client.session.challenge.raw := by
  cases answer with
  | ok identity => cases h
  | error refusal =>
    cases refusal with
    | authenticationRequired raw => exact ⟨⟨raw, rfl⟩, (Option.some.inj h).symm⟩
    | _ => cases h

/-- What came after the last call brought no challenge. -/
theorem challengeAfter_meet_of_quiet {past : List Moment} {log : List Interaction}
    (h : ∀ i ∈ log, i.call? = none) : challengeAfter (meet past log) = challengeAfter past := by
  induction log generalizing past with
  | nil => rfl
  | cons i log ih =>
    rw [List.forall_mem_cons] at h
    refine (ih h.2).trans ?_
    rw [challengeAfter_cons]
    cases i with
    | submitted | probed => cases h.1
    | _ => rfl

/-- The last call among others. -/
theorem exists_last_call {log : List Interaction} {r : Request} {outcome : Outcome}
    (hlast : (exchanges log).getLast? = some (r, outcome))
    (hprobe : ∀ token answer, .probed token answer ∉ log) :
    ∃ before token after, log = before ++ .submitted r token outcome :: after ∧
      ∀ i ∈ after, i.call? = none := by
  obtain ⟨earlier, hexchanges⟩ := List.getLast?_eq_some_iff.mp hlast
  obtain ⟨l₁, l₂, rfl, -, hl₂⟩ := List.filterMap_eq_append_iff.mp hexchanges
  obtain ⟨between, i, after, rfl, -, hi, hafter⟩ := List.filterMap_eq_cons_iff.mp hl₂
  rw [List.filterMap_eq_nil_iff] at hafter
  cases i with
  | submitted r' token outcome' =>
    cases hi
    refine ⟨l₁ ++ between, token, after, by simp, fun j hj => ?_⟩
    cases j with
    | submitted => exact absurd (hafter _ hj) (by simp [Interaction.exchange?])
    | probed token answer => exact absurd (by simp [hj]) (hprobe token answer)
    | _ => rfl
  | _ => cases hi

theorem Occurs.shown {h : Host (StateM σ)} {past : List Moment} {x y : Scene σ} {e : Episode}
    (occurs : Occurs h x e y) (hs : Stands h past x.client.session) {text : String}
    (hshown : e.shown? = some text) :
    ∃ before i after, e.log = before ++ i :: after ∧ i.IsChallenge ∧
      (∀ j ∈ after, j.call? = none) ∧
      text = (challengeAfter (meet (.asked e.action :: past) (before ++ [i]))).raw := by
  have hend := occurs.stands hs
  -- it is enough to find the call: nothing after it changes the challenge in effect
  suffices hcall : ∃ before i after, e.log = before ++ i :: after ∧ i.IsChallenge ∧
      (∀ j ∈ after, j.call? = none) ∧ text = y.client.session.challenge.raw by
    obtain ⟨before, i, after, hlog, hi, hafter, rfl⟩ := hcall
    refine ⟨before, i, after, hlog, hi, hafter, ?_⟩
    rw [hend.tracks.challenge_eq, hlog, List.append_cons, meet_append,
      challengeAfter_meet_of_quiet hafter]
  cases occurs with
  | @performed op log result y course =>
    obtain ⟨hconforms, hprobe⟩ := (Occurs.performed course).conforms
    obtain ⟨e, rfl⟩ : ∃ e, result = .error e := by
      cases result with
      | ok a => cases hshown
      | error e => exact ⟨e, rfl⟩
    have hexplains := hconforms.explained e rfl
    have hchallenge : e.challenge? = some text := Option.or_none.symm.trans hshown
    cases hexplains with
    | @refused r refusal last =>
      obtain ⟨before, token, after, hlog, hafter⟩ := exists_last_call last hprobe
      cases refusal with
      | authenticationRequired raw =>
        exact ⟨before, _, after, hlog, ⟨raw, rfl⟩, hafter, (Option.some.inj hchallenge).symm⟩
      | _ => cases hchallenge
    | _ => cases hchallenge
  | @inquired q nonce token answer y asked =>
    obtain ⟨hchallenge, htext⟩ := probed_shown hshown
    refine ⟨[.drew nonce], _, _, rfl, hchallenge, fun j hj => ?_, htext⟩
    obtain ⟨event, -, rfl⟩ := List.mem_map.mp hj
    rfl
  | @inquiredQuietly q nonce token answer y asked =>
    obtain ⟨hchallenge, htext⟩ := probed_shown hshown
    refine ⟨[.drew nonce], _, _, rfl, hchallenge, fun j hj => ?_, htext⟩
    exact absurd hj List.not_mem_nil
  | _ => cases hshown

/-- **Tokens and challenges**: in every run from the start, each call carries the token for the
history before it, and the challenge that is shown to the user is the one that is in effect right
after the call that it came from. -/
theorem tokens_and_challenges (h : Host (StateM σ)) (directory : String) (s : σ)
    (actions : List Action) :
    (∀ later past i call,
      history (run h actions ⟨.startingIn directory, s⟩).1 = later ++ .met i :: past →
      i.call? = some call →
      call.token = tokenAfter past call.method (h.service.requestUri call.target)) ∧
    ∀ earlier e later text,
      (run h actions ⟨.startingIn directory, s⟩).1 = earlier ++ e :: later →
      e.shown? = some text →
      ∃ before i after, e.log = before ++ i :: after ∧ i.IsChallenge ∧
        (∀ j ∈ after, j.call? = none) ∧
        text = (challengeAfter
          (meet (.asked e.action :: history earlier) (before ++ [i]))).raw := by
  have step : ∀ {past : List Episode} {x e y}, Stands h (history past) x.client.session →
      Occurs h x e y → Stands h (history (past ++ [e])) y.client.session := by
    intro past x e y hs occurs
    rw [history_append]
    exact occurs.stands hs
  refine ⟨fun later past i call hhistory hcall => ?_, fun earlier e later text hrun hshown => ?_⟩
  · have hend := run_invariant_end h (P := fun past c => Stands h (history past) c.session) step
      actions ⟨.startingIn directory, s⟩ [] (.startingIn directory)
    rw [List.nil_append, hhistory] at hend
    exact hend.carried.token_eq hcall
  · obtain ⟨x, y, occurs, hs⟩ := run_invariant h
      (P := fun past c => Stands h (history past) c.session) step
      actions ⟨.startingIn directory, s⟩ [] (.startingIn directory) hrun
    exact occurs.shown hs hshown

/-- The token after a login is that of its credential, and the challenge that a refused request
brings is shown. -/
theorem tokens_and_challenges_of_login :
    ∃ e₁ e₂ before r token outcome after,
      (run (.constant (.error (.authenticationRequired (some "Basic realm=x"))) (.ok none))
        [.inquire (.login ⟨"u", "p"⟩), .perform (.list none)] ⟨.startingIn "/", ()⟩).1 =
          [e₁, e₂] ∧
      e₂.log = before ++ .submitted r token outcome :: after ∧ token.isSome ∧
      token = tokenAfter (meet (.asked e₂.action :: history [e₁]) before) "GET" "/" ∧
      e₂.shown? = some "Basic realm=x" ∧
      ∃ before' i after', e₂.log = before' ++ i :: after' ∧ i.IsChallenge := by
  obtain ⟨e₁, e₂, hrun, hlog, hshown⟩ : ∃ e₁ e₂,
      (run (.constant (.error (.authenticationRequired (some "Basic realm=x"))) (.ok none))
        [.inquire (.login ⟨"u", "p"⟩), .perform (.list none)] ⟨.startingIn "/", ()⟩).1 =
          [e₁, e₂] ∧
      e₂.log = [.announced (.began 1 .list), .drew "0"] ++
        .submitted (.read "/") (some "Basic dTpw")
          (.error (.authenticationRequired (some "Basic realm=x"))) ::
        [.announced (.authenticationRequired 1 .list "Basic realm=x")] ∧
      e₂.shown? = some "Basic realm=x" :=
    ⟨_, _, rfl, by decide +kernel, by decide +kernel⟩
  have hhistory : history [e₁, e₂] =
      [.met (.announced (.authenticationRequired 1 .list "Basic realm=x"))] ++
        .met (.submitted (.read "/") (some "Basic dTpw")
          (.error (.authenticationRequired (some "Basic realm=x")))) ::
        meet (.asked e₂.action :: history [e₁]) [.announced (.began 1 .list), .drew "0"] := by
    rw [show [e₁, e₂] = [e₁] ++ [e₂] from rfl, history_append, hlog]
    rfl
  obtain ⟨htokens, hchallenges⟩ := tokens_and_challenges
    (.constant (.error (.authenticationRequired (some "Basic realm=x"))) (.ok none)) "/" ()
    [.inquire (.login ⟨"u", "p"⟩), .perform (.list none)]
  have htoken := htokens _ _ _ _ (hrun ▸ hhistory) rfl
  have hrun' : _ = [e₁] ++ e₂ :: [] := hrun
  obtain ⟨before', i, after', hlog', hi, -, -⟩ := hchallenges _ _ _ _ hrun' hshown
  exact ⟨e₁, e₂, _, _, _, _, _, hrun, hlog, rfl, htoken, hshown, before', i, after', hlog', hi⟩

end RemoteFiles
