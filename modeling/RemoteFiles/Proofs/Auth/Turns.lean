import RemoteFiles.Proofs.Client.Tokens

/-!
# Turns of a session

All that a run does to its session are turns of three kinds: somebody logs in or out, a token is
asked for, and a challenge is reported or fails to be.  `turns` reads them off the episodes of a
run, the latest turn first, so that what was before a turn is the rest of the list.

`Lived past s` says that the turns `past` can lead to the session `s`; it has one rule for each
kind of turn, in terms of what the library does to sessions.  `lived_run` says that a run leads
to its session by its turns, and so what holds of everything that is lived holds of every run,
by an induction with one case for each kind of turn.

`holder` and `inEffect` say what the past tells of credential and challenge, and
`Lived.credential_eq` and `Lived.challenge_eq` that sessions keep to it.
-/

namespace RemoteFiles

open Auth (Challenge Credential Session)

namespace Auth

/-- What can happen to a session. -/
inductive Turn
  /-- Somebody logs in, or whoever was logged in logs out. -/
  | logged (credential : Option Credential)
  /-- A token is asked for, and this is what was made. -/
  | made (method uri : String) (token : Option String)
  /-- A call was answered or refused, with a challenge or without one. -/
  | told (raw : Option String)

/-- The turns of the list, the latest first, can lead from the start to the session. -/
inductive Lived : List Turn → Session → Prop
  | start : Lived [] .anonymous
  | logged {past s} (credential : Option Credential) (lived : Lived past s) :
      Lived (.logged credential :: past) { s with credential := credential }
  | made {past s} (clientNonce method uri : String) (lived : Lived past s) :
      Lived (.made method uri (s.answer clientNonce method uri).1 :: past)
        (s.answer clientNonce method uri).2
  | told {past s} (raw : Option String) (lived : Lived past s) :
      Lived (.told raw :: past) (s.challenged raw)
  /-- What is known from accepted probes can change without a turn: no token depends on it. -/
  | accepted {past s} (token : Option String) (identity : Option Identity)
      (lived : Lived past s) : Lived past (s.accepted token identity)

theorem Lived.unconfirmed {past : List Turn} {s : Session} (lived : Lived past s) :
    Lived past s.unconfirmed :=
  lived.accepted none none

/-! ### What the past tells -/

/-- Who is logged in after some turns. -/
def holder : List Turn → Option Credential
  | [] => none
  | .logged credential :: _ => credential
  | .made .. :: past => holder past
  | .told _ :: past => holder past

/-- The challenge in effect after some turns: the last one that came and could be read. -/
def inEffect : List Turn → Challenge
  | [] => .basic
  | .logged _ :: past => inEffect past
  | .made .. :: past => inEffect past
  | .told raw :: past => (raw.bind fun text => (Challenge.parse text).toOption).getD (inEffect past)

theorem answer_challenge (s : Session) (clientNonce method uri : String) :
    (s.answer clientNonce method uri).2.challenge = s.challenge := by
  unfold Session.answer
  split <;> rfl

theorem answer_credential (s : Session) (clientNonce method uri : String) :
    (s.answer clientNonce method uri).2.credential = s.credential := by
  unfold Session.answer
  split <;> simp_all

theorem Lived.credential_eq {past : List Turn} {s : Session} (lived : Lived past s) :
    s.credential = holder past := by
  induction lived with
  | start => rfl
  | logged credential _ _ => rfl
  | made clientNonce method uri _ ih => rw [answer_credential, holder, ih]
  | told raw _ ih => rw [challenged_credential, holder, ih]
  | accepted token identity _ ih => exact ih

theorem Lived.challenge_eq {past : List Turn} {s : Session} (lived : Lived past s) :
    s.challenge = inEffect past := by
  induction lived with
  | start => rfl
  | logged credential _ ih => exact ih
  | made clientNonce method uri _ ih => rw [answer_challenge, inEffect, ih]
  | told raw _ ih => rw [challenged_challenge, inEffect, ih]
  | accepted token identity _ ih => exact ih

end Auth

open Auth (Turn Lived)

/-! ### The turns of a run -/

/-- What an action itself does to the session, before anything passes. -/
def Action.turns : Action → List Turn
  | inquire q | inquireQuietly q => q.credential?.toList.map .logged
  | setChallenge raw => [.told raw]
  | _ => []

/-- The turns of a call: a token was made for it, and its outcome may have brought a
challenge. -/
def Interaction.turns (uri : String → String) : Interaction → List Turn
  | submitted r token outcome =>
    [.told (challengeOf outcome), .made r.verb.method (uri r.target) token]
  | probed token answer =>
    [.told (challengeOf answer), .made Verb.read.method (uri Auth.probeTarget) token]
  | _ => []

/-- The token that an episode gave as its reply. -/
def Episode.replyTurns : Episode → List Turn
  | ⟨.makeToken method uri, _, _, token, _⟩ => [.made method uri token]
  | _ => []

/-- The turns after more has passed. -/
def turnsAfter (uri : String → String) (past : List Turn) (log : List Interaction) : List Turn :=
  log.foldl (fun past i => i.turns uri ++ past) past

/-- The turns after an episode. -/
def Episode.turnsAfter (uri : String → String) (past : List Turn) (e : Episode) : List Turn :=
  e.replyTurns ++ RemoteFiles.turnsAfter uri (e.action.turns ++ past) e.log

/-- The turns of some episodes, the latest first. -/
def turns (uri : String → String) (episodes : List Episode) : List Turn :=
  episodes.foldl (Episode.turnsAfter uri) []

theorem turnsAfter_append (uri : String → String) (past : List Turn)
    (log more : List Interaction) :
    turnsAfter uri past (log ++ more) = turnsAfter uri (turnsAfter uri past log) more :=
  List.foldl_append

theorem turns_append (uri : String → String) (episodes : List Episode) (e : Episode) :
    turns uri (episodes ++ [e]) = e.turnsAfter uri (turns uri episodes) := by
  rw [turns, List.foldl_append]
  rfl

variable {σ : Type} {h : Host (StateM σ)} {past : List Turn} {s : Session} {x y : Scene σ}

namespace Auth.Lived

/-- After a token was made for a call and the call came back. -/
theorem called {clientNonce method uri : String} {token : Option String} {s' : Session}
    (lived : Lived past s) (hanswer : s.answer clientNonce method uri = (token, s'))
    (raw : Option String) :
    Lived (.told raw :: .made method uri token :: past) (s'.challenged raw) := by
  have hmade := lived.made clientNonce method uri
  rw [hanswer] at hmade
  exact hmade.told raw

theorem sent {r : Request} {clientNonce : String} {token : Option String} {outcome : Outcome}
    (lived : Lived past x.client.session) (sends : Sends h x r clientNonce token outcome y) :
    Lived (turnsAfter h.service.requestUri past
        [.drew clientNonce, .submitted r token outcome])
      (y.client.session.challenged (challengeOf outcome)) :=
  lived.called sends.answer_eq _

theorem probed {clientNonce : String} {token : Option String}
    {answer : Except Refusal (Option Identity)} (lived : Lived past x.client.session)
    (asks : Asks h x clientNonce token answer y) :
    Lived (turnsAfter h.service.requestUri past [.drew clientNonce, .probed token answer])
      (y.probed token answer).2.client.session := by
  have hcalled := lived.called asks.answer_eq (challengeOf answer)
  cases answer with
  | ok identity => exact hcalled.accepted token identity
  | error refusal =>
    cases refusal with
    | authenticationRequired raw => exact hcalled.unconfirmed
    | _ => exact hcalled

theorem prepared (lived : Lived past s) (q : Inquiry) :
    Lived (q.credential?.toList.map .logged ++ past) (q.prepare s) := by
  cases q with
  | probe => exact lived
  | login credential => exact lived.logged (some credential)
  | logout => exact lived.unconfirmed.logged none

end Auth.Lived

theorem Course.lived {α : Type} {p : Plan α} {log : List Interaction}
    {result : Except OperationError α} (course : Course h p x log result y)
    (lived : Lived past x.client.session) :
    Lived (turnsAfter h.service.requestUri past log) y.client.session := by
  induction course generalizing past with
  | done | fail => exact lived
  | accepted sends _ ih => exact ih (lived.sent sends)
  | @refused _ _ _ _ _ _ refusal _ sends =>
    have hsent := lived.sent sends
    rw [challengeOf, ← refused_session] at hsent
    exact hsent
  | fetched _ _ ih => exact ih lived
  | unreadable _ => exact lived
  | changed _ ih => exact ih lived

/-- Announcements are no turns. -/
theorem turnsAfter_announced (uri : String → String) (past : List Turn) (events : List Event) :
    turnsAfter uri past (events.map .announced) = past := by
  induction events with
  | nil => rfl
  | cons event events ih => exact ih

theorem Occurs.lived {e : Episode} (occurs : Occurs h x e y)
    (lived : Lived past x.client.session) :
    Lived (e.turnsAfter h.service.requestUri past) y.client.session := by
  cases occurs with
  | @performed op log result y course =>
    have hend := course.lived (x := x.begun h op) lived
    show Lived (turnsAfter _ (turnsAfter _ past (x.begins op)) (log ++ [_])) _
    rw [turnsAfter_append]
    exact hend
  | cleared => exact lived
  | @inquired q clientNonce token answer y asked =>
    have hend := (lived.prepared q).probed (x := x.withSession _) asked
    show Lived (turnsAfter _ (q.credential?.toList.map .logged ++ past) ([_, _] ++ _)) _
    rw [turnsAfter_append, turnsAfter_announced]
    exact hend
  | @inquiredQuietly q clientNonce token answer y asked =>
    exact (lived.prepared q).probed (x := x.withSession _) asked
  | @challenged raw => exact lived.told raw
  | @tokenMade method uri clientNonce _ token session drawn made =>
    have hmade := lived.made clientNonce method uri
    rw [made] at hmade
    exact hmade

/-- **Runs are lived**: the turns of a run lead from the start to the session at its end. -/
theorem lived_run (h : Host (StateM σ)) (directory : String) (s : σ) (actions : List Action) :
    Lived (turns h.service.requestUri (run h actions ⟨.startingIn directory, s⟩).1)
      (run h actions ⟨.startingIn directory, s⟩).2.client.session := by
  have step : ∀ {past : List Episode} {x e y},
      Lived (turns h.service.requestUri past) x.client.session → Occurs h x e y →
      Lived (turns h.service.requestUri (past ++ [e])) y.client.session := by
    intro past x e y lived occurs
    rw [turns_append]
    exact occurs.lived lived
  exact run_invariant_end h
    (P := fun past c => Lived (turns h.service.requestUri past) c.session) step
    actions ⟨.startingIn directory, s⟩ [] .start

end RemoteFiles
