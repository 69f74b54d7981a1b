import RemoteFiles.Proofs.Client.Failures

/-!
# What accepted probes confirm

A session remembers the token and the identity of a probe that the service accepted.  Which probe
that is can be read off the history (`Confirms`): the latest accepted one, as long as no probe was
challenged and nobody logged out after it.  `session_reflects` says that the session of every run
remembers what its history confirms, and nothing if it confirms nothing.

Operations on files have no part in this, even if they are challenged, and a probe that failed on
the way leaves a session as it was prepared for it (`Episode.KeepsLogin`).
-/

namespace RemoteFiles

open Auth (Session)

/-- The inquiry that an action is. -/
def Action.inquiry? : Action → Option Inquiry
  | inquire q | inquireQuietly q => some q
  | _ => none

/-- The service could not be asked, or has no root. -/
def ProbeOutcome.isFailure : ProbeOutcome → Bool
  | notFound _ | transportError _ => true
  | _ => false

/-- From this moment on it is settled anew whether the service accepts the sender: somebody logs
out, or a probe is accepted or challenged. -/
def Moment.settles : Moment → Bool
  | asked (.inquire .logout) | asked (.inquireQuietly .logout) => true
  | met (.probed _ (.ok _)) => true
  | met (.probed _ (.error (.authenticationRequired _))) => true
  | _ => false

/-- The latest accepted probe of a history was sent with the token and told the identity, and
after it no probe was challenged and nobody logged out. -/
inductive Confirms : List Moment → Option String → Option Identity → Prop
  | accepted (token : Option String) (identity : Option Identity) (past : List Moment) :
      Confirms (.met (.probed token (.ok identity)) :: past) token identity
  | since {m : Moment} {past : List Moment} {token : Option String} {identity : Option Identity}
      (unsettled : m.settles = false) (confirms : Confirms past token identity) :
      Confirms (m :: past) token identity

/-- A session remembers what its history confirms, and nothing else.  Without a credential there
is no token to remember. -/
structure Reflects (past : List Moment) (s : Session) : Prop where
  confirmed : ∀ token identity, Confirms past token identity →
    s.token = token ∧ s.identity = identity
  unconfirmed : (¬∃ token identity, Confirms past token identity) →
    s.token = none ∧ s.identity = none
  anonymous : s.credential = none → s.token = none

/-- What an episode must not change of the login: an operation on files none of it, and an inquiry
that failed only what it had to prepare. -/
structure Episode.KeepsLogin (e : Episode) : Prop where
  performed : ∀ op, e.action = .perform op → e.before.session.SameLogin e.after.session
  failed : ∀ q outcome, e.action.inquiry? = some q → e.probeOutcome? = some outcome →
    outcome.isFailure = true →
    (q.prepare e.before.session).SameLogin e.after.session ∧
      e.after.session.challenge = e.before.session.challenge

/-! ### Histories and sessions -/

theorem confirms_cons_iff {m : Moment} {past : List Moment} {token : Option String}
    {identity : Option Identity} (hm : m.settles = false) :
    Confirms (m :: past) token identity ↔ Confirms past token identity := by
  constructor
  · intro h
    cases h with
    | accepted => cases hm
    | since _ confirms => exact confirms
  · exact .since hm

namespace Reflects

variable {past : List Moment} {s s' : Session}

theorem startingIn (directory : String) : Reflects [] (Client.startingIn directory).session :=
  ⟨fun _ _ confirms => (nomatch confirms), fun _ => ⟨rfl, rfl⟩, fun _ => rfl⟩

theorem of_sameLogin (h : Reflects past s) (same : s.SameLogin s') : Reflects past s' := by
  obtain ⟨hcredential, hidentity, htoken⟩ := same
  refine ⟨?_, ?_, ?_⟩
  · rw [htoken, hidentity]
    exact h.confirmed
  · rw [htoken, hidentity]
    exact h.unconfirmed
  · rw [htoken, hcredential]
    exact h.anonymous

theorem since (h : Reflects past s) {m : Moment} (hm : m.settles = false) :
    Reflects (m :: past) s := by
  refine ⟨?_, ?_, h.anonymous⟩
  · simp only [confirms_cons_iff hm]
    exact h.confirmed
  · simp only [confirms_cons_iff hm]
    exact h.unconfirmed

theorem meet (h : Reflects past s) {log : List Interaction}
    (hlog : ∀ i ∈ log, (Moment.met i).settles = false) :
    Reflects (RemoteFiles.meet past log) s := by
  induction log generalizing past with
  | nil => exact h
  | cons i log ih =>
    rw [List.forall_mem_cons] at hlog
    exact ih (h.since hlog.1) hlog.2

theorem accepted {token : Option String} (identity : Option Identity)
    (htoken : s.credential = none → token = none) :
    Reflects (.met (.probed token (.ok identity)) :: past) (s.accepted token identity) := by
  refine ⟨fun token' identity' confirms => ?_, fun hnone => ?_, htoken⟩
  · cases confirms with
    | accepted => exact ⟨rfl, rfl⟩
    | since unsettled => cases unsettled
  · exact absurd ⟨token, identity, .accepted token identity past⟩ hnone

/-- What was confirmed is forgotten. -/
theorem revoked {m : Moment} (hm : ∀ token identity, ¬Confirms (m :: past) token identity)
    (htoken : s.token = none) (hidentity : s.identity = none) : Reflects (m :: past) s :=
  ⟨fun token identity confirms => absurd confirms (hm token identity),
    fun _ => ⟨htoken, hidentity⟩, fun _ => htoken⟩

/-- An inquiry begins: logging in changes the credential alone, and logging out forgets all. -/
theorem prepared (h : Reflects past s) {a : Action} {q : Inquiry} (ha : a.inquiry? = some q) :
    Reflects (.asked a :: past) (q.prepare s) := by
  have hlogout : a = .inquire .logout ∨ a = .inquireQuietly .logout →
      ∀ token identity, ¬Confirms (.asked a :: past) token identity := by
    rintro (rfl | rfl) token identity (_ | ⟨unsettled, -⟩) <;> cases unsettled
  have hcases : a = .inquire q ∨ a = .inquireQuietly q := by
    cases a <;> simp_all [Action.inquiry?]
  cases q with
  | probe => rcases hcases with rfl | rfl <;> exact h.since rfl
  | login credential =>
    have hsince : Reflects (.asked a :: past) s := by
      rcases hcases with rfl | rfl <;> exact h.since rfl
    exact ⟨hsince.confirmed, hsince.unconfirmed, fun hnone => by cases hnone⟩
  | logout => exact revoked (hlogout hcases) rfl rfl

end Reflects

/-! ### Runs -/

section

variable {σ : Type} {h : Host (StateM σ)} {past : List Moment} {x y : Scene σ} {nonce : String}
  {token : Option String} {answer : Except Refusal (Option Identity)}

/-- Asking keeps the login, and only who is logged in gets a token. -/
theorem Asks.login_kept (asks : Asks h x nonce token answer y) :
    x.client.session.SameLogin y.client.session ∧
      y.client.session.challenge = x.client.session.challenge ∧
      (y.client.session.credential = none → token = none) := by
  have htoken : (x.client.session.answer nonce Verb.read.method
      (h.service.requestUri Auth.probeTarget)).1 = token := congrArg Prod.fst asks.answer_eq
  have hsession : (x.client.session.answer nonce Verb.read.method
      (h.service.requestUri Auth.probeTarget)).2 = y.client.session :=
    congrArg Prod.snd asks.answer_eq
  rw [← hsession, ← htoken]
  refine ⟨Session.answer_sameLogin _ _ _ _, Auth.answer_challenge _ _ _ _, fun hnone => ?_⟩
  rw [Auth.answer_credential] at hnone
  rw [Session.answer, hnone]

theorem Asks.reflects (asks : Asks h x nonce token answer y)
    (hx : Reflects past x.client.session) :
    Reflects (meet past [.drew nonce, .probed token answer])
      (y.probed token answer).2.client.session := by
  obtain ⟨hsame, -, htoken⟩ := asks.login_kept
  have hdrawn : Reflects (.met (.drew nonce) :: past) y.client.session :=
    (hx.of_sameLogin hsame).since rfl
  cases answer with
  | ok identity => exact Reflects.accepted identity htoken
  | error refusal =>
    cases refusal with
    | authenticationRequired raw =>
      refine Reflects.revoked ?_ rfl rfl
      rintro token' identity (_ | ⟨unsettled, -⟩)
      cases unsettled
    | _ => exact hdrawn.since rfl

theorem Occurs.reflects {e : Episode} (occurs : Occurs h x e y)
    (hx : Reflects past x.client.session) :
    Reflects (meet (.asked e.action :: past) e.log) y.client.session := by
  cases occurs with
  | @performed op log result z course =>
    have hend : Reflects (.asked (.perform op) :: past) z.client.session :=
      (hx.of_sameLogin course.session_kept.1).since rfl
    -- an operation on files makes no probe
    refine hend.meet fun i hi => ?_
    rw [List.mem_cons, List.mem_append, List.mem_singleton] at hi
    rcases hi with rfl | hi | rfl
    · rfl
    · cases i with
      | probed token answer => exact absurd hi (course.probed_notMem token answer)
      | _ => rfl
    · rfl
  | cleared => exact hx.since rfl
  | @inquired q nonce token answer z asked =>
    have hend := asked.reflects (hx.prepared (a := .inquire q) rfl)
    show Reflects (meet _ ([_, _] ++ _)) _
    rw [meet_append]
    refine hend.meet fun i hi => ?_
    obtain ⟨event, -, rfl⟩ := List.mem_map.mp hi
    rfl
  | @inquiredQuietly q nonce token answer z asked =>
    exact asked.reflects (hx.prepared (a := .inquireQuietly q) rfl)
  | challenged => exact (hx.of_sameLogin (Session.challenged_sameLogin _ _)).since rfl
  | @tokenMade method uri nonce _ token session drawn made =>
    have hsame := x.client.session.answer_sameLogin nonce method uri
    rw [made] at hsame
    exact ((hx.of_sameLogin hsame).since (m := .asked (.makeToken method uri)) rfl).since rfl

/-- An inquiry that failed on the way leaves the session as it was prepared. -/
theorem Asks.kept_of_failure {q : Inquiry}
    (asks : Asks h (x.withSession (q.prepare x.client.session)) nonce token answer y)
    (hfailure : (y.probed token answer).1.isFailure = true) :
    (q.prepare x.client.session).SameLogin (y.probed token answer).2.client.session ∧
      (y.probed token answer).2.client.session.challenge = x.client.session.challenge := by
  have hprepare : (q.prepare x.client.session).challenge = x.client.session.challenge := by
    cases q <;> rfl
  obtain ⟨hsame, hchallenge, -⟩ := asks.login_kept
  have hkept : (y.probed token answer).2.client.session = y.client.session := by
    cases answer with
    | ok identity => cases hfailure
    | error refusal =>
      cases refusal with
      | authenticationRequired raw => cases hfailure
      | _ => rfl
  rw [hkept]
  exact ⟨hsame, hchallenge.trans hprepare⟩

theorem Occurs.keepsLogin {e : Episode} (occurs : Occurs h x e y) : e.KeepsLogin := by
  constructor
  · intro op hop
    cases occurs with
    | performed course => exact course.session_kept.1
    | _ => cases hop
  · intro q outcome hq houtcome hfailure
    cases occurs with
    | inquired asked | inquiredQuietly asked =>
      cases hq
      obtain rfl := Option.some.inj houtcome
      exact asked.kept_of_failure hfailure
    | _ => cases hq

/-- **What is remembered of probes**: in every run, whatever comes of its calls, the session
remembers the token and the identity of the latest accepted probe, as long as no challenged probe
and no logging out came after it, and nothing otherwise.  Operations on files do not touch this,
and neither do probes that fail on the way, which keep the credential and the challenge as well. -/
theorem session_reflects (h : Host (StateM σ)) (directory : String) (s : σ)
    (actions : List Action) :
    Reflects (history (run h actions ⟨.startingIn directory, s⟩).1)
        (run h actions ⟨.startingIn directory, s⟩).2.client.session ∧
      ∀ e ∈ (run h actions ⟨.startingIn directory, s⟩).1, e.KeepsLogin := by
  have step : ∀ {past : List Episode} {x e y}, Reflects (history past) x.client.session →
      Occurs h x e y → Reflects (history (past ++ [e])) y.client.session := by
    intro past x e y hx occurs
    rw [history_append]
    exact occurs.reflects hx
  refine ⟨?_, fun e he => ?_⟩
  · exact run_invariant_end h (P := fun past c => Reflects (history past) c.session) step
      actions ⟨.startingIn directory, s⟩ [] (.startingIn directory)
  · obtain ⟨earlier, later, hrun⟩ := List.append_of_mem he
    obtain ⟨x, y, occurs, -⟩ := run_invariant h
      (P := fun past c => Reflects (history past) c.session) step
      actions ⟨.startingIn directory, s⟩ [] (.startingIn directory) hrun
    exact occurs.keepsLogin

end

/-- The token and the identity of an accepted login are still remembered after a listing that was
challenged. -/
theorem session_reflects_of_login :
    let h := Host.constant (.error (.authenticationRequired (some "Basic realm=x")))
      (.ok (some ⟨"u", none, none⟩))
    let ran := run h [.inquire (.login ⟨"u", "p"⟩), .perform (.list none)]
      ⟨.startingIn "/", ()⟩
    Confirms (history ran.1) (some "Basic dTpw") (some ⟨"u", none, none⟩) ∧
      ran.2.client.session.token = some "Basic dTpw" ∧
      ran.2.client.session.identity = some ⟨"u", none, none⟩ ∧
      ran.2.client.session.challenge.raw = "Basic realm=x" := by
  intro h ran
  obtain ⟨e₁, e₂, hrun, haction, hlogin, hlist, hchallenge⟩ : ∃ e₁ e₂, ran.1 = [e₁, e₂] ∧
      e₂.action = .perform (.list none) ∧
      e₁.log = [.drew "0", .probed (some "Basic dTpw") (.ok (some ⟨"u", none, none⟩)),
        .announced (.authorized (some ⟨"u", none, none⟩))] ∧
      e₂.log = [.announced (.began 1 .list), .drew "0",
        .submitted (.read "/") (some "Basic dTpw")
          (.error (.authenticationRequired (some "Basic realm=x"))),
        .announced (.authenticationRequired 1 .list "Basic realm=x")] ∧
      ran.2.client.session.challenge.raw = "Basic realm=x" :=
    ⟨_, _, rfl, rfl, by decide +kernel, by decide +kernel, by decide +kernel⟩
  have hconfirms : Confirms (history ran.1) (some "Basic dTpw") (some ⟨"u", none, none⟩) := by
    rw [hrun, show history [e₁, e₂] =
      meet (.asked e₂.action :: meet [.asked e₁.action] e₁.log) e₂.log from rfl, haction,
      hlogin, hlist]
    -- nothing that the listing met settles anything
    exact .since rfl (.since rfl (.since rfl (.since rfl (.since rfl (.since rfl
      (.accepted _ _ _))))))
  obtain ⟨hreflects, -⟩ := session_reflects h "/" ()
    [.inquire (.login ⟨"u", "p"⟩), .perform (.list none)]
  obtain ⟨htoken, hidentity⟩ := hreflects.confirmed _ _ hconfirms
  exact ⟨hconfirms, htoken, hidentity, hchallenge⟩

end RemoteFiles
