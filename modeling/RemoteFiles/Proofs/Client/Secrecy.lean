import RemoteFiles.Proofs.Auth.Counts
import RemoteFiles.Proofs.Client.Run

/-!
# Passwords stay secret

A run is `redacted` by leaving out the passwords of its logins and all that is made from them: of
a token it is only left whether there is one.  `password_secret` says that two runs of scripts
which differ in passwords alone are the same once they are redacted, with any surroundings that do
not look at the tokens which they are given (`Host.Blind`).  So nothing depends on a password but
the tokens: no result, event, path or content, nor whether a token can be made at all.

What a session does commutes with redacting it, and so does what a client does with it.  The
surroundings of the two runs need not be equal, only alike: a service may write down its tokens
if its answers do not depend on them.
-/

namespace RemoteFiles

open Auth (Challenge Credential Session)

/-! ### What is left without passwords -/

/-- Of a token it is left whether there is one. -/
def redactedToken (token : Option String) : Option String := token.map fun _ => ""

namespace Auth

/-- A credential without its password. -/
def Credential.redacted (c : Credential) : Credential := { c with password := "" }

/-- A session without what is made from passwords. -/
def Session.redacted (s : Session) : Session :=
  { s with credential := s.credential.map .redacted, token := redactedToken s.token }

end Auth

/-- A client without what its session makes from passwords. -/
def Client.redacted (c : Client) : Client := { c with session := c.session.redacted }

/-- What passed, but for the tokens and the nonces that go into them. -/
def Interaction.redacted : Interaction → Interaction
  | announced e => announced e
  | drew _ => drew ""
  | fetched path result => fetched path result
  | submitted r token outcome => submitted r (redactedToken token) outcome
  | probed token answer => probed (redactedToken token) answer

/-- An inquiry without the password that it is made with. -/
def Inquiry.redacted : Inquiry → Inquiry
  | probe => probe
  | login credential => login credential.redacted
  | logout => logout

/-- An action without the password that it is given. -/
def Action.redacted : Action → Action
  | inquire q => inquire q.redacted
  | inquireQuietly q => inquireQuietly q.redacted
  | a => a

/-- An episode without passwords and what is made from them. -/
def Episode.redacted : Episode → Episode
  | ⟨.perform op, before, log, result, after⟩ =>
    ⟨.perform op, before.redacted, log.map .redacted, result, after.redacted⟩
  | ⟨.clearClipboard, before, log, size, after⟩ =>
    ⟨.clearClipboard, before.redacted, log.map .redacted, size, after.redacted⟩
  | ⟨.inquire q, before, log, outcome, after⟩ =>
    ⟨.inquire q.redacted, before.redacted, log.map .redacted, outcome, after.redacted⟩
  | ⟨.inquireQuietly q, before, log, outcome, after⟩ =>
    ⟨.inquireQuietly q.redacted, before.redacted, log.map .redacted, outcome, after.redacted⟩
  | ⟨.setChallenge raw, before, log, text, after⟩ =>
    ⟨.setChallenge raw, before.redacted, log.map .redacted, text, after.redacted⟩
  | ⟨.makeToken method uri, before, log, token, after⟩ =>
    ⟨.makeToken method uri, before.redacted, log.map .redacted, redactedToken token,
      after.redacted⟩

/-! ### Surroundings that do not look at tokens -/

variable {σ α : Type}

/-- In surroundings that are alike, whatever a host is asked comes out the same and leaves them
alike, though the values of the tokens differ.  Nonces may come out different. -/
structure Host.Blind (h : Host (StateM σ)) (alike : σ → σ → Prop) : Prop where
  submit : ∀ r token token' s s', token.isSome = token'.isSome → alike s s' →
    (h.service.submit r token s).1 = (h.service.submit r token' s').1 ∧
      alike (h.service.submit r token s).2 (h.service.submit r token' s').2
  probe : ∀ token token' s s', token.isSome = token'.isSome → alike s s' →
    (h.service.probe token s).1 = (h.service.probe token' s').1 ∧
      alike (h.service.probe token s).2 (h.service.probe token' s').2
  clientNonce : ∀ s s', alike s s' → alike (h.clientNonce s).2 (h.clientNonce s').2
  read : ∀ path s s', alike s s' → (h.disk.read path s).1 = (h.disk.read path s').1 ∧
    alike (h.disk.read path s).2 (h.disk.read path s').2
  announce : ∀ e s s', alike s s' → alike (h.announce e s).2 (h.announce e s').2

/-- Two clients that are the same without their passwords, in surroundings that are alike. -/
structure Scene.Alike (alike : σ → σ → Prop) (x x' : Scene σ) : Prop where
  workspace_eq : x.client.workspace = x'.client.workspace
  session_eq : x.client.session.redacted = x'.client.session.redacted
  nextId_eq : x.client.nextId = x'.client.nextId
  around : alike x.around x'.around

/-! ### Tokens and sessions -/

theorem redactedToken_eq_iff {token token' : Option String} :
    redactedToken token = redactedToken token' ↔ token.isSome = token'.isSome := by
  cases token <;> cases token' <;> simp [redactedToken]

namespace Auth.Session

theorem redacted_challenged (s : Session) (raw : Option String) :
    (s.challenged raw).redacted = s.redacted.challenged raw := by
  unfold challenged
  split <;> rfl

theorem challenge_challenged_redacted (s : Session) (raw : Option String) :
    (s.redacted.challenged raw).challenge = (s.challenged raw).challenge := by
  rw [← redacted_challenged]
  rfl

/-- Whether a token can be made does not depend on the password, and neither does what is left of
the session when it is made. -/
theorem redacted_answer (s : Session) (nonce nonce' method uri : String) :
    redactedToken (s.answer nonce method uri).1 =
        redactedToken (s.redacted.answer nonce' method uri).1 ∧
      (s.answer nonce method uri).2.redacted = (s.redacted.answer nonce' method uri).2 := by
  cases hcredential : s.credential with
  | none =>
    have hredacted : s.redacted.credential = none := by rw [redacted, hcredential]; rfl
    rw [answer, answer, hcredential, hredacted]
    exact ⟨rfl, rfl⟩
  | some credential =>
    have hredacted : s.redacted.credential = some credential.redacted := by
      rw [redacted, hcredential]
      rfl
    rw [answer, answer, hcredential, hredacted]
    refine ⟨redactedToken_eq_iff.mpr (Bool.eq_iff_iff.mpr ⟨?_, ?_⟩), ?_⟩
    · exact isSome_authorization
    · exact isSome_authorization
    · rfl

end Auth.Session

theorem redacted_refused (s : Session) (refusal : Refusal) :
    (Client.refused s refusal).1 = (Client.refused s.redacted refusal).1 ∧
      (Client.refused s refusal).2.redacted = (Client.refused s.redacted refusal).2 := by
  cases refusal with
  | authenticationRequired raw =>
    have hraw := congrArg Challenge.raw (s.challenge_challenged_redacted raw)
    exact ⟨congrArg OperationError.authenticationRequired hraw.symm, s.redacted_challenged raw⟩
  | _ => exact ⟨rfl, rfl⟩

theorem redacted_probed (s : Session) (token : Option String)
    (answer : Except Refusal (Option Identity)) :
    (s.probed token answer).1 = (s.redacted.probed (redactedToken token) answer).1 ∧
      (s.probed token answer).2.redacted =
        (s.redacted.probed (redactedToken token) answer).2 := by
  cases answer with
  | ok identity => exact ⟨rfl, rfl⟩
  | error refusal =>
    cases refusal with
    | authenticationRequired raw =>
      have hraw := congrArg Challenge.raw (s.challenge_challenged_redacted raw)
      exact ⟨congrArg ProbeOutcome.challenged hraw.symm,
        congrArg Session.unconfirmed (s.redacted_challenged raw)⟩
    | _ => exact ⟨rfl, rfl⟩

theorem redacted_prepare (q : Inquiry) (s : Session) :
    (q.prepare s).redacted = q.redacted.prepare s.redacted := by
  cases q <;> rfl

/-! ### Two runs side by side -/

section

variable {h : Host (StateM σ)} {alike : σ → σ → Prop} {x x' y y' : Scene σ}
  {nonce nonce' : String} {token token' : Option String}

namespace Scene.Alike

theorem client_eq (hx : Alike alike x x') : x.client.redacted = x'.client.redacted := by
  rw [Client.redacted, Client.redacted, hx.workspace_eq, hx.session_eq, hx.nextId_eq]

/-- The tokens and the sessions that two sessions come to when they answer, if they are the same
without passwords. -/
theorem answer_eq {s s' t t' : Session} {method uri : String} (hs : s.redacted = s'.redacted)
    (ht : s.answer nonce method uri = (token, t))
    (ht' : s'.answer nonce' method uri = (token', t')) :
    token.isSome = token'.isSome ∧ t.redacted = t'.redacted := by
  obtain ⟨htoken, hsession⟩ := s.redacted_answer nonce "" method uri
  obtain ⟨htoken', hsession'⟩ := s'.redacted_answer nonce' "" method uri
  rw [ht, hs] at htoken hsession
  rw [ht'] at htoken' hsession'
  exact ⟨redactedToken_eq_iff.mp (htoken.trans htoken'.symm), hsession.trans hsession'.symm⟩

/-- Two clients whose sessions alone have changed. -/
theorem after (hx : Alike alike x x')
    (hclient : y.client = { x.client with session := y.client.session })
    (hclient' : y'.client = { x'.client with session := y'.client.session })
    (hsession : y.client.session.redacted = y'.client.session.redacted)
    (haround : alike y.around y'.around) : Alike alike y y' := by
  refine ⟨?_, hsession, ?_, haround⟩
  · rw [hclient, hclient']
    exact hx.workspace_eq
  · rw [hclient, hclient']
    exact hx.nextId_eq

theorem withSession (hx : Alike alike x x') {s s' : Session} (hs : s.redacted = s'.redacted) :
    Alike alike (x.withSession s) (x'.withSession s') :=
  ⟨hx.workspace_eq, hs, hx.nextId_eq, hx.around⟩

end Scene.Alike

theorem Sends.agree (blind : h.Blind alike) {r : Request} {outcome outcome' : Outcome}
    (sent : Sends h x r nonce token outcome y) (sent' : Sends h x' r nonce' token' outcome' y')
    (hx : x.Alike alike x') :
    outcome = outcome' ∧ token.isSome = token'.isSome ∧ y.Alike alike y' := by
  obtain ⟨htoken, hsession⟩ := Scene.Alike.answer_eq hx.session_eq sent.answer_eq sent'.answer_eq
  obtain ⟨s, hnonce, hsubmit⟩ := sent.submit_eq
  obtain ⟨s', hnonce', hsubmit'⟩ := sent'.submit_eq
  have hs := blind.clientNonce _ _ hx.around
  rw [hnonce, hnonce'] at hs
  have houtcome := blind.submit r token token' s s' htoken hs
  rw [hsubmit, hsubmit'] at houtcome
  exact ⟨houtcome.1, htoken, hx.after sent.client_eq sent'.client_eq hsession houtcome.2⟩

theorem Asks.agree (blind : h.Blind alike) {answer answer' : Except Refusal (Option Identity)}
    (asks : Asks h x nonce token answer y) (asks' : Asks h x' nonce' token' answer' y')
    (hx : x.Alike alike x') :
    answer = answer' ∧ token.isSome = token'.isSome ∧ y.Alike alike y' := by
  obtain ⟨htoken, hsession⟩ := Scene.Alike.answer_eq hx.session_eq asks.answer_eq asks'.answer_eq
  obtain ⟨s, hnonce, hprobe⟩ := asks.probe_eq
  obtain ⟨s', hnonce', hprobe'⟩ := asks'.probe_eq
  have hs := blind.clientNonce _ _ hx.around
  rw [hnonce, hnonce'] at hs
  have hanswer := blind.probe token token' s s' htoken hs
  rw [hprobe, hprobe'] at hanswer
  exact ⟨hanswer.1, htoken, hx.after asks.client_eq asks'.client_eq hsession hanswer.2⟩

/-- Two courses of one plan from scenes that are alike. -/
theorem Course.agree (blind : h.Blind alike) {p : Plan α} {log log' : List Interaction}
    {result result' : Except OperationError α} (course : Course h p x log result y)
    (course' : Course h p x' log' result' y') (hx : x.Alike alike x') :
    log.map Interaction.redacted = log'.map Interaction.redacted ∧ result = result' ∧
      y.Alike alike y' := by
  induction course generalizing x' log' result' y' with
  | done | fail =>
    cases course'
    exact ⟨rfl, rfl, hx⟩
  | accepted sent rest ih =>
    cases course' with
    | accepted sent' rest' =>
      obtain ⟨houtcome, htoken, hy⟩ := sent.agree blind sent' hx
      cases houtcome
      obtain ⟨hlog, hresult, hz⟩ := ih rest' hy
      refine ⟨?_, hresult, hz⟩
      simp only [List.map_cons, Interaction.redacted, redactedToken_eq_iff.mpr htoken, hlog]
    | refused sent' => cases (sent.agree blind sent' hx).1
  | @refused r undo _ _ _ _ refusal y sent =>
    cases course' with
    | accepted sent' rest' => cases (sent.agree blind sent' hx).1
    | @refused _ _ _ _ _ _ _ y' sent' =>
      obtain ⟨houtcome, htoken, hy⟩ := sent.agree blind sent' hx
      cases houtcome
      obtain ⟨herror, hsession⟩ := redacted_refused y.client.session refusal
      obtain ⟨herror', hsession'⟩ := redacted_refused y'.client.session refusal
      rw [hy.session_eq] at herror hsession
      refine ⟨?_, congrArg Except.error (herror.trans herror'.symm),
        congrArg undo hy.workspace_eq, hsession.trans hsession'.symm, hy.nextId_eq, hy.around⟩
      simp only [List.map_cons, Interaction.redacted, redactedToken_eq_iff.mpr htoken]
  | @fetched path _ _ _ _ _ _ _ read rest ih =>
    have hread := blind.read path _ _ hx.around
    cases course' with
    | fetched read' rest' =>
      rw [read, read'] at hread
      cases hread.1
      obtain ⟨hlog, hresult, hz⟩ :=
        ih rest' ⟨hx.workspace_eq, hx.session_eq, hx.nextId_eq, hread.2⟩
      exact ⟨congrArg (_ :: ·) hlog, hresult, hz⟩
    | unreadable read' =>
      rw [read, read'] at hread
      cases hread.1
  | @unreadable path _ _ _ _ read =>
    have hread := blind.read path _ _ hx.around
    cases course' with
    | fetched read' rest' =>
      rw [read, read'] at hread
      cases hread.1
    | unreadable read' =>
      rw [read, read'] at hread
      cases hread.1
      exact ⟨rfl, rfl, hx.workspace_eq, hx.session_eq, hx.nextId_eq, hread.2⟩
  | @changed f _ _ _ _ _ rest ih =>
    cases course' with
    | changed rest' =>
      exact ih rest' ⟨congrArg f hx.workspace_eq, hx.session_eq, hx.nextId_eq, hx.around⟩

theorem Scene.Alike.announced (hx : x.Alike alike x') (blind : h.Blind alike) (e : Event) :
    (x.announced h e).Alike alike (x'.announced h e) :=
  ⟨hx.workspace_eq, hx.session_eq, hx.nextId_eq, blind.announce e _ _ hx.around⟩

theorem Scene.Alike.told (hx : x.Alike alike x') (blind : h.Blind alike)
    (outcome : ProbeOutcome) : (x.told h outcome).Alike alike (x'.told h outcome) := by
  refine ⟨hx.workspace_eq, hx.session_eq, hx.nextId_eq, ?_⟩
  rw [Scene.told, Scene.told]
  cases outcome.event? with
  | none => exact hx.around
  | some e => exact blind.announce e _ _ hx.around

/-- Two inquiries of one kind from scenes that are alike. -/
theorem Asks.agree_probed (blind : h.Blind alike) {q q' : Inquiry}
    {answer answer' : Except Refusal (Option Identity)}
    (asks : Asks h (x.withSession (q.prepare x.client.session)) nonce token answer y)
    (asks' : Asks h (x'.withSession (q'.prepare x'.client.session)) nonce' token' answer' y')
    (hq : q.redacted = q'.redacted) (hx : x.Alike alike x') :
    redactedToken token = redactedToken token' ∧ answer = answer' ∧
      (y.probed token answer).1 = (y'.probed token' answer').1 ∧
      (y.probed token answer).2.Alike alike (y'.probed token' answer').2 := by
  have hprepared : (q.prepare x.client.session).redacted =
      (q'.prepare x'.client.session).redacted := by
    rw [redacted_prepare, redacted_prepare, hq, hx.session_eq]
  obtain ⟨rfl, htoken, hy⟩ := asks.agree blind asks' (hx.withSession hprepared)
  rw [← redactedToken_eq_iff] at htoken
  obtain ⟨houtcome, hsession⟩ := redacted_probed y.client.session token answer
  obtain ⟨houtcome', hsession'⟩ := redacted_probed y'.client.session token' answer
  rw [hy.session_eq, htoken] at houtcome hsession
  exact ⟨htoken, rfl, houtcome.trans houtcome'.symm,
    hy.withSession (hsession.trans hsession'.symm)⟩

/-- What occurs when two scripts go on that differ in passwords alone. -/
theorem Occurs.agree (blind : h.Blind alike) {e e' : Episode} (occurs : Occurs h x e y)
    (occurs' : Occurs h x' e' y') (he : e.action.redacted = e'.action.redacted)
    (hx : x.Alike alike x') : e.redacted = e'.redacted ∧ y.Alike alike y' := by
  have hbefore := hx.client_eq
  cases occurs with
  | @performed op log result z course =>
    cases occurs' with
    | @performed op' log' result' z' course' =>
      obtain rfl : op = op' := by
        cases he
        rfl
      have hbegun : (x.begun h op).Alike alike (x'.begun h op) := by
        refine ⟨hx.workspace_eq, hx.session_eq, congrArg (· + 1) hx.nextId_eq, ?_⟩
        rw [Scene.begun, Scene.begun, hx.nextId_eq]
        exact blind.announce _ _ _ hx.around
      rw [← hx.workspace_eq] at course'
      obtain ⟨hlog, rfl, hz⟩ := course.agree blind course' hbegun
      have hend := hz.announced blind (.settled x.client.nextId op.kind result)
      rw [← hx.nextId_eq]
      refine ⟨?_, hend⟩
      simp only [Episode.redacted, List.map_cons, List.map_append, hlog, hbefore, hz.client_eq]
    | _ => cases he
  | cleared =>
    cases occurs' with
    | cleared =>
      have hy : (x.change fun w => { w with clipboard := .empty }).Alike alike
          (x'.change fun w => { w with clipboard := .empty }) :=
        ⟨by simp only [Scene.change, hx.workspace_eq], hx.session_eq, hx.nextId_eq, hx.around⟩
      refine ⟨?_, hy⟩
      simp only [Episode.redacted, hbefore, hy.client_eq, Client.clipboard, hx.workspace_eq]
    | _ => cases he
  | @inquired q nonce token answer z asked =>
    cases occurs' with
    | @inquired q' nonce' token' answer' z' asked' =>
      have hq : q.redacted = q'.redacted := Action.inquire.inj he
      obtain ⟨htoken, rfl, houtcome, hz⟩ := asked.agree_probed blind asked' hq hx
      have hend := hz.told blind (z.probed token answer).1
      rw [← houtcome]
      refine ⟨?_, hend⟩
      simp only [Episode.redacted, List.map_append, List.map_cons, Interaction.redacted, htoken,
        hbefore, hz.client_eq]
      rw [hq]
    | _ => cases he
  | @inquiredQuietly q nonce token answer z asked =>
    cases occurs' with
    | @inquiredQuietly q' nonce' token' answer' z' asked' =>
      have hq : q.redacted = q'.redacted := Action.inquireQuietly.inj he
      obtain ⟨htoken, rfl, houtcome, hz⟩ := asked.agree_probed blind asked' hq hx
      refine ⟨?_, hz⟩
      simp only [Episode.redacted, List.map_cons, Interaction.redacted, houtcome, htoken, hbefore,
        hz.client_eq]
      rw [hq]
    | _ => cases he
  | @challenged raw =>
    cases occurs' with
    | @challenged raw' =>
      obtain rfl : raw = raw' := Action.setChallenge.inj he
      have hsession : (x.client.session.challenged raw).redacted =
          (x'.client.session.challenged raw).redacted := by
        rw [Session.redacted_challenged, Session.redacted_challenged, hx.session_eq]
      have hraw : (x.client.session.challenged raw).challenge =
          (x'.client.session.challenged raw).challenge := by
        rw [← Session.challenge_challenged_redacted, hx.session_eq,
          Session.challenge_challenged_redacted]
      have hy := hx.withSession hsession
      refine ⟨?_, hy⟩
      simp only [Episode.redacted, hbefore, hy.client_eq, hraw]
    | _ => cases he
  | @tokenMade method uri nonce s token session drawn made =>
    cases occurs' with
    | @tokenMade method' uri' nonce' s' token' session' drawn' made' =>
      obtain ⟨rfl, rfl⟩ := Action.makeToken.inj he
      obtain ⟨htoken, hsession⟩ := Scene.Alike.answer_eq hx.session_eq made made'
      have haround := blind.clientNonce _ _ hx.around
      rw [drawn, drawn'] at haround
      have hy : Scene.Alike alike ⟨{ x.client with session := session }, s⟩
          ⟨{ x'.client with session := session' }, s'⟩ :=
        ⟨hx.workspace_eq, hsession, hx.nextId_eq, haround⟩
      refine ⟨?_, hy⟩
      simp only [Episode.redacted, List.map_cons, Interaction.redacted, hbefore,
        redactedToken_eq_iff.mpr htoken, hy.client_eq]
    | _ => cases he

/-- **Passwords stay secret**: two runs of scripts that differ in passwords alone, from clients that
do, with surroundings in which nothing depends on the values of tokens, are the same but for
passwords and tokens.  Each call of the one carries a token exactly if that of the other does. -/
theorem password_secret (blind : h.Blind alike) {actions actions' : List Action}
    (hscript : actions.map Action.redacted = actions'.map Action.redacted)
    (hx : x.Alike alike x') :
    (run h actions x).1.map Episode.redacted = (run h actions' x').1.map Episode.redacted ∧
      (run h actions x).2.Alike alike (run h actions' x').2 := by
  induction actions generalizing actions' x x' with
  | nil =>
    obtain rfl := List.map_eq_nil_iff.mp hscript.symm
    exact ⟨rfl, hx⟩
  | cons a rest ih =>
    obtain ⟨a', rest', rfl, ha, hrest⟩ := List.map_eq_cons_iff.mp hscript.symm
    obtain ⟨hepisode, hy⟩ :=
      (occurs_episode h a x).agree blind (occurs_episode h a' x') ha.symm hx
    obtain ⟨hepisodes, hend⟩ := ih hrest.symm hy
    rw [run, run, List.map_cons, List.map_cons, hepisode, hepisodes]
    exact ⟨rfl, hend⟩

end

/-- Two logins with different passwords leave different tokens behind, and nothing else that
differs. -/
theorem password_secret_of_login :
    let h := Host.constant (.error (.authenticationRequired (some "Digest nonce=n"))) (.ok none)
    let script (password : String) : List Action :=
      [.inquire (.login ⟨"u", password⟩), .perform (.list none), .perform (.list none)]
    let ran (password : String) := run h (script password) ⟨.startingIn "/", ()⟩
    h.Blind Eq ∧ (script "p").map Action.redacted = (script "q").map Action.redacted ∧
      (ran "p").2.client.session.token ≠ (ran "q").2.client.session.token ∧
      (ran "p").1.map Episode.redacted = (ran "q").1.map Episode.redacted := by
  intro h script ran
  have blind : h.Blind Eq :=
    ⟨fun _ _ _ _ _ _ _ => ⟨rfl, rfl⟩, fun _ _ _ _ _ _ => ⟨rfl, rfl⟩, fun _ _ _ => rfl,
      fun _ _ _ _ => ⟨rfl, rfl⟩, fun _ _ _ _ => rfl⟩
  have hscript : (script "p").map Action.redacted = (script "q").map Action.redacted := rfl
  obtain ⟨hepisodes, -⟩ := password_secret blind (x := ⟨.startingIn "/", ()⟩) hscript
    ⟨rfl, rfl, rfl, rfl⟩
  exact ⟨blind, hscript, by decide +kernel, hepisodes⟩

end RemoteFiles
