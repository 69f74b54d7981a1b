import RemoteFiles.Proofs.Client.Course

/-!
# Runs of a client

A run is any sequence of actions, each of them carried out by the functions of the library on a
recorded host.  It is seen as a list of episodes: what was asked for, the client before and
after it, what passed between the client and its surroundings meanwhile, and the reply.

`Occurs h x e y` has one rule for each kind of action, and `occurs_episode` says that whatever is
carried out occurs.  `run_scene_invariant` is the induction over runs: what holds at the start
and is kept by everything that occurs holds before each episode of a run.  `run_invariant` is its
case for what does not look at the surroundings.
-/

namespace RemoteFiles

/-- Ways of asking the service who the sender is taken for. -/
inductive Inquiry
  | probe
  | login (credential : Auth.Credential)
  | logout

/-- What the session is when an inquiry begins to ask. -/
def Inquiry.prepare : Inquiry → Auth.Session → Auth.Session
  | probe, s => s
  | login credential, s => s.withCredential credential
  | logout, s => s.withoutCredential

/-- Everything that can be asked of a client. -/
inductive Action
  | perform (op : Operation)
  | clearClipboard
  /-- An inquiry whose outcome is announced. -/
  | inquire (q : Inquiry)
  /-- An inquiry of the session alone, which nobody is told about. -/
  | inquireQuietly (q : Inquiry)
  /-- Hands a challenge to the session. -/
  | setChallenge (raw : Option String)
  /-- Has the session make a token. -/
  | makeToken (method uri : String)

/-- What an action gives. -/
abbrev Action.Reply : Action → Type
  | perform op => Except OperationError op.Result
  | clearClipboard => Nat
  | inquire _ | inquireQuietly _ => ProbeOutcome
  | setChallenge _ => String
  | makeToken _ _ => Option String

section
variable {m : Type → Type} [Monad m]

/-- Carries out an inquiry on a session. -/
def Auth.inquire (service : Service m) (clientNonce : m String) :
    Inquiry → StateT Session m ProbeOutcome
  | .probe => probe service clientNonce
  | .login credential => login service clientNonce credential
  | .logout => logout service clientNonce

namespace Client

/-- Carries out an inquiry and announces its outcome. -/
def inquire (h : Host m) : Inquiry → StateT Client m ProbeOutcome
  | .probe => probe h
  | .login credential => login h credential
  | .logout => logout h

/-- Carries out an action. -/
def act (h : Host m) : (a : Action) → StateT Client m a.Reply
  | .perform op => perform h op
  | .clearClipboard => clearClipboard
  | .inquire q => inquire h q
  | .inquireQuietly q => withSession (Auth.inquire h.service h.clientNonce q)
  | .setChallenge raw => withSession (modifyGet fun s =>
      ((s.challenged raw).challenge.raw, s.challenged raw))
  | .makeToken method uri => withSession (Auth.authorizationFor h.clientNonce method uri)

end Client
end

/-- An action that was carried out. -/
structure Episode where
  action : Action
  before : Client
  log : List Interaction
  reply : action.Reply
  after : Client

/-- The error that an operation ended with. -/
def Episode.error? : Episode → Option OperationError
  | ⟨.perform _, _, _, .error e, _⟩ => some e
  | _ => none

/-- The outcome of an inquiry. -/
def Episode.probeOutcome? : Episode → Option ProbeOutcome
  | ⟨.inquire _, _, _, outcome, _⟩ => some outcome
  | ⟨.inquireQuietly _, _, _, outcome, _⟩ => some outcome
  | _ => none

variable {σ : Type}

/-- Carries out an action on the recorded host. -/
def episode (h : Host (StateM σ)) (a : Action) (x : Scene σ) : Episode × Scene σ :=
  let out := Client.act h.recorded a x.client ⟨x.around, []⟩
  (⟨a, x.client, out.2.log, out.1.1, out.1.2⟩, ⟨out.1.2, out.2.around⟩)

/-- Carries out actions one after another. -/
def run (h : Host (StateM σ)) : List Action → Scene σ → List Episode × Scene σ
  | [], x => ([], x)
  | a :: rest, x =>
    ((episode h a x).1 :: (run h rest (episode h a x).2).1, (run h rest (episode h a x).2).2)

theorem run_append (h : Host (StateM σ)) (actions more : List Action) (x : Scene σ) :
    run h (actions ++ more) x =
      ((run h actions x).1 ++ (run h more (run h actions x).2).1,
        (run h more (run h actions x).2).2) := by
  induction actions generalizing x with
  | nil => rfl
  | cons a actions ih => rw [List.cons_append, run, ih, run, List.cons_append]

/-! ### What can occur -/

/-- The event that tells of the outcome of an inquiry. -/
def ProbeOutcome.event? : ProbeOutcome → Option Event
  | authorized identity => some (.authorized identity)
  | challenged challenge => some (.challenged challenge)
  | _ => none

namespace Scene

/-- The scene with another session. -/
def withSession (x : Scene σ) (s : Auth.Session) : Scene σ :=
  { x with client.session := s }

/-- The scene after an event was announced. -/
def announced (x : Scene σ) (h : Host (StateM σ)) (e : Event) : Scene σ :=
  { x with around := (h.announce e x.around).2 }

/-- The scene after the outcome of an inquiry was announced, if it is one that is. -/
def told (x : Scene σ) (h : Host (StateM σ)) (outcome : ProbeOutcome) : Scene σ :=
  { x with around := outcome.event?.elim x.around fun e => (h.announce e x.around).2 }

/-- The scene in which the plan of an operation begins. -/
def begun (x : Scene σ) (h : Host (StateM σ)) (op : Operation) : Scene σ :=
  { x.announced h (.began x.client.nextId op.kind) with
    client.nextId := x.client.nextId + 1 }

end Scene

/-- In the scene `x` a probe is sent with a token for a nonce; `y` is the scene after its answer
came. -/
structure Asks (h : Host (StateM σ)) (x : Scene σ) (nonce : String) (token : Option String)
    (answer : Except Refusal (Option Identity)) (y : Scene σ) : Prop where
  answer_eq : x.client.session.answer nonce Verb.read.method
    (h.service.requestUri Auth.probeTarget) = (token, y.client.session)
  probe_eq : ∃ s, h.clientNonce x.around = (nonce, s) ∧
    h.service.probe token s = (answer, y.around)
  client_eq : y.client = { x.client with session := y.client.session }

theorem Asks.workspace_eq {h : Host (StateM σ)} {x y : Scene σ} {nonce : String}
    {token : Option String} {answer : Except Refusal (Option Identity)}
    (asks : Asks h x nonce token answer y) : y.client.workspace = x.client.workspace := by
  rw [asks.client_eq]

/-- The outcome and the session that an answer to a probe leads to. -/
def Scene.probed (y : Scene σ) (token : Option String)
    (answer : Except Refusal (Option Identity)) : ProbeOutcome × Scene σ :=
  ((y.client.session.probed token answer).1,
    y.withSession (y.client.session.probed token answer).2)

/-- What can occur when an action is carried out. -/
inductive Occurs (h : Host (StateM σ)) : Scene σ → Episode → Scene σ → Prop
  | performed {x op log result y}
      (course : Course h (op.plan x.client.workspace) (x.begun h op) log result y) :
      Occurs h x
        ⟨.perform op, x.client,
          .announced (.began x.client.nextId op.kind) ::
            (log ++ [.announced (.settled x.client.nextId op.kind result)]),
          result, y.client⟩
        (y.announced h (.settled x.client.nextId op.kind result))
  | cleared {x} :
      Occurs h x
        ⟨.clearClipboard, x.client, [], x.client.clipboard.size,
          (x.change fun w => { w with clipboard := .empty }).client⟩
        (x.change fun w => { w with clipboard := .empty })
  | inquired {x q nonce token answer y}
      (asked : Asks h (x.withSession (q.prepare x.client.session)) nonce token answer y) :
      Occurs h x
        ⟨.inquire q, x.client,
          [.drew nonce, .probed token answer] ++
            (y.probed token answer).1.event?.toList.map .announced,
          (y.probed token answer).1, (y.probed token answer).2.client⟩
        ((y.probed token answer).2.told h (y.probed token answer).1)
  | inquiredQuietly {x q nonce token answer y}
      (asked : Asks h (x.withSession (q.prepare x.client.session)) nonce token answer y) :
      Occurs h x
        ⟨.inquireQuietly q, x.client, [.drew nonce, .probed token answer],
          (y.probed token answer).1, (y.probed token answer).2.client⟩
        (y.probed token answer).2
  | challenged {x raw} :
      Occurs h x
        ⟨.setChallenge raw, x.client, [], (x.client.session.challenged raw).challenge.raw,
          (x.withSession (x.client.session.challenged raw)).client⟩
        (x.withSession (x.client.session.challenged raw))
  | tokenMade {x method uri nonce s token session} (drawn : h.clientNonce x.around = (nonce, s))
      (made : x.client.session.answer nonce method uri = (token, session)) :
      Occurs h x
        ⟨.makeToken method uri, x.client, [.drew nonce], token,
          { x.client with session := session }⟩
        ⟨{ x.client with session := session }, s⟩

/-! ### What is carried out occurs -/

theorem exists_asks (h : Host (StateM σ)) (x : Scene σ) :
    ∃ nonce token answer y, Asks h x nonce token answer y ∧
      Client.withSession (Auth.probe h.service h.clientNonce) x.client x.around =
        (((y.probed token answer).1, (y.probed token answer).2.client), y.around) ∧
      ∀ l, Client.withSession (Auth.probe h.recorded.service h.recorded.clientNonce) x.client
          ⟨x.around, l⟩ =
        (((y.probed token answer).1, (y.probed token answer).2.client),
          ⟨y.around, l ++ [.drew nonce, .probed token answer]⟩) := by
  obtain ⟨nonce, s₁, hn⟩ : ∃ n s, h.clientNonce x.around = (n, s) := ⟨_, _, rfl⟩
  obtain ⟨token, session, ht⟩ : ∃ t s, x.client.session.answer nonce Verb.read.method
      (h.service.requestUri Auth.probeTarget) = (t, s) := ⟨_, _, rfl⟩
  obtain ⟨answer, s₂, ho⟩ : ∃ o s, h.service.probe token s₁ = (o, s) := ⟨_, _, rfl⟩
  refine ⟨nonce, token, answer, ⟨{ x.client with session := session }, s₂⟩,
    ⟨ht, ⟨s₁, hn, ho⟩, rfl⟩, ?_, fun l => ?_⟩
  · rw [Client.withSession_apply, Client.probe_apply, hn]
    simp only [ht, ho]
    rfl
  · rw [Client.withSession_apply, Client.probe_apply, Host.recorded_clientNonce, hn]
    simp only [Host.recorded_requestUri, ht, Host.recorded_probe, ho, List.append_assoc]
    rfl

theorem exists_inquired (h : Host (StateM σ)) (q : Inquiry) (x : Scene σ) :
    ∃ nonce token answer y,
      Asks h (x.withSession (q.prepare x.client.session)) nonce token answer y ∧
      Client.withSession (Auth.inquire h.service h.clientNonce q) x.client x.around =
        (((y.probed token answer).1, (y.probed token answer).2.client), y.around) ∧
      ∀ l, Client.withSession (Auth.inquire h.recorded.service h.recorded.clientNonce q) x.client
          ⟨x.around, l⟩ =
        (((y.probed token answer).1, (y.probed token answer).2.client),
          ⟨y.around, l ++ [.drew nonce, .probed token answer]⟩) := by
  -- logging in and out changes the session and probes
  cases q <;> exact exists_asks h (x.withSession _)

theorem announceProbe_apply (h : Host (StateM σ)) (outcome : ProbeOutcome) (x : Scene σ) :
    Client.announceProbe h outcome x.client x.around =
      (((), x.client), (x.told h outcome).around) := by
  cases outcome <;> rfl

theorem announceProbe_recorded (h : Host (StateM σ)) (outcome : ProbeOutcome) (x : Scene σ)
    (l : List Interaction) :
    Client.announceProbe h.recorded outcome x.client ⟨x.around, l⟩ =
      (((), x.client),
        ⟨(x.told h outcome).around, l ++ outcome.event?.toList.map .announced⟩) := by
  -- what is not announced adds nothing to the log
  have hnil : ((((), x.client), ⟨x.around, l⟩) : (Unit × Client) × Recorded σ) =
      (((), x.client), ⟨x.around, l ++ []⟩) := by rw [List.append_nil]
  cases outcome with
  | authorized identity => rfl
  | challenged challenge => rfl
  | notFound url => exact hnil
  | transportError status => exact hnil

theorem inquire_apply (h : Host (StateM σ)) (q : Inquiry) (c : Client) (s : σ) :
    Client.inquire h q c s =
      let out := Client.withSession (Auth.inquire h.service h.clientNonce q) c s
      let told := Client.announceProbe h out.1.1 out.1.2 out.2
      ((out.1.1, told.1.2), told.2) := by
  cases q <;> rfl

/-- Performing an operation with a host and with its recorded twin: between its announcements it
goes the course of its plan. -/
theorem exists_performed (h : Host (StateM σ)) (op : Operation) (x : Scene σ) :
    ∃ log result y, Course h (op.plan x.client.workspace) (x.begun h op) log result y ∧
      Client.perform h op x.client x.around = ((result, y.client),
        (y.announced h (.settled x.client.nextId op.kind result)).around) ∧
      Client.perform h.recorded op x.client ⟨x.around, []⟩ = ((result, y.client),
        ⟨(y.announced h (.settled x.client.nextId op.kind result)).around,
          .announced (.began x.client.nextId op.kind) ::
            (log ++ [.announced (.settled x.client.nextId op.kind result)])⟩) := by
  obtain ⟨log, result, y, course, plain, recorded⟩ :=
    exists_course h (op.plan x.client.workspace) (x.begun h op)
  refine ⟨log, result, y, course, ?_, ?_⟩
  · refine (Client.perform_apply h op x.client x.around).trans ?_
    exact congrArg (fun out : (_ × Client) × σ =>
      (out.1, (h.announce (.settled x.client.nextId op.kind out.1.1) out.2).2)) plain
  · refine (Client.perform_apply h.recorded op x.client ⟨x.around, []⟩).trans ?_
    exact congrArg (fun out : (_ × Client) × Recorded σ =>
      (out.1, (h.recorded.announce (.settled x.client.nextId op.kind out.1.1) out.2).2))
      (recorded _)

/-- Carrying out an action with a host and with its recorded twin: both do what occurs, and the
twin has written down its log. -/
theorem exists_occurs (h : Host (StateM σ)) (a : Action) (x : Scene σ) :
    ∃ log reply y, Occurs h x ⟨a, x.client, log, reply, y.client⟩ y ∧
      Client.act h a x.client x.around = ((reply, y.client), y.around) ∧
      Client.act h.recorded a x.client ⟨x.around, []⟩ =
        ((reply, y.client), ⟨y.around, log⟩) := by
  cases a with
  | perform op =>
    obtain ⟨log, result, y, course, plain, recorded⟩ := exists_performed h op x
    exact ⟨_, result, y.announced h (.settled x.client.nextId op.kind result),
      .performed course, plain, recorded⟩
  | clearClipboard => exact ⟨_, _, _, .cleared, rfl, rfl⟩
  | inquire q =>
    obtain ⟨nonce, token, answer, y, asked, plain, recorded⟩ := exists_inquired h q x
    refine ⟨_, _, (y.probed token answer).2.told h (y.probed token answer).1,
      .inquired asked, ?_, ?_⟩
    · refine (inquire_apply h q x.client x.around).trans ?_
      rw [plain]
      exact congrArg (fun told : (Unit × Client) × σ =>
        (((y.probed token answer).1, told.1.2), told.2))
        (announceProbe_apply h _ (y.probed token answer).2)
    · refine (inquire_apply h.recorded q x.client ⟨x.around, []⟩).trans ?_
      rw [recorded]
      exact congrArg (fun told : (Unit × Client) × Recorded σ =>
        (((y.probed token answer).1, told.1.2), told.2))
        (announceProbe_recorded h _ (y.probed token answer).2 _)
  | inquireQuietly q =>
    obtain ⟨nonce, token, answer, y, asked, plain, recorded⟩ := exists_inquired h q x
    exact ⟨_, _, _, .inquiredQuietly asked, plain, recorded []⟩
  | setChallenge raw => exact ⟨_, _, _, .challenged, rfl, rfl⟩
  | makeToken method uri =>
    exact ⟨_, _, ⟨{ x.client with session := _ }, _⟩, .tokenMade rfl rfl, rfl, rfl⟩

/-- An episode occurs, and recording changes nothing: its reply, and the client and the
surroundings after it, are those of the host that is not recorded. -/
theorem episode_spec (h : Host (StateM σ)) (a : Action) (x : Scene σ) :
    ∃ log reply y, episode h a x = (⟨a, x.client, log, reply, y.client⟩, y) ∧
      Occurs h x ⟨a, x.client, log, reply, y.client⟩ y ∧
      Client.act h a x.client x.around = ((reply, y.client), y.around) := by
  obtain ⟨log, reply, y, occurs, plain, recorded⟩ := exists_occurs h a x
  exact ⟨log, reply, y, by rw [episode, recorded], occurs, plain⟩

theorem occurs_episode (h : Host (StateM σ)) (a : Action) (x : Scene σ) :
    Occurs h x (episode h a x).1 (episode h a x).2 := by
  obtain ⟨log, reply, y, hepisode, occurs, -⟩ := episode_spec h a x
  rw [hepisode]
  exact occurs

/-! ### Operations by conditions on their plans -/

/-- What passes inside an operation that is announced at its beginning and its end. -/
theorem split_of_framed {b e : Event} {log before after : List Interaction} {i : Interaction}
    (hi : ∀ event, i ≠ .announced event)
    (hlog : .announced b :: (log ++ [.announced e]) = before ++ i :: after) :
    ∃ before' after', before = .announced b :: before' ∧ log = before' ++ i :: after' := by
  cases before with
  | nil =>
    simp only [List.nil_append, List.cons.injEq] at hlog
    exact absurd hlog.1.symm (hi b)
  | cons j before =>
    simp only [List.cons_append, List.cons.injEq] at hlog
    obtain ⟨rfl, hlog⟩ := hlog
    rcases List.append_eq_append_iff.mp hlog with ⟨rest, rfl, hend⟩ | ⟨rest, rfl, hend⟩
    · -- only the last announcement follows the log, and `i` is none
      cases rest with
      | nil =>
        simp only [List.nil_append, List.cons.injEq] at hend
        exact absurd hend.1.symm (hi e)
      | cons j rest => simp at hend
    · cases rest with
      | nil =>
        simp only [List.nil_append, List.cons.injEq] at hend
        exact absurd hend.1 (hi e)
      | cons j rest =>
        simp only [List.cons_append, List.cons.injEq] at hend
        obtain ⟨rfl, -⟩ := hend
        exact ⟨before, rest, rfl, rfl⟩

/-- The beginning of an operation, as it is announced. -/
def Scene.begins (x : Scene σ) (op : Operation) : List Interaction :=
  [.announced (.began x.client.nextId op.kind)]

namespace Occurs

variable {h : Host (StateM σ)} {x y : Scene σ} {e : Episode}

theorem before_eq (occurs : Occurs h x e y) : e.before = x.client := by
  cases occurs <;> rfl

theorem request_of_meets {op : Operation} {P : List Interaction → Request → Prop}
    {Q : List Interaction → Except OperationError op.Result → Workspace → Auth.Session → Prop}
    (occurs : Occurs h x e y) (hop : e.action = .perform op)
    (hp : (op.plan x.client.workspace).Meets P Q (x.begins op) x.client.workspace)
    {before after : List Interaction} {r : Request} {token : Option String} {outcome : Outcome}
    (hlog : e.log = before ++ .submitted r token outcome :: after) : P before r := by
  cases occurs with
  | performed course =>
    cases hop
    obtain ⟨before', after', rfl, hlog'⟩ := split_of_framed (by simp) hlog
    exact course.request_of_meets hp hlog'
  | _ => cases hop

end Occurs

/-! ### Induction over runs -/

/-- What holds at the start, of the episodes before it and the scene there, and is kept by
everything that occurs, holds at the end of a run. -/
theorem run_scene_invariant_end (h : Host (StateM σ)) {P : List Episode → Scene σ → Prop}
    (step : ∀ {past x e y}, P past x → Occurs h x e y → P (past ++ [e]) y)
    (actions : List Action) (x : Scene σ) (past : List Episode) (start : P past x) :
    P (past ++ (run h actions x).1) (run h actions x).2 := by
  induction actions generalizing x past with
  | nil =>
    rw [run, List.append_nil]
    exact start
  | cons a rest ih =>
    have hend := ih _ _ (step start (occurs_episode h a x))
    rwa [List.append_assoc] at hend

/-- What holds at the start, of no episodes and the scene there, and is kept by everything that
occurs, holds before each episode of a run, of the episodes before it and the scene then. -/
theorem run_scene_invariant (h : Host (StateM σ)) {P : List Episode → Scene σ → Prop}
    (step : ∀ {past x e y}, P past x → Occurs h x e y → P (past ++ [e]) y)
    (actions : List Action) (x : Scene σ) (past : List Episode) (start : P past x)
    {earlier later : List Episode} {e : Episode}
    (hrun : (run h actions x).1 = earlier ++ e :: later) :
    ∃ x' y, Occurs h x' e y ∧ P (past ++ earlier) x' := by
  induction actions generalizing x past earlier with
  | nil =>
    rw [run] at hrun
    exact absurd hrun (by simp)
  | cons a rest ih =>
    have occurs := occurs_episode h a x
    rw [run] at hrun
    cases earlier with
    | nil =>
      obtain ⟨rfl, -⟩ := List.cons_eq_cons.mp hrun
      exact ⟨x, _, occurs, by rwa [List.append_nil]⟩
    | cons e₀ earlier =>
      obtain ⟨rfl, hrest⟩ := List.cons_eq_cons.mp hrun
      obtain ⟨x', y, occurs', hP⟩ := ih _ _ (step start occurs) hrest
      refine ⟨x', y, occurs', ?_⟩
      rwa [List.append_assoc] at hP

/-- An invariant of the client alone, at the end of a run. -/
theorem run_invariant_end (h : Host (StateM σ)) {P : List Episode → Client → Prop}
    (step : ∀ {past x e y}, P past x.client → Occurs h x e y → P (past ++ [e]) y.client)
    (actions : List Action) (x : Scene σ) (past : List Episode) (start : P past x.client) :
    P (past ++ (run h actions x).1) (run h actions x).2.client :=
  run_scene_invariant_end h (P := fun past x => P past x.client) step actions x past start

/-- An invariant of the client alone, before each episode of a run. -/
theorem run_invariant (h : Host (StateM σ)) {P : List Episode → Client → Prop}
    (step : ∀ {past x e y}, P past x.client → Occurs h x e y → P (past ++ [e]) y.client)
    (actions : List Action) (x : Scene σ) (past : List Episode) (start : P past x.client)
    {earlier later : List Episode} {e : Episode}
    (hrun : (run h actions x).1 = earlier ++ e :: later) :
    ∃ x' y, Occurs h x' e y ∧ P (past ++ earlier) x'.client :=
  run_scene_invariant h (P := fun past x => P past x.client) step actions x past start hrun

end RemoteFiles
