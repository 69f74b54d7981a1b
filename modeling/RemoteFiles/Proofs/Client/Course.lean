import RemoteFiles.Proofs.Client.Recording

/-!
# Courses of plans

`Course h p x log result y` says that the plan `p`, followed by a client in the scene `x` with
the host `h`, can let `log` pass between the client and its surroundings, end with `result` and
leave the scene `y`.  It has one rule for each way in which a step can go, and so a statement
about all that an operation can do is proved by cases or by induction on its course.

`exists_course` ties it to the functions that run: what `Client.follow` gives is the end of a
course, and recording it writes down the log of that course and changes nothing else.

`Plan.Meets P Q past w p` is the weakest condition on a plan under which, after `past` and with
the workspace `w`, each request that `p` can send satisfies `P` and each of its ends satisfies
`Q`, whatever its requests and files give.  `Course.request_of_meets` and `Course.end_of_meets`
say that it holds of every course.
-/

namespace RemoteFiles

variable {σ α : Type}

/-- A client and its surroundings. -/
structure Scene (σ : Type) where
  client : Client
  around : σ

namespace Scene

/-- The scene with another workspace. -/
def change (x : Scene σ) (f : Workspace → Workspace) : Scene σ :=
  { x with client.workspace := f x.client.workspace }

/-- The scene after the client learned of a refusal. -/
def refused (x : Scene σ) (refusal : Refusal) (undo : Workspace → Workspace) : Scene σ :=
  { x with
    client.session := (Client.refused x.client.session refusal).2
    client.workspace := undo x.client.workspace }

end Scene

/-- In the scene `x` a request is sent with a token for a nonce; `y` is the scene after its
outcome came. -/
structure Sends (h : Host (StateM σ)) (x : Scene σ) (r : Request) (nonce : String)
    (token : Option String) (outcome : Outcome) (y : Scene σ) : Prop where
  answer_eq : x.client.session.answer nonce r.verb.method (h.service.requestUri r.target) =
    (token, y.client.session)
  submit_eq : ∃ s, h.clientNonce x.around = (nonce, s) ∧
    h.service.submit r token s = (outcome, y.around)
  client_eq : y.client = { x.client with session := y.client.session }

theorem Sends.workspace_eq {h : Host (StateM σ)} {x y : Scene σ} {r : Request} {nonce : String}
    {token : Option String} {outcome : Outcome} (hs : Sends h x r nonce token outcome y) :
    y.client.workspace = x.client.workspace := by
  rw [hs.client_eq]

/-- What can come of following a plan. -/
inductive Course (h : Host (StateM σ)) : Plan α → Scene σ → List Interaction →
    Except OperationError α → Scene σ → Prop
  | done (a : α) (x : Scene σ) : Course h (.done a) x [] (.ok a) x
  | fail (e : OperationError) (x : Scene σ) : Course h (.fail e) x [] (.error e) x
  | accepted {r undo next x nonce token body y log result z}
      (sent : Sends h x r nonce token (.ok body) y)
      (rest : Course h (next body) y log result z) :
      Course h (.submit r undo next) x
        (.drew nonce :: .submitted r token (.ok body) :: log) result z
  | refused {r undo next x nonce token refusal y}
      (sent : Sends h x r nonce token (.error refusal) y) :
      Course h (.submit r undo next) x
        [.drew nonce, .submitted r token (.error refusal)]
        (.error (Client.refused y.client.session refusal).1) (y.refused refusal undo)
  | fetched {path next x data s log result z}
      (read : h.disk.read path x.around = (.ok data, s))
      (rest : Course h (next data) ⟨x.client, s⟩ log result z) :
      Course h (.readFile path next) x (.fetched path (.ok data) :: log) result z
  | unreadable {path next x fault s}
      (read : h.disk.read path x.around = (.error fault, s)) :
      Course h (.readFile path next) x [.fetched path (.error fault)]
        (.error (.localFile fault)) ⟨x.client, s⟩
  | changed {f next x log result z} (rest : Course h next (x.change f) log result z) :
      Course h (.change f next) x log result z

theorem Course.of_done {h : Host (StateM σ)} {a : α} {x y : Scene σ} {log : List Interaction}
    {result : Except OperationError α} (hc : Course h (.done a) x log result y) :
    result = .ok a ∧ y = x := by
  cases hc
  exact ⟨rfl, rfl⟩

theorem Course.of_change {h : Host (StateM σ)} {f : Workspace → Workspace} {next : Plan α}
    {x y : Scene σ} {log : List Interaction} {result : Except OperationError α}
    (hc : Course h (.change f next) x log result y) : Course h next (x.change f) log result y := by
  cases hc with
  | changed rest => exact rest

/-- Following a plan with a host and with its recorded twin: both come to the end of one
course, and the twin has written down its log. -/
theorem exists_course (h : Host (StateM σ)) (p : Plan α) (x : Scene σ) :
    ∃ log result y, Course h p x log result y ∧
      Client.follow h p x.client x.around = ((result, y.client), y.around) ∧
      ∀ l, Client.follow h.recorded p x.client ⟨x.around, l⟩ =
        ((result, y.client), ⟨y.around, l ++ log⟩) := by
  induction p generalizing x with
  | done a => exact ⟨[], .ok a, x, .done a x, rfl, fun l => by rw [List.append_nil]; rfl⟩
  | fail e => exact ⟨[], .error e, x, .fail e x, rfl, fun l => by rw [List.append_nil]; rfl⟩
  | submit r undo next ih =>
    obtain ⟨nonce, s₁, hn⟩ : ∃ n s, h.clientNonce x.around = (n, s) := ⟨_, _, rfl⟩
    obtain ⟨token, session, ht⟩ : ∃ t s, x.client.session.answer nonce r.verb.method
        (h.service.requestUri r.target) = (t, s) := ⟨_, _, rfl⟩
    obtain ⟨outcome, s₂, ho⟩ : ∃ o s, h.service.submit r token s₁ = (o, s) := ⟨_, _, rfl⟩
    have sent : Sends h x r nonce token outcome ⟨{ x.client with session := session }, s₂⟩ :=
      ⟨ht, ⟨s₁, hn, ho⟩, rfl⟩
    have hn' : ∀ l, h.recorded.clientNonce ⟨x.around, l⟩ =
        (nonce, ⟨s₁, l ++ [.drew nonce]⟩) := by
      intro l
      rw [Host.recorded_clientNonce, hn]
    have ho' : ∀ l, h.recorded.service.submit r token ⟨s₁, l ++ [.drew nonce]⟩ =
        (outcome, ⟨s₂, l ++ [.drew nonce, .submitted r token outcome]⟩) := by
      intro l
      rw [Host.recorded_submit, ho, List.append_assoc]
      rfl
    cases outcome with
    | ok body =>
      obtain ⟨log, result, y, course, plain, recorded⟩ :=
        ih body ⟨{ x.client with session := session }, s₂⟩
      refine ⟨_, result, y, .accepted sent course, ?_, fun l => ?_⟩
      · rw [Client.follow_submit, Client.submit_of_ok hn ht ho]
        exact plain
      · rw [Client.follow_submit, Client.submit_of_ok (hn' l) ht (ho' l)]
        refine (recorded _).trans ?_
        rw [List.append_assoc]
        rfl
    | error refusal =>
      refine ⟨_, _, _, .refused sent, ?_, fun l => ?_⟩
      · rw [Client.follow_submit, Client.submit_of_error hn ht ho]
        rfl
      · rw [Client.follow_submit, Client.submit_of_error (hn' l) ht (ho' l)]
        rfl
  | readFile path next ih =>
    obtain ⟨result, s, hr⟩ : ∃ r s, h.disk.read path x.around = (r, s) := ⟨_, _, rfl⟩
    have hr' : ∀ l, h.recorded.disk.read path ⟨x.around, l⟩ =
        (result, ⟨s, l ++ [.fetched path result]⟩) := by
      intro l
      rw [Host.recorded_read, hr]
    cases result with
    | ok data =>
      obtain ⟨log, result, y, course, plain, recorded⟩ := ih data ⟨x.client, s⟩
      refine ⟨_, result, y, .fetched hr course, ?_, fun l => ?_⟩
      · rw [Client.follow_readFile, hr]
        exact plain
      · rw [Client.follow_readFile, hr' l]
        refine (recorded _).trans ?_
        rw [List.append_assoc]
        rfl
    | error fault =>
      refine ⟨_, _, _, .unreadable hr, ?_, fun l => ?_⟩
      · rw [Client.follow_readFile, hr]
      · rw [Client.follow_readFile, hr' l]
  | change f next ih =>
    obtain ⟨log, result, y, course, plain, recorded⟩ := ih (x.change f)
    refine ⟨log, result, y, .changed course, ?_, fun l => ?_⟩
    · rw [Client.follow_change]
      exact plain
    · rw [Client.follow_change]
      exact recorded l

/-! ### Conditions on plans -/

/-- Whatever the surroundings give, each request of a plan satisfies `P` with what passed before
it, and `Q` holds at the end, of all that passed, the result, the workspace and the session. -/
def Plan.Meets (P : List Interaction → Request → Prop)
    (Q : List Interaction → Except OperationError α → Workspace → Auth.Session → Prop) :
    List Interaction → Workspace → Plan α → Prop
  | past, w, .done a => ∀ session, Q past (.ok a) w session
  | past, w, .fail e => ∀ session, Q past (.error e) w session
  | past, w, .submit r undo next =>
    (∀ nonce, P (past ++ [.drew nonce]) r) ∧
    (∀ nonce token refusal session,
      Q (past ++ [.drew nonce, .submitted r token (.error refusal)])
        (.error (Client.refused session refusal).1) (undo w)
        (Client.refused session refusal).2) ∧
    ∀ nonce token body,
      (next body).Meets P Q (past ++ [.drew nonce, .submitted r token (.ok body)]) w
  | past, w, .readFile path next =>
    (∀ fault session,
      Q (past ++ [.fetched path (.error fault)]) (.error (.localFile fault)) w session) ∧
    ∀ data, (next data).Meets P Q (past ++ [.fetched path (.ok data)]) w
  | past, w, .change f next => next.Meets P Q past (f w)

namespace Plan.Meets

variable {P : List Interaction → Request → Prop}
  {Q : List Interaction → Except OperationError α → Workspace → Auth.Session → Prop}
  {past : List Interaction} {w : Workspace}

theorem done {a : α} (h : ∀ session, Q past (.ok a) w session) : (Plan.done a).Meets P Q past w :=
  h

theorem fail {e : OperationError} (h : ∀ session, Q past (.error e) w session) :
    (Plan.fail e).Meets P Q past w :=
  h

theorem submit {r : Request} {undo : Workspace → Workspace} {next : Payload → Plan α}
    (request : ∀ nonce, P (past ++ [.drew nonce]) r)
    (refused : ∀ nonce token refusal session,
      Q (past ++ [.drew nonce, .submitted r token (.error refusal)])
        (.error (Client.refused session refusal).1) (undo w) (Client.refused session refusal).2)
    (accepted : ∀ nonce token body,
      (next body).Meets P Q (past ++ [.drew nonce, .submitted r token (.ok body)]) w) :
    (Plan.submit r undo next).Meets P Q past w :=
  ⟨request, refused, accepted⟩

theorem readFile {path : Disk.Path} {next : ByteArray → Plan α}
    (unreadable : ∀ fault session,
      Q (past ++ [.fetched path (.error fault)]) (.error (.localFile fault)) w session)
    (fetched : ∀ data, (next data).Meets P Q (past ++ [.fetched path (.ok data)]) w) :
    (Plan.readFile path next).Meets P Q past w :=
  ⟨unreadable, fetched⟩

theorem change {f : Workspace → Workspace} {next : Plan α} (h : next.Meets P Q past (f w)) :
    (Plan.change f next).Meets P Q past w :=
  h

end Plan.Meets

namespace Course

variable {h : Host (StateM σ)} {p : Plan α} {x y : Scene σ} {log past : List Interaction}
  {result : Except OperationError α} {P : List Interaction → Request → Prop}
  {Q : List Interaction → Except OperationError α → Workspace → Auth.Session → Prop}

theorem end_of_meets (hc : Course h p x log result y)
    (hp : p.Meets P Q past x.client.workspace) :
    Q (past ++ log) result y.client.workspace y.client.session := by
  induction hc generalizing past with
  | done a x =>
    rw [List.append_nil]
    exact hp _
  | fail e x =>
    rw [List.append_nil]
    exact hp _
  | @accepted _ _ _ _ nonce token body _ _ _ _ sent rest ih =>
    rw [← sent.workspace_eq] at hp
    have hlog := ih (hp.2.2 nonce token body)
    rwa [List.append_assoc] at hlog
  | refused sent =>
    rw [← sent.workspace_eq] at hp
    exact hp.2.1 _ _ _ _
  | @fetched _ _ _ data _ _ _ _ read rest ih =>
    have hlog := ih (hp.2 data)
    rwa [List.append_assoc] at hlog
  | unreadable read => exact hp.1 _ _
  | changed rest ih => exact ih hp

/-- A request of a log that begins with one: it is that one, right after its nonce, or one of the
rest. -/
theorem split_of_sent {nonce : String} {r r' : Request} {token token' : Option String}
    {outcome outcome' : Outcome} {before after : List Interaction}
    (hlog : .drew nonce :: .submitted r token outcome :: log =
      before ++ .submitted r' token' outcome' :: after) :
    before = [.drew nonce] ∧ r' = r ∨
      ∃ rest, before = .drew nonce :: .submitted r token outcome :: rest ∧
        log = rest ++ .submitted r' token' outcome' :: after := by
  rcases before with - | ⟨i, - | ⟨j, before⟩⟩
  · simp at hlog
  · simp only [List.cons_append, List.nil_append, List.cons.injEq,
      Interaction.submitted.injEq] at hlog
    obtain ⟨rfl, ⟨rfl, -, -⟩, -⟩ := hlog
    exact .inl ⟨rfl, rfl⟩
  · simp only [List.cons_append, List.cons.injEq] at hlog
    obtain ⟨rfl, rfl, hlog⟩ := hlog
    exact .inr ⟨before, rfl, hlog⟩

theorem request_of_meets (hc : Course h p x log result y)
    (hp : p.Meets P Q past x.client.workspace) {before after : List Interaction} {r : Request}
    {token : Option String} {outcome : Outcome}
    (hlog : log = before ++ .submitted r token outcome :: after) : P (past ++ before) r := by
  induction hc generalizing past before with
  | done a x => simp at hlog
  | fail e x => simp at hlog
  | @accepted _ _ _ _ nonce token body _ _ _ _ sent rest ih =>
    rw [← sent.workspace_eq] at hp
    rcases split_of_sent hlog with ⟨rfl, rfl⟩ | ⟨later, rfl, hlater⟩
    · exact hp.1 nonce
    · have hr := ih (hp.2.2 nonce token body) hlater
      rwa [List.append_assoc] at hr
  | @refused _ _ _ _ nonce _ _ _ sent =>
    rcases split_of_sent hlog with ⟨rfl, rfl⟩ | ⟨later, rfl, hlater⟩
    · exact hp.1 nonce
    · simp at hlater
  | @fetched _ _ _ data _ _ _ _ read rest ih =>
    cases before with
    | nil => simp at hlog
    | cons i before =>
      simp only [List.cons_append, List.cons.injEq] at hlog
      obtain ⟨rfl, hlog⟩ := hlog
      have hr := ih (hp.2 data) hlog
      rwa [List.append_assoc] at hr
  | unreadable read =>
    cases before with
    | nil => simp at hlog
    | cons i before => simp at hlog
  | changed rest ih => exact ih hp hlog

end Course

-- a goal about a plan is taken apart by the lemmas above, not by computing the plan
attribute [irreducible] Plan.Meets

end RemoteFiles
