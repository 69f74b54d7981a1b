import RemoteFiles.Proofs.Client.Recording

/-!
# A client in two surroundings

Two surroundings may differ in what a client cannot see.  `Agrees R` says of what is done in the one
and in the other that, from states that `R` relates, it gives the same and leads to such states
again, and `AgreesOn R` says so of what has a state of its own besides, such as that of a client.
Both are kept by doing one thing after another.

If the steps of two hosts agree (`Host.Agrees`), then so does all that a client does with them
(`agrees_perform`, `agrees_probe`, `agrees_login`, `agrees_logout`).  A host agrees with its
recorded twin (`agrees_recorded`), and that with itself behind a longer log
(`recorded_agrees_behind`).
-/

namespace RemoteFiles

variable {σ σ' α β ρ : Type} {R : σ → σ' → Prop}

/-! ### Steps that agree -/

/-- From related states both give the same and lead to related states. -/
def Agrees (R : σ → σ' → Prop) (act : StateM σ α) (act' : StateM σ' α) : Prop :=
  ∀ s s', R s s' → (act s).1 = (act' s').1 ∧ R (act s).2 (act' s').2

/-- Steps that agree, with a state of their own in common. -/
def AgreesOn (R : σ → σ' → Prop) (act : StateT ρ (StateM σ) α) (act' : StateT ρ (StateM σ') α) :
    Prop :=
  ∀ r, Agrees R (act r) (act' r)

namespace Agrees

theorem pure (a : α) : Agrees R (Pure.pure a) (Pure.pure a) := fun _ _ hs => ⟨rfl, hs⟩

theorem bind {act : StateM σ α} {act' : StateM σ' α} {next : α → StateM σ β}
    {next' : α → StateM σ' β} (h : Agrees R act act') (hnext : ∀ a, Agrees R (next a) (next' a)) :
    Agrees R (act >>= next) (act' >>= next') := by
  intro s s' hs
  obtain ⟨hresult, hstate⟩ := h s s' hs
  have hrest := hnext (act s).1 _ _ hstate
  rw [hresult] at hrest
  have happly : (act >>= next) s = next (act' s').1 (act s).2 := by rw [← hresult]; rfl
  rw [happly]
  exact hrest

end Agrees

namespace AgreesOn

theorem pure (a : α) :
    AgreesOn R (Pure.pure a : StateT ρ (StateM σ) α) (Pure.pure a : StateT ρ (StateM σ') α) :=
  fun r => Agrees.pure (a, r)

theorem bind {act : StateT ρ (StateM σ) α} {act' : StateT ρ (StateM σ') α}
    {next : α → StateT ρ (StateM σ) β} {next' : α → StateT ρ (StateM σ') β}
    (h : AgreesOn R act act') (hnext : ∀ a, AgreesOn R (next a) (next' a)) :
    AgreesOn R (act >>= next) (act' >>= next') :=
  fun r => (h r).bind fun out => hnext out.1 out.2

/-- What only looks at or changes the state in common. -/
theorem own (f : ρ → α × ρ) :
    AgreesOn R (fun r => Pure.pure (f r) : StateT ρ (StateM σ) α)
      (fun r => Pure.pure (f r) : StateT ρ (StateM σ') α) :=
  fun r => Agrees.pure (f r)

/-- What leaves the state in common alone. -/
theorem lift {act : StateM σ α} {act' : StateM σ' α} (h : Agrees R act act') :
    AgreesOn R (liftM act : StateT ρ (StateM σ) α) (liftM act' : StateT ρ (StateM σ') α) :=
  fun r => h.bind fun a => Agrees.pure (a, r)

end AgreesOn

/-! ### Hosts that agree -/

/-- All that a client does with one host agrees with what it does with the other. -/
structure Host.Agrees (R : σ → σ' → Prop) (h : Host (StateM σ)) (h' : Host (StateM σ')) :
    Prop where
  requestUri_eq : h.service.requestUri = h'.service.requestUri
  submit : ∀ r token,
    RemoteFiles.Agrees R (h.service.submit r token) (h'.service.submit r token)
  probe : ∀ token, RemoteFiles.Agrees R (h.service.probe token) (h'.service.probe token)
  clientNonce : RemoteFiles.Agrees R h.clientNonce h'.clientNonce
  read : ∀ path, RemoteFiles.Agrees R (h.disk.read path) (h'.disk.read path)
  announce : ∀ e, RemoteFiles.Agrees R (h.announce e) (h'.announce e)

section

variable {h : Host (StateM σ)} {h' : Host (StateM σ')}

theorem agrees_withSession {act : StateT Auth.Session (StateM σ) α}
    {act' : StateT Auth.Session (StateM σ') α} (hact : AgreesOn R act act') :
    AgreesOn R (Client.withSession act) (Client.withSession act') := by
  intro c s s' hs
  obtain ⟨hresult, hstate⟩ := hact c.session s s' hs
  rw [Client.withSession_apply, Client.withSession_apply]
  exact ⟨by rw [hresult], hstate⟩

theorem agrees_authorizationFor (hh : h.Agrees R h') (method uri : String) :
    AgreesOn R (Auth.authorizationFor h.clientNonce method uri)
      (Auth.authorizationFor h'.clientNonce method uri) :=
  (AgreesOn.lift hh.clientNonce).bind fun nonce =>
    .own fun session : Auth.Session => session.answer nonce method uri

theorem agrees_submit (hh : h.Agrees R h') (r : Request) :
    AgreesOn R (Client.submit h r) (Client.submit h' r) := by
  unfold Client.submit
  rw [hh.requestUri_eq]
  refine (agrees_withSession (agrees_authorizationFor hh _ _)).bind fun token => ?_
  refine (AgreesOn.lift (hh.submit r token)).bind fun outcome => ?_
  cases outcome with
  | ok body => exact .pure _
  | error refusal =>
    -- the session is told of the challenge, and nothing else looks at the refusal
    exact (agrees_withSession (.own _)).bind fun e => .pure _

/-- By induction on the plan: both hosts give the same answer to its first step, so the same plan
is left. -/
theorem agrees_follow (hh : h.Agrees R h') (p : Plan α) :
    AgreesOn R (Client.follow h p) (Client.follow h' p) := by
  induction p with
  | done a => exact .pure _
  | fail e => exact .pure _
  | submit r undo next ih =>
    rw [Client.follow, Client.follow]
    refine (agrees_submit hh r).bind fun result => ?_
    cases result with
    | ok body => exact ih body
    | error e => exact (AgreesOn.own _).bind fun _ => .pure _
  | readFile path next ih =>
    rw [Client.follow, Client.follow]
    refine (AgreesOn.lift (hh.read path)).bind fun result => ?_
    cases result with
    | ok data => exact ih data
    | error fault => exact .pure _
  | change f next ih => exact (AgreesOn.own _).bind fun _ => ih

theorem agrees_perform (hh : h.Agrees R h') (op : Operation) :
    AgreesOn R (Client.perform h op) (Client.perform h' op) := by
  refine (AgreesOn.own _).bind fun c => (AgreesOn.own _).bind fun _ => ?_
  refine (AgreesOn.lift (hh.announce _)).bind fun _ => ?_
  refine (agrees_follow hh _).bind fun result => ?_
  exact (AgreesOn.lift (hh.announce _)).bind fun _ => .pure _

theorem agrees_announceProbe (hh : h.Agrees R h') (outcome : ProbeOutcome) :
    AgreesOn R (Client.announceProbe h outcome) (Client.announceProbe h' outcome) := by
  cases outcome with
  | authorized identity => exact .lift (hh.announce _)
  | challenged challenge => exact .lift (hh.announce _)
  | notFound url => exact .pure _
  | transportError status => exact .pure _

theorem agrees_authProbe (hh : h.Agrees R h') :
    AgreesOn R (Auth.probe h.service h.clientNonce) (Auth.probe h'.service h'.clientNonce) := by
  unfold Auth.probe
  rw [hh.requestUri_eq]
  refine (agrees_authorizationFor hh _ _).bind fun token => ?_
  exact (AgreesOn.lift (hh.probe token)).bind fun answer => .own _

theorem agrees_login (hh : h.Agrees R h') (credential : Auth.Credential) :
    AgreesOn R (Client.login h credential) (Client.login h' credential) := by
  refine (agrees_withSession ((AgreesOn.own _).bind fun _ => agrees_authProbe hh)).bind
    fun outcome => ?_
  exact (agrees_announceProbe hh outcome).bind fun _ => .pure _

theorem agrees_logout (hh : h.Agrees R h') :
    AgreesOn R (Client.logout h) (Client.logout h') := by
  refine (agrees_withSession ((AgreesOn.own _).bind fun _ => agrees_authProbe hh)).bind
    fun outcome => ?_
  exact (agrees_announceProbe hh outcome).bind fun _ => .pure _

end

/-! ### Recorded hosts -/

namespace Recorded

/-- The same surroundings, recorded and not. -/
def Of (s : σ) (w : Recorded σ) : Prop := w.around = s

/-- The same surroundings, in the second of which more was written down before. -/
def Behind (past : List Interaction) (w w' : Recorded σ) : Prop :=
  w'.around = w.around ∧ w'.log = past ++ w.log

theorem agrees_noting (note : α → Interaction) (act : StateM σ α) :
    Agrees Of act (noting note act) := by
  rintro s w rfl
  exact ⟨rfl, rfl⟩

theorem agrees_quietly (act : StateM σ α) : Agrees Of act (quietly act) := by
  rintro s w rfl
  exact ⟨rfl, rfl⟩

theorem noting_agrees_behind (past : List Interaction) (note : α → Interaction)
    (act : StateM σ α) : Agrees (Behind past) (noting note act) (noting note act) := by
  rintro ⟨s, log⟩ ⟨s', log'⟩ ⟨haround, hlog⟩
  obtain rfl : s' = s := haround
  obtain rfl : log' = past ++ log := hlog
  exact ⟨rfl, rfl, List.append_assoc past log _⟩

theorem quietly_agrees_behind (past : List Interaction) (act : StateM σ α) :
    Agrees (Behind past) (quietly act) (quietly act) := by
  rintro ⟨s, log⟩ ⟨s', log'⟩ ⟨haround, hlog⟩
  obtain rfl : s' = s := haround
  obtain rfl : log' = past ++ log := hlog
  exact ⟨rfl, rfl, rfl⟩

end Recorded

namespace Host

/-- Recording changes nothing. -/
theorem agrees_recorded (h : Host (StateM σ)) : h.Agrees Recorded.Of h.recorded where
  requestUri_eq := rfl
  submit r token := Recorded.agrees_noting _ (h.service.submit r token)
  probe token := Recorded.agrees_noting _ (h.service.probe token)
  clientNonce := Recorded.agrees_noting _ h.clientNonce
  read path := Recorded.agrees_noting _ (h.disk.read path)
  announce e := Recorded.agrees_noting _ (h.announce e)

/-- What was written down before changes nothing. -/
theorem recorded_agrees_behind (h : Host (StateM σ)) (past : List Interaction) :
    h.recorded.Agrees (Recorded.Behind past) h.recorded where
  requestUri_eq := rfl
  submit r token := Recorded.noting_agrees_behind past _ (h.service.submit r token)
  probe token := Recorded.noting_agrees_behind past _ (h.service.probe token)
  clientNonce := Recorded.noting_agrees_behind past _ h.clientNonce
  read path := Recorded.noting_agrees_behind past _ (h.disk.read path)
  announce e := Recorded.noting_agrees_behind past _ (h.announce e)

end Host

end RemoteFiles
