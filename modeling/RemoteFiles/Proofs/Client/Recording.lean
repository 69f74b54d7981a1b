import RemoteFiles.Client.Basic
import Mathlib.Control.Monad.Basic
import Mathlib.Tactic.SplitIfs

/-!
# Recorded runs

`Host.recorded h` is the host `h` with everything that passes between a client and its
surroundings written down in order: events, client nonces, local files that are read, requests
and probes with their tokens and what came of them.  The surroundings `σ` and what they do are
arbitrary, so a service that answers each call with any outcome is a case of it.

The rest of the module says what a client does as a function of its state and of the
surroundings, for any host in `StateM σ`; recorded hosts are among them.
-/

namespace RemoteFiles

/-- Something that passed between a client and its surroundings. -/
inductive Interaction
  | announced (e : Event)
  | drew (nonce : String)
  | fetched (path : Disk.Path) (result : Except DiskFault ByteArray)
  | submitted (r : Request) (token : Option String) (outcome : Outcome)
  | probed (token : Option String) (answer : Except Refusal (Option Identity))
  deriving DecidableEq

/-- Surroundings with what was written down so far. -/
structure Recorded (σ : Type) where
  around : σ
  log : List Interaction

variable {σ α : Type}

namespace Recorded

/-- Does something in the surroundings and writes down what it gave. -/
def noting (note : α → Interaction) (act : StateM σ α) : StateM (Recorded σ) α :=
  fun w => ((act w.around).1, ⟨(act w.around).2, w.log ++ [note (act w.around).1]⟩)

/-- Does something in the surroundings that is not written down. -/
def quietly {α : Type} (act : StateM σ α) : StateM (Recorded σ) α :=
  fun w => ((act w.around).1, { w with around := (act w.around).2 })

end Recorded

open Recorded (noting quietly)

/-- The same host with everything a client does with it written down. -/
def Host.recorded (h : Host (StateM σ)) : Host (StateM (Recorded σ)) where
  service := {
    requestUri := h.service.requestUri
    locate := h.service.locate
    submit := fun r token => noting (.submitted r token) (h.service.submit r token)
    probe := fun token => noting (.probed token) (h.service.probe token) }
  disk := { h.disk.lift quietly with
    read := fun path => noting (.fetched path) (h.disk.read path) }
  clientNonce := noting .drew h.clientNonce
  announce e := noting (fun _ => .announced e) (h.announce e)

namespace Host

variable (h : Host (StateM σ)) (w : Recorded σ)

@[simp] theorem recorded_requestUri :
    h.recorded.service.requestUri = h.service.requestUri := rfl

@[simp] theorem recorded_clientNonce : h.recorded.clientNonce w =
    ((h.clientNonce w.around).1,
      ⟨(h.clientNonce w.around).2, w.log ++ [.drew (h.clientNonce w.around).1]⟩) := rfl

@[simp] theorem recorded_submit (r : Request) (token : Option String) :
    h.recorded.service.submit r token w =
      ((h.service.submit r token w.around).1, ⟨(h.service.submit r token w.around).2,
        w.log ++ [.submitted r token (h.service.submit r token w.around).1]⟩) := rfl

@[simp] theorem recorded_probe (token : Option String) :
    h.recorded.service.probe token w =
      ((h.service.probe token w.around).1, ⟨(h.service.probe token w.around).2,
        w.log ++ [.probed token (h.service.probe token w.around).1]⟩) := rfl

@[simp] theorem recorded_read (path : Disk.Path) :
    h.recorded.disk.read path w =
      ((h.disk.read path w.around).1, ⟨(h.disk.read path w.around).2,
        w.log ++ [.fetched path (h.disk.read path w.around).1]⟩) := rfl

@[simp] theorem recorded_announce (e : Event) :
    h.recorded.announce e w =
      ((), ⟨(h.announce e w.around).2, w.log ++ [.announced e]⟩) := rfl

end Host

/-- A host that answers all requests alike and all probes alike; it has no local files and draws
one nonce. -/
def Host.constant (outcome : Outcome) (answer : Except Refusal (Option Identity)) :
    Host (StateM Unit) where
  service := {
    requestUri := id
    locate := id
    submit _ _ := pure outcome
    probe _ := pure answer }
  disk := {
    isThere _ := pure false
    isDirectory _ := pure false
    read _ := pure (.error .notFound)
    write _ _ := pure (.error .notFound)
    makeDirectory _ := pure (.error .notFound) }
  clientNonce := pure "0"
  announce _ := pure ()

/-! ### Steps of a client as functions of states -/

namespace Client

theorem withSession_apply (act : StateT Auth.Session (StateM σ) α) (c : Client) (s : σ) :
    withSession act c s =
      (((act c.session s).1.1, { c with session := (act c.session s).1.2 }),
        (act c.session s).2) :=
  rfl

theorem authorizationFor_apply (clientNonce : StateM σ String) (method uri : String)
    (session : Auth.Session) (s : σ) :
    Auth.authorizationFor clientNonce method uri session s =
      (session.answer (clientNonce s).1 method uri, (clientNonce s).2) :=
  rfl

theorem submit_of_ok {h : Host (StateM σ)} {r : Request} {c : Client} {s₀ s₁ s₂ : σ}
    {nonce : String} {token : Option String} {session : Auth.Session} {body : Payload}
    (hn : h.clientNonce s₀ = (nonce, s₁))
    (ht : c.session.answer nonce r.verb.method (h.service.requestUri r.target) =
      (token, session))
    (ho : h.service.submit r token s₁ = (.ok body, s₂)) :
    submit h r c s₀ = ((.ok body, { c with session := session }), s₂) := by
  simp only [submit, bind, StateT.bind, withSession_apply, authorizationFor_apply, hn, ht, liftM,
    monadLift, MonadLift.monadLift, StateT.lift, ho]
  rfl

theorem submit_of_error {h : Host (StateM σ)} {r : Request} {c : Client} {s₀ s₁ s₂ : σ}
    {nonce : String} {token : Option String} {session : Auth.Session} {refusal : Refusal}
    (hn : h.clientNonce s₀ = (nonce, s₁))
    (ht : c.session.answer nonce r.verb.method (h.service.requestUri r.target) =
      (token, session))
    (ho : h.service.submit r token s₁ = (.error refusal, s₂)) :
    submit h r c s₀ =
      ((.error (refused session refusal).1,
        { c with session := (refused session refusal).2 }), s₂) := by
  simp only [submit, bind, StateT.bind, withSession_apply, authorizationFor_apply, hn, ht, liftM,
    monadLift, MonadLift.monadLift, StateT.lift, ho]
  rfl

theorem follow_submit (h : Host (StateM σ)) (r : Request) (undo : Workspace → Workspace)
    (next : Payload → Plan α) (c : Client) (s : σ) :
    follow h (.submit r undo next) c s =
      match submit h r c s with
      | ((.ok body, c), s) => follow h (next body) c s
      | ((.error e, c), s) =>
        ((.error e, { c with workspace := undo c.workspace }), s) := by
  simp only [follow, bind, StateT.bind]
  rcases submit h r c s with ⟨⟨e | body, c⟩, s⟩ <;> rfl

theorem follow_readFile (h : Host (StateM σ)) (path : Disk.Path) (next : ByteArray → Plan α)
    (c : Client) (s : σ) :
    follow h (.readFile path next) c s =
      match h.disk.read path s with
      | (.ok data, s) => follow h (next data) c s
      | (.error fault, s) => ((.error (.localFile fault), c), s) := by
  simp only [follow, bind, StateT.bind, liftM, monadLift, MonadLift.monadLift, StateT.lift]
  rcases h.disk.read path s with ⟨fault | data, s⟩ <;> rfl

theorem follow_change (h : Host (StateM σ)) (f : Workspace → Workspace) (next : Plan α)
    (c : Client) (s : σ) :
    follow h (.change f next) c s = follow h next { c with workspace := f c.workspace } s :=
  rfl

theorem perform_apply (h : Host (StateM σ)) (op : Operation) (c : Client) (s : σ) :
    perform h op c s =
      let s₁ := (h.announce (.began c.nextId op.kind) s).2
      let out := follow h (op.plan c.workspace) { c with nextId := c.nextId + 1 } s₁
      (out.1, (h.announce (.settled c.nextId op.kind out.1.1) out.2).2) :=
  rfl

theorem probe_apply (h : Host (StateM σ)) (session : Auth.Session) (s : σ) :
    Auth.probe h.service h.clientNonce session s =
      let a := session.answer (h.clientNonce s).1 Verb.read.method
        (h.service.requestUri Auth.probeTarget)
      let o := h.service.probe a.1 (h.clientNonce s).2
      (a.2.probed a.1 o.1, o.2) :=
  rfl

end Client

end RemoteFiles
