import RemoteFiles.Auth.Probe
import RemoteFiles.Client.Operation

/-!
# The client

A client carries out operations on files in its working directory, one step after another.  For
each request it makes a token when the request is sent, so that a challenge that one request
brings is honoured by the next one.  The first failure ends an operation: nothing is tried
again, and nothing that was done on the service is undone.
-/

namespace RemoteFiles

/-- What a client works with: the service, local files, the source of client nonces, and the
subscribers of its events. -/
structure Host (m : Type → Type) where
  service : Service m
  disk : Disk m
  clientNonce : m String
  announce : Event → m Unit

/-- The state of a client. -/
structure Client where
  workspace : Workspace
  session : Auth.Session
  /-- The number of the next operation. -/
  nextId : UInt64
  deriving DecidableEq

namespace Client

/-- A client in a directory of the service. -/
def startingIn (directory : String) : Client :=
  ⟨⟨Path.normalize directory, .empty⟩, .anonymous, 1⟩

/-- The working directory. -/
def directory (c : Client) : String := c.workspace.directory

/-- What waits to be pasted. -/
def clipboard (c : Client) : Clipboard := c.workspace.clipboard

variable {m : Type → Type} [Monad m]

/-- Does something with the session of the client. -/
def withSession {α : Type} (act : StateT Auth.Session m α) : StateT Client m α := do
  let c ← get
  let (a, session) ← act.run c.session
  set { c with session := session }
  pure a

/-! ### Authentication -/

/-- Announces a probe that was accepted or challenged. -/
def announceProbe (h : Host m) : ProbeOutcome → StateT Client m Unit
  | .authorized identity => h.announce (.authorized identity)
  | .challenged challenge => h.announce (.challenged challenge)
  | _ => pure ()

/-- Asks the service who it takes the client for. -/
def probe (h : Host m) : StateT Client m ProbeOutcome := do
  let outcome ← withSession (Auth.probe h.service h.clientNonce)
  announceProbe h outcome
  pure outcome

/-- Logs in. -/
def login (h : Host m) (credential : Auth.Credential) : StateT Client m ProbeOutcome := do
  let outcome ← withSession (Auth.login h.service h.clientNonce credential)
  announceProbe h outcome
  pure outcome

/-- Logs out. -/
def logout (h : Host m) : StateT Client m ProbeOutcome := do
  let outcome ← withSession (Auth.logout h.service h.clientNonce)
  announceProbe h outcome
  pure outcome

/-! ### Operations -/

/-- The session and the error after a refusal: a challenge is kept for later requests. -/
def refused (s : Auth.Session) : Refusal → OperationError × Auth.Session
  | .authenticationRequired challenge =>
    let s := s.challenged challenge
    (.authenticationRequired s.challenge.raw, s)
  | refusal => (.ofRefusal refusal, s)

/-- Sends one request. -/
def submit (h : Host m) (r : Request) : StateT Client m (Except OperationError Payload) := do
  let token ← withSession
    (Auth.authorizationFor h.clientNonce r.verb.method (h.service.requestUri r.target))
  match ← h.service.submit r token with
  | .ok body => pure (.ok body)
  | .error refusal => do
    let e ← withSession (modifyGet fun s => refused s refusal)
    pure (.error e)

/-- Carries out a plan. -/
def follow {α : Type} (h : Host m) : Plan α → StateT Client m (Except OperationError α)
  | .done a => pure (.ok a)
  | .fail e => pure (.error e)
  | .submit r undo next => do
    match ← submit h r with
    | .ok body => follow h (next body)
    | .error e => do
      modify fun c => { c with workspace := undo c.workspace }
      pure (.error e)
  | .readFile path next => do
    match ← h.disk.read path with
    | .ok data => follow h (next data)
    | .error fault => pure (.error (.localFile fault))
  | .change f next => do
    modify fun c => { c with workspace := f c.workspace }
    follow h next

/-- Carries out an operation under the next number, and announces its beginning and its end. -/
def perform (h : Host m) (op : Operation) :
    StateT Client m (Except OperationError op.Result) := do
  let c ← get
  set { c with nextId := c.nextId + 1 }
  h.announce (.began c.nextId op.kind)
  let result ← follow h (op.plan c.workspace)
  h.announce (.settled c.nextId op.kind result)
  pure result

/-- Drops what waits to be pasted, and tells how much it was. -/
def clearClipboard : StateT Client m Nat :=
  modifyGet fun c =>
    (c.clipboard.size, { c with workspace := { c.workspace with clipboard := .empty } })

/-- The URL of a name in the working directory. -/
def locate (h : Host m) (c : Client) (name : String) : String :=
  h.service.locate (Path.join c.directory name)

end Client

end RemoteFiles
