import RemoteFiles.Auth.Session
import RemoteFiles.Service.Basic

/-!
# Probes

A probe asks the root of the service whether the sender may use it and who the sender is taken
for.  Logging in and out ends with one.
-/

namespace RemoteFiles

/-- What comes of a probe. -/
inductive ProbeOutcome
  | authorized (identity : Option Identity)
  /-- The service wants credentials, by the challenge that is now in effect. -/
  | challenged (challenge : String)
  | notFound (url : String)
  | transportError (status : Nat)
  deriving DecidableEq, Repr

/-- A probe was accepted. -/
def ProbeOutcome.isAuthorized : ProbeOutcome → Bool
  | authorized _ => true
  | _ => false

namespace Auth

/-- What a probe asks for. -/
def probeTarget : String := "/"

/-- What comes of the service's answer to a probe with a token, and the session after it.  A
failure on the way leaves the session as it is. -/
def Session.probed (s : Session) (token : Option String) :
    Except Refusal (Option Identity) → ProbeOutcome × Session
  | .ok identity => (.authorized identity, s.accepted token identity)
  | .error (.authenticationRequired challenge) =>
    let s := s.challenged challenge
    (.challenged s.challenge.raw, s.unconfirmed)
  | .error (.notFound url) => (.notFound url, s)
  | .error (.transport status _) => (.transportError status, s)

variable {m : Type → Type} [Monad m]

/-- A token for one request. -/
def authorizationFor (clientNonce : m String) (method uri : String) :
    StateT Session m (Option String) := do
  let nonce ← clientNonce
  modifyGet fun s => s.answer nonce method uri

/-- Asks the service with a token for the challenge in effect. -/
def probe (service : Service m) (clientNonce : m String) : StateT Session m ProbeOutcome := do
  let token ← authorizationFor clientNonce Verb.read.method (service.requestUri probeTarget)
  let answer ← service.probe token
  modifyGet fun s => s.probed token answer

/-- Takes a credential and asks the service with it. -/
def login (service : Service m) (clientNonce : m String) (credential : Credential) :
    StateT Session m ProbeOutcome := do
  modify (·.withCredential credential)
  probe service clientNonce

/-- Forgets the credential and asks the service without one. -/
def logout (service : Service m) (clientNonce : m String) : StateT Session m ProbeOutcome := do
  modify (·.withoutCredential)
  probe service clientNonce

end Auth

end RemoteFiles
