import RemoteFiles.Auth.Authorization
import RemoteFiles.Identity

/-!
# Authentication sessions

A session holds the credential, the challenge that is in effect, what the last accepted probe
told, and how many tokens were made for the challenge.  Every request gets a token of its own.
The count starts anew when the challenge changes, so that no count is used twice for one nonce.
-/

namespace RemoteFiles.Auth

/-- What is known about authentication. -/
structure Session where
  credential : Option Credential
  /-- The challenge in effect: the last one that could be read. -/
  challenge : Challenge
  /-- The token of the last accepted probe. -/
  token : Option String
  /-- Who the service took the sender of the last accepted probe for. -/
  identity : Option Identity
  /-- How many tokens were made since the challenge changed. -/
  count : UInt32
  deriving DecidableEq

namespace Session

/-- Nobody is logged in, and the service is taken to want basic authentication. -/
def anonymous : Session := ⟨none, .basic, none, none, 0⟩

/-- The token for one request, and the session after it was made.  There is none without a
credential, or if the challenge cannot be answered. -/
def answer (s : Session) (clientNonce method uri : String) : Option String × Session :=
  match s.credential with
  | none => (none, s)
  | some credential =>
    let count := s.count + 1
    ((authorization s.challenge credential method uri (.of count clientNonce)).toOption,
      { s with count := count })

/-- The session after the service sent a challenge.  One that is missing or cannot be read
changes nothing. -/
def challenged (s : Session) (raw : Option String) : Session :=
  match raw.map Challenge.parse with
  | some (.ok challenge) =>
    { s with
      challenge := challenge
      count := if challenge = s.challenge then s.count else 0 }
  | _ => s

/-- The session after a probe with a token was accepted. -/
def accepted (s : Session) (token : Option String) (identity : Option Identity) : Session :=
  { s with token := token, identity := identity }

/-- The session without what the last accepted probe told. -/
def unconfirmed (s : Session) : Session := { s with token := none, identity := none }

/-- The session with a credential. -/
def withCredential (s : Session) (credential : Credential) : Session :=
  { s with credential := some credential }

/-- The session without a credential. -/
def withoutCredential (s : Session) : Session :=
  { s.unconfirmed with credential := none }

end Session

end RemoteFiles.Auth
