import RemoteFiles.Identity
import RemoteFiles.Payload

/-!
# File services

A file service answers one request with one outcome: a body, or a refusal.  Nothing is repeated
and nothing is remembered on the way; the value for the `Authorization` header is handed in with
every request.  Targets are absolute paths below the root of the service, and a target that ends
with a slash is a directory.
-/

namespace RemoteFiles

/-- What a request does with its target. -/
inductive Verb
  | read
  | write
  | update
  | delete
  deriving DecidableEq, Repr

/-- The HTTP method of a verb. -/
def Verb.method : Verb → String
  | .read => "GET"
  | .write => "PUT"
  | .update => "POST"
  | .delete => "DELETE"

/-- A request, its authorization apart. -/
inductive Request
  | read (target : String)
  /-- Stores a content; without one, a target that is a directory is made. -/
  | write (target : String) (content : Option Payload)
  | update (target : String) (content : Payload)
  | delete (target : String)
  deriving DecidableEq

namespace Request

/-- What a request does. -/
def verb : Request → Verb
  | read _ => .read
  | write _ _ => .write
  | update _ _ => .update
  | delete _ => .delete

/-- What a request is about. -/
def target : Request → String
  | read t => t
  | write t _ => t
  | update t _ => t
  | delete t => t

/-- The content that a request carries. -/
def content? : Request → Option Payload
  | write _ p => p
  | update _ p => some p
  | _ => none

end Request

/-- Why a request was not carried out. -/
inductive Refusal
  /-- The service wants credentials; its challenge may be missing. -/
  | authenticationRequired (challenge : Option String)
  | notFound (url : String)
  /-- Any other answer by its status, or status 0 when there was none. -/
  | transport (status : Nat) (message : String)
  deriving DecidableEq, Repr

/-- The text of a failure with a status. -/
def transportText (status : Nat) (message : String) : String :=
  "transport error (status " ++ toString status ++ "): " ++ message

/-- The text shown for a refusal. -/
def Refusal.message : Refusal → String
  | .authenticationRequired _ => "authentication required"
  | .notFound url => "not found: " ++ url
  | .transport status message => transportText status message

/-- What comes of a request: the body of the answer, or why there is none. -/
abbrev Outcome := Except Refusal Payload

/-- A file service in surroundings `m`. -/
structure Service (m : Type → Type) where
  /-- What the service sees as the URI of a request for a target. -/
  requestUri : String → String
  /-- The URL of a target. -/
  locate : String → String
  /-- Carries out a request with a value for its `Authorization` header. -/
  submit : Request → Option String → m Outcome
  /-- Asks who the sender is taken for. -/
  probe : Option String → m (Except Refusal (Option Identity))

/-- The same service seen from wider surroundings. -/
def Service.lift {m n : Type → Type} (up : {α : Type} → m α → n α) (s : Service m) :
    Service n where
  requestUri := s.requestUri
  locate := s.locate
  submit r authorization := up (s.submit r authorization)
  probe authorization := up (s.probe authorization)

end RemoteFiles
