import RemoteFiles.Auth.Probe
import RemoteFiles.Config.Basic
import RemoteFiles.Http.Message
import RemoteFiles.Http.Status
import RemoteFiles.Http.Uri
import RemoteFiles.Report
import RemoteFiles.Service.Basic

/-!
# The file service by HTTP

An endpoint is the root URL of a service with the settings for requests to it.  Every request
on a target becomes one HTTP request on the URL of that target below the root, without the user name
and the password in it, and the status of the response decides what comes of it.
-/

namespace RemoteFiles.Http

/-- Why there is no response. -/
inductive NetworkFault
  /-- No connection, or one that broke off before the response. -/
  | noResponse
  | timedOut
  deriving DecidableEq, Repr

/-- What carries requests to services. -/
structure Network (m : Type → Type) where
  /-- Sends a request and waits for its response, for so many seconds at most. -/
  exchange : UInt64 → Request → m (Except NetworkFault Response)

/-- The root of a service, the name that the program gives itself, and how many seconds a
request may take.  The path of the root ends with a slash. -/
structure Endpoint where
  root : Url
  agent : String
  timeout : UInt64
  deriving DecidableEq, Repr

/-- Why a configuration gives no endpoint. -/
inductive EndpointError
  /-- The program's name cannot be sent. -/
  | badAgent
  | badUrl (url : String) (cause : UrlError)
  deriving DecidableEq, Repr

/-- The text shown for a configuration whose URL is none. -/
def badUrlReport (url : String) (cause : UrlError) : Report :=
  ⟨"Invalid server url: " ++ url, [cause.message]⟩

/-- The text shown for a configuration without an endpoint. -/
def EndpointError.report : EndpointError → Report
  | .badAgent =>
    ⟨"Failed to build HTTP client", ["builder error", "failed to parse header value"]⟩
  | .badUrl url cause => badUrlReport url cause

namespace Endpoint

/-- The endpoint of a configuration. -/
def ofConfig (c : Config) : Except EndpointError Endpoint :=
  if !isHeaderValue c.userAgent then .error .badAgent
  else match Url.parse c.url with
    | .error cause => .error (.badUrl c.url cause)
    | .ok url => .ok ⟨url.asDirectory, c.userAgent, c.timeout⟩

/-- The URL of a target. -/
def url? (e : Endpoint) (target : String) : Option Url := e.root.below? target

/-- What the service sees as the URI of a request. -/
def requestUri (e : Endpoint) (target : String) : String :=
  match e.url? target with
  | some u => String.ofList u.path
  | none => target

/-- The URL of a target as text; a root without segments leaves the target as it is. -/
def locate (e : Endpoint) (target : String) : String :=
  match e.url? target with
  | some u => u.render
  | none => target

/-- The refusal of a request that cannot be sent. -/
def notSendable (message : String) : Refusal := .transport 0 message

/-- The refusal of a request to a URL that cannot be requested. -/
def notWebUrl (url : Url) : Refusal :=
  notSendable ("builder error for url (" ++ url.render ++ ")")

/-- The content of a request as it is sent: a write always has a body. -/
def sentContent : RemoteFiles.Request → Option Payload
  | .write _ none => some .empty
  | r => r.content?

/-- A header that may be missing. -/
def optionalHeader (name : String) : Option String → List Header
  | none => []
  | some value => [.ofText name value]

/-- The HTTP request for a request.  The user name and the password in the URL are sent in a header
of their own, also beside a token. -/
def request (e : Endpoint) (verb : Verb) (target : String) (content : Option Payload)
    (authorization : Option String) : Except Refusal Request :=
  match e.url? target with
  | none => .error (notSendable ("service root " ++ e.root.render ++ " has no path"))
  | some url =>
    let contentType := content.bind (·.contentType)
    if !url.hasHost then .error (notWebUrl url)
    else if !(authorization.all isHeaderValue && contentType.all isHeaderValue) then
      .error (notSendable "builder error")
    else if url.scheme ≠ "http" ∧ url.scheme ≠ "https" then .error (notWebUrl url.requested)
    else if !isUri url.requested.render then .error (notWebUrl url.requested)
    else
      .ok ⟨verb.method, url.requested,
        .ofText "user-agent" e.agent :: .ofText "x-requested-with" "XMLHttpRequest" ::
          (optionalHeader "authorization" (url.login?.map Auth.basicAuthorization) ++
            optionalHeader "authorization" authorization ++
            optionalHeader "content-type" contentType),
        content.map (·.data)⟩

/-- The refusal of a request that got no response. -/
def unanswered (url : Url) : NetworkFault → Refusal
  | .noResponse => .transport 0 ("error sending request for url (" ++ url.render ++ ")")
  | .timedOut =>
    .transport 0 ("request timed out: error sending request for url (" ++ url.render ++ ")")

/-- What the status of a response makes of a request. -/
def classify (url : Url) (r : Response) : Except Refusal Response :=
  if isSuccess r.status then .ok r
  else if r.status = 401 ∨ r.status = 403 then
    .error (.authenticationRequired (r.header? "www-authenticate"))
  else if r.status = 404 then .error (.notFound url.render)
  else .error (.transport r.status ((reason? r.status).getD "unexpected status"))

/-- The body of a response, with its type. -/
def bodyOf (r : Response) : Outcome :=
  match r.body with
  | some data => .ok ⟨data, r.header? "content-type"⟩
  | none => .error (.transport 0 "error decoding response body")

/-- Who a response takes the sender for. -/
def identityOf (r : Response) : Option Identity :=
  (r.header? "x-remote-user").map fun principal =>
    ⟨principal, r.header? "x-remote-group", r.header? "x-remote-home"⟩

variable {m : Type → Type} [Monad m]

/-- Sends a request and takes its response if that is a success. -/
def send (e : Endpoint) (net : Network m) (verb : Verb) (target : String)
    (content : Option Payload) (authorization : Option String) :
    m (Except Refusal Response) :=
  match e.request verb target content authorization with
  | .error refusal => pure (.error refusal)
  | .ok r => do
    match ← net.exchange e.timeout r with
    | .error fault => pure (.error (unanswered r.url fault))
    | .ok response => pure (classify r.url response)

/-- The service at an endpoint.  The body of the answer to a deletion is not read. -/
def service (e : Endpoint) (net : Network m) : Service m where
  requestUri := e.requestUri
  locate := e.locate
  submit r authorization := do
    match ← e.send net r.verb r.target (sentContent r) authorization with
    | .error refusal => pure (.error refusal)
    | .ok response =>
      match r.verb with
      | .delete => pure (.ok .empty)
      | _ => pure (bodyOf response)
  probe authorization := do
    match ← e.send net .read Auth.probeTarget none authorization with
    | .error refusal => pure (.error refusal)
    | .ok response => pure (.ok (identityOf response))

end Endpoint

end RemoteFiles.Http
