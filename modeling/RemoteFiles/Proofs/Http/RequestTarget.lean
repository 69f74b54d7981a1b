import RemoteFiles.Proofs.Http.Endpoint
import RemoteFiles.Proofs.Http.Uri

/-!
# Request URIs and request targets

The URI that answers to digest challenges are made for is the path of the URL that is requested.
What is requested of the host is this path with the query, and the query of a root is that of every
URL below it.  So the two agree for every target if the configured URL has no query, and otherwise
for none (`requestUri_eq_requestTarget_iff`, `requestUri_eq_requestTarget_not`).

A request is made if its headers can be sent and the URL of its target can be requested
(`exists_request`), and otherwise it is refused (`request_eq_error`).
-/

namespace RemoteFiles.Http

/-! ### Requests -/

/-- The values of the headers that a request brings with it can be sent. -/
def IsSendable (content : Option Payload) (authorization : Option String) : Prop :=
  authorization.all isHeaderValue = true ∧
    (content.bind (·.contentType)).all isHeaderValue = true

/-- The end of a request target. -/
def queryText : Option String → String
  | none => ""
  | some query => "?" ++ query

theorem queryText_eq_empty_iff {query : Option String} : queryText query = "" ↔ query = none := by
  cases query with
  | none => simp [queryText]
  | some query => simp [queryText, String.append_eq_empty_iff]

section
variable {e : Endpoint} {target : String} {v : Url} (hurl : e.url? target = some v)
  (hwritten : v.IsWritten) (hweb : v.scheme = "http" ∨ v.scheme = "https")
  {content : Option Payload} {authorization : Option String}
include hurl hwritten hweb

/-- If all of it can be sent, a request is made on the URL of its target, and the user name and the
password of that are in one of its headers. -/
theorem exists_request (hsendable : IsSendable content authorization) (hv : IsRequestable v)
    (verb : Verb) :
    ∃ r, e.request verb target content authorization = .ok r ∧ r.url = v.requested ∧
      ∀ login ∈ v.login?, .ofText "authorization" (Auth.basicAuthorization login) ∈ r.headers := by
  have hscheme : ¬(v.scheme ≠ "http" ∧ v.scheme ≠ "https") := by
    rintro ⟨hhttp, hhttps⟩
    exact hweb.elim hhttp hhttps
  unfold Endpoint.request
  rw [hurl]
  dsimp only
  -- host, headers, scheme and URI, in the order in which they are checked
  rw [if_neg (by simp [hwritten.hasHost]), if_neg (by simp [hsendable.1, hsendable.2]),
    if_neg hscheme, if_neg (by simp [(isUri_requested_iff hwritten).mpr hv])]
  refine ⟨_, rfl, rfl, fun login hlogin => ?_⟩
  rw [Option.mem_def.mp hlogin]
  simp [Endpoint.optionalHeader]

omit hweb in
/-- If something of it cannot be sent, no request is made. -/
theorem request_eq_error (hnot : ¬(IsSendable content authorization ∧ IsRequestable v))
    (verb : Verb) :
    ∃ message, e.request verb target content authorization =
      .error (Endpoint.notSendable message) := by
  unfold Endpoint.request
  rw [hurl]
  dsimp only
  split
  · exact ⟨_, rfl⟩
  split
  · exact ⟨_, rfl⟩
  split
  · exact ⟨_, rfl⟩
  split
  · exact ⟨_, rfl⟩
  · rename_i hsendable _ huri
    refine absurd ⟨?_, (isUri_requested_iff hwritten).mp (by simpa using huri)⟩ hnot
    simpa [IsSendable] using hsendable

/-- A request is made exactly if all of it can be sent. -/
theorem exists_request_iff (verb : Verb) :
    (∃ r, e.request verb target content authorization = .ok r) ↔
      IsSendable content authorization ∧ IsRequestable v := by
  constructor
  · rintro ⟨r, hrequest⟩
    by_contra hnot
    obtain ⟨message, hrefused⟩ := request_eq_error hurl hwritten hnot verb
    rw [hrequest] at hrefused
    cases hrefused
  · rintro ⟨hsendable, hv⟩
    obtain ⟨r, hrequest, -⟩ := exists_request hurl hwritten hweb hsendable hv verb
    exact ⟨r, hrequest⟩

/-- What is requested is the URL of the target, but for its user name and its password. -/
theorem url_of_request {verb : Verb} {r : Request}
    (h : e.request verb target content authorization = .ok r) : r.url = v.requested := by
  obtain ⟨hsendable, hv⟩ := (exists_request_iff hurl hwritten hweb verb).mp ⟨r, h⟩
  obtain ⟨_, hrequest, heq, -⟩ := exists_request hurl hwritten hweb hsendable hv verb
  rw [← heq, Except.ok.inj (h.symm.trans hrequest)]

end

section
variable {text : String} {u : Url} {e : Endpoint} (hparse : Url.parse text = .ok u)
  (hweb : u.scheme = "http" ∨ u.scheme = "https") (hroot : e.root = u.asDirectory)
include hparse hweb hroot

/-- The URLs of all targets are those of the web, at the host of the root. -/
theorem exists_url? (target : String) :
    ∃ v, e.url? target = some v ∧ v.IsWritten ∧ v.scheme = u.scheme ∧
      v.authority = u.authority ∧ v.query = u.query := by
  have hsettled := Url.isSettledPath_of_parse hparse (Url.kindOf_web hweb)
  have hwritten := (Url.isWritten_of_parse hparse (Url.kindOf_web hweb)).withDescent
    (isDirectory_directoryPath hsettled) (Url.isKept_of_mem_directoryPath hsettled.isKept)
  exact ⟨_, url?_eq hparse hweb hroot target, hwritten target.toList, rfl, rfl, rfl⟩

/-- Whatever is requested, what is requested of the host is the request URI of the target and the
query of the root. -/
theorem requestTarget_eq {verb : Verb} {target : String} {content : Option Payload}
    {authorization : Option String} {r : Request}
    (h : e.request verb target content authorization = .ok r) :
    requestTarget r.url = e.requestUri target ++ queryText u.query := by
  obtain ⟨v, hurl, hwritten, hscheme, -, hquery⟩ := exists_url? hparse hweb hroot target
  rw [url_of_request hurl hwritten (hscheme ▸ hweb) h, requestTarget, Endpoint.requestUri, hurl,
    Url.requested_path, Url.requested_query, hquery]
  cases u.query <;> rfl

end

/-! ### Endpoints of valid configurations -/

theorem exists_of_validate {c : Config} (hvalid : c.validate = .ok ()) :
    ∃ u, Url.parse c.url = .ok u ∧ (u.scheme = "http" ∨ u.scheme = "https") := by
  have hweb : Config.isWebUrl c.url = true := by
    by_contra hnot
    rw [Config.validate, if_pos (by simpa using hnot)] at hvalid
    cases hvalid
  unfold Config.isWebUrl at hweb
  split at hweb
  · rename_i u hparse
    exact ⟨u, hparse, by simpa using hweb⟩
  · cases hweb

theorem ofConfig_eq_ok {c : Config} {u : Url} (hagent : isHeaderValue c.userAgent = true)
    (hparse : Url.parse c.url = .ok u) :
    Endpoint.ofConfig c = .ok ⟨u.asDirectory, c.userAgent, c.timeout⟩ := by
  rw [Endpoint.ofConfig, if_neg (by simp [hagent]), hparse]

/-- **Request URIs**: a configuration that is accepted, with a name for the program that can be
sent, gives an endpoint, and there a request is made on every target if its headers can be sent and
the URL of the target can be requested.  Whenever one is made, the URI that answers to digest
challenges are made for is what is requested of the host exactly if the configured URL has no
query. -/
theorem requestUri_eq_requestTarget_iff {c : Config} (hvalid : c.validate = .ok ())
    (hagent : isHeaderValue c.userAgent = true) {m : Type → Type} [Monad m] (net : Network m) :
    ∃ u e, Url.parse c.url = .ok u ∧ Endpoint.ofConfig c = .ok e ∧
      ∀ verb target content authorization, ∃ v, e.url? target = some v ∧
        ((∃ r, e.request verb target content authorization = .ok r) ↔
          IsSendable content authorization ∧ IsRequestable v) ∧
        ∀ r, e.request verb target content authorization = .ok r →
          ((e.service net).requestUri target = requestTarget r.url ↔ u.query = none) := by
  obtain ⟨u, hparse, hweb⟩ := exists_of_validate hvalid
  have hconfig := ofConfig_eq_ok hagent hparse
  generalize he : Endpoint.mk u.asDirectory c.userAgent c.timeout = e at hconfig
  have hroot : e.root = u.asDirectory := he ▸ rfl
  refine ⟨u, e, hparse, hconfig, ?_⟩
  intro verb target content authorization
  obtain ⟨v, hurl, hwritten, hscheme, -⟩ := exists_url? hparse hweb hroot target
  refine ⟨v, hurl, exists_request_iff hurl hwritten (hscheme ▸ hweb) verb, fun r hrequest => ?_⟩
  have htarget := requestTarget_eq hparse hweb hroot hrequest
  show e.requestUri target = requestTarget r.url ↔ u.query = none
  calc e.requestUri target = requestTarget r.url
      ↔ e.requestUri target ++ "" = e.requestUri target ++ queryText u.query := by
        rw [htarget, String.append_empty]
    _ ↔ queryText u.query = "" := by rw [String.append_right_inj, eq_comm]
    _ ↔ u.query = none := queryText_eq_empty_iff

/-- The configuration of a service with a path that has to be encoded, and no query. -/
def plainConfig : Config := { Config.standard with url := "http://[::1]:8080/a b#f" }

/-- The URL of a target there that has the mark of a query. -/
def plainUrl : Url :=
  ⟨"http", some ⟨"", "[::1]", some 8080⟩, "/a%20b/x%3Fv=1".toList, none, some "f"⟩

/-- Without a query, marks of a query in a target are part of both. -/
theorem requestUri_eq_requestTarget_iff_of_mark :
    plainConfig.validate = .ok () ∧ isHeaderValue plainConfig.userAgent = true ∧
      ∃ e r, Endpoint.ofConfig plainConfig = .ok e ∧
        e.request .write "/x?v=1" (some .empty) (some "Basic eDp5") = .ok r ∧
        e.requestUri "/x?v=1" = requestTarget r.url := by
  have hvalid : plainConfig.validate = .ok () := by rfl
  have hagent : isHeaderValue plainConfig.userAgent = true := by decide
  obtain ⟨u, e, hparse, hconfig, hall⟩ :=
    requestUri_eq_requestTarget_iff hvalid hagent (m := Id) ⟨fun _ _ => .error .noResponse⟩
  obtain ⟨v, hurl, hmade, hiff⟩ := hall .write "/x?v=1" (some .empty) (some "Basic eDp5")
  have hsendable : IsSendable (some .empty) (some "Basic eDp5") := by
    constructor <;> decide
  have hv : IsRequestable v := by
    have hknown : (Endpoint.ofConfig plainConfig).toOption.bind (·.url? "/x?v=1") =
        some plainUrl := by rfl
    rw [hconfig, Except.toOption, Option.bind_some, hurl] at hknown
    rw [Option.some.inj hknown]
    constructor <;> decide
  obtain ⟨r, hrequest⟩ := hmade.mpr ⟨hsendable, hv⟩
  have hquery : u.query = none := by
    have hparsed : (Url.parse plainConfig.url).toOption.map (·.query) = some none := by rfl
    rw [hparse] at hparsed
    exact Option.some_inj.mp hparsed
  exact ⟨hvalid, hagent, e, r, hconfig, hrequest, (hiff r hrequest).mpr hquery⟩

/-- The configuration of a service whose URL has a query. -/
def queryConfig : Config := { Config.standard with url := "http://[::1]/share/?v=1" }

/-- The query of the configured URL is requested, and is missing in the request URI. -/
theorem requestUri_eq_requestTarget_not :
    ¬∀ (c : Config) (e : Endpoint) (verb : Verb) (target : String) (r : Request),
      c.validate = .ok () → Endpoint.ofConfig c = .ok e →
      e.request verb target none none = .ok r → e.requestUri target = requestTarget r.url := by
  intro hall
  have hequal := hall queryConfig _ .read "/x" _ rfl rfl rfl
  exact absurd hequal (by decide)

end RemoteFiles.Http
