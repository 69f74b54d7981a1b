import RemoteFiles.Auth.Authorization
import RemoteFiles.Url.Basic

/-!
# URLs as they are requested

Before a URL is requested, the user name and the password in it are taken out, to be sent in a
header (`Url.login?`, `Url.requested`).  What is left has to be a URI (`isUri`): of a limited
length, with an authority behind its two slashes, and all its characters among those of URIs.  That
is a little less than what a URL can be, since a host may hold characters that no URI has.
-/

namespace RemoteFiles

namespace Url

/-- The user name and the password before the host, decoded; one of them has to be there.  A user
name that is no text hides both, a password that is no text counts as missing. -/
def login? (u : Url) : Option Auth.Credential := do
  let text := (u.authority.elim "" (·.userInfo)).toList.dropLast
  let username ← Text.decodeUtf8? (decode (text.takeWhile (· != ':'))).toByteArray
  let password := match text.dropWhile (· != ':') with
    | [] => none
    | _ :: rest => Text.decodeUtf8? (decode rest).toByteArray
  if username = "" ∧ password = none then none else some ⟨username, password.getD ""⟩

/-- The URL without the user name and the password that it gives. -/
def requested (u : Url) : Url :=
  if u.login?.isSome then
    { u with authority := u.authority.map fun a => { a with userInfo := "" } }
  else u

end Url

namespace Http

/-! ### Authorities -/

/-- The characters of URIs, but for the percent sign. -/
def isUriChar (c : Char) : Bool := c.isAlphanum || "!#$&'()*+,-./:;=?@[]_~".toList.contains c

/-- What was seen of an authority: how many colons and whether a percent sign, both forgotten behind
user information and behind an address in brackets, and which brackets. -/
structure AuthorityScan where
  colons : Nat
  percent : Bool
  opened : Bool
  closed : Bool
  deriving DecidableEq, Repr

namespace AuthorityScan

/-- Before the first character. -/
def start : AuthorityScan := ⟨0, false, false, false⟩

/-- How many colons may be seen before they are forgotten. -/
def colonLimit : Nat := 8

/-- Sees one more character. -/
def step (s : AuthorityScan) (c : Char) : Option AuthorityScan :=
  if c = ':' then if s.colons < colonLimit then some { s with colons := s.colons + 1 } else none
  else if c = '[' then if s.percent || s.opened then none else some { s with opened := true }
  else if c = ']' then
    if s.opened && !s.closed then some ⟨0, false, s.opened, true⟩ else none
  else if c = '@' then some { s with colons := 0, percent := false }
  else if c = '%' then some { s with percent := true }
  else if isUriChar c then some s
  else none

/-- At the end there are both brackets or none, one port at most, and nothing encoded. -/
def isDone (s : AuthorityScan) : Bool :=
  s.opened == s.closed && s.colons ≤ 1 && !s.percent

end AuthorityScan

/-- A text is the authority of a URI: not empty, and with something behind its user information. -/
def isAuthority (cs : List Char) : Bool :=
  cs != [] && cs.getLast? != some '@' &&
    (cs.foldlM AuthorityScan.step .start).any AuthorityScan.isDone

/-! ### Paths, queries, and all together -/

/-- The visible characters of ASCII. -/
def isVisible (c : Char) : Bool := 0x20 < c.toNat && c.toNat < 0x7f

/-- The characters of a path. -/
def isUriPathChar (c : Char) : Bool := isVisible c && !(['<', '>', '\x60'].contains c)

/-- The characters of a query. -/
def isUriQueryChar (c : Char) : Bool := isVisible c && !(['"', '<', '>'].contains c)

/-- A mark behind the path. -/
def isPathEnd (c : Char) : Bool := c == '?' || c == '#'

/-- A mark behind the authority. -/
def isAuthorityEnd (c : Char) : Bool := c == '/' || isPathEnd c

/-- What follows the two slashes of a URI; a fragment is not looked at. -/
def isUriRest (cs : List Char) : Bool :=
  let rest := cs.dropWhile (!isAuthorityEnd ·)
  let query := ((rest.dropWhile (!isPathEnd ·)).takeWhile (· != '#')).drop 1
  isAuthority (cs.takeWhile (!isAuthorityEnd ·)) &&
    (rest.takeWhile (!isPathEnd ·)).all isUriPathChar && query.all isUriQueryChar

/-- How many bytes a URI may have. -/
def uriLimit : Nat := 65534

/-- The text of a URL of the web is a URI. -/
def isUri (text : String) : Bool :=
  text.utf8ByteSize ≤ uriLimit &&
    match text.toList.dropWhile (· != ':') with
    | ':' :: '/' :: '/' :: rest => isUriRest rest
    | _ => false

end Http

end RemoteFiles
