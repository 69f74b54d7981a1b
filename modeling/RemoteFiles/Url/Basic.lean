import RemoteFiles.Text.Case
import RemoteFiles.Text.Utf8
import RemoteFiles.Url.Address
import RemoteFiles.Url.Domain
import RemoteFiles.Url.Path

/-!
# URLs

A URL is parsed by the standard of the web's browsers: it is trimmed, line breaks and tabs are
dropped, backslashes count as slashes in special schemes, hosts and paths are put into their
normal forms, and what may not stand in a part is percent-encoded.
-/

namespace RemoteFiles

/-- Why a text is no URL. -/
inductive UrlError
  | relativeWithoutBase
  | emptyHost
  | invalidPort
  | invalidAddress4
  | invalidAddress6
  | invalidDomain
  | invalidDomainCharacter
  deriving DecidableEq, Repr

/-- The text shown for a URL error. -/
def UrlError.message : UrlError → String
  | .relativeWithoutBase => "relative URL without a base"
  | .emptyHost => "empty host"
  | .invalidPort => "invalid port number"
  | .invalidAddress4 => "invalid IPv4 address"
  | .invalidAddress6 => "invalid IPv6 address"
  | .invalidDomain => "invalid international domain name"
  | .invalidDomainCharacter => "invalid domain character"

/-- The part of a URL that names a host: user information with its `@`, the host, and the port
unless it is the usual one of the scheme. -/
structure Authority where
  userInfo : String
  host : String
  port : Option Nat
  deriving DecidableEq, Repr

/-- A URL by its parts, all in their written form.  A path that begins with a slash is made of
segments; another one is opaque. -/
structure Url where
  scheme : String
  authority : Option Authority
  path : List Char
  query : Option String
  fragment : Option String
  deriving DecidableEq, Repr

namespace Url

/-- The kind of a scheme. -/
def kindOf (scheme : String) : SchemeKind :=
  if scheme = "file" then .file
  else if ["http", "https", "ws", "wss", "ftp"].contains scheme then .special
  else .other

/-- The kind of a URL's scheme. -/
def kind (u : Url) : SchemeKind := kindOf u.scheme

/-- The usual port of a scheme. -/
def usualPort? (scheme : String) : Option Nat :=
  if scheme = "http" ∨ scheme = "ws" then some 80
  else if scheme = "https" ∨ scheme = "wss" then some 443
  else if scheme = "ftp" then some 21
  else none

/-! ### Hosts -/

/-- The characters that no host of an unknown scheme holds. -/
def isForbiddenInHost (c : Char) : Bool :=
  ['\x00', '\t', '\n', '\r', ' ', '#', '/', ':', '<', '>', '?', '@', '[', '\\', ']', '^',
    '|'].contains c

/-- The written form of a host. -/
def parseHost (kind : SchemeKind) (cs : List Char) : Except UrlError String :=
  if cs.head? = some '[' then
    if cs.getLast? ≠ some ']' then .error .invalidAddress6
    else match address6? (cs.drop 1).dropLast with
      | some pieces => .ok (renderAddress6 pieces)
      | none => .error .invalidAddress6
  else if kind = .other then
    if cs.any isForbiddenInHost then .error .invalidDomainCharacter
    else .ok (String.ofList (encode controlSet cs))
  else
    match (Text.decodeUtf8? (decode cs).toByteArray).bind (domainToAscii? ·.toList) with
    | none => .error .invalidDomain
    | some [] => .error .emptyHost
    | some domain =>
      if endsInNumber domain then
        match address4? domain with
        | some n => .ok (renderAddress4 n)
        | none => .error .invalidAddress4
      else .ok (String.ofList domain)

/-! ### Parsing -/

/-- The characters that are trimmed from both ends of a URL. -/
def isTrimmed (c : Char) : Bool := c.toNat ≤ 0x20

/-- The text of a URL as it is parsed. -/
def clean (cs : List Char) : List Char :=
  (((cs.dropWhile isTrimmed).reverse.dropWhile isTrimmed).reverse).filter (!isIgnored ·)

/-- The characters of a scheme after its first letter. -/
def isSchemeChar (c : Char) : Bool := c.isAlphanum || c == '+' || c == '-' || c == '.'

/-- The scheme in front of a colon, in lower case, and what follows the colon. -/
def splitScheme (cs : List Char) : Option (String × List Char) :=
  let name := cs.takeWhile isSchemeChar
  match name, cs.dropWhile isSchemeChar with
  | first :: _, ':' :: rest =>
    if first.isAlpha then some (String.ofList (name.map Char.toLower), rest) else none
  | _, _ => none

/-- The characters that end an authority. -/
def endsAuthority (kind : SchemeKind) (c : Char) : Bool :=
  kind.isSlash c || c == '?' || c == '#'

/-- The text before the last `@` of an authority, if there is one, and the text after it. -/
def splitUserInfo (authority : List Char) : Option (List Char) × List Char :=
  if authority.contains '@' then
    (some ((authority.reverse.dropWhile (· != '@')).drop 1).reverse,
      (authority.reverse.takeWhile (· != '@')).reverse)
  else (none, authority)

/-- User information in its written form: a user name, a colon and a password unless that is
empty, and an `@` unless both are empty. -/
def renderUserInfo (cs : List Char) : String :=
  let user := encode userInfoSet (cs.takeWhile (· != ':'))
  let password := encode userInfoSet ((cs.dropWhile (· != ':')).drop 1)
  if user.isEmpty && password.isEmpty then ""
  else if password.isEmpty then String.ofList (user ++ ['@'])
  else String.ofList (user ++ ':' :: password ++ ['@'])

/-- The host at the head of an authority without user information: up to a colon outside
brackets. -/
def hostText : Bool → List Char → List Char × List Char
  | _, [] => ([], [])
  | inside, c :: cs =>
    if c = ':' ∧ !inside then ([], c :: cs)
    else
      let (host, rest) := hostText (c == '[' || (inside && c != ']')) cs
      (c :: host, rest)

/-- The port after a colon: digits for a number of sixteen bits, or nothing. -/
def parsePort (scheme : String) (cs : List Char) : Except UrlError (Option Nat) :=
  if cs.all Char.isDigit then
    let n := valueIn 10 cs
    if 65535 < n then .error .invalidPort
    else if cs.isEmpty ∨ usualPort? scheme = some n then .ok none
    else .ok (some n)
  else .error .invalidPort

/-- The authority after two slashes. -/
def parseAuthority (scheme : String) (cs : List Char) : Except UrlError Authority := do
  let kind := kindOf scheme
  let (userInfo, rest) := splitUserInfo cs
  if userInfo = some [] ∧ rest = [] then .error .emptyHost
  else
    let userText := match userInfo with
      | some cs => renderUserInfo cs
      | none => ""
    let (hostChars, portText) := hostText false rest
    if kind = .special ∧ hostChars = [] then .error .emptyHost
    else
      let host ← parseHost kind hostChars
      if host = "" ∧ (portText ≠ [] ∨ userText ≠ "") then .error .emptyHost
      else
        let port ← parsePort scheme (portText.drop 1)
        .ok ⟨userText, host, port⟩

/-- The text before a query or fragment, and the rest. -/
def splitPath (cs : List Char) : List Char × List Char :=
  let isMark (c : Char) : Bool := c == '?' || c == '#'
  (cs.takeWhile (!isMark ·), cs.dropWhile (!isMark ·))

/-- The query and the fragment at the end of a URL. -/
def parseEnd (kind : SchemeKind) (cs : List Char) : Option String × Option String :=
  let fragment? (cs : List Char) : Option String :=
    match cs with
    | '#' :: rest => some (String.ofList (encode fragmentSet rest))
    | _ => none
  match cs with
  | '?' :: rest =>
    let set := if kind.isSpecial then specialQuerySet else querySet
    (some (String.ofList (encode set (rest.takeWhile (· != '#')))),
      fragment? (rest.dropWhile (· != '#')))
  | cs => (none, fragment? cs)

/-- The URL with the given scheme and authority and the parts that a text gives, its path by
`path`. -/
def withRest (scheme : String) (authority : Option Authority)
    (path : List Char → List Char) (cs : List Char) : Url :=
  let (pathText, rest) := splitPath cs
  let (query, fragment) := parseEnd (kindOf scheme) rest
  ⟨scheme, authority, path pathText, query, fragment⟩

/-- A URL with the authority at the head of a text. -/
def parseAfterSlashes (scheme : String) (cs : List Char) : Except UrlError Url := do
  let kind := kindOf scheme
  let authority ← parseAuthority scheme (cs.takeWhile (!endsAuthority kind ·))
  .ok (withRest scheme (some authority) (startPath kind true)
    (cs.dropWhile (!endsAuthority kind ·)))

/-- The authority of a file URL that has no host. -/
def noHost : Authority := ⟨"", "", none⟩

/-- A file URL from the text after its scheme. -/
def parseFile (cs : List Char) : Except UrlError Url :=
  let slash (c : Char) : Bool := SchemeKind.file.isSlash c
  let ends (c : Char) : Bool := slash c || c == '?' || c == '#'
  let pathOnly (cs : List Char) : Url :=
    withRest "file" (some noHost)
      (extendPath .file (if cs.head?.any slash then [] else ['/'])) cs
  match cs with
  | a :: b :: rest =>
    if slash a && slash b then
      let host := rest.takeWhile (!ends ·)
      if host = [] ∨ isDrive host then
        .ok (withRest "file" (some noHost) (extendPath .file ['/']) rest)
      else do
        let name ← parseHost .file host
        let after := rest.dropWhile (!ends ·)
        if name = "localhost" then
          .ok (withRest "file" (some noHost) (extendPath .file ['/']) after)
        else
          let u := withRest "file" (some ⟨"", name, none⟩) (startPath .file true) after
          .ok (if isNormalDrive ((u.path.drop 1).takeWhile (· != '/')) then
            { u with authority := some noHost } else u)
    else .ok (pathOnly cs)
  | _ => .ok (pathOnly cs)

/-- A path that is not made of segments, in its written form. -/
def opaquePath (cs : List Char) : List Char := encode controlSet cs

/-- The URL that a text is. -/
def parse (text : String) : Except UrlError Url :=
  match splitScheme (clean text.toList) with
  | none => .error .relativeWithoutBase
  | some (scheme, rest) =>
    match kindOf scheme with
    | .file => parseFile rest
    | .special => parseAfterSlashes scheme (rest.dropWhile fun c => c == '/' || c == '\\')
    | .other =>
      match rest with
      | '/' :: '/' :: rest => parseAfterSlashes scheme rest
      | '/' :: rest => .ok (withRest scheme none (extendPath .other ['/']) rest)
      | rest => .ok (withRest scheme none opaquePath rest)

/-! ### Writing -/

/-- The authority with its two slashes. -/
def renderAuthority (a : Authority) : String :=
  "//" ++ a.userInfo ++ a.host ++
    (match a.port with | none => "" | some n => ":" ++ toString n)

/-- The URL without its fragment, as it is requested. -/
def renderRequest (u : Url) : String :=
  u.scheme ++ ":" ++
    (match u.authority with
      | some a => renderAuthority a
      | none => if "//".toList.isPrefixOf u.path then "/." else "") ++
    String.ofList u.path ++
    (match u.query with | none => "" | some q => "?" ++ q)

/-- The text of a URL. -/
def render (u : Url) : String :=
  u.renderRequest ++ (match u.fragment with | none => "" | some f => "#" ++ f)

/-! ### Places below a URL -/

/-- The path of a URL is made of segments. -/
def hasSegments (u : Url) : Bool :=
  u.authority.isSome || u.path.head? == some '/'

/-- The URL names a host. -/
def hasHost (u : Url) : Bool := u.authority.any (·.host != "")

/-- The URL with another path. -/
def withPath (u : Url) (path : List Char) : Url :=
  if u.hasSegments then
    { u with path := startPath u.kind u.hasHost path }
  else
    { u with path := match path with
      | '/' :: rest => "%2F".toList ++ opaquePath rest
      | rest => opaquePath rest }

/-- The URL with a slash at the end of its path. -/
def asDirectory (u : Url) : Url :=
  if endsWithSlash u.path then u else u.withPath (u.path ++ ['/'])

/-- The URL of a target below another URL; there is none below an opaque path. -/
def below? (u : Url) (target : String) : Option Url :=
  if u.hasSegments then some { u with path := descend u.kind u.path target.toList } else none

end Url

end RemoteFiles
