import RemoteFiles.Auth.Challenge
import RemoteFiles.Hash.Md5
import RemoteFiles.Hash.Sha256
import RemoteFiles.Text.Base64
import RemoteFiles.Text.Quoted

/-!
# Authorization values

The answer to a challenge: the value of the header by which a request proves who sends it.
`Basic` writes user name and password in base64.  `Digest` writes a response computed from
them, the nonce of the challenge and the request, so that the password itself is not sent.
-/

namespace RemoteFiles.Auth

open RemoteFiles.Text (sameIgnoringCase)
open RemoteFiles.Text.Hex (lowDigits)

/-- A user name and the password that goes with it. -/
structure Credential where
  username : String
  password : String
  deriving DecidableEq

/-- A credential as it may be shown: with the user name alone. -/
def Credential.display (c : Credential) : String :=
  "Credential \x7b username: " ++ Text.quoted c.username ++
    ", password: \"<redacted>\" \x7d"

/-- The hash functions of digest authentication. -/
inductive Algorithm
  | md5
  | sha256
  deriving DecidableEq, Repr

namespace Algorithm

/-- The function that a challenge names; without a name it is MD5. -/
def ofName? : Option String → Except ProtocolError Algorithm
  | none => .ok .md5
  | some name =>
    if sameIgnoringCase name "MD5" then .ok .md5
    else if sameIgnoringCase name "SHA-256" then .ok .sha256
    else .error (.unsupportedAlgorithm name)

/-- The name of a function as an answer gives it. -/
def name : Algorithm → String
  | md5 => "MD5"
  | sha256 => "SHA-256"

/-- The digest of some bytes. -/
def digest : Algorithm → List UInt8 → List UInt8
  | md5 => Hash.Md5.digest
  | sha256 => Hash.Sha256.digest

/-- The digest of a text in UTF-8, in hexadecimal. -/
def hash (a : Algorithm) (text : String) : String :=
  Text.Hex.encode (a.digest text.toUTF8.toList)

end Algorithm

/-- What the client adds to each digest answer of quality `auth`: how many answers it has given
to this nonce, and a nonce of its own. -/
structure Protection where
  count : String
  clientNonce : String
  deriving DecidableEq, Repr

/-- A count is written as eight hexadecimal digits. -/
def Protection.of (count : UInt32) (clientNonce : String) : Protection :=
  ⟨String.ofList (lowDigits 8 count.toNat), clientNonce⟩

/-- The `Basic` answer: user name and password, parted by a colon, in base64. -/
def basicAuthorization (c : Credential) : String :=
  "Basic " ++ String.ofList
    (Text.Base64.encode (c.username ++ ":" ++ c.password).toUTF8.toList)

/-- The response of a digest answer, with or without protection. -/
def digestResponse (a : Algorithm) (c : Credential) (realm nonce method uri : String)
    (protection : Option Protection) : String :=
  let user := a.hash (c.username ++ ":" ++ realm ++ ":" ++ c.password)
  let request := a.hash (method ++ ":" ++ uri)
  match protection with
  | none => a.hash (user ++ ":" ++ nonce ++ ":" ++ request)
  | some p =>
    a.hash (user ++ ":" ++ nonce ++ ":" ++ p.count ++ ":" ++ p.clientNonce ++ ":auth:" ++
      request)

/-- The text with a backslash before each backslash and double quote. -/
def escapeQuotes (s : String) : String :=
  String.ofList (s.toList.flatMap fun c => if c = '\\' ∨ c = '"' then ['\\', c] else [c])

/-- A directive of an answer, in quotes. -/
def quotedDirective (name value : String) : String :=
  name ++ "=\"" ++ value ++ "\""

/-- The digest answer to a challenge.  A nonce is needed, and the hash function has to be a
known one; protection is given when the challenge offers it, and what the challenge wants back
is sent back. -/
def digestAuthorization (ch : Challenge) (c : Credential) (method uri : String)
    (protection : Protection) : Except ProtocolError String :=
  match ch.nonce? with
  | none => .error (.malformedChallenge "nonce")
  | some nonce =>
    match Algorithm.ofName? ch.algorithm? with
    | .error e => .error e
    | .ok a =>
      let realm := ch.realm?.getD ""
      let response := digestResponse a c realm nonce method uri
        (if ch.offersAuth then some protection else none)
      .ok ("Digest " ++ ", ".intercalate (
        [quotedDirective "username" (escapeQuotes c.username),
          quotedDirective "realm" (escapeQuotes realm),
          quotedDirective "nonce" nonce,
          quotedDirective "uri" uri,
          quotedDirective "response" response] ++
        (if ch.algorithm?.isSome then ["algorithm=" ++ a.name] else []) ++
        (if ch.offersAuth then
          ["qop=auth", "nc=" ++ protection.count,
            quotedDirective "cnonce" protection.clientNonce]
        else []) ++
        (match ch.opaqueValue? with
          | some value => [quotedDirective "opaque" value]
          | none => [])))

/-- The answer to a challenge for one request. -/
def authorization (ch : Challenge) (c : Credential) (method uri : String)
    (protection : Protection) : Except ProtocolError String :=
  match ch.scheme with
  | .basic => .ok (basicAuthorization c)
  | .digest => digestAuthorization ch c method uri protection
  | .other name => .error (.unsupportedScheme name)

end RemoteFiles.Auth
