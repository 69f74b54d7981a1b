import RemoteFiles.Text.Utf8
import RemoteFiles.Url.Basic

/-!
# Configuration

Where the service is, how it is reached, who logs in, and how much is logged.  Values from the
environment override those of a file.  `Config.validate` names the first setting that cannot be
used.
-/

namespace RemoteFiles

/-- The settings of the program. -/
structure Config where
  /-- The URL of the service. -/
  url : String
  /-- The directory of the service that the shell starts in. -/
  root : String
  /-- How many seconds a request may take. -/
  timeout : UInt64
  /-- What the program calls itself to the service. -/
  userAgent : String
  /-- Who logs in at the start. -/
  username : Option String
  /-- How much is logged. -/
  level : String
  deriving DecidableEq, Repr

/-- Why a configuration cannot be used. -/
inductive ConfigError
  | invalidUrl (url : String)
  | invalidRoot (root : String)
  | invalidTimeout (seconds : UInt64)
  | invalidLevel (level : String)
  deriving DecidableEq, Repr

/-- The levels of logging. -/
def logLevels : List String := ["trace", "debug", "info", "warn", "error"]

/-- The text shown for a configuration that cannot be used. -/
def ConfigError.message : ConfigError → String
  | .invalidUrl url => "server url must be an http:// or https:// URL, got " ++ url
  | .invalidRoot root => "server root must be an absolute path, got " ++ root
  | .invalidTimeout seconds =>
    "timeout_secs must be between 1 and 3600 seconds, got " ++ toString seconds.toNat
  | .invalidLevel level =>
    "log level must be one of: " ++ ", ".intercalate logLevels ++ "; got " ++ level

/-- The name and version of the program. -/
def programVersion : String := "0.6.1"

/-- The environment: the values of variables, as bytes. -/
structure Environment where
  values : List (String × ByteArray)

namespace Environment

/-- The bytes of a variable. -/
def bytes? (env : Environment) (name : String) : Option ByteArray :=
  env.values.lookup name

/-- The value of a variable; one that is no text counts as absent. -/
def get? (env : Environment) (name : String) : Option String :=
  (env.bytes? name).bind Text.decodeUtf8?

/-- The value of a variable unless it is empty. -/
def nonEmpty? (env : Environment) (name : String) : Option String :=
  (env.get? name).filter (· != "")

end Environment

namespace Config

/-- The settings without any file. -/
def standard : Config where
  url := "http://localhost:8080/"
  root := "/"
  timeout := 30
  userAgent := "fileshell/" ++ programVersion
  username := none
  level := "info"

instance : Inhabited Config := ⟨standard⟩

/-- The settings with those of the environment in their place. -/
def override (c : Config) (env : Environment) : Config :=
  { c with
    url := (env.nonEmpty? "FILESHELL_URL").getD c.url
    username := (env.nonEmpty? "FILESHELL_USER").or c.username
    level := (env.nonEmpty? "FILESHELL_LOG_LEVEL").getD c.level }

/-- A URL whose scheme the service can be reached by. -/
def isWebUrl (text : String) : Bool :=
  match Url.parse text with
  | .ok u => u.scheme == "http" || u.scheme == "https"
  | .error _ => false

/-- The greatest number of seconds that a request may be given. -/
def timeoutBound : UInt64 := 3600

/-- Accepts settings that can be used; the case of the level's letters does not matter. -/
def validate (c : Config) : Except ConfigError Unit :=
  if !isWebUrl c.url then .error (.invalidUrl c.url)
  else if c.root.toList.head? ≠ some '/' then .error (.invalidRoot c.root)
  else if c.timeout = 0 ∨ timeoutBound < c.timeout then .error (.invalidTimeout c.timeout)
  else if !logLevels.contains (Text.lower c.level) then .error (.invalidLevel c.level)
  else .ok ()

end Config

end RemoteFiles
