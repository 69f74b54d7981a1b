import RemoteFiles.Client.Basic
import RemoteFiles.Config.File
import RemoteFiles.Http.Service

/-!
# What the program runs on

The surroundings of the program: the environment, local files, the network, and a terminal.
-/

namespace RemoteFiles

/-- Where the program writes, and whom it asks for a password. -/
structure Terminal (m : Type → Type) where
  /-- Writes to the standard output. -/
  write : ByteArray → m Unit
  /-- Writes a line to the error output. -/
  complain : String → m Unit
  /-- Asks for the password of a user; if nobody can be asked, tells why. -/
  askPassword : String → m (Except String String)

/-- What the program runs on. -/
structure Machine (m : Type → Type) where
  environment : Environment
  disk : Disk m
  network : Http.Network m
  clientNonce : m String
  terminal : Terminal m

namespace Machine

variable {m : Type → Type} [Monad m]

/-- Writes a line to the standard output. -/
def say (w : Machine m) (line : String) : m Unit := w.terminal.write (line ++ "\n").toUTF8

/-- What a client at an endpoint works with; nobody subscribes to its events. -/
def host (w : Machine m) (e : Http.Endpoint) : Host m where
  service := e.service w.network
  disk := w.disk
  clientNonce := w.clientNonce
  announce _ := pure ()

/-- The password of a user: from the environment, or asked for. -/
def password (w : Machine m) (user : String) : m (Except Report String) := do
  match w.environment.get? "FILESHELL_PASSWORD" with
  | some password => pure (.ok password)
  | none =>
    match ← w.terminal.askPassword user with
    | .ok password => pure (.ok password)
    | .error reason => pure (.error ⟨"Failed to read password", [reason]⟩)

end Machine

/-- The text shown for an error that ends an operation. -/
def OperationError.report (e : OperationError) : Report := ⟨e.message, e.cause?.toList⟩

end RemoteFiles
