import RemoteFiles.Disk.Basic
import RemoteFiles.ProtocolError
import RemoteFiles.Service.Basic

/-!
# Why an operation ends

The first thing that goes wrong ends an operation.
-/

namespace RemoteFiles

/-- Why an operation was not completed. -/
inductive OperationError
  /-- The service wants credentials, by the challenge that is now in effect. -/
  | authenticationRequired (challenge : String)
  | notFound (url : String)
  | transport (status : Nat) (message : String)
  /-- The service's answer could not be read. -/
  | protocol (cause : ProtocolError)
  /-- A local path does not end with the name of a file. -/
  | noFileName (path : Disk.Path)
  | localFile (cause : DiskFault)
  deriving DecidableEq, Repr

namespace OperationError

/-- The error of a refusal; a challenge that is missing counts as empty. -/
def ofRefusal : Refusal → OperationError
  | .authenticationRequired challenge => .authenticationRequired (challenge.getD "")
  | .notFound url => .notFound url
  | .transport status message => .transport status message

/-- The text of what lies behind an error, if it has a cause of its own. -/
def cause? : OperationError → Option String
  | protocol cause => some cause.message
  | noFileName path => some ("no file name in " ++ path.display)
  | localFile cause => some cause.message
  | _ => none

/-- The text shown for an error. -/
def message (e : OperationError) : String :=
  match e with
  | authenticationRequired _ => "authentication required"
  | notFound url => "not found: " ++ url
  | transport status message => transportText status message
  | protocol _ => "protocol error: " ++ e.cause?.getD ""
  | noFileName _ | localFile _ => "local file error: " ++ e.cause?.getD ""

end OperationError

end RemoteFiles
