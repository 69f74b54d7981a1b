import RemoteFiles.Program.Run
import Std.Async.DNS
import Std.Async.TCP
import Std.Async.Timer

/-!
# The program

The program on a real machine: its environment, its files, its terminal, and services that are
reached by plain HTTP.  Everything that is decided here is how one step is carried out.
-/

namespace RemoteFiles.Main

open Std.Async Std.Net

/-! ### Files -/

/-- The fault of a code of the operating system. -/
def faultOfCode (code : UInt32) (details : String) : DiskFault :=
  match code.toNat with
  | 2 => .notFound
  | 17 => .alreadyThere
  | 20 => .notDirectory
  | 21 => .isDirectory
  | 36 => .nameTooLong
  | n => .other (details ++ " (os error " ++ toString n ++ ")")

/-- The fault of an error of the operating system. -/
def faultOf : IO.Error → DiskFault
  | .noFileOrDirectory _ code details | .alreadyExists _ code details
  | .inappropriateType _ code details | .permissionDenied _ code details
  | .invalidArgument _ code details | .resourceExhausted _ code details
  | .noSuchThing _ code details | .otherError code details
  | .resourceBusy code details | .unsatisfiedConstraints code details
  | .illegalOperation code details | .unsupportedOperation code details =>
    faultOfCode code details
  | e => .other (toString e)

/-- Carries out an action and tells its fault. -/
def caught {α : Type} (act : IO α) : IO (Except DiskFault α) := do
  try
    return .ok (← act)
  catch e => return .error (faultOf e)

/-- The local files. -/
def disk : Disk IO where
  isThere p := do
    match ← caught (IO.FS.Handle.mk p.display .read) with
    | .ok _ => return true
    | .error fault => return !(fault == .notFound || fault == .notDirectory)
  isDirectory p := do
    match ← caught (IO.FS.readBinFile p.display) with
    | .ok _ => return false
    | .error fault => return fault == .isDirectory
  read p := caught (IO.FS.readBinFile p.display)
  write p data := caught (IO.FS.writeBinFile p.display data)
  makeDirectory p := caught (IO.FS.createDir p.display)

/-! ### The network -/

/-- The pieces of an IPv4 address in a host. -/
def addressParts? (host : String) : Option IPAddr :=
  match (host.splitOn ".").map String.toNat? with
  | [some a, some b, some c, some d] =>
    some (.v4 (.ofParts a.toUInt8 b.toUInt8 c.toUInt8 d.toUInt8))
  | _ => none

/-- The addresses of a host. -/
def addresses (host : String) : Async (Array IPAddr) := do
  match addressParts? host with
  | some address => return #[address]
  | none => DNS.getAddrInfo host "http"

/-- Where a service listens. -/
def socketAddress (address : IPAddr) (port : UInt16) : SocketAddress :=
  match address with
  | .v4 addr => .v4 ⟨addr, port⟩
  | .v6 addr => .v6 ⟨addr, port⟩

/-- Everything that comes until the other side closes the connection. -/
partial def receiveAll (socket : TCP.Socket.Client) (received : ByteArray) :
    Async ByteArray := do
  match ← socket.recv? 65536 with
  | some data => receiveAll socket (received ++ data)
  | none => return received

/-- Sends bytes to the first address that takes them, and receives the answer. -/
def converse (port : UInt16) (bytes : ByteArray) : List IPAddr → Async ByteArray
  | [] => throw (IO.userError "no address")
  | address :: others => do
    try
      let socket ← TCP.Socket.Client.mk
      socket.connect (socketAddress address port)
      socket.send bytes
      receiveAll socket .empty
    catch e =>
      if others.isEmpty then throw e else converse port bytes others

/-- The response to a request by plain HTTP. -/
def answer (authority : Authority) (r : Http.Request) :
    Async (Except Http.NetworkFault Http.Response) := do
  try
    let port := authority.port.getD 80
    let bytes ← converse port.toUInt16 r.toBytes (← addresses authority.host).toList
    match Http.Response.ofBytes? bytes with
    | some response => return .ok response
    | none => return .error .noResponse
  catch _ => return .error .noResponse

/-- What comes when the time is over. -/
def overtime (seconds : UInt64) : Async (Except Http.NetworkFault Http.Response) := do
  let sleep ← Sleep.mk (.ofNat (1000 * seconds.toNat))
  sleep.wait
  return .error .timedOut

instance : Inhabited (Except Http.NetworkFault Http.Response) := ⟨.error .noResponse⟩

/-- The network; there is none for services that want an encrypted connection. -/
def network : Http.Network IO where
  exchange seconds r := do
    match r.url.scheme, r.url.authority with
    | "http", some authority => (Async.race (answer authority r) (overtime seconds)).block
    | _, _ => return .error .noResponse

/-! ### The terminal -/

/-- Asks for a password at the terminal that controls the program. -/
def askPassword (user : String) : IO (Except String String) := do
  match ← caught (IO.FS.Handle.mk "/dev/tty" .readWrite) with
  | .error fault => return .error fault.message
  | .ok tty =>
    tty.putStr ("Password for " ++ user ++ ": ")
    tty.flush
    let line ← tty.getLine
    return .ok (line.dropEndWhile (· == '\n')).copy

/-- The terminal. -/
def terminal : Terminal IO where
  write data := do
    let out ← IO.getStdout
    out.write data
    out.flush
  complain line := IO.eprintln line
  askPassword := askPassword

/-- One line of the input with its end; no byte at the end of the input. -/
partial def readLine (input : IO.FS.Stream) (line : ByteArray) : IO ByteArray := do
  let next ← input.read 1
  if next.isEmpty then return line
  else if next[0]! == 0x0a then return line ++ next
  else readLine input (line ++ next)

/-! ### The machine -/

/-- The variables that the program looks at. -/
def variableNames : List String := ["HOME", "XDG_CONFIG_HOME", "FILESHELL_URL",
  "FILESHELL_USER", "FILESHELL_LOG_LEVEL", "FILESHELL_PASSWORD"]

/-- The machine that the program runs on. -/
def machine : IO (Machine IO) := do
  let values ← variableNames.filterMapM fun name => do
    return (← IO.getEnv name).map fun value => (name, value.toUTF8)
  return {
    environment := ⟨values⟩
    disk := disk
    network := network
    clientNonce := do return Text.Hex.encode (← IO.getRandomBytes 16).toList
    terminal := terminal }

/-- Runs the shell on the lines of the input as they come. -/
partial def interact (w : Machine IO) (h : Host IO) (user : Option String) (client : Client) :
    IO (Except Report Unit) := do
  let line ← do
    let ((), _) ← (Shell.prompt w).run client
    readLine (← IO.getStdin) .empty
  match ← (Shell.runNext w h user line).run client with
  | (.error report, _) => return .error report
  | (.ok false, _) => return .ok ()
  | (.ok true, client) => interact w h user client

/-- Does what the command line asks for. -/
def run (words : List String) : IO Nat := do
  let w ← machine
  match Program.Arguments.parse words with
  | .error reason => Program.stop w reason
  | .ok a =>
    match ← Program.start w a with
    | .error report => Program.conclude w (.error report)
    | .ok .finished => Program.conclude w (.ok ())
    | .ok (.shell h client user) => Program.conclude w (← interact w h user client)

end RemoteFiles.Main

/-- Runs the program and gives its exit code. -/
def main (words : List String) : IO UInt32 := do
  return (← RemoteFiles.Main.run words).toUInt32
