import RemoteFiles.Listing
import RemoteFiles.Service.Basic

/-!
# A file service in memory

The store holds files and directories by their paths; the paths of directories end with a
slash.  It answers as the service does that is reached by HTTP: a directory is read as a
listing, and a write needs the parent directory of its target.  Every call is recorded, and
failures can be laid up for later calls.
-/

namespace RemoteFiles

/-- A call that reached the store. -/
structure RecordedCall where
  verb : Verb
  target : String
  authorization : Option String
  deriving DecidableEq, Repr

/-- Who may use the store. -/
structure AccessRule where
  /-- The challenge for everyone else. -/
  challenge : String
  /-- The only authorization that is accepted; without one, none is. -/
  accepted : Option String
  deriving DecidableEq, Repr

/-- A file service in memory. -/
structure Store where
  /-- The files in the order of their paths. -/
  files : List (String × ByteArray)
  /-- The directories in their order. -/
  directories : List String
  /-- The calls so far, the latest first. -/
  record : List RecordedCall
  /-- Failures for later calls, in the order in which they were laid up. -/
  failures : List ((Verb × String) × Refusal)
  /-- Failures for later probes. -/
  probeFailures : List Refusal
  access : Option AccessRule
  identity : Option Identity
  deriving DecidableEq

namespace Store

/-! ### Paths -/

/-- The path of a directory: with a slash at its end. -/
def directoryKey (path : String) : String :=
  if path.toList.getLast? = some '/' then path else path ++ "/"

/-- The path of the directory that a target is in. -/
def parentKey (target : String) : String :=
  let trimmed := target.toList.reverse.dropWhile (· == '/')
  match trimmed.dropWhile (· != '/') with
  | [] => "/"
  | key => String.ofList key.reverse

/-- A path begins with the path of a directory. -/
def isBelow (key path : String) : Bool := key.toList.isPrefixOf path.toList

/-- The order of paths: that of their bytes, which is that of their characters. -/
def comesBefore (a b : String) : Bool := a < b

/-! ### Files and directories -/

/-- Puts an element in its place in a list that is ordered by keys, instead of one with the
same key. -/
def insertBy {α : Type} (key : α → String) (a : α) : List α → List α
  | [] => [a]
  | b :: bs =>
    if key b = key a then a :: bs
    else if comesBefore (key a) (key b) then a :: b :: bs
    else b :: insertBy key a bs

/-- A store with nothing but its root. -/
def empty : Store := ⟨[], ["/"], [], [], [], none, none⟩

/-- The content of a file. -/
def file? (s : Store) (path : String) : Option ByteArray := s.files.lookup path

/-- There is a directory of this path. -/
def hasDirectory (s : Store) (path : String) : Bool := s.directories.contains (directoryKey path)

/-- The store with a file. -/
def setFile (s : Store) (path : String) (data : ByteArray) : Store :=
  { s with files := insertBy (·.1) (path, data) s.files }

/-- The store with a directory. -/
def addDirectory (s : Store) (key : String) : Store :=
  { s with directories := insertBy id key s.directories }

/-- The directories above a path, the root left out; `budget` bounds their number. -/
def ancestors : Nat → String → List String
  | 0, _ => []
  | budget + 1, path =>
    let parent := parentKey path
    if parent = "/" then [] else parent :: ancestors budget parent

/-- The store with a file and the directories above it. -/
def insertFile (s : Store) (path : String) (data : ByteArray) : Store :=
  ((ancestors path.length path).foldl addDirectory s).setFile path data

/-- The name of a path right inside a directory. -/
def childName? (key path : String) : Option String :=
  if isBelow key path then
    let rest := path.toList.drop key.length
    let name := (rest.reverse.dropWhile (· == '/')).reverse
    if rest = [] ∨ name.contains '/' then none else some (String.ofList name)
  else none

/-- The listing of a directory: its directories, then its files. -/
def listing (s : Store) (key : String) : Listing where
  directory := some key
  entries :=
    s.directories.filterMap (fun path => (childName? key path).map fun name =>
      ⟨name, none, some directoryCode, some "inode/directory"⟩) ++
    s.files.filterMap (fun (path, data) => (childName? key path).map fun name =>
      ⟨name, some (toString data.size ++ " B"), some fileCode, none⟩)

/-! ### Calls -/

/-- The refusal of what is not there. -/
def missing (target : String) : Refusal := .notFound ("memory://" ++ target)

/-- Accepts an authorization that the access rule admits. -/
def checkAccess (s : Store) (authorization : Option String) : Except Refusal Unit :=
  match s.access with
  | none => .ok ()
  | some rule =>
    if rule.accepted.isSome ∧ rule.accepted = authorization then .ok ()
    else .error (.authenticationRequired (some rule.challenge))

/-- The failure laid up for a call, and the failures without it. -/
def takeFailure (call : Verb × String) :
    List ((Verb × String) × Refusal) → Option (Refusal × List ((Verb × String) × Refusal))
  | [] => none
  | (other, refusal) :: rest =>
    if other = call then some (refusal, rest)
    else (takeFailure call rest).map fun (found, rest) => (found, (other, refusal) :: rest)

/-- Records a call, and refuses it if a failure is laid up for it or access is denied. -/
def receive (s : Store) (verb : Verb) (target : String) (authorization : Option String) :
    Except Refusal Unit × Store :=
  let s := { s with record := ⟨verb, target, authorization⟩ :: s.record }
  match takeFailure (verb, target) s.failures with
  | some (refusal, rest) => (.error refusal, { s with failures := rest })
  | none => (s.checkAccess authorization, s)

/-- What reading a target gives: the content of a file, or the listing of a directory. -/
def contentOf (s : Store) (target : String) : Outcome :=
  match s.file? target with
  | some data => .ok ⟨data, some "application/octet-stream"⟩
  | none =>
    if s.hasDirectory target then
      .ok ⟨(s.listing (directoryKey target)).toJson, some jsonContentType⟩
    else .error (missing target)

/-- The answer to a write that was carried out. -/
def writeReceipt (target : String) : Payload :=
  .ofJson (.object [("method", .string "PUT"), ("name", .string target),
    ("result", .string "OK")])

/-- Stores a content, or makes a directory. -/
def store (s : Store) (target : String) (content : Option Payload) : Outcome × Store :=
  let parent := parentKey target
  if s.directories.contains parent then
    let s := match content with
      | some p => s.setFile target p.data
      | none =>
        if target.toList.getLast? = some '/' then s.addDirectory target
        else s.setFile target .empty
    (.ok (writeReceipt target), s)
  else (.error (missing parent), s)

/-- Gives a file that is there another content. -/
def replace (s : Store) (target : String) (content : Payload) : Outcome × Store :=
  match s.file? target with
  | some _ => (.ok content, s.setFile target content.data)
  | none => (.error (missing target), s)

/-- Removes a file, or a directory other than the root with all that is in it. -/
def remove (s : Store) (target : String) : Outcome × Store :=
  match s.file? target with
  | some _ => (.ok .empty, { s with files := s.files.filter (·.1 != target) })
  | none =>
    let key := directoryKey target
    if key ≠ "/" ∧ s.directories.contains key then
      (.ok .empty, { s with
        directories := s.directories.filter (!isBelow key ·)
        files := s.files.filter (!isBelow key ·.1) })
    else (.error (missing target), s)

/-- Carries out a request that was admitted. -/
def carryOut (s : Store) : Request → Outcome × Store
  | .read target => (s.contentOf target, s)
  | .write target content => s.store target content
  | .update target content => s.replace target content
  | .delete target => s.remove target

/-- Answers a request. -/
def submit (s : Store) (r : Request) (authorization : Option String) : Outcome × Store :=
  match s.receive r.verb r.target authorization with
  | (.error refusal, s) => (.error refusal, s)
  | (.ok (), s) => s.carryOut r

/-- Answers a probe. -/
def probe (s : Store) (authorization : Option String) :
    Except Refusal (Option Identity) × Store :=
  match s.receive .read "/" authorization with
  | (.error refusal, s) => (.error refusal, s)
  | (.ok (), s) =>
    match s.probeFailures with
    | refusal :: rest => (.error refusal, { s with probeFailures := rest })
    | [] => (.ok s.identity, s)

/-- The calls so far in order. -/
def calls (s : Store) : List RecordedCall := s.record.reverse

/-- The store with a failure laid up for a later call. -/
def failNext (s : Store) (verb : Verb) (target : String) (refusal : Refusal) : Store :=
  { s with failures := s.failures ++ [((verb, target), refusal)] }

/-- The store with a failure laid up for a later probe. -/
def failNextProbe (s : Store) (refusal : Refusal) : Store :=
  { s with probeFailures := s.probeFailures ++ [refusal] }

/-- The service of the store that the surroundings hold. -/
def service : Service (StateM Store) where
  requestUri target := target
  locate target := "memory://" ++ target
  submit r authorization := fun s => s.submit r authorization
  probe authorization := fun s => s.probe authorization

end Store

end RemoteFiles
