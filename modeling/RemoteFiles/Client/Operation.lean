import RemoteFiles.Client.Event
import RemoteFiles.Clipboard
import RemoteFiles.Listing
import RemoteFiles.Path

/-!
# Operations and their plans

An operation on files is carried out by a plan: requests to the service, the reading of a local
file, and changes of the working directory and the clipboard, one after another.  What follows
a step may depend on what the step gave; when a step fails, nothing follows but what a refused
request puts back.
-/

namespace RemoteFiles

/-- What operations work on besides the service. -/
structure Workspace where
  /-- The working directory; it ends with a slash. -/
  directory : String
  clipboard : Clipboard
  deriving DecidableEq

/-- An operation on files. -/
inductive Operation
  /-- Lists the working directory or another one. -/
  | list (path : Option String)
  | changeDirectory (path : String)
  | remove (name : String)
  /-- Copies to a new name or to the clipboard; what is cut goes away at its old place. -/
  | copy (name : String) (newName : Option String) (isCut : Bool)
  | paste
  | move (oldName newName : String)
  /-- Makes a directory inside the working directory, or the working directory itself. -/
  | makeDirectory (name : Option String)
  /-- Stores a local file under its own name. -/
  | upload (path : Disk.Path)
  | uploadBytes (name : String) (data : ByteArray)
  | download (name : String)
  | update (name : String) (content : Payload)
  deriving DecidableEq

/-- A course of steps that ends with a value or an error. -/
inductive Plan (α : Type)
  | done (a : α)
  | fail (e : OperationError)
  /-- Sends a request; a refusal ends the plan, once `undo` has put things back. -/
  | submit (r : Request) (undo : Workspace → Workspace) (next : Payload → Plan α)
  | readFile (path : Disk.Path) (next : ByteArray → Plan α)
  | change (f : Workspace → Workspace) (next : Plan α)

namespace Operation

/-- What a completed operation gives. -/
abbrev Result : Operation → Type
  | list _ => List Entry
  | changeDirectory _ => String
  | remove _ => Unit
  | copy _ _ _ => Unit
  | paste => Option String
  | move _ _ => Unit
  | makeDirectory _ => Unit
  | upload _ => String
  | uploadBytes _ _ => Unit
  | download _ => ByteArray
  | update _ _ => Payload

/-- The kind of an operation. -/
def kind : Operation → OperationKind
  | list _ => .list
  | changeDirectory _ => .changeDirectory
  | remove _ => .remove
  | copy _ _ isCut => if isCut then .cut else .copy
  | paste => .paste
  | move _ _ => .move
  | makeDirectory _ => .makeDirectory
  | upload _ | uploadBytes _ _ => .upload
  | download _ => .download
  | update _ _ => .update

/-- The last segment of a path, slashes at its end apart. -/
def lastSegment (name : String) : String :=
  String.ofList (((name.toList.reverse.dropWhile (· == '/')).takeWhile (· != '/')).reverse)

/-- One request whose body does not matter, as the last step. -/
def finish {α : Type} (r : Request) (a : α) : Plan α := .submit r id fun _ => .done a

/-- Lists a directory. -/
def planList (directory : String) : Plan (List Entry) :=
  .submit (.read directory) id fun body =>
    match Listing.ofJson body.data with
    | .ok listing => .done listing.entries
    | .error cause => .fail (.protocol cause)

/-- Reads a file and writes it elsewhere or puts it on the clipboard. -/
def planCopy (directory name : String) (newName : Option String) (isCut : Bool) : Plan Unit :=
  let source := Path.join directory name
  .submit (.read source) id fun content =>
    match newName with
    | some newName =>
      let destination := Path.join directory newName
      .submit (.write destination (some content)) id fun _ =>
        if isCut ∧ destination ≠ source then finish (.delete source) () else .done ()
    | none =>
      .change (fun w => { w with
        clipboard := w.clipboard.enqueue ⟨lastSegment name, some source, content, isCut⟩ })
        (.done ())

/-- Takes what waits longest on the clipboard and writes it; if that is refused, it goes back to
the front. -/
def planPaste (w : Workspace) : Plan (Option String) :=
  match w.clipboard.dequeue? with
  | none => .done none
  | some (clipping, rest) =>
    let destination := Path.join w.directory clipping.name
    .change (fun w => { w with clipboard := rest })
      (.submit (.write destination (some clipping.content))
        (fun w => { w with clipboard := w.clipboard.restore clipping })
        fun _ =>
          match clipping.isCut, clipping.origin with
          | true, some source =>
            if source = destination then .done (some clipping.name)
            else finish (.delete source) (some clipping.name)
          | _, _ => .done (some clipping.name))

/-- Reads, writes and deletes, unless the old and the new place are the same. -/
def planMove (source destination : String) : Plan Unit :=
  if source = destination then .done ()
  else .submit (.read source) id fun content =>
    .submit (.write destination (some content)) id fun _ => finish (.delete source) ()

/-- Reads a local file and writes it under its own name. -/
def planUpload (directory : String) (path : Disk.Path) : Plan String :=
  match path.fileName?.bind Text.Glyph.toString? with
  | none => .fail (.noFileName path)
  | some name =>
    let name := String.ofList name
    .readFile path fun data =>
      finish (.write (Path.join directory name) (some (.ofBytes data))) name

/-- The plan of an operation. -/
def plan (w : Workspace) : (op : Operation) → Plan op.Result
  | list path => planList (match path with
    | some path => Path.resolve w.directory path
    | none => w.directory)
  | changeDirectory path =>
    let next := Path.resolve w.directory path
    .change (fun w => { w with directory := next }) (.done next)
  | remove name => finish (.delete (Path.join w.directory name)) ()
  | copy name newName isCut => planCopy w.directory name newName isCut
  | paste => planPaste w
  | move oldName newName =>
    planMove (Path.join w.directory oldName) (Path.join w.directory newName)
  | makeDirectory name =>
    finish (.write (Path.joinDirectory w.directory (name.getD "")) none) ()
  | upload path => planUpload w.directory path
  | uploadBytes name data =>
    finish (.write (Path.join w.directory name) (some (.ofBytes data))) ()
  | download name =>
    .submit (.read (Path.join w.directory name)) id fun content => .done content.data
  | update name content =>
    .submit (.update (Path.join w.directory name) content) id fun answer => .done answer

end Operation

end RemoteFiles
