import RemoteFiles.Client.Error

/-!
# Events

Every operation on files announces that it began and how it ended, and every probe that was
accepted or challenged is announced.  A feed keeps the latest events for one subscriber and
counts those that it had to drop.
-/

namespace RemoteFiles

/-- The kinds of operations. -/
inductive OperationKind
  | list
  | changeDirectory
  | remove
  | copy
  | cut
  | paste
  | move
  | makeDirectory
  | upload
  | download
  | update
  deriving DecidableEq, Repr

/-- The name of a kind. -/
def OperationKind.name : OperationKind → String
  | .list => "list"
  | .changeDirectory => "changeDirectory"
  | .remove => "remove"
  | .copy => "copy"
  | .cut => "cut"
  | .paste => "paste"
  | .move => "move"
  | .makeDirectory => "mkdir"
  | .upload => "upload"
  | .download => "download"
  | .update => "update"

/-- Something that subscribers are told. -/
inductive Event
  | began (id : UInt64) (kind : OperationKind)
  | completed (id : UInt64) (kind : OperationKind)
  | authenticationRequired (id : UInt64) (kind : OperationKind) (challenge : String)
  | notFound (id : UInt64) (kind : OperationKind) (url : String)
  | failed (id : UInt64) (kind : OperationKind) (error : String)
  | authorized (identity : Option Identity)
  | challenged (challenge : String)
  deriving DecidableEq, Repr

/-- How the end of an operation is announced. -/
def Event.settled {α : Type} (id : UInt64) (kind : OperationKind) :
    Except OperationError α → Event
  | .ok _ => .completed id kind
  | .error (.authenticationRequired challenge) => .authenticationRequired id kind challenge
  | .error (.notFound url) => .notFound id kind url
  | .error e => .failed id kind e.message

/-- The events of one subscriber. -/
structure Feed where
  /-- The latest events, oldest first. -/
  waiting : List Event
  /-- How many were dropped since the last ones were taken. -/
  lost : Nat
  deriving DecidableEq

namespace Feed

/-- How many events a feed keeps. -/
def capacity : Nat := 256

/-- A feed without events. -/
def empty : Feed := ⟨[], 0⟩

/-- The feed with one more event; the oldest is dropped if there are too many. -/
def push (f : Feed) (e : Event) : Feed :=
  if f.waiting.length < capacity then { f with waiting := f.waiting ++ [e] }
  else ⟨f.waiting.drop 1 ++ [e], f.lost + 1⟩

end Feed

end RemoteFiles
