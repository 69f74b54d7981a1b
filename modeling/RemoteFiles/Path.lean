/-!
# Paths on the file service

A path names a place on the service by the segments from its root.  Empty segments and `.`
stand for nothing, `..` takes back the segment before it and never climbs above the root.
A directory is written with a slash at both ends (`normalize`), an entry of a directory
without the last slash unless its name was given with one (`join`).
-/

namespace RemoteFiles.Path

/-- The segments kept so far, last first, after one more piece of a path. -/
def push (stack : List String) (piece : String) : List String :=
  if piece = "" ∨ piece = "." then stack
  else if piece = ".." then stack.tail
  else piece :: stack

/-- The pieces of a path between its slashes. -/
def pieces (path : String) : List String :=
  (path.toList.splitOn '/').map String.ofList

/-- The segments of a path from the root, without empty and dot segments. -/
def segments (path : String) : List String :=
  ((pieces path).foldl push []).reverse

/-- Writes segments as an entry: each one after a slash. -/
def renderEntry (segs : List String) : String :=
  String.join (segs.map ("/" ++ ·))

/-- Writes segments as a directory: a slash at both ends. -/
def renderDirectory (segs : List String) : String :=
  renderEntry segs ++ "/"

/-- A path begins at the root when it begins with a slash. -/
def isAbsolute (path : String) : Bool :=
  path.toList.head? == some '/'

/-- A path is written as a directory when it ends with a slash. -/
def isDirectoryForm (path : String) : Bool :=
  path.toList.getLast? == some '/'

/-- The directory that a path names, in normal form. -/
def normalize (path : String) : String :=
  renderDirectory (segments path)

/-- The path seen from a directory: an absolute one replaces it, another one extends it. -/
def combine (dir path : String) : String :=
  if isAbsolute path then path else dir ++ "/" ++ path

/-- The directory that `path` names for someone who stands in `dir`. -/
def resolve (dir path : String) : String :=
  normalize (combine dir path)

/-- The path of the entry `name` of the directory `dir`; an empty name is the directory itself,
and the last slash stays when the name was written with one. -/
def join (dir name : String) : String :=
  let segs := segments (combine dir name)
  if segs = [] ∨ name = "" ∨ isDirectoryForm name then renderDirectory segs
  else renderEntry segs

/-- The path of the entry `name` of the directory `dir`, written as a directory. -/
def joinDirectory (dir name : String) : String :=
  let path := join dir name
  if isDirectoryForm path then path else path ++ "/"

end RemoteFiles.Path
