import RemoteFiles.Disk.Basic

/-!
# A tree of files in memory

A place in the tree is the list of names that leads to it from the root.  A path is followed
name by name from the root or from the working directory; every name but the last has to lead
to a directory.
-/

namespace RemoteFiles.Disk

/-- A place in a tree of files. -/
abbrev Place := List Piece

/-- What stands at a place. -/
inductive Node
  | file (data : ByteArray)
  | directory
  deriving DecidableEq

/-- A tree of files: what stands at which place, and the working directory. -/
structure Tree where
  working : Place
  nodes : List (Place × Node)

namespace Tree

/-- What stands at a place; the root is a directory. -/
def node? (t : Tree) (place : Place) : Option Node :=
  if place = [] then some .directory
  else (t.nodes.find? (·.1 == place)).map (·.2)

/-- The tree with something at a place. -/
def put (t : Tree) (place : Place) (node : Node) : Tree :=
  { t with nodes := (place, node) :: t.nodes.filter (·.1 != place) }

/-- The longest name that a file may have, in bytes. -/
def nameBound : Nat := 255

/-- The shortest path that is too long, in bytes. -/
def pathBound : Nat := 4096

/-- The place that a piece leads to from another one. -/
def step (t : Tree) (place : Place) (piece : Piece) : Except DiskFault Place :=
  match t.node? place with
  | none => .error .notFound
  | some (.file _) => .error .notDirectory
  | some .directory =>
    if piece = [] ∨ piece = hereDot then .ok place
    else if piece = upDots then .ok place.dropLast
    else if nameBound < Text.Glyph.totalSize piece then .error .nameTooLong
    else .ok (place ++ [piece])

/-- The place that the given pieces of a path lead to; the last one need not be there. -/
def followPieces (t : Tree) (p : Path) (pieces : List Piece) : Except DiskFault Place :=
  if p.glyphs.contains (.char '\x00') then .error .zeroByte
  else if p.glyphs = [] then .error .notFound
  else if pathBound ≤ Text.Glyph.totalSize p.glyphs then .error .nameTooLong
  else pieces.foldlM t.step (if p.isAbsolute then [] else t.working)

/-- The place that a path leads to; its last name need not be there. -/
def follow (t : Tree) (p : Path) : Except DiskFault Place := t.followPieces p p.body

/-- What a path leads to. -/
def find (t : Tree) (p : Path) : Except DiskFault Node :=
  match t.follow p with
  | .error fault => .error fault
  | .ok place =>
    match t.node? place with
    | none => .error .notFound
    | some node => .ok node

/-- The path without slashes at its end. -/
def withoutSlash (p : Path) : Path :=
  ⟨(p.glyphs.reverse.dropWhile (· == .char '/')).reverse⟩

/-- The content of the file at a path. -/
def read (t : Tree) (p : Path) : Except DiskFault ByteArray :=
  match t.find p with
  | .error fault => .error fault
  | .ok .directory => .error .isDirectory
  | .ok (.file data) => .ok data

/-- Why nothing can be written to a path that ends with a slash, given without it: its last name
is taken for a directory unless it is not to be reached. -/
def directoryFault (t : Tree) (target : Path) : DiskFault :=
  if target.glyphs = [] then .isDirectory
  else match t.followPieces target target.body.dropLast with
    | .error fault => fault
    | .ok place =>
      match t.node? place with
      | none => .notFound
      | some (.file _) => .notDirectory
      | some .directory => .isDirectory

/-- The tree after content was written to a file. -/
def write (t : Tree) (p : Path) (data : ByteArray) : Except DiskFault Tree :=
  if p.endsWithSlash then .error (t.directoryFault (withoutSlash p))
  else match t.follow p with
    | .error fault => .error fault
    | .ok place =>
      match t.node? place with
      | some .directory => .error .isDirectory
      | _ => .ok (t.put place (.file data))

/-- The tree after a directory was made. -/
def makeDirectory (t : Tree) (p : Path) : Except DiskFault Tree :=
  let target := if p.endsWithSlash then withoutSlash p else p
  if p.endsWithSlash ∧ target.glyphs = [] then .error .alreadyThere
  else match t.follow target with
    | .error fault => .error fault
    | .ok place =>
      match t.node? place with
      | some _ => .error .alreadyThere
      | none => .ok (t.put place .directory)

/-- Carries out a change that may fail. -/
def attempt (change : Tree → Except DiskFault Tree) : StateM Tree (Except DiskFault Unit) :=
  fun t => match change t with
    | .ok t' => (.ok (), t')
    | .error fault => (.error fault, t)

/-- The files of the tree that the surroundings hold. -/
def disk : Disk (StateM Tree) where
  isThere p := fun t => ((t.find p).isOk, t)
  isDirectory p := fun t => ((match t.find p with
    | .ok .directory => true
    | _ => false), t)
  read p := fun t => (t.read p, t)
  write p data := attempt (·.write p data)
  makeDirectory p := attempt (·.makeDirectory p)

/-! ### Building and showing trees -/

/-- The tree with a directory at a place and at all places above it that are free. -/
def addDirectories (t : Tree) (place : Place) : Tree :=
  (List.range (place.length + 1)).foldl (fun t n =>
    match t.node? (place.take n) with
    | some _ => t
    | none => t.put (place.take n) .directory) t

/-- A tree that only has its working directory. -/
def ofWorking (working : Place) : Tree := addDirectories ⟨working, []⟩ working

/-- The tree with a file inside the working directory, or with a directory if the path ends
with a slash, and with the directories on the way. -/
def add (t : Tree) (p : Path) (data : ByteArray) : Tree :=
  let place := t.working ++ p.pieces.filter (· != [])
  if p.endsWithSlash then t.addDirectories place
  else (t.addDirectories place.dropLast).put place (.file data)

/-- The files inside the working directory, each by its path from there. -/
def files (t : Tree) : List (Path × ByteArray) :=
  t.nodes.filterMap fun (place, node) =>
    match node with
    | .directory => none
    | .file data =>
      if t.working.isPrefixOf place then
        some (Path.ofBody false (place.drop t.working.length), data)
      else none

end Tree

end RemoteFiles.Disk
