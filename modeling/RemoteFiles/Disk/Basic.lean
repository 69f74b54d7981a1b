import RemoteFiles.Disk.Path

/-!
# Local files

What is done with local files, over any kind of surroundings that can hold them, and what can
go wrong.  `Disk.makeDirectories` and `Disk.readText` are built from the other operations.
-/

namespace RemoteFiles

/-- Why something could not be done with a local file. -/
inductive DiskFault
  | notFound
  | alreadyThere
  | notDirectory
  | isDirectory
  | nameTooLong
  /-- A path with a zero byte. -/
  | zeroByte
  /-- A file that was read as text and is not UTF-8. -/
  | notText
  /-- Any other reason, in the words of the operating system. -/
  | other (words : String)
  deriving DecidableEq, Repr

/-- The text shown for a fault. -/
def DiskFault.message : DiskFault → String
  | .notFound => "No such file or directory (os error 2)"
  | .alreadyThere => "File exists (os error 17)"
  | .notDirectory => "Not a directory (os error 20)"
  | .isDirectory => "Is a directory (os error 21)"
  | .nameTooLong => "File name too long (os error 36)"
  | .zeroByte => "file name contained an unexpected NUL byte"
  | .notText => "stream did not contain valid UTF-8"
  | .other words => words

/-- Local files in surroundings `m`. -/
structure Disk (m : Type → Type) where
  /-- Something is there under a path. -/
  isThere : Disk.Path → m Bool
  /-- A directory is there under a path. -/
  isDirectory : Disk.Path → m Bool
  /-- The content of a file. -/
  read : Disk.Path → m (Except DiskFault ByteArray)
  /-- Gives a file the content, making it if it is not there. -/
  write : Disk.Path → ByteArray → m (Except DiskFault Unit)
  /-- Makes a directory inside one that is there. -/
  makeDirectory : Disk.Path → m (Except DiskFault Unit)

namespace Disk

variable {m n : Type → Type}

/-- The same files seen from wider surroundings. -/
def lift (up : {α : Type} → m α → n α) (d : Disk m) : Disk n where
  isThere p := up (d.isThere p)
  isDirectory p := up (d.isDirectory p)
  read p := up (d.read p)
  write p data := up (d.write p data)
  makeDirectory p := up (d.makeDirectory p)

variable [Monad m]

/-- The content of a file as text. -/
def readText (d : Disk m) (p : Path) : m (Except DiskFault String) := do
  match ← d.read p with
  | .error fault => pure (.error fault)
  | .ok data =>
    match Text.decodeUtf8? data with
    | none => pure (.error .notText)
    | some text => pure (.ok text)

/-- What comes of making a directory that may be there already. -/
def settle (d : Disk m) (p : Path) : Except DiskFault Unit → m (Except DiskFault Unit)
  | .ok () => pure (.ok ())
  | .error fault => do
    if ← d.isDirectory p then pure (.ok ()) else pure (.error fault)

/-- Makes the directory whose pieces are given from the last one back, and those that it is
in. -/
def makeBackwards (d : Disk m) (absolute : Bool) (pieces : List Piece) :
    m (Except DiskFault Unit) := do
  let p := Path.ofBody absolute pieces.reverse
  match pieces with
  | [] => if absolute then settle d p (← d.makeDirectory p) else pure (.ok ())
  | _ :: rest =>
    match ← d.makeDirectory p with
    | .error .notFound =>
      match ← makeBackwards d absolute (Path.trimmed absolute rest) with
      | .ok () => settle d p (← d.makeDirectory p)
      | .error fault => pure (.error fault)
    | result => settle d p result
termination_by pieces.length
decreasing_by
  have := Path.length_trimmed_le absolute rest
  simp; omega

/-- Makes a directory and those that it is in, as far as they are not there. -/
def makeDirectories (d : Disk m) (p : Path) : m (Except DiskFault Unit) :=
  makeBackwards d p.isAbsolute p.backwards

end Disk

end RemoteFiles
