import RemoteFiles.Config.Toml
import RemoteFiles.Disk.Basic

/-!
# Configuration files

A configuration is loaded from a file, if there is one, and saved to one, with the directories
that it is in.
-/

namespace RemoteFiles

/-- Why a configuration could not be loaded or saved. -/
inductive ConfigFileFault
  | notRead (path : Disk.Path) (cause : DiskFault)
  | notParsed (path : Disk.Path) (cause : ConfigTextFault)
  | noDirectory (path : Disk.Path) (cause : DiskFault)
  /-- A setting has a value that the file cannot hold. -/
  | notWritable
  | notWritten (path : Disk.Path) (cause : DiskFault)
  deriving DecidableEq, Repr

/-- The text shown for a fault and its cause. -/
def ConfigFileFault.report : ConfigFileFault → Report
  | .notRead path cause => ⟨"Failed to read config file: " ++ path.display, [cause.message]⟩
  | .notParsed path cause => ⟨"Failed to parse config file: " ++ path.display, [cause.message]⟩
  | .noDirectory path cause =>
    ⟨"Failed to create config directory: " ++ path.display, [cause.message]⟩
  | .notWritable => Config.notWritable
  | .notWritten path cause => ⟨"Failed to write config file: " ++ path.display, [cause.message]⟩

namespace Config

variable {m : Type → Type} [Monad m]

/-- The configuration in a file, or the standard one if there is no such file. -/
def load (disk : Disk m) (path : Disk.Path) : m (Except ConfigFileFault Config) := do
  if ← disk.isThere path then
    match ← disk.readText path with
    | .error fault => pure (.error (.notRead path fault))
    | .ok text =>
      match ofToml text with
      | .error fault => pure (.error (.notParsed path fault))
      | .ok c => pure (.ok c)
  else pure (.ok standard)

/-- Makes the directories that a path is in. -/
def makeParents (disk : Disk m) (path : Disk.Path) : m (Except ConfigFileFault Unit) :=
  match path.parent? with
  | none => pure (.ok ())
  | some parent => do
    match ← disk.makeDirectories parent with
    | .ok () => pure (.ok ())
    | .error fault => pure (.error (.noDirectory parent fault))

/-- Writes the configuration to a file. -/
def save (c : Config) (disk : Disk m) (path : Disk.Path) : m (Except ConfigFileFault Unit) := do
  match ← makeParents disk path with
  | .error fault => pure (.error fault)
  | .ok () =>
    match c.toToml? with
    | none => pure (.error .notWritable)
    | some text =>
      match ← disk.write path text.toUTF8 with
      | .ok () => pure (.ok ())
      | .error fault => pure (.error (.notWritten path fault))

/-- The directory for the configurations of all programs, from the environment alone: where that
names no home, it is the current directory. -/
def directory (env : Environment) : Disk.Path :=
  let inHome : Disk.Path :=
    match (env.bytes? "HOME").filter (!·.isEmpty) with
    | some home => (Disk.Path.ofBytes home).join (.ofString ".config")
    | none => .ofString "."
  match (env.bytes? "XDG_CONFIG_HOME").map Disk.Path.ofBytes with
  | some path => if path.isAbsolute then path else inHome
  | none => inHome

/-- Where the configuration is when no other file is named. -/
def standardPath (env : Environment) : Disk.Path :=
  ((directory env).join (.ofString "fileshell")).join (.ofString "config.toml")

end Config

end RemoteFiles
