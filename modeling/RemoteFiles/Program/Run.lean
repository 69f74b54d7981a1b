import RemoteFiles.Program.Arguments
import RemoteFiles.Shell.Interpreter

/-!
# Running the program

The program works out its configuration, asks the service who it is taken for, logs in if a user
is named, and carries out its task.  An error before that ends it.
-/

namespace RemoteFiles.Program

variable {m : Type → Type} [Monad m]

/-- The configuration with what the command line gives in its place. -/
def Arguments.override (a : Arguments) (c : Config) : Config :=
  { c with url := a.url.getD c.url, username := a.user.or c.username }

/-- The file of the configuration. -/
def Arguments.configPath (a : Arguments) (env : Environment) : Disk.Path :=
  a.config.getD (Config.standardPath env)

/-- The configuration that the program works with: of the file, the environment and the command
line the last one that gives a setting counts. -/
def effectiveConfig (w : Machine m) (a : Arguments) : m (Except ConfigFileFault Config) := do
  match ← Config.load w.disk (a.configPath w.environment) with
  | .error fault => pure (.error fault)
  | .ok c => pure (.ok (a.override (c.override w.environment)))

/-- The error for a configuration file that is there already. -/
def alreadyConfigured (path : Disk.Path) : Report :=
  .plain ("Configuration file already exists: " ++ path.display ++
    " (use --force to overwrite)")

/-- Writes a configuration to a file that is not there, or with `force` to any file. -/
def writeConfig (w : Machine m) (c : Config) (path : Disk.Path) (force : Bool) :
    m (Except Report Unit) := do
  if (← w.disk.isThere path) && !force then pure (.error (alreadyConfigured path))
  else match ← c.save w.disk path with
    | .error fault => pure (.error fault.report)
    | .ok () =>
      w.say ("wrote " ++ path.display)
      pure (.ok ())

/-- Asks the service who the program is taken for, and logs in the user of the configuration. -/
def introduce (w : Machine m) (h : Host m) (c : Config) :
    StateT Client m (Except Report Unit) := do
  let outcome ← Client.probe h
  Shell.reportProbe w outcome
  match c.username with
  | none => pure (.ok ())
  | some user => Shell.login w h user

/-- What is left to do after the program was started. -/
inductive Launch (m : Type → Type)
  /-- Nothing. -/
  | finished
  /-- The shell has to be run for a client; a user may be named for logging in. -/
  | shell (host : Host m) (client : Client) (user : Option String)

/-- Carries out a task with a configuration that can be used, up to the shell. -/
def startTask (w : Machine m) (c : Config) : Task → m (Except Report (Launch m))
  | .init _ => pure (.ok .finished)
  | task =>
    match Http.Endpoint.ofConfig c with
    | .error e => pure (.error e.report)
    | .ok endpoint => do
      let h := w.host endpoint
      match ← (introduce w h c).run (Client.startingIn c.root) with
      | (.error report, _) => pure (.error report)
      | (.ok (), client) =>
        match task with
        | .once command =>
          let (result, _) ← (Shell.execute w h c.username command).run client
          pure (result.map fun _ => .finished)
        | _ => pure (.ok (.shell h client c.username))

/-- Does what the command line asks for, up to the shell. -/
def start (w : Machine m) (a : Arguments) : m (Except Report (Launch m)) := do
  match ← effectiveConfig w a with
  | .error fault => pure (.error fault.report)
  | .ok c =>
    match c.validate with
    | .error e => pure (.error (.plain e.message))
    | .ok () =>
      match a.task with
      | .init force =>
        let result ← writeConfig w c (a.configPath w.environment) force
        pure (result.map fun _ => .finished)
      | task => startTask w c task

/-- Does what the command line asks for; the shell reads the given lines. -/
def perform (w : Machine m) (a : Arguments) (lines : List ByteArray) :
    m (Except Report Unit) := do
  match ← start w a with
  | .error report => pure (.error report)
  | .ok .finished => pure (.ok ())
  | .ok (.shell h client user) =>
    let (result, _) ← (Shell.runLines w h user lines).run client
    pure result

/-- Shows how the program ended, and gives its exit code. -/
def conclude (w : Machine m) : Except Report Unit → m Nat
  | .ok () => pure 0
  | .error report => do
    w.terminal.complain ("Error: " ++ report.paragraphs)
    pure 1

/-- Answers a command line that asks for no task, and gives the exit code. -/
def stop (w : Machine m) : Stop → m Nat
  | .usage => do
    w.terminal.complain ("error: unexpected arguments\n\n" ++ usageText)
    pure 2
  | .help => do
    w.say usageText
    pure 0
  | .version => do
    w.say versionText
    pure 0

/-- Runs the program on a command line and an input, and gives its exit code. -/
def run (w : Machine m) (words : List String) (input : ByteArray) : m Nat := do
  match Arguments.parse words with
  | .error reason => stop w reason
  | .ok a => conclude w (← perform w a (Shell.linesOf input))

end RemoteFiles.Program
