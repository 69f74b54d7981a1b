import RemoteFiles.Config.Basic
import RemoteFiles.Disk.Path
import RemoteFiles.Shell.Command

/-!
# The command line

Options may stand before or after the name of a task; one that is given in both places counts
as it is given last.  An option with a value takes it from the same argument or from the next
one, which must not look like an option.  After `--` every argument is an operand.
-/

namespace RemoteFiles.Program

/-- What the program is to do. -/
inductive Task
  /-- One command of the shell. -/
  | once (command : Shell.Command)
  | shell
  /-- Writes the configuration to its file; `force` replaces one that is there. -/
  | init (force : Bool)
  deriving DecidableEq, Repr

/-- What a command line asks for. -/
structure Arguments where
  config : Option Disk.Path
  verbose : Bool
  url : Option String
  user : Option String
  task : Task
  deriving DecidableEq, Repr

/-- Why a command line asks for no task. -/
inductive Stop
  | usage
  | help
  | version
  deriving DecidableEq, Repr

/-- The names of options. -/
inductive OptionName
  | config
  | url
  | user
  | output
  | verbose
  | force
  | help
  | version
  deriving DecidableEq, Repr

namespace OptionName

/-- The option has a value. -/
def hasValue : OptionName → Bool
  | config | url | user | output => true
  | _ => false

/-- The value of the option is the name of a local file, which is never empty. -/
def isPath : OptionName → Bool
  | config | output => true
  | _ => false

/-- The option after two hyphens. -/
def long : OptionName → String
  | config => "config"
  | url => "url"
  | user => "user"
  | output => "output"
  | verbose => "verbose"
  | force => "force"
  | help => "help"
  | version => "version"

/-- The option after one hyphen. -/
def short? : OptionName → Option Char
  | config => some 'c'
  | url => none
  | user => some 'u'
  | output => some 'o'
  | verbose => some 'v'
  | force => some 'f'
  | help => some 'h'
  | version => some 'V'

end OptionName

/-! ### Scanning -/

/-- What was found among the arguments of one task, or before the name of the task. -/
structure Scan where
  /-- An option that still needs its value. -/
  pending : Option OptionName
  values : List (OptionName × String)
  flags : List OptionName
  operands : List String
  deriving DecidableEq, Repr

namespace Scan

/-- Nothing was found. -/
def empty : Scan := ⟨none, [], [], []⟩

/-- No option needs a value any more. -/
def settled (s : Scan) : Except Stop Scan :=
  if s.pending.isSome then .error .usage else .ok s

/-- The value of an option; it is given once. -/
def give (s : Scan) (o : OptionName) (value : String) : Except Stop Scan :=
  if (s.values.lookup o).isSome ∨ (o.isPath ∧ value = "") then .error .usage
  else .ok { s with pending := none, values := (o, value) :: s.values }

/-- An option without a value; it is given once. -/
def mark (s : Scan) (o : OptionName) : Except Stop Scan :=
  match o with
  | .help => .error .help
  | .version => .error .version
  | o => if s.flags.contains o then .error .usage else .ok { s with flags := o :: s.flags }

/-- An operand, of which there are at most `places`. -/
def addOperand (places : Nat) (s : Scan) (word : String) : Except Stop Scan :=
  if s.operands.length < places then .ok { s with operands := s.operands ++ [word] }
  else .error .usage

/-- An argument after two hyphens. -/
def long (known : List OptionName) (s : Scan) (cs : List Char) : Except Stop Scan := do
  let s ← s.settled
  let name := String.ofList (cs.takeWhile (· != '='))
  match known.find? (·.long == name), cs.dropWhile (· != '=') with
  | none, _ => .error .usage
  | some o, [] => if o.hasValue then .ok { s with pending := some o } else s.mark o
  | some o, _ :: value =>
    if o.hasValue then s.give o (String.ofList value) else .error .usage

/-- The letters after one hyphen; the rest after an option with a value is that value. -/
def shorts (known : List OptionName) : Scan → List Char → Except Stop Scan
  | s, [] => .ok s
  | s, c :: cs =>
    match known.find? (·.short? == some c) with
    | none => .error .usage
    | some o =>
      if o.hasValue then
        match cs with
        | [] => .ok { s with pending := some o }
        | '=' :: value => s.give o (String.ofList value)
        | value => s.give o (String.ofList value)
      else do
        let s ← s.mark o
        shorts known s cs

/-- One argument that may be an option. -/
def argument (known : List OptionName) (places : Nat) (s : Scan) (word : String) :
    Except Stop Scan :=
  match word.toList with
  | '-' :: '-' :: cs => s.long known cs
  | '-' :: c :: cs => do
    let s ← s.settled
    s.shorts known (c :: cs)
  | _ =>
    match s.pending with
    | some o => s.give o word
    | none => s.addOperand places word

/-- All arguments of a task. -/
def arguments (known : List OptionName) (places : Nat) : Scan → List String → Except Stop Scan
  | s, [] => s.settled
  | s, word :: words =>
    if word = "--" then do
      let s ← s.settled
      words.foldlM (addOperand places) s
    else do
      let s ← s.argument known places word
      arguments known places s words

end Scan

/-! ### Tasks -/

/-- The options of every task. -/
def commonOptions : List OptionName := [.config, .url, .user, .verbose, .help]

/-- The form of a task: its own options, how many operands it takes, and what they and its
options make. -/
structure TaskForm where
  options : List OptionName
  places : Nat
  make : Scan → Option Task

/-- A command without options of its own. -/
def TaskForm.plain (places : Nat) (make : List String → Option Shell.Command) : TaskForm :=
  ⟨[], places, fun s => (make s.operands).map .once⟩

/-- The form of the task of a name. -/
def TaskForm.ofName? : String → Option TaskForm
  | "ls" => some (.plain 1 fun
    | [] => some (.list none)
    | path :: _ => some (.list (some path)))
  | "get" => some ⟨[.output], 1, fun s =>
    match s.operands with
    | [] => none
    | name :: _ => some (.once (.get name (s.values.lookup .output)))⟩
  | "put" => some (.plain 1 fun
    | [] => none
    | file :: _ => if file = "" then none else some (.put file))
  | "rm" => some (.plain 1 fun
    | [] => none
    | name :: _ => some (.remove name))
  | "cp" => some (.plain 2 fun
    | name :: newName :: _ => some (.copy name (some newName))
    | _ => none)
  | "mv" => some (.plain 2 fun
    | oldName :: newName :: _ => some (.move oldName newName)
    | _ => none)
  | "mkdir" => some (.plain 1 fun
    | [] => some (.makeDirectory none)
    | name :: _ => some (.makeDirectory (some name)))
  | "whoami" => some (.plain 0 fun _ => some .whoami)
  | "shell" => some ⟨[], 0, fun _ => some .shell⟩
  | "init" => some ⟨[.force], 0, fun s => some (.init (s.flags.contains .force))⟩
  | _ => none

/-- The command line of what was found before and after the name of a task. -/
def Arguments.ofScans (before after : Scan) (task : Task) : Arguments :=
  let value (o : OptionName) : Option String := (after.values.lookup o).or (before.values.lookup o)
  { config := (value .config).map .ofString
    verbose := before.flags.contains .verbose || after.flags.contains .verbose
    url := value .url
    user := value .user
    task := task }

/-- The arguments after the name of a task. -/
def Arguments.ofTask (before : Scan) (name : String) (words : List String) :
    Except Stop Arguments := do
  match TaskForm.ofName? name with
  | some form =>
    let after ← Scan.empty.arguments (form.options ++ commonOptions) form.places words
    match form.make after with
    | some task => .ok (.ofScans before after task)
    | none => .error .usage
  | none => .error (if words.length ≤ 1 ∧ words.all (fun w => w = "help" ∨
      (TaskForm.ofName? w).isSome) then .help else .usage)

/-- The arguments from before the name of a task on. -/
def Arguments.scan : Scan → List String → Except Stop Arguments
  | s, [] => do
    let s ← s.settled
    .ok (.ofScans s .empty .shell)
  | s, word :: words =>
    if s.pending.isNone ∧ ((TaskForm.ofName? word).isSome ∨ word = "help") then
      ofTask s word words
    else if word = "--" then
      if s.pending.isNone ∧ words = [] then .ok (.ofScans s .empty .shell) else .error .usage
    else do
      let s ← s.argument (.version :: commonOptions) 0 word
      scan s words

/-- What a command line asks for. -/
def Arguments.parse (words : List String) : Except Stop Arguments := Arguments.scan .empty words

/-! ### Texts -/

/-- The name and the version of the program. -/
def versionText : String := "fileshell " ++ programVersion

/-- How the program is used. -/
def usageText : String := "\n".intercalate [
  "File manager for remote HTTP file services",
  "",
  "Usage: fileshell [OPTIONS] [COMMAND]",
  "",
  "Commands:",
  "  ls      List a directory",
  "  get     Download a file",
  "  put     Upload a local file",
  "  rm      Delete a file or directory",
  "  cp      Copy a file",
  "  mv      Rename a file",
  "  mkdir   Create a directory",
  "  whoami  Show the authenticated identity",
  "  shell   Start the interactive shell",
  "  init    Write the effective configuration to the configuration file",
  "  help    Print this message",
  "",
  "Options:",
  "  -c, --config <FILE>  Path to configuration file",
  "  -v, --verbose        Enable verbose logging",
  "      --url <URL>      Service URL (overrides the configuration file)",
  "  -u, --user <USER>    User to log in as",
  "  -h, --help           Print help",
  "  -V, --version        Print version"]

end RemoteFiles.Program
