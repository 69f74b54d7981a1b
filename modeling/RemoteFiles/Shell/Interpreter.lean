import RemoteFiles.Machine
import RemoteFiles.Shell.Command

/-!
# The shell

The shell carries out the command of each line and goes on after a command that failed.  It ends
with the command for it, with the last line, or at a line that is no text.
-/

namespace RemoteFiles.Shell

variable {m : Type → Type} [Monad m]

/-! ### What commands print -/

/-- A text with blanks before it up to a width. -/
def padLeft (width : Nat) (s : String) : String :=
  String.ofList (List.replicate (width - s.length) ' ') ++ s

/-- The line of an entry of a listing. -/
def entryLine (e : Entry) : String :=
  (if e.isDirectory then "d" else "-") ++ " " ++ padLeft 10 (e.size.getD "") ++ "  " ++ e.name

/-- The lines about an identity. -/
def identityLines : Option Identity → List String
  | none => ["anonymous"]
  | some i =>
    i.principal :: (i.group.map ("  group: " ++ ·)).toList ++
      (i.home.map ("  home:  " ++ ·)).toList

/-- What is complained about a probe. -/
def probeComplaint? : ProbeOutcome → Option String
  | .authorized _ => none
  | .challenged challenge => some ("Authentication required (" ++ challenge ++ ")")
  | .notFound url => some ("Service root not found: " ++ url)
  | .transportError status => some ("Service unreachable (status " ++ toString status ++ ")")

/-- Complains about a probe that was not accepted. -/
def reportProbe (w : Machine m) (outcome : ProbeOutcome) : StateT Client m Unit :=
  match probeComplaint? outcome with
  | none => pure ()
  | some complaint => w.terminal.complain complaint

/-- Writes some lines. -/
def sayAll (w : Machine m) : List String → StateT Client m Unit
  | [] => pure ()
  | line :: lines => do
    w.say line
    sayAll w lines

/-- How much waits on the clipboard. -/
def sayClipboard (w : Machine m) : StateT Client m Unit := do
  let c ← get
  w.say (toString c.clipboard.size ++ " entries on the clipboard")

/-! ### Commands -/

/-- Carries out an operation and does something with what it gives. -/
def attempt (h : Host m) (op : Operation)
    (use : op.Result → StateT Client m (Except Report Unit)) :
    StateT Client m (Except Report Unit) := do
  match ← Client.perform h op with
  | .ok a => use a
  | .error e => pure (.error e.report)

/-- Carries out an operation and writes lines about what it gives. -/
def attemptSaying (w : Machine m) (h : Host m) (op : Operation)
    (lines : op.Result → List String) : StateT Client m (Except Report Unit) :=
  attempt h op fun a => do
    sayAll w (lines a)
    pure (.ok ())

/-- Logs a user in with a password from the environment or the terminal. -/
def login (w : Machine m) (h : Host m) (user : String) :
    StateT Client m (Except Report Unit) := do
  match ← w.password user with
  | .error report => pure (.error report)
  | .ok password =>
    let outcome ← Client.login h ⟨user, password⟩
    reportProbe w outcome
    pure (.ok ())

/-- Writes downloaded content to a local file, or to the standard output. -/
def deliver (w : Machine m) (output : Option String) (data : ByteArray) :
    StateT Client m (Except Report Unit) := do
  match output with
  | none =>
    w.terminal.write data
    pure (.ok ())
  | some output =>
    match ← w.disk.write (.ofString output) data with
    | .ok () =>
      w.say ("saved " ++ toString data.size ++ " bytes to " ++ output)
      pure (.ok ())
    | .error fault => pure (.error ⟨"Failed to write " ++ output, [fault.message]⟩)

/-- Carries out a command; `user` logs in when no other user is named. -/
def execute (w : Machine m) (h : Host m) (user : Option String) :
    Command → StateT Client m (Except Report Unit)
  | .list path => attemptSaying w h (.list path) (·.map entryLine)
  | .changeDirectory path => do
    let c ← get
    let target := path.getD ((c.session.identity.bind (·.home)).getD "/")
    attemptSaying w h (.changeDirectory target) fun _ => []
  | .workingDirectory => do
    let c ← get
    w.say c.directory
    pure (.ok ())
  | .remove name => attemptSaying w h (.remove name) fun _ => []
  | .copy name newName =>
    attempt h (.copy name newName false) fun _ => do
      if newName.isNone then sayClipboard w
      pure (.ok ())
  | .cut name =>
    attempt h (.copy name none true) fun _ => do
      sayClipboard w
      pure (.ok ())
  | .paste =>
    attemptSaying w h .paste fun
      | some name => ["pasted " ++ name]
      | none => ["clipboard is empty"]
  | .clear => do
    let dropped ← Client.clearClipboard
    w.say ("dropped " ++ toString dropped ++ " clipboard entries")
    pure (.ok ())
  | .move oldName newName => attemptSaying w h (.move oldName newName) fun _ => []
  | .makeDirectory name => attemptSaying w h (.makeDirectory name) fun _ => []
  | .put file =>
    attemptSaying w h (.upload (.ofString file)) fun name => ["uploaded " ++ name]
  | .get name output => attempt h (.download name) fun data => deliver w output data
  | .login named =>
    match named.or user with
    | some user => login w h user
    | none => pure (.error (.plain "login: missing USER"))
  | .logout => do
    let outcome ← Client.logout h
    reportProbe w outcome
    pure (.ok ())
  | .whoami => do
    let c ← get
    sayAll w (identityLines c.session.identity)
    pure (.ok ())
  | .help => do
    w.say helpText
    pure (.ok ())
  | .exit => pure (.ok ())

/-! ### Lines -/

/-- What the shell writes before it reads a line. -/
def prompt (w : Machine m) : StateT Client m Unit := do
  let c ← get
  w.terminal.write ("fileshell:" ++ c.directory ++ "> ").toUTF8

/-- The text of a line without its end. -/
def lineText (line : ByteArray) : Except Text.Glyph.Fault String :=
  match Text.decodeUtf8? line with
  | some text =>
    let cs := text.toList
    if cs.getLast? = some '\n' then
      let cs := cs.dropLast
      .ok (String.ofList (if cs.getLast? = some '\r' then cs.dropLast else cs))
    else .ok text
  | none => .error (((Text.Glyph.ofBytes line |> Text.Glyph.fault? 0)).getD ⟨0, none⟩)

/-- Carries out a line, and tells whether the shell goes on. -/
def runLine (w : Machine m) (h : Host m) (user : Option String) (line : String) :
    StateT Client m Bool := do
  match Command.ofLine? line with
  | .error e =>
    w.terminal.complain e.message
    pure true
  | .ok none => pure true
  | .ok (some .exit) => pure false
  | .ok (some command) =>
    match ← execute w h user command with
    | .ok () => pure true
    | .error report =>
      w.terminal.complain ("error: " ++ report.oneLine)
      pure true

/-- Carries out what was read for a line, and tells whether the shell goes on; nothing is read
at the end of the input. -/
def runNext (w : Machine m) (h : Host m) (user : Option String) (line : ByteArray) :
    StateT Client m (Except Report Bool) := do
  if line.isEmpty then
    w.say ""
    pure (.ok false)
  else match lineText line with
    | .error fault => pure (.error (.plain fault.message))
    | .ok text => do
      let goesOn ← runLine w h user text
      pure (.ok goesOn)

/-- Carries out the lines of an input one after another. -/
def runLines (w : Machine m) (h : Host m) (user : Option String) :
    List ByteArray → StateT Client m (Except Report Unit)
  | [] => do
    prompt w
    let result ← runNext w h user .empty
    pure (result.map fun _ => ())
  | line :: lines => do
    prompt w
    match ← runNext w h user line with
    | .error report => pure (.error report)
    | .ok false => pure (.ok ())
    | .ok true => runLines w h user lines

/-- Cuts bytes into lines, each with its end. -/
def cutLines : List UInt8 → List (List UInt8)
  | [] => []
  | b :: bs =>
    if b = 0x0a then [b] :: cutLines bs
    else match cutLines bs with
      | [] => [[b]]
      | line :: lines => (b :: line) :: lines

/-- The lines of an input. -/
def linesOf (input : ByteArray) : List ByteArray :=
  (cutLines input.toList).map List.toByteArray

end RemoteFiles.Shell
