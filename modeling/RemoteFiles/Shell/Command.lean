import RemoteFiles.Shell.Words

/-!
# Commands of the shell

A line names a command by its first word; the words after it are the arguments.  Each command
has a canonical name, some also an alias, and a fixed list of required and optional
arguments.  A blank line and a line whose first word begins with `#` hold no command.
-/

namespace RemoteFiles.Shell

/-- One command of the shell with its arguments. -/
inductive Command
  | list (path : Option String)
  | changeDirectory (path : Option String)
  | workingDirectory
  | remove (name : String)
  | copy (name : String) (newName : Option String)
  | cut (name : String)
  | paste
  | clear
  | move (oldName newName : String)
  | makeDirectory (name : Option String)
  | put (file : String)
  | get (name : String) (output : Option String)
  | login (user : Option String)
  | logout
  | whoami
  | help
  | exit
  deriving DecidableEq, Repr

/-- The canonical name of a command. -/
def Command.name : Command → String
  | list _ => "ls"
  | changeDirectory _ => "cd"
  | workingDirectory => "pwd"
  | remove _ => "rm"
  | copy _ _ => "cp"
  | cut _ => "cut"
  | paste => "paste"
  | clear => "clear"
  | move _ _ => "mv"
  | makeDirectory _ => "mkdir"
  | put _ => "put"
  | get _ _ => "get"
  | login _ => "login"
  | logout => "logout"
  | whoami => "whoami"
  | help => "help"
  | exit => "exit"

/-- Why a line holds no command that can be carried out. -/
inductive LineError
  | unterminatedQuote
  | unknownCommand (word : String)
  | missingArgument (command argument : String)
  | tooManyArguments (command : String)
  deriving DecidableEq, Repr

/-- The text shown for a line error. -/
def LineError.message : LineError → String
  | .unterminatedQuote => "unterminated quote"
  | .unknownCommand word => "unknown command: " ++ word ++ " (try `help`)"
  | .missingArgument command argument => command ++ ": missing " ++ argument
  | .tooManyArguments command => command ++ ": too many arguments"

/-- The form of a command: which arguments it takes and what they make of it. -/
inductive Form
  | plain (command : Command)
  | optional (make : Option String → Command)
  | required (argument : String) (make : String → Command)
  | requiredOptional (argument : String) (make : String → Option String → Command)
  | twoRequired (first second : String) (make : String → String → Command)

/-- The canonical name and the form of the command that a word names, by its name or alias. -/
def Form.ofWord? : String → Option (String × Form)
  | "ls" | "dir" => some ("ls", .optional .list)
  | "cd" => some ("cd", .optional .changeDirectory)
  | "pwd" => some ("pwd", .plain .workingDirectory)
  | "rm" | "del" => some ("rm", .required "NAME" .remove)
  | "cp" => some ("cp", .requiredOptional "NAME" .copy)
  | "cut" => some ("cut", .required "NAME" .cut)
  | "paste" => some ("paste", .plain .paste)
  | "clear" => some ("clear", .plain .clear)
  | "mv" => some ("mv", .twoRequired "OLD" "NEW" .move)
  | "mkdir" => some ("mkdir", .optional .makeDirectory)
  | "put" => some ("put", .required "FILE" .put)
  | "get" => some ("get", .requiredOptional "NAME" .get)
  | "login" => some ("login", .optional .login)
  | "logout" => some ("logout", .plain .logout)
  | "whoami" => some ("whoami", .plain .whoami)
  | "help" | "?" => some ("help", .plain .help)
  | "exit" | "quit" => some ("exit", .plain .exit)
  | _ => none

/-- The command that a form makes of the words at the front of its arguments, and the words that it
leaves; `name` is what the command is called where an argument is missing. -/
def Form.take (name : String) : Form → List String → Except LineError (Command × List String)
  | .plain command, words => .ok (command, words)
  | .optional make, words => .ok (make words.head?, words.tail)
  | .required argument _, [] => .error (.missingArgument name argument)
  | .required _ make, a :: words => .ok (make a, words)
  | .requiredOptional argument _, [] => .error (.missingArgument name argument)
  | .requiredOptional _ make, a :: words => .ok (make a words.head?, words.tail)
  | .twoRequired first _ _, [] => .error (.missingArgument name first)
  | .twoRequired _ second _, [_] => .error (.missingArgument name second)
  | .twoRequired _ _ make, a :: b :: words => .ok (make a b, words)

/-- The command of a list of words: `none` when there is no word or the first begins a
comment. -/
def Command.ofWords? : List String → Except LineError (Option Command)
  | [] => .ok none
  | word :: arguments =>
    if word.toList.head? = some '#' then .ok none
    else match Form.ofWord? word with
      | none => .error (.unknownCommand word)
      | some (name, form) =>
        match form.take name arguments with
        | .error e => .error e
        | .ok (command, []) => .ok (some command)
        | .ok (command, _ :: _) => .error (.tooManyArguments command.name)

/-- The command of a line: `none` when the line is blank or a comment. -/
def Command.ofLine? (line : String) : Except LineError (Option Command) :=
  match words line with
  | none => .error .unterminatedQuote
  | some ws => Command.ofWords? ws

/-- What the command `help` prints. -/
def helpText : String := "\n".intercalate [
  "Commands:",
  "  ls [PATH]            list the working directory or PATH",
  "  cd [PATH]            change directory (home or / without PATH)",
  "  pwd                  print the working directory",
  "  rm NAME              delete NAME",
  "  cp NAME [NEW]        copy NAME to NEW, or onto the clipboard",
  "  cut NAME             put NAME on the clipboard for moving",
  "  paste                write the oldest clipboard entry here",
  "  clear                empty the clipboard",
  "  mv OLD NEW           rename OLD to NEW",
  "  mkdir [NAME]         create directory NAME (or the working directory)",
  "  put FILE             upload a local FILE here",
  "  get NAME [FILE]      download NAME (to FILE, or stdout)",
  "  login [USER]         authenticate, prompting for the password",
  "  logout               forget credentials",
  "  whoami               show the authenticated identity",
  "  help                 show this text",
  "  exit                 leave the shell"]

end RemoteFiles.Shell
