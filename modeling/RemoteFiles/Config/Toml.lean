import RemoteFiles.Config.Basic
import RemoteFiles.Number.Shortest
import RemoteFiles.Report
import RemoteFiles.Text.Quoted
import RemoteFiles.Toml.Reader

/-!
# Configuration as TOML

A configuration is a document of four sections.  Every section and every setting may be left
out, and what is not known is skipped.  Settings of a section may also be given as an array, in
their order.
-/

namespace RemoteFiles

/-- Why a text is no configuration. -/
inductive ConfigTextFault
  /-- The text is no TOML document. -/
  | notToml
  /-- A value has another type than its setting: what was found, what was expected, and the
  place in bytes. -/
  | wrongType (found wanted : String) (first last : Nat)
  /-- A number outside the range of its setting. -/
  | wrongValue (found wanted : String) (first last : Nat)
  deriving DecidableEq, Repr

/-- The text shown for a fault. -/
def ConfigTextFault.message : ConfigTextFault → String
  | .notToml => "Invalid TOML configuration"
  | .wrongType found wanted first last =>
    "Invalid TOML configuration: invalid type: " ++ found ++ ", expected " ++ wanted ++
      " (at position " ++ toString first ++ ".." ++ toString last ++ ")"
  | .wrongValue found wanted first last =>
    "Invalid TOML configuration: invalid value: " ++ found ++ ", expected " ++ wanted ++
      " (at position " ++ toString first ++ ".." ++ toString last ++ ")"

namespace Config

open Toml (Node Span Key)

/-! ### Reading -/

/-- Floating point numbers are shown without an exponent. -/
def floatStyle : Number.DecimalStyle := ⟨-400, 400⟩

/-- A value as it is named in a fault. -/
def foundText : Node → String
  | .string _ s => "string " ++ Text.quoted s
  | .integer _ n => "integer `" ++ toString n ++ "`"
  | .float _ bits => "floating point `" ++ Number.renderBits floatStyle bits ++ "`"
  | .boolean _ b => "boolean `" ++ (if b then "true" else "false") ++ "`"
  | .moment _ | .inline _ _ | .table _ _ _ => "map"
  | .array _ _ | .tables _ _ => "sequence"

/-- Where a value stands in a text of `size` bytes: at its own text or at that of its key. -/
def place (size : Nat) (key : Option Key) (node : Node) : Nat × Nat :=
  match node.span?, key with
  | some s, _ => (size - s.first, size - s.last)
  | none, some k => (size - k.span.first, size - k.span.last)
  | none, none => (0, size)

/-- The fault of a value with the wrong type. -/
def mismatch (size : Nat) (key : Option Key) (node : Node) (wanted : String) :
    ConfigTextFault :=
  let (first, last) := place size key node
  .wrongType (foundText node) wanted first last

/-- How a setting is read from a value, in a text of a given size. -/
abbrev Setting := Nat → Option Key → Node → Config → Except ConfigTextFault Config

/-- A setting that is a text. -/
def textSetting (set : String → Config → Config) : Setting := fun size key node c =>
  match node with
  | .string _ s => .ok (set s c)
  | node => .error (mismatch size key node "a string")

/-- A setting that is a number without a sign. -/
def countSetting (set : UInt64 → Config → Config) : Setting := fun size key node c =>
  match node with
  | .integer _ n =>
    if 0 ≤ n then .ok (set (UInt64.ofNat n.toNat) c)
    else
      let (first, last) := place size key node
      .error (.wrongValue (foundText node) "u64" first last)
  | node => .error (mismatch size key node "u64")

/-- The parts of a configuration. -/
structure Part where
  name : String
  /-- What is expected where the part stands. -/
  title : String
  settings : List (String × Setting)

/-- The parts of a configuration with their settings in order. -/
def parts : List Part := [
  ⟨"server", "struct ServerConfig", [
    ("url", textSetting fun s c => { c with url := s }),
    ("root", textSetting fun s c => { c with root := s })]⟩,
  ⟨"http", "struct HttpConfig", [
    ("timeout_secs", countSetting fun n c => { c with timeout := n }),
    ("user_agent", textSetting fun s c => { c with userAgent := s })]⟩,
  ⟨"auth", "struct AuthConfig", [
    ("username", textSetting fun s c => { c with username := some s })]⟩,
  ⟨"log", "struct LogConfig", [
    ("level", textSetting fun s c => { c with level := s })]⟩]

/-- The settings with those of a table. -/
def readEntries (size : Nat) (settings : List (String × Setting)) (entries : Toml.Entries)
    (c : Config) : Except ConfigTextFault Config :=
  entries.foldlM (fun c (key, node) =>
    match settings.lookup key.name with
    | some read => read size (some key) node c
    | none => .ok c) c

/-- The settings with those of an array, in their order. -/
def readItems (size : Nat) (settings : List (String × Setting)) (items : List Node)
    (c : Config) : Except ConfigTextFault Config :=
  (settings.zip items).foldlM (fun c ((_, read), node) => read size none node c) c

/-- The settings with those of a part. -/
def Part.read (part : Part) (size : Nat) (key : Key) (node : Node) (c : Config) :
    Except ConfigTextFault Config :=
  match node with
  | .table _ _ entries | .inline _ entries => readEntries size part.settings entries c
  | .array _ items | .tables _ items => readItems size part.settings items c
  | .moment _ => .ok c
  | node => .error (mismatch size (some key) node part.title)

/-- The settings that a TOML text gives, and the standard ones for all others. -/
def ofToml (text : String) : Except ConfigTextFault Config :=
  match Toml.read text with
  | none => .error .notToml
  | some entries =>
    entries.foldlM (fun c (key, node) =>
      match parts.find? (·.name == key.name) with
      | some part => part.read text.utf8ByteSize key node c
      | none => .ok c) standard

/-! ### Writing -/

/-- A line with a setting. -/
def line (name : String) (value : List Char) : List Char :=
  name.toList ++ " = ".toList ++ value ++ ['\n']

/-- The first number that TOML has no place for. -/
def numberBound : Nat := 0x8000000000000000

/-- The characters of the configuration as a TOML document. -/
def tomlText (c : Config) : List Char :=
  "[server]\n".toList ++ line "url" (Toml.render c.url) ++ line "root" (Toml.render c.root) ++
  "\n[http]\n".toList ++ line "timeout_secs" (Nat.toDigits 10 c.timeout.toNat) ++
  line "user_agent" (Toml.render c.userAgent) ++
  "\n[auth]\n".toList ++ (match c.username with
    | none => []
    | some name => line "username" (Toml.render name)) ++
  "\n[log]\n".toList ++ line "level" (Toml.render c.level)

/-- The configuration as a TOML document; there is none if the timeout is too large. -/
def toToml? (c : Config) : Option String :=
  if c.timeout.toNat < numberBound then some (String.ofList c.tomlText) else none

/-- The text shown for a configuration that cannot be written. -/
def notWritable : Report :=
  ⟨"Failed to serialize configuration to TOML", ["out-of-range value for u64 type"]⟩

end Config

end RemoteFiles
