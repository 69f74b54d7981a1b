/-!
# TOML values

A value keeps the place of its text, so that a fault in its type can be reported there.  Of
tables it matters how they came about: a table that was only named on the way to another one
may be given a header of its own later, one made by dotted keys may get more such keys, and one
that was written out is closed.
-/

namespace RemoteFiles.Toml

/-- The place of a piece of text, by how many bytes stand after its first byte's beginning and
after its end. -/
structure Span where
  first : Nat
  last : Nat
  deriving DecidableEq, Repr

/-- A key and the place of its text. -/
structure Key where
  name : String
  span : Span
  deriving DecidableEq, Repr

/-- How a table came about. -/
inductive TableKind
  /-- By a header of its own. -/
  | explicit
  /-- By the header of a table inside it. -/
  | implicit
  /-- By a dotted key. -/
  | dotted
  deriving DecidableEq, Repr

/-- A TOML value. -/
inductive Node
  | string (span : Span) (s : String)
  | integer (span : Span) (n : Int)
  | float (span : Span) (bits : UInt64)
  | boolean (span : Span) (b : Bool)
  /-- A date, a time, or both. -/
  | moment (span : Span)
  | array (span : Span) (items : List Node)
  /-- A table between braces. -/
  | inline (span : Span) (entries : List (Key × Node))
  | table (kind : TableKind) (span : Option Span) (entries : List (Key × Node))
  /-- The tables of the headers in double brackets. -/
  | tables (span : Span) (items : List Node)
  deriving Repr

/-- The entries of a table, in order. -/
abbrev Entries := List (Key × Node)

/-- The place of a value's text, if it has one of its own. -/
def Node.span? : Node → Option Span
  | .string span _ | .integer span _ | .float span _ | .boolean span _ | .moment span
  | .array span _ | .inline span _ | .tables span _ => some span
  | .table _ span _ => span

namespace Entries

/-- The value of a key. -/
def find? (es : Entries) (name : String) : Option Node :=
  (List.find? (fun e => e.1.name == name) es).map (·.2)

/-- The entries with another value for a key that they have. -/
def replace (es : Entries) (name : String) (node : Node) : Entries :=
  es.map fun (k, v) => if k.name == name then (k, node) else (k, v)

/-- The entries without a key. -/
def erase (es : Entries) (name : String) : Entries :=
  es.filter fun (k, _) => k.name != name

/-- Applies a change to the entries of the table that a path of keys leads to.  Tables on the
way are made if they are missing; dotted keys do not lead into tables that have a header.  The
change is told whether the table was made by dotted keys. -/
def update (dotted : Bool) (change : Bool → Entries → Option Entries) :
    List Key → Bool → Entries → Option Entries
  | [], isDotted, es => change isDotted es
  | k :: path, _, es =>
    match es.find? k.name with
    | none => do
      let inner ← update dotted change path dotted []
      some (es ++ [(k, .table (if dotted then .dotted else .implicit) none inner)])
    | some (.table kind span inner) =>
      if dotted && kind == .explicit then none
      else do
        let inner ← update dotted change path (kind == .dotted) inner
        some (es.replace k.name (.table kind span inner))
    | some (.tables span items) =>
      match items.reverse with
      | .table kind own inner :: before => do
        let inner ← update dotted change path false inner
        some (es.replace k.name (.tables span (before.reverse ++ [.table kind own inner])))
      | _ => none
    | some _ => none

/-- Adds the value of a possibly dotted key, whose last part is `key`; no key is given twice,
and a table made by dotted keys is not mixed with others. -/
def insert (es : Entries) (path : List Key) (key : Key) (node : Node) : Option Entries :=
  update true (fun isDotted inner =>
    if isDotted == path.isEmpty then none
    else match inner.find? key.name with
      | some _ => none
      | none => some (inner ++ [(key, node)])) path false es

/-- Adds the values of possibly dotted keys in order. -/
def insertAll (es : Entries) : List ((List Key × Key) × Node) → Option Entries
  | [] => some es
  | ((path, key), node) :: rest => do
    let es ← es.insert path key node
    insertAll es rest

end Entries

/-- A header and the entries below it.  The entries before the first header have none. -/
structure Section where
  path : List Key
  key : Key
  /-- The header is in double brackets: it adds one more table to those of its name. -/
  isArray : Bool
  span : Span
  pairs : List ((List Key × Key) × Node)

namespace Section

/-- The place of a section: from its header to its last value. -/
def fullSpan (sec : Section) : Span :=
  match sec.pairs.getLast? with
  | some (_, node) => ⟨sec.span.first, (node.span?.getD sec.span).last⟩
  | none => sec.span

/-- The document with one more section. -/
def addTo (sec : Section) (root : Entries) : Option Entries :=
  Entries.update false (fun _ es =>
    let closed (inner : Entries) : Node := .table .explicit (some sec.fullSpan) inner
    if sec.isArray then do
      let own ← Entries.insertAll [] sec.pairs
      match es.find? sec.key.name with
      | none => some (es ++ [(sec.key, .tables sec.fullSpan [closed own])])
      | some (.tables span items) =>
        some (es.replace sec.key.name
          (.tables ⟨span.first, sec.fullSpan.last⟩ (items ++ [closed own])))
      | some _ => none
    else match es.find? sec.key.name with
      | none => do
        let own ← Entries.insertAll [] sec.pairs
        some (es ++ [(sec.key, closed own)])
      | some (.table .implicit _ inner) => do
        let own ← Entries.insertAll inner sec.pairs
        some (es.erase sec.key.name ++ [(sec.key, closed own)])
      | some _ => none) sec.path false root

end Section

/-- The entries of a document: those before the first header, then its sections in order. -/
def document? (top : List ((List Key × Key) × Node)) (sections : List Section) :
    Option Entries := do
  let root ← Entries.insertAll [] top
  sections.foldlM (fun root sec => sec.addTo root) root

end RemoteFiles.Toml
