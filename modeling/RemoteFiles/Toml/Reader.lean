import RemoteFiles.Toml.Quoted
import RemoteFiles.Toml.Scalar

/-!
# Reading TOML documents

A document is a sequence of lines: blank ones, comments, headers, and keys with their values.
The reader takes it apart into the entries before the first header and the sections, from which
the tables are then built.  A text that is no document is refused as a whole.
-/

namespace RemoteFiles.Toml

/-- How many bytes a text has. -/
def byteCount (cs : List Char) : Nat := cs.foldl (· + ·.utf8Size) 0

/-- The place of a piece of text between two ends of the document. -/
def between (before after : List Char) : Span := ⟨byteCount before, byteCount after⟩

/-- The text after the blanks at its head. -/
def skipBlanks (cs : List Char) : List Char := cs.dropWhile isBlank

/-- The text after a comment at its head, if there is one. -/
def skipComment : List Char → List Char
  | '#' :: rest => rest.dropWhile isPlain
  | cs => cs

/-- The text after the end of a line: blanks, a comment, and a line break or the end of the
document. -/
def lineEnd? (cs : List Char) : Option (List Char) :=
  match skipComment (skipBlanks cs) with
  | [] => some []
  | rest => lineBreak? rest

/-- The text after blanks, comments and line breaks; `budget` bounds the lines. -/
def skipLines : Nat → List Char → List Char
  | 0, cs => cs
  | budget + 1, cs =>
    let rest := skipComment (skipBlanks cs)
    match lineBreak? rest with
    | some rest => skipLines budget rest
    | none => rest

/-! ### Keys -/

/-- The characters of a key without quotes. -/
def isKeyChar (c : Char) : Bool := c.isAlphanum || c == '_' || c == '-'

/-- One part of a key: bare, or a string on one line. -/
def keyPart (cs : List Char) : Option (Key × List Char) :=
  match cs with
  | '"' :: rest =>
    (basicBody cs.length rest).map fun (s, after) =>
      (⟨String.ofList s, between cs after⟩, after)
  | '\'' :: rest =>
    (literalBody rest).map fun (s, after) => (⟨String.ofList s, between cs after⟩, after)
  | _ =>
    let after := cs.dropWhile isKeyChar
    match cs.takeWhile isKeyChar with
    | [] => none
    | s => some (⟨String.ofList s, between cs after⟩, after)

/-- The parts of a key, parted by points, and what follows it with the blanks skipped. -/
def keyParts : Nat → List Char → Option (List Key × List Char)
  | 0, _ => none
  | budget + 1, cs => do
    let (k, rest) ← keyPart (skipBlanks cs)
    match skipBlanks rest with
    | '.' :: rest => do
      let (ks, rest) ← keyParts budget rest
      some (k :: ks, rest)
    | rest => some ([k], rest)

/-- Keys have fewer parts than this, and fewer arrays and tables stand in one another. -/
def nestingBound : Nat := 80

/-- A key as the path to a table and the name in it, and what follows it. -/
def readKey (cs : List Char) : Option ((List Key × Key) × List Char) := do
  let (ks, rest) ← keyParts cs.length cs
  if nestingBound ≤ ks.length then none
  else
    let last ← ks.getLast?
    some ((ks.dropLast, last), rest)

/-! ### Values -/

/-- The items of an array after its opening bracket, up to the closing one. -/
def arrayItems (read : List Char → Option (Node × List Char)) :
    Nat → List Char → Option (List Node × List Char)
  | 0, _ => none
  | budget + 1, cs =>
    match skipLines cs.length cs with
    | ']' :: rest => some ([], rest)
    | cs => do
      let (item, rest) ← read cs
      match skipLines rest.length rest with
      | ',' :: rest => do
        let (items, rest) ← arrayItems read budget rest
        some (item :: items, rest)
      | ']' :: rest => some ([item], rest)
      | _ => none

/-- A key, an equals sign and a value. -/
def keyValue (read : List Char → Option (Node × List Char)) (cs : List Char) :
    Option (((List Key × Key) × Node) × List Char) := do
  let (key, rest) ← readKey cs
  match rest with
  | '=' :: rest => do
    let (node, rest) ← read (skipBlanks rest)
    some ((key, node), rest)
  | _ => none

/-- The entries of a table between braces after the first brace; at least one is left. -/
def inlinePairs (read : List Char → Option (Node × List Char)) :
    Nat → List Char → Option (List ((List Key × Key) × Node) × List Char)
  | 0, _ => none
  | budget + 1, cs => do
    let (pair, rest) ← keyValue read cs
    match skipBlanks rest with
    | ',' :: rest => do
      let (pairs, rest) ← inlinePairs read budget rest
      some (pair :: pairs, rest)
    | '\x7d' :: rest => some ([pair], rest)
    | _ => none

/-- A table between braces, after the first brace. -/
def inlineEntries (read : List Char → Option (Node × List Char)) (cs : List Char) :
    Option (Entries × List Char) :=
  match skipBlanks cs with
  | '\x7d' :: rest => some ([], rest)
  | cs => do
    let (pairs, rest) ← inlinePairs read cs.length cs
    let entries ← Entries.insertAll [] pairs
    some (entries, rest)

/-- The text of a scalar and what follows it; a date may be followed by a blank and a time. -/
def scalarText (cs : List Char) : List Char × List Char :=
  let text := cs.takeWhile isScalarChar
  let rest := cs.dropWhile isScalarChar
  match rest with
  | ' ' :: rest' =>
    let time := rest'.takeWhile isScalarChar
    if isDate text && (twoDigits? (time.take 2)).isSome && (time.drop 2).head? == some ':' then
      (text ++ 'T' :: time, rest'.dropWhile isScalarChar)
    else (text, rest)
  | _ => (text, rest)

/-- A value and what follows it, with at most `depth` arrays and tables in one another. -/
def readValue (depth : Nat) (cs : List Char) : Option (Node × List Char) :=
  match cs with
  | [] => none
  | c :: rest =>
    if c = '"' ∨ c = '\'' then
      (readString cs).map fun (s, after) => (.string (between cs after) (String.ofList s), after)
    else if c = '[' then
      match depth with
      | 0 => none
      | depth + 1 =>
        (arrayItems (readValue depth) cs.length rest).map fun (items, after) =>
          (.array (between cs after) items, after)
    else if c = '\x7b' then
      match depth with
      | 0 => none
      | depth + 1 =>
        (inlineEntries (readValue depth) rest).map fun (entries, after) =>
          (.inline (between cs after) entries, after)
    else
      let (text, after) := scalarText cs
      (scalar (between cs after) text).map (·, after)

/-! ### Documents -/

/-- The header of a section and the text after its line. -/
def header (cs : List Char) : Option (Section × List Char) :=
  let finish (isArray : Bool) (key : List Key × Key) (after : List Char) :
      Option (Section × List Char) :=
    (lineEnd? after).map fun rest => (⟨key.1, key.2, isArray, between cs after, []⟩, rest)
  match cs with
  | '[' :: '[' :: rest =>
    match readKey rest with
    | some (key, ']' :: ']' :: after) => finish true key after
    | _ => none
  | '[' :: rest =>
    match readKey rest with
    | some (key, ']' :: after) => finish false key after
    | _ => none
  | _ => none

/-- The entries before the first header and the sections, from the rest of a document. -/
def lines : Nat → List Char → Option (List ((List Key × Key) × Node) × List Section)
  | 0, _ => none
  | budget + 1, cs =>
    match skipLines cs.length cs with
    | [] => some ([], [])
    | '[' :: rest => do
      let (sec, rest) ← header ('[' :: rest)
      let (pairs, sections) ← lines budget rest
      some ([], { sec with pairs := pairs } :: sections)
    | cs => do
      let (pair, rest) ← keyValue (readValue (nestingBound - 1)) cs
      let rest ← lineEnd? rest
      let (pairs, sections) ← lines budget rest
      some (pair :: pairs, sections)

/-- The entries of the document that a text is.  A byte order mark at its head is skipped. -/
def read (text : String) : Option Entries :=
  let cs := match text.toList with
    | '\uFEFF' :: rest => rest
    | cs => cs
  do
    let (top, sections) ← lines (cs.length + 1) cs
    document? top sections

end RemoteFiles.Toml
