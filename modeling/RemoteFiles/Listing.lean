import RemoteFiles.Json.Reader
import RemoteFiles.ProtocolError

/-!
# Directory listings

A listing is a JSON object with the path of the directory under `name` and its entries under
`content`.  The service ends the entries by an empty object; reading drops every entry that has
no name, and so this one.
-/

namespace RemoteFiles

open RemoteFiles.Text (Glyph)

/-- The type code of a directory. -/
def directoryCode : UInt32 := 4

/-- The type code of a regular file. -/
def fileCode : UInt32 := 8

/-- One entry of a directory. -/
structure Entry where
  name : String
  /-- The size as the service words it. -/
  size : Option String
  /-- The type code. -/
  kind : Option UInt32
  mime : Option String
  deriving DecidableEq, Repr

namespace Entry

/-- An entry is a directory when it has the type code of one. -/
def isDirectory (e : Entry) : Bool := e.kind == some directoryCode

/-- A member of an object for a value that is there. -/
def member? {α : Type} (name : String) (write : α → Json.Value) :
    Option α → List (String × Json.Value)
  | none => []
  | some a => [(name, write a)]

/-- A type code as a JSON value. -/
def codeValue (code : UInt32) : Json.Value := .number (.natural code.toNat)

/-- An entry as a JSON value, its fields in the order of their declaration. -/
def toJson (e : Entry) : Json.Value :=
  .object (("name", .string e.name) ::
    (member? "size" .string e.size ++ member? "type" codeValue e.kind ++
      member? "mime" .string e.mime))

/-- An entry as a JSON value, its fields in the order of their names. -/
def toSortedJson (e : Entry) : Json.Value :=
  .object (member? "mime" .string e.mime ++ ("name", .string e.name) ::
    (member? "size" .string e.size ++ member? "type" codeValue e.kind))

/-- An entry that may still be without a name. -/
structure Draft where
  name : Option String
  size : Option String
  kind : Option UInt32
  mime : Option String
  deriving DecidableEq, Repr

/-- The entry of a draft with a name. -/
def Draft.entry? (d : Draft) : Option Entry :=
  d.name.map fun name => ⟨name, d.size, d.kind, d.mime⟩

/-- The fields of an entry after its name. -/
def Draft.detailFields : List (Json.Field Draft) := [
  ⟨"size", fun d gs => do
    let (s, rest) ← Json.readOption Json.readString gs
    .ok ({ d with size := s }, rest), false⟩,
  ⟨"type", fun d gs => do
    let (n, rest) ← Json.readOption Json.readUInt32 gs
    .ok ({ d with kind := n }, rest), false⟩,
  ⟨"mime", fun d gs => do
    let (s, rest) ← Json.readOption Json.readString gs
    .ok ({ d with mime := s }, rest), false⟩]

/-- How an entry of a listing is written in JSON: everything may be missing. -/
def Draft.looseShape : Json.Shape Draft where
  title := "struct RawEntry"
  fields := ⟨"name", fun d gs => do
      let (s, rest) ← Json.readOption Json.readString gs
      .ok ({ d with name := s }, rest), false⟩ :: detailFields
  arrayNeeds := 0
  empty := ⟨none, none, none, none⟩

/-- How an entry is written in JSON on its own: it must have a name. -/
def Draft.strictShape : Json.Shape Draft where
  title := "struct DirEntry"
  fields := ⟨"name", fun d gs => do
      let (s, rest) ← Json.readString gs
      .ok ({ d with name := some s }, rest), true⟩ :: detailFields
  arrayNeeds := 1
  empty := ⟨none, none, none, none⟩

/-- The entry that a JSON text writes. -/
def ofJson (text : String) : Except ProtocolError Entry :=
  match Draft.strictShape.readAll (Glyph.ofString text) with
  | .ok d => .ok ⟨d.name.getD "", d.size, d.kind, d.mime⟩
  | .error fault => .error (.malformedListing (fault.report text.toUTF8.toList))

end Entry

/-- A directory listing: the path of the directory, if it is given, and the entries. -/
structure Listing where
  directory : Option String
  entries : List Entry
  deriving DecidableEq, Repr

namespace Listing

/-- A listing with the entries as they are written. -/
structure Draft where
  directory : Option String
  entries : List Entry.Draft
  deriving DecidableEq, Repr

/-- How a listing is written in JSON. -/
def shape : Json.Shape Draft where
  title := "struct RawListing"
  fields := [
    ⟨"name", fun d gs => do
      let (s, rest) ← Json.readOption Json.readString gs
      .ok ({ d with directory := s }, rest), false⟩,
    ⟨"content", fun d gs => do
      let (es, rest) ← Json.readArray Entry.Draft.looseShape.read gs
      .ok ({ d with entries := es }, rest), false⟩]
  arrayNeeds := 0
  empty := ⟨none, []⟩

/-- The listing that a body writes. -/
def ofJson (body : ByteArray) : Except ProtocolError Listing :=
  match shape.readAll (Glyph.ofBytes body) with
  | .ok d => .ok ⟨d.directory, d.entries.filterMap Entry.Draft.entry?⟩
  | .error fault => .error (.malformedListing (fault.report body.toList))

/-- A listing as a JSON value, as the service sends it: with an empty object as the last entry
and its fields in the order of their names. -/
def toJsonValue (l : Listing) : Json.Value :=
  .object [
    ("content", .array (l.entries.map Entry.toSortedJson ++ [.object []])),
    ("method", .string "GET"),
    ("name", .string (l.directory.getD "")),
    ("result", .string "OK")]

/-- The body of a listing as the service sends it. -/
def toJson (l : Listing) : ByteArray := l.toJsonValue.toText.toUTF8

/-- A listing has an entry of this name. -/
def contains (l : Listing) (name : String) : Bool :=
  l.entries.any (·.name == name)

end Listing

end RemoteFiles
