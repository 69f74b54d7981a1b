import RemoteFiles.Json.Value
import RemoteFiles.Text.Utf8

/-!
# Payloads

The body of a request or of an answer, with the type of content that was declared for it.
-/

namespace RemoteFiles

/-- The content type of a JSON body. -/
def jsonContentType : String := "text/json"

/-- Some bytes and their declared content type. -/
structure Payload where
  data : ByteArray
  contentType : Option String
  deriving DecidableEq

namespace Payload

/-- A body without any byte and without a declared type. -/
def empty : Payload := ⟨.empty, none⟩

/-- A body without a declared type. -/
def ofBytes (data : ByteArray) : Payload := ⟨data, none⟩

/-- The JSON text of a value. -/
def ofJson (v : Json.Value) : Payload := ⟨v.toText.toUTF8, some jsonContentType⟩

/-- The letters of a word stand one after another somewhere in a text. -/
def holdsWord (w : List Char) : List Char → Bool
  | [] => w.isEmpty
  | c :: cs => w.isPrefixOf (c :: cs) || holdsWord w cs

/-- A body is JSON when its declared type holds the letters `json` anywhere. -/
def isJson (p : Payload) : Bool :=
  match p.contentType with
  | none => false
  | some t => holdsWord "json".toList t.toList

/-- How many bytes the body has. -/
def size (p : Payload) : Nat := p.data.size

end Payload

end RemoteFiles
