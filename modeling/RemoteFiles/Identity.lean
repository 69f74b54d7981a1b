import RemoteFiles.Json.Reader
import RemoteFiles.ProtocolError

/-!
# Identities

Who the service takes the sender of a request for.
-/

namespace RemoteFiles

open RemoteFiles.Text (Glyph)

/-- An identity: its name, and the group and home directory that belong to it. -/
structure Identity where
  principal : String
  group : Option String
  home : Option String
  deriving DecidableEq, Repr

namespace Identity

/-- An optional text as a JSON value. -/
def optionalText : Option String → Json.Value
  | none => .null
  | some s => .string s

/-- An identity as a JSON value. -/
def toJson (i : Identity) : Json.Value :=
  .object [("principal", .string i.principal), ("group", optionalText i.group),
    ("home", optionalText i.home)]

/-- How an identity is written in JSON. -/
def shape : Json.Shape Identity where
  title := "struct Session"
  fields := [
    ⟨"principal", fun i gs => do
      let (s, rest) ← Json.readString gs
      .ok ({ i with principal := s }, rest), true⟩,
    ⟨"group", fun i gs => do
      let (s, rest) ← Json.readOption Json.readString gs
      .ok ({ i with group := s }, rest), false⟩,
    ⟨"home", fun i gs => do
      let (s, rest) ← Json.readOption Json.readString gs
      .ok ({ i with home := s }, rest), false⟩]
  arrayNeeds := 3
  empty := ⟨"", none, none⟩

/-- The identity that a JSON text writes. -/
def ofJson (text : String) : Except ProtocolError Identity :=
  (shape.readAll (Glyph.ofString text)).mapError fun fault =>
    .malformedListing (fault.report text.toUTF8.toList)

end Identity

end RemoteFiles
