import RemoteFiles.Text.Utf8

/-!
# Names of local files

A local path is a sequence of pieces with slashes between them.  Its text need not be UTF-8, so
it is kept in glyphs.  Empty pieces and single dots mean nothing, except that an empty first
piece makes the path absolute and a single dot in front is a component of its own.
-/

namespace RemoteFiles.Disk

open RemoteFiles.Text (Glyph)

/-- One piece of a local path. -/
abbrev Piece := List Glyph

/-- The piece that stands for the directory it is in. -/
def hereDot : Piece := [.char '.']

/-- The piece that stands for the directory above. -/
def upDots : Piece := [.char '.', .char '.']

/-- The name of a local file or directory. -/
structure Path where
  glyphs : List Glyph
  deriving DecidableEq, Repr

namespace Path

/-- The path of a text. -/
def ofString (s : String) : Path := ⟨Glyph.ofString s⟩

/-- The path of a byte sequence. -/
def ofBytes (bytes : ByteArray) : Path := ⟨Glyph.ofBytes bytes⟩

/-- The text of a path, with replacements for what is not UTF-8. -/
def display (p : Path) : String := String.ofList (Glyph.lossy p.glyphs)

/-- A path that begins with a slash starts at the root. -/
def isAbsolute (p : Path) : Bool := p.glyphs.head? == some (.char '/')

/-- A path that ends with a slash names a directory. -/
def endsWithSlash (p : Path) : Bool := p.glyphs.getLast? == some (.char '/')

/-- The text between the slashes. -/
def pieces (p : Path) : List Piece := p.glyphs.splitOn (.char '/')

/-- The pieces after the first slash of an absolute path, or all of them. -/
def body (p : Path) : List Piece := if p.isAbsolute then p.pieces.drop 1 else p.pieces

/-- The path with the given pieces. -/
def ofBody (absolute : Bool) (pieces : List Piece) : Path :=
  let text := [Glyph.char '/'].intercalate pieces
  ⟨if absolute then .char '/' :: text else text⟩

/-- Pieces in reverse order without those that mean nothing at their head. -/
def trimmed (absolute : Bool) : List Piece → List Piece
  | [] => []
  | [] :: rest => trimmed absolute rest
  | piece :: rest =>
    if piece = hereDot ∧ (absolute ∨ rest ≠ []) then trimmed absolute rest else piece :: rest

theorem length_trimmed_le (absolute : Bool) (pieces : List Piece) :
    (trimmed absolute pieces).length ≤ pieces.length := by
  fun_induction trimmed absolute pieces with
  | case1 => exact Nat.le_refl _
  | case2 rest ih => exact Nat.le_succ_of_le ih
  | case3 piece rest _ _ ih => exact Nat.le_succ_of_le ih
  | case4 => exact Nat.le_refl _

/-- The pieces of a path from the last one that means something back to the first. -/
def backwards (p : Path) : List Piece := trimmed p.isAbsolute p.body.reverse

/-- The directory that a path is in, if it has a last component. -/
def parent? (p : Path) : Option Path :=
  match p.backwards with
  | [] => none
  | _ :: rest => some (ofBody p.isAbsolute (trimmed p.isAbsolute rest).reverse)

/-- The last component of a path, if it is a name. -/
def fileName? (p : Path) : Option Piece :=
  match p.backwards with
  | [] => none
  | piece :: _ => if piece = hereDot ∨ piece = upDots then none else some piece

/-- A component of a path. -/
inductive Component
  | root
  | here
  | up
  | name (piece : Piece)
  deriving DecidableEq, Repr

/-- The components of a path in order. -/
def components (p : Path) : List Component :=
  let ofPiece (piece : Piece) : Option Component :=
    if piece = [] ∨ piece = hereDot then none
    else if piece = upDots then some .up
    else some (.name piece)
  let first :=
    if p.isAbsolute then [.root]
    else if p.pieces.head? = some hereDot then [.here] else []
  first ++ p.pieces.filterMap ofPiece

/-- The last components of a path are those of another one. -/
def endsWith (p q : Path) : Bool := q.components.isSuffixOf p.components

/-- The path of something inside a directory. -/
def join (p q : Path) : Path :=
  if q.isAbsolute then q
  else if p.glyphs.isEmpty ∨ p.endsWithSlash then ⟨p.glyphs ++ q.glyphs⟩
  else ⟨p.glyphs ++ .char '/' :: q.glyphs⟩

end Path

end RemoteFiles.Disk
