import RemoteFiles.Text.Composition
import RemoteFiles.Text.Joining
import RemoteFiles.Url.Domain.Mapping
import RemoteFiles.Url.Domain.Punycode

/-!
# Labels of domain names

A label with characters outside ASCII is in composed form, holds only characters that stand for
themselves, begins with no mark, and has invisible joiners only where they change how letters
are drawn.
-/

namespace RemoteFiles.Url

open Text (composed isMark orderClass joinsForward joinsBackward)

/-- A label as it is shown and as it is written in ASCII. -/
structure Label where
  shown : List Char
  ascii : List Char
  deriving DecidableEq, Repr

/-- The characters that part and join the letters beside them. -/
def nonJoiner : Char := '\u200C'
def joiner : Char := '\u200D'

/-- The order class of the marks that silence a vowel. -/
def viramaClass : Nat := 9

/-- A joiner has a meaning between two texts, the first one given from its end: after a mark
that silences a vowel, and one that parts letters also between letters that would join. -/
def joinerFits (c : Char) (before after : List Char) : Bool :=
  before.head?.any (orderClass · == viramaClass) ||
    (c == nonJoiner && joinsForward before && joinsBackward after)

/-- Each joiner of a text has a meaning where it stands. -/
def joinersFit (before : List Char) : List Char → Bool
  | [] => true
  | c :: cs =>
    ((c != nonJoiner && c != joiner) || joinerFits c before cs) && joinersFit (c :: before) cs

/-- The text may be the shown form of a label outside ASCII. -/
def isProper (cs : List Char) : Bool :=
  composed cs == cs && cs.all isOwnForm && !cs.head?.any isMark && joinersFit [] cs

/-- All characters are ASCII. -/
def isAscii (cs : List Char) : Bool := cs.all (·.toNat < 0x80)

/-- What an ASCII form of other scripts begins with. -/
def wideMark : List Char := ['x', 'n', '-', '-']

/-- How long an ASCII form of other scripts may be without its mark, and how long a label that
is turned into one. -/
def decodedLimit : Nat := 2000
def encodedLimit : Nat := 1000

/-- The label that an ASCII form without its mark writes; there is none in ASCII alone. -/
def decodeLabel? (cs : List Char) : Option (List Char) :=
  if decodedLimit < cs.length then none
  else match Punycode.decode? cs with
    | some shown =>
      if !isAscii shown && isProper shown && !wideMark.isPrefixOf shown then some shown else none
    | none => none

/-- The label of a mapped text. -/
def Label.ofMapped? (cs : List Char) : Option Label :=
  if wideMark.isPrefixOf cs then
    if isAscii cs then (decodeLabel? (cs.drop wideMark.length)).map (⟨·, cs⟩) else none
  else if isAscii cs then some ⟨cs, cs⟩
  else if isProper cs ∧ cs.length ≤ encodedLimit then
    some ⟨cs, wideMark ++ Punycode.encode cs⟩
  else none

end RemoteFiles.Url
