import RemoteFiles.Url.Percent

/-!
# Paths of URLs

A path is kept as its text.  A segment that is read is added to it (`addSegment`), except that a
dot segment leaves it as it is and a double-dot segment takes its last segment back.  The path
of a file URL may begin with a drive letter, which is not taken back.
-/

namespace RemoteFiles.Url

/-- The kinds of schemes that are parsed differently. -/
inductive SchemeKind
  | file
  /-- The schemes of the web, whose URLs always have a host and a path. -/
  | special
  | other
  deriving DecidableEq, Repr

namespace SchemeKind

/-- File URLs share with those of special schemes that a backslash is a slash. -/
def isSpecial : SchemeKind → Bool
  | other => false
  | _ => true

/-- The characters that end a segment. -/
def isSlash (kind : SchemeKind) (c : Char) : Bool :=
  c == '/' || (kind.isSpecial && c == '\\')

end SchemeKind

/-- A text ends with a slash. -/
def endsWithSlash (cs : List Char) : Bool := cs.getLast? == some '/'

/-- The segments that stand for nothing. -/
def isSingleDot (seg : List Char) : Bool :=
  seg == ['.'] || seg.map Char.toLower == "%2e".toList

/-- The segments that take back the one before them. -/
def isDoubleDot (seg : List Char) : Bool :=
  ["..", "%2e%2e", ".%2e", "%2e."].contains (String.ofList (seg.map Char.toLower))

/-- A letter and a colon. -/
def isNormalDrive (seg : List Char) : Bool :=
  match seg with
  | [c, ':'] => c.isAlpha
  | _ => false

/-- A letter and a colon or bar. -/
def isDrive (seg : List Char) : Bool :=
  match seg with
  | [c, d] => c.isAlpha && (d == ':' || d == '|')
  | _ => false

/-- A text begins with a drive letter as a whole segment. -/
def startsWithDrive : List Char → Bool
  | c :: d :: rest =>
    c.isAlpha && (d == ':' || d == '|') &&
      (match rest with
        | [] => true
        | e :: _ => e == '/' || e == '\\' || e == '?' || e == '#')
  | _ => false

/-- The text up to and with its last slash. -/
def uptoLastSlash (cs : List Char) : List Char :=
  (cs.reverse.dropWhile (· != '/')).reverse

/-- The text after its last slash. -/
def afterLastSlash (cs : List Char) : List Char :=
  (cs.reverse.takeWhile (· != '/')).reverse

/-- The slash at the end of a path may go when there is another one before it and no drive
letter stands between the two. -/
def canDropSlash (path : List Char) : Bool :=
  let before := path.dropLast
  before.contains '/' && !startsWithDrive (afterLastSlash before ++ ['/'])

/-- The path without what follows its last slash. -/
def shorten (kind : SchemeKind) (path : List Char) : List Char :=
  if kind = .file ∧ isNormalDrive (afterLastSlash path) then path
  else uptoLastSlash path

/-- The path with one more segment, and a slash behind it if there was one. -/
def addSegment (kind : SchemeKind) (path seg : List Char) (slash : Bool) : List Char :=
  let behind := if slash then ['/'] else []
  if isDoubleDot seg then
    let path := if endsWithSlash path && canDropSlash path then path.dropLast else path
    let path := shorten kind path
    if slash && !endsWithSlash path then path ++ ['/'] else path
  else if isSingleDot seg then
    if endsWithSlash path then path else path ++ ['/']
  else if kind = .file ∧ path.length = 1 ∧ isDrive seg then
    path ++ seg.take 1 ++ [':'] ++ behind
  else path ++ seg ++ behind

/-- The path with several segments, slashes between them. -/
def addSegments (kind : SchemeKind) (path : List Char) : List (List Char) → List Char
  | [] => path
  | [seg] => addSegment kind path seg false
  | seg :: segs => addSegments kind (addSegment kind path seg true) segs

/-- The path of a file URL begins with one slash. -/
def finishPath (kind : SchemeKind) (path : List Char) : List Char :=
  if kind = .file then '/' :: path.dropWhile (· == '/') else path

/-- The path that a text adds to another one, its segments encoded. -/
def extendPath (kind : SchemeKind) (path text : List Char) : List Char :=
  finishPath kind (addSegments kind path
    ((text.splitOnP kind.isSlash).map (encode pathSet)))

/-- The path of the text after the authority of a URL. -/
def startPath (kind : SchemeKind) (hasHost : Bool) (text : List Char) : List Char :=
  if kind.isSpecial then
    match text with
    | c :: rest =>
      if hasHost && kind.isSlash c then extendPath kind ['/'] rest
      else extendPath kind (if hasHost then ['/'] else []) (c :: rest)
    | [] => extendPath kind (if hasHost then ['/'] else []) []
  else match text with
    | [] => []
    | c :: rest =>
      if c = '/' then extendPath kind [] (c :: rest)
      else extendPath kind ['/'] (c :: rest)

/-- Line breaks and tabs are no part of any URL. -/
def isIgnored (c : Char) : Bool := c == '\t' || c == '\n' || c == '\r'

/-- The path with one more segment behind a slash.  Every character of the segment is encoded
that would end it; a name of one or two dots is left out. -/
def pushName (kind : SchemeKind) (path name : List Char) : List Char :=
  if name = ['.'] ∨ name = ['.', '.'] then path
  else
    let set := if kind.isSpecial then specialSegmentSet else segmentSet
    let base := if path.length = 1 then path else path ++ ['/']
    finishPath kind (addSegment kind base (encode set (name.filter (!isIgnored ·))) false)

/-- The path without an empty segment at its end. -/
def dropEmptyEnd (path : List Char) : List Char :=
  if endsWithSlash (path.drop 1) then path.dropLast else path

/-- The path with the segments of a target below it. -/
def descend (kind : SchemeKind) (path target : List Char) : List Char :=
  ((target.dropWhile (· == '/')).splitOn '/').foldl (pushName kind) (dropEmptyEnd path)

end RemoteFiles.Url
