import RemoteFiles.Text.Case
import RemoteFiles.Text.Hex
import RemoteFiles.Url.Basic

/-!
# HTTP messages

A request is written to bytes (`Request.toBytes`), and a response is read from the bytes that
came until the connection was closed (`Response.ofBytes?`).  A body ends where its announced
length does, after its last chunk, or with the connection; one that ends too early cannot be
read.
-/

namespace RemoteFiles.Http

/-- A header: its name in lower case and its value. -/
structure Header where
  name : String
  value : ByteArray
  deriving DecidableEq

/-- A text can be the value of a header: it has no control character other than tab. -/
def isHeaderValue (s : String) : Bool :=
  s.toList.all fun c => (0x20 ≤ c.toNat && c.toNat != 0x7f) || c == '\t'

/-- A header with a text as its value. -/
def Header.ofText (name value : String) : Header := ⟨name, value.toUTF8⟩

/-- A request. -/
structure Request where
  method : String
  url : Url
  headers : List Header
  body : Option ByteArray
  deriving DecidableEq

/-- A response.  Its body is missing when it could not be read to its end. -/
structure Response where
  status : Nat
  headers : List Header
  body : Option ByteArray
  deriving DecidableEq

/-! ### Header values -/

/-- Blanks around the value of a header. -/
def isHeaderBlank (b : UInt8) : Bool := b == 0x20 || b == 0x09

/-- The bytes without blanks at both ends. -/
def trimBlanks (bytes : List UInt8) : List UInt8 :=
  ((bytes.dropWhile isHeaderBlank).reverse.dropWhile isHeaderBlank).reverse

/-- The value of a header as text, if it only has visible ASCII characters and blanks. -/
def visibleText? (value : ByteArray) : Option String :=
  if value.toList.all fun b => (0x20 ≤ b && b < 0x7f) || b == 0x09 then
    some (String.ofList ((trimBlanks value.toList).map fun b => Char.ofNat b.toNat))
  else none

/-- The text of the first header of a name. -/
def Response.header? (r : Response) (name : String) : Option String :=
  (r.headers.find? (·.name == name)).bind (visibleText? ·.value)

/-! ### Writing requests -/

/-- The path and the query of a URL, as they are requested. -/
def requestTarget (u : Url) : String :=
  String.ofList u.path ++ (match u.query with | none => "" | some q => "?" ++ q)

/-- The host of a URL and its port, unless that is the usual one. -/
def hostText (u : Url) : String :=
  match u.authority with
  | none => ""
  | some a => a.host ++ (match a.port with | none => "" | some n => ":" ++ toString n)

/-- The end of a line. -/
def lineEnd : ByteArray := ⟨#[0x0d, 0x0a]⟩

/-- A header on its line. -/
def Header.toBytes (h : Header) : ByteArray :=
  (h.name ++ ": ").toUTF8 ++ h.value ++ lineEnd

/-- The bytes of a request; the connection is to be closed after the response. -/
def Request.toBytes (r : Request) : ByteArray :=
  let head := (r.method ++ " " ++ requestTarget r.url ++ " HTTP/1.1").toUTF8 ++ lineEnd
  let own := [.ofText "host" (hostText r.url), .ofText "accept" "*/*",
    .ofText "connection" "close"] ++ r.headers ++
    (match r.body with
      | none => []
      | some body => [.ofText "content-length" (toString body.size)])
  (own.map Header.toBytes).foldl (· ++ ·) head ++ lineEnd ++ r.body.getD .empty

/-! ### Reading responses -/

/-- The first line of some bytes without its end, and what follows it. -/
def takeLine (bytes : List UInt8) : Option (List UInt8 × List UInt8) :=
  match bytes.dropWhile (· != 0x0a) with
  | [] => none
  | _ :: rest =>
    let line := bytes.takeWhile (· != 0x0a)
    some (if line.getLast? = some 0x0d then line.dropLast else line, rest)

/-- What follows a line is shorter. -/
theorem length_takeLine_lt {bytes line rest : List UInt8}
    (h : takeLine bytes = some (line, rest)) : rest.length < bytes.length := by
  unfold takeLine at h
  split at h
  · simp at h
  · rename_i b tail heq
    simp only [Option.some.injEq, Prod.mk.injEq] at h
    have := congrArg List.length (List.takeWhile_append_dropWhile (l := bytes) (p := (· != 0x0a)))
    rw [heq, List.length_append, List.length_cons] at this
    rw [← h.2]
    omega

/-- The characters of a name: the visible ones that are no separators. -/
def isNameByte (b : UInt8) : Bool :=
  let c := Char.ofNat b.toNat
  c.isAlphanum || "!#$%&'*+-.^_\x60|~".toList.contains c

/-- A byte that may stand in the value of a header. -/
def isValueByte (b : UInt8) : Bool := (0x20 ≤ b && b != 0x7f) || b == 0x09

/-- A header from its line. -/
def readHeader (line : List UInt8) : Option Header :=
  let name := line.takeWhile isNameByte
  match line.dropWhile isNameByte with
  | 0x3a :: value =>
    if name ≠ [] ∧ value.all isValueByte then
      some ⟨Text.lower (String.ofList (name.map fun b => Char.ofNat b.toNat)),
        (trimBlanks value).toByteArray⟩
    else none
  | _ => none

/-- The headers up to the first empty line, and what follows it. -/
def readHeaders (bytes : List UInt8) : Option (List Header × List UInt8) :=
  match _ : takeLine bytes with
  | none => none
  | some ([], rest) => some ([], rest)
  | some (line, rest) => do
    let header ← readHeader line
    let (headers, rest) ← readHeaders rest
    some (header :: headers, rest)
termination_by bytes.length
decreasing_by exact length_takeLine_lt ‹_›

/-- The status in the first line of a response. -/
def readStatus (line : List UInt8) : Option Nat :=
  let text := line.map fun b => Char.ofNat b.toNat
  let version := text.take 9
  if version = "HTTP/1.1 ".toList ∨ version = "HTTP/1.0 ".toList then
    match text.drop 9 with
    | a :: b :: c :: rest =>
      if [a, b, c].all Char.isDigit ∧ (rest = [] ∨ rest.head? = some ' ') then
        (String.ofList [a, b, c]).toNat?
      else none
    | _ => none
  else none

/-- The value of hexadecimal digits. -/
def hexValue? (digits : List UInt8) : Option Nat :=
  if digits = [] then none
  else digits.foldlM (fun n b =>
    (Text.Hex.digitValue? (Char.ofNat b.toNat)).map fun d => 16 * n + d) 0

/-- The size of a chunk from its line; extensions after a semicolon are skipped. -/
def chunkSize? (line : List UInt8) : Option Nat :=
  hexValue? (trimBlanks (line.takeWhile (· != 0x3b)))

/-- A body in chunks; `budget` bounds their number. -/
def readChunks : Nat → List UInt8 → Option (List UInt8)
  | 0, _ => none
  | budget + 1, bytes => do
    let (line, rest) ← takeLine bytes
    let size ← chunkSize? line
    if size = 0 then (readHeaders rest).map fun _ => []
    else if rest.length < size then none
    else
      let (last, after) ← takeLine (rest.drop size)
      if last ≠ [] then none
      else (readChunks budget after).map (rest.take size ++ ·)

/-- The text of the first header of a name. -/
def headerText? (headers : List Header) (name : String) : Option String :=
  (headers.find? (·.name == name)).bind (visibleText? ·.value)

/-- The body that follows the headers, if it can be read to its end. -/
def readBody (status : Nat) (headers : List Header) (bytes : List UInt8) :
    Option (List UInt8) :=
  if status = 204 ∨ status = 304 then some []
  else if (headerText? headers "transfer-encoding").any
      fun t => "chunked".toList.isSuffixOf (Text.lower t).toList then
    readChunks (bytes.length + 1) bytes
  else match headerText? headers "content-length" with
    | some text =>
      match text.toNat? with
      | some size => if bytes.length < size then none else some (bytes.take size)
      | none => none
    | none => some bytes

/-- The response that some bytes are, provisional ones before it skipped; `budget` bounds their
number. -/
def readResponse : Nat → List UInt8 → Option Response
  | 0, _ => none
  | budget + 1, bytes => do
    let (line, rest) ← takeLine bytes
    let status ← readStatus line
    let (headers, rest) ← readHeaders rest
    if status < 200 then readResponse budget rest
    else some ⟨status, headers, (readBody status headers rest).map List.toByteArray⟩

/-- The response that some bytes are. -/
def Response.ofBytes? (bytes : ByteArray) : Option Response :=
  readResponse (bytes.size + 1) bytes.toList

end RemoteFiles.Http
