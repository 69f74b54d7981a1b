import RemoteFiles.Json.Fault
import RemoteFiles.Json.Value
import RemoteFiles.Text.Quoted

/-!
# Reading JSON text

A reader takes a value of a certain type from the head of a text.  Text and type are checked
together from left to right: the first fault counts, whether the text is no JSON or its value
is not of the type.  A value that nobody wants is only passed over (`skipValue`): its strings
and numbers are not turned into anything.
-/

namespace RemoteFiles.Json

open RemoteFiles.Text (Glyph)

/-- A result and the text after what it was read from. -/
abbrev Parsed (α : Type) := α × List Glyph

/-- The four blanks of JSON. -/
def isSpace (g : Glyph) : Bool :=
  g.is ' ' || g.is '\n' || g.is '\t' || g.is '\r'

/-- The text after the blanks at its head. -/
def skipSpace (gs : List Glyph) : List Glyph := gs.dropWhile isSpace

/-- The value of a decimal digit. -/
def digit? : Glyph → Option Nat
  | .char c => if c.isDigit then some (c.toNat - '0'.toNat) else none
  | .stray _ => none

/-- The digits at the head of a text, and what follows them. -/
def digits : List Glyph → List Nat × List Glyph
  | [] => ([], [])
  | g :: gs =>
    match digit? g with
    | some d => let (ds, rest) := digits gs; (d :: ds, rest)
    | none => ([], g :: gs)

/-- The rest of a word whose first letter has been read. -/
def word : List Char → List Glyph → Except Fault (List Glyph)
  | [], rest => .ok rest
  | _ :: _, [] => .error (.before .endInValue [])
  | c :: cs, g :: rest =>
    if g.is c then word cs rest else .error (.atNext .expectedWord (g :: rest))

/-! ### Strings -/

/-- The number of four hexadecimal digits, and what follows them. -/
def hexEscape (gs : List Glyph) : Except Fault (Parsed Nat) :=
  let value? (g : Glyph) : Option Nat :=
    match g with
    | .char c => Text.Hex.digitValue? c
    | .stray _ => none
  match gs with
  | a :: b :: c :: d :: rest =>
    match value? a, value? b, value? c, value? d with
    | some a, some b, some c, some d => .ok (a * 4096 + b * 256 + c * 16 + d, rest)
    | _, _, _, _ => .error ⟨.invalidEscape, Glyph.totalSize gs - 4⟩
  | _ =>
    if Glyph.totalSize gs < 4 then .error (.before .endInString [])
    else .error ⟨.invalidEscape, Glyph.totalSize gs - 4⟩

/-- The character of a hexadecimal escape after its `\u`; two escapes of surrogates make one
character. -/
def unicodeEscape (gs : List Glyph) : Except Fault (Parsed Char) := do
  let (n, rest) ← hexEscape gs
  if 0xDC00 ≤ n ∧ n ≤ 0xDFFF then .error (.before .loneSurrogate rest)
  else if n < 0xD800 ∨ 0xDBFF < n then .ok (Char.ofNat n, rest)
  else match rest with
    | [] => .error (.before .endInString [])
    | g :: rest =>
      if g.is '\\' then
        match rest with
        | [] => .error (.before .endInString [])
        | u :: rest =>
          if u.is 'u' then do
            let (m, rest) ← hexEscape rest
            if 0xDC00 ≤ m ∧ m ≤ 0xDFFF then
              .ok (Char.ofNat ((n - 0xD800) * 1024 + (m - 0xDC00) + 0x10000), rest)
            else .error (.before .loneSurrogate rest)
          else .error (.atNext .endOfSurrogates (u :: rest))
      else .error (.atNext .endOfSurrogates (g :: rest))

/-- The character of an escape of one letter. -/
def shortEscape? : Glyph → Option Char
  | .char '"' => some '"'
  | .char '\\' => some '\\'
  | .char '/' => some '/'
  | .char 'b' => some '\x08'
  | .char 'f' => some '\x0c'
  | .char 'n' => some '\n'
  | .char 'r' => some '\r'
  | .char 't' => some '\t'
  | _ => none

/-- A control character may stand in no string. -/
def isControl : Glyph → Bool
  | .char c => c.toNat < 0x20
  | .stray _ => false

/-- The rest of a string after its opening quote, with its characters so far, last first, and
the place of the first byte that belongs to no character; `budget` is a bound on the glyphs. -/
def stringRest : Nat → List Char → Option Fault → List Glyph → Except Fault (Parsed String)
  | 0, _, _, rest => .error (.before .endInString rest)
  | _ + 1, _, _, [] => .error (.before .endInString [])
  | budget + 1, cs, bad, g :: rest =>
    if g.is '"' then
      match bad with
      | some fault => .error fault
      | none => .ok (String.ofList cs.reverse, rest)
    else if g.is '\\' then
      match rest with
      | [] => .error (.before .endInString [])
      | e :: rest' =>
        match shortEscape? e with
        | some c => stringRest budget (c :: cs) bad rest'
        | none =>
          if e.is 'u' then do
            let (c, rest'') ← unicodeEscape rest'
            stringRest budget (c :: cs) bad rest''
          else .error (.atNext .invalidEscape (e :: rest'))
    else if isControl g then .error (.atNext .controlCharacter (g :: rest))
    else match g with
      | .char c => stringRest budget (c :: cs) bad rest
      | .stray _ =>
        stringRest budget cs (some (bad.getD (.atNext .notUtf8 (g :: rest)))) rest

/-- The rest of a string after its opening quote. -/
def readStringRest (gs : List Glyph) : Except Fault (Parsed String) :=
  stringRest (gs.length + 1) [] none gs

/-- Passes over the rest of a string after its opening quote. -/
def skipString : Nat → List Glyph → Except Fault (List Glyph)
  | 0, rest => .error (.before .endInString rest)
  | _ + 1, [] => .error (.before .endInString [])
  | budget + 1, g :: rest =>
    if g.is '"' then .ok rest
    else if g.is '\\' then
      match rest with
      | [] => .error (.before .endInString [])
      | e :: rest' =>
        if (shortEscape? e).isSome then skipString budget rest'
        else if e.is 'u' then do
          let (_, rest'') ← hexEscape rest'
          skipString budget rest''
        else .error (.atNext .invalidEscape (e :: rest'))
    else if isControl g then .error (.before .controlCharacter (g :: rest))
    else skipString budget rest

/-! ### Numbers -/

/-- The bits of `significand * 10 ^ exponent`, computed by one rounding of the significand and
one of each product or quotient with a power of ten; `none` when it is too large. -/
def floatBits.go (f : Float) (exponent : Int) : Nat → Option Float
  | 0 => some f
  | budget + 1 =>
    if exponent.natAbs ≤ 308 then
      let power := Float.ofScientific 1 false exponent.natAbs
      if 0 ≤ exponent then
        let product := f * power
        if product.isInf then none else some product
      else some (f / power)
    else if f == 0.0 then some f
    else if 0 ≤ exponent then none
    else floatBits.go (f / Float.ofScientific 1 false 308) (exponent + 308) budget

/-- The bits of a decimal number, or `none` when it is too large. -/
def floatBits (negative : Bool) (significand : Nat) (exponent : Int) : Option UInt64 :=
  (floatBits.go (UInt64.ofNat significand).toFloat exponent 8).map fun f =>
    (if negative then -f else f).toBits

/-- A significand has to stay below this bound. -/
def significandBound : Nat := 0x10000000000000000

/-- The digits of a whole part taken into a significand, and how many had no room any more. -/
def wholePart : Nat → List Nat → Nat × Nat
  | n, [] => (n, 0)
  | n, d :: ds =>
    if n * 10 + d < significandBound then wholePart (n * 10 + d) ds else (n, ds.length + 1)

/-- The digits after the point taken into a significand while there is room, and how many were
taken. -/
def fractionPart : Nat → List Nat → Nat × Nat
  | n, [] => (n, 0)
  | n, d :: ds =>
    if n * 10 + d < significandBound then
      let (m, taken) := fractionPart (n * 10 + d) ds
      (m, taken + 1)
    else (n, 0)

/-- The exponent of some digits; beyond 2 ^ 31 it is given up, together with how many digits
were left. -/
def exponentPart : Nat → List Nat → Nat ⊕ Nat
  | n, [] => .inl n
  | n, d :: ds =>
    if n * 10 + d < 0x80000000 then exponentPart (n * 10 + d) ds else .inr ds.length

/-- A number of the parts that were read, with the text after it. -/
def floatNumber (negative : Bool) (significand : Nat) (exponent : Int) (rest : List Glyph) :
    Except Fault (Parsed Number) :=
  match floatBits negative significand exponent with
  | some bits => .ok (.float bits, rest)
  | none => .error (.before .numberOutOfRange rest)

/-- The exponent of a number after its `e`, and the number. -/
def readExponent (negative : Bool) (significand : Nat) (exponent : Int) (gs : List Glyph) :
    Except Fault (Parsed Number) :=
  let (down, gs) := match gs with
    | g :: rest => if g.is '-' then (true, rest) else if g.is '+' then (false, rest)
      else (false, g :: rest)
    | [] => (false, [])
  match digits gs with
  | ([], []) => .error (.before .endInValue [])
  | ([], rest) => .error (.atNext .invalidNumber rest)
  | (ds, rest) =>
    match exponentPart 0 ds with
    | .inl e => floatNumber negative significand
        (if down then exponent - Int.ofNat e else exponent + Int.ofNat e) rest
    | .inr left =>
      if significand ≠ 0 ∧ !down then
        .error ⟨.numberOutOfRange, Glyph.totalSize rest + left⟩
      else .ok (.float (if negative then -0.0 else 0.0 : Float).toBits, rest)

/-- A number after its minus sign, if it has one. -/
def readNumberRest (negative : Bool) (gs : List Glyph) : Except Fault (Parsed Number) :=
  match digits gs with
  | ([], []) => .error (.before .endInValue [])
  | ([], rest) => .error (.atNext .invalidNumber rest)
  | (0 :: _ :: ds, rest) => .error ⟨.invalidNumber, Glyph.totalSize rest + ds.length⟩
  | (ds, rest) =>
    let (n, dropped) := wholePart 0 ds
    match rest with
    | .char '.' :: rest =>
      match digits rest with
      | ([], []) => .error (.before .endInValue [])
      | ([], rest) => .error (.atNext .invalidNumber rest)
      | (fs, rest) =>
        let (m, taken) := fractionPart n fs
        let exponent := Int.ofNat dropped - Int.ofNat taken
        match rest with
        | .char 'e' :: rest => readExponent negative m exponent rest
        | .char 'E' :: rest => readExponent negative m exponent rest
        | rest => floatNumber negative m exponent rest
    | .char 'e' :: rest => readExponent negative n (Int.ofNat dropped) rest
    | .char 'E' :: rest => readExponent negative n (Int.ofNat dropped) rest
    | rest =>
      if dropped ≠ 0 then floatNumber negative n (Int.ofNat dropped) rest
      else if !negative then .ok (.natural n, rest)
      else if 1 ≤ n ∧ n ≤ 0x8000000000000000 then .ok (.negative n, rest)
      else floatNumber true n 0 rest

/-- Passes over a number after its minus sign, if it has one. -/
def skipNumber (gs : List Glyph) : Except Fault (List Glyph) :=
  let exponent (gs : List Glyph) : Except Fault (List Glyph) :=
    let gs := match gs with
      | g :: rest => if g.is '-' || g.is '+' then rest else g :: rest
      | [] => []
    match digits gs with
    | ([], rest) => .error (.atNext .invalidNumber rest)
    | (_, rest) => .ok rest
  match digits gs with
  | ([], rest) => .error (.atNext .invalidNumber rest)
  | (0 :: _ :: ds, rest) => .error ⟨.invalidNumber, Glyph.totalSize rest + ds.length⟩
  | (_, .char '.' :: rest) =>
    match digits rest with
    | ([], rest) => .error (.atNext .invalidNumber rest)
    | (_, .char 'e' :: rest) => exponent rest
    | (_, .char 'E' :: rest) => exponent rest
    | (_, rest) => .ok rest
  | (_, .char 'e' :: rest) => exponent rest
  | (_, .char 'E' :: rest) => exponent rest
  | (_, rest) => .ok rest

/-! ### Values that nobody wants -/

mutual

/-- Passes over a value; `budget` bounds the steps. -/
def skipValueWithin : Nat → List Glyph → Except Fault (List Glyph)
  | 0, rest => .error (.before .endInValue rest)
  | budget + 1, gs =>
    match skipSpace gs with
    | [] => .error (.before .endInValue [])
    | g :: rest =>
      if g.is 'n' then word "ull".toList rest
      else if g.is 't' then word "rue".toList rest
      else if g.is 'f' then word "alse".toList rest
      else if g.is '-' then skipNumber rest
      else if (digit? g).isSome then skipNumber (g :: rest)
      else if g.is '"' then skipString (rest.length + 1) rest
      else if g.is '[' then skipItems budget true rest
      else if g.is '\x7b' then skipMembers budget true rest
      else .error (.atNext .expectedValue (g :: rest))

/-- Passes over the items of an array up to its closing bracket. -/
def skipItems : Nat → Bool → List Glyph → Except Fault (List Glyph)
  | 0, _, rest => .error (.before .endInList rest)
  | budget + 1, first, gs =>
    match skipSpace gs with
    | [] => .error (.before .endInList [])
    | g :: rest =>
      if g.is ']' then .ok rest
      else if first then do
        let rest ← skipValueWithin budget (g :: rest)
        skipItems budget false rest
      else if g.is ',' then do
        let rest ← skipValueWithin budget rest
        skipItems budget false rest
      else .error (.atNext .expectedListCommaOrEnd (g :: rest))

/-- Passes over the members of an object up to its closing brace. -/
def skipMembers : Nat → Bool → List Glyph → Except Fault (List Glyph)
  | 0, _, rest => .error (.before .endInObject rest)
  | budget + 1, first, gs =>
    match skipSpace gs with
    | [] => .error (.before .endInObject [])
    | g :: rest =>
      if g.is '\x7d' then .ok rest
      else if first then skipMember budget (g :: rest)
      else if g.is ',' then skipMember budget rest
      else .error (.atNext .expectedObjectCommaOrEnd (g :: rest))

/-- Passes over a member of an object and the members after it. -/
def skipMember : Nat → List Glyph → Except Fault (List Glyph)
  | 0, rest => .error (.before .endInObject rest)
  | budget + 1, gs =>
    match skipSpace gs with
    | [] => .error (.before .endInObject [])
    | g :: rest =>
      if g.is '"' then do
        let rest ← skipString (rest.length + 1) rest
        match skipSpace rest with
        | [] => .error (.before .endInObject [])
        | g :: rest =>
          if g.is ':' then do
            let rest ← skipValueWithin budget rest
            skipMembers budget false rest
          else .error (.atNext .expectedColon (g :: rest))
      else .error (.atNext .keyNotString (g :: rest))

end

/-- Passes over a value. -/
def skipValue (gs : List Glyph) : Except Fault (List Glyph) :=
  skipValueWithin (3 * gs.length + 3) gs

/-! ### Values of a wanted type -/

/-- How a number is named in a fault. -/
def Number.describe : Number → String
  | .float bits => "floating point `" ++ (Number.float bits).render ++ "`"
  | n => "integer `" ++ n.render ++ "`"

/-- The fault of a value that is not of the wanted type, from its first character; a text that
is no value at all has a fault of its own. -/
def mistyped (wanted : String) (gs : List Glyph) : Fault :=
  match gs with
  | [] => .atNext .expectedValue []
  | g :: rest =>
    let named (r : Except Fault (List Glyph)) (found : String) : Fault :=
      match r with
      | .error fault => fault
      | .ok rest => .before (.wrongType found wanted) rest
    let number (r : Except Fault (Parsed Number)) : Fault :=
      match r with
      | .error fault => fault
      | .ok (n, rest) => .before (.wrongType n.describe wanted) rest
    if g.is 'n' then named (word "ull".toList rest) "null"
    else if g.is 't' then named (word "rue".toList rest) "boolean `true`"
    else if g.is 'f' then named (word "alse".toList rest) "boolean `false`"
    else if g.is '-' then number (readNumberRest true rest)
    else if (digit? g).isSome then number (readNumberRest false (g :: rest))
    else if g.is '"' then
      match readStringRest rest with
      | .error fault => fault
      | .ok (s, rest) => .before (.wrongType ("string " ++ Text.quoted s) wanted) rest
    else if g.is '[' then .before (.wrongType "sequence" wanted) (g :: rest)
    else if g.is '\x7b' then .before (.wrongType "map" wanted) (g :: rest)
    else .atNext .expectedValue (g :: rest)

/-- Reads a string. -/
def readString (gs : List Glyph) : Except Fault (Parsed String) :=
  match skipSpace gs with
  | [] => .error (.before .endInValue [])
  | g :: rest =>
    if g.is '"' then readStringRest rest
    else .error (mistyped "a string" (g :: rest))

/-- Reads a natural number of 32 bits. -/
def readUInt32 (gs : List Glyph) : Except Fault (Parsed UInt32) :=
  let check (r : Except Fault (Parsed Number)) : Except Fault (Parsed UInt32) :=
    match r with
    | .error fault => .error fault
    | .ok (.natural n, rest) =>
      if n < 0x100000000 then .ok (UInt32.ofNat n, rest)
      else .error (.before (.wrongValue (Number.natural n).describe "u32") rest)
    | .ok (.negative n, rest) =>
      .error (.before (.wrongValue (Number.negative n).describe "u32") rest)
    | .ok (n, rest) => .error (.before (.wrongType n.describe "u32") rest)
  match skipSpace gs with
  | [] => .error (.before .endInValue [])
  | g :: rest =>
    if g.is '-' then check (readNumberRest true rest)
    else if (digit? g).isSome then check (readNumberRest false (g :: rest))
    else .error (mistyped "u32" (g :: rest))

/-- Reads `null` as nothing, and any other value by a reader. -/
def readOption {α : Type} (read : List Glyph → Except Fault (Parsed α)) (gs : List Glyph) :
    Except Fault (Parsed (Option α)) :=
  match skipSpace gs with
  | .char 'n' :: rest => do
    let rest ← word "ull".toList rest
    .ok (none, rest)
  | gs => do
    let (a, rest) ← read gs
    .ok (some a, rest)

/-- The head of an array's next item: `none` at its closing bracket. -/
def nextItem (first : Bool) (gs : List Glyph) : Except Fault (Parsed Bool) :=
  match skipSpace gs with
  | [] => .error (.before .endInList [])
  | g :: rest =>
    if g.is ']' then .ok (false, g :: rest)
    else if first then .ok (true, g :: rest)
    else if g.is ',' then
      match skipSpace rest with
      | [] => .error (.before .endInValue [])
      | g :: rest =>
        if g.is ']' then .error (.atNext .trailingComma (g :: rest))
        else .ok (true, g :: rest)
    else .error (.atNext .expectedListCommaOrEnd (g :: rest))

/-- The closing bracket of an array of which no more items are wanted. -/
def closeArray (gs : List Glyph) : Except Fault (List Glyph) :=
  match skipSpace gs with
  | [] => .error (.before .endInList [])
  | g :: rest =>
    if g.is ']' then .ok rest
    else if g.is ',' then
      match skipSpace rest with
      | [] => .error (.atNext .trailingText [])
      | g :: rest =>
        .error (.atNext (if g.is ']' then .trailingComma else .trailingText) (g :: rest))
    else .error (.atNext .trailingText (g :: rest))

/-- The items of an array, each by one reader, after those already read. -/
def readItems {α : Type} (read : List Glyph → Except Fault (Parsed α)) :
    Nat → Bool → List Glyph → Except Fault (Parsed (List α))
  | 0, _, rest => .error (.before .endInList rest)
  | budget + 1, first, gs => do
    let (more, rest) ← nextItem first gs
    if more then
      let (a, rest) ← read rest
      let (as, rest) ← readItems read budget false rest
      .ok (a :: as, rest)
    else
      let rest ← closeArray rest
      .ok ([], rest)

/-- Reads an array of values of one type. -/
def readArray {α : Type} (read : List Glyph → Except Fault (Parsed α)) (gs : List Glyph) :
    Except Fault (Parsed (List α)) :=
  match skipSpace gs with
  | [] => .error (.before .endInValue [])
  | g :: rest =>
    if g.is '[' then readItems read (rest.length + 1) true rest
    else .error (mistyped "a sequence" (g :: rest))

/-! ### Records -/

/-- A field of a record: its name, and how its value is read into the record. -/
structure Field (α : Type) where
  name : String
  read : α → List Glyph → Except Fault (Parsed α)
  /-- An object without this field is no such record. -/
  required : Bool

/-- A record type: how it is called in a fault, its fields in order, how many of them an array
must give, and the record before any field was read. -/
structure Shape (α : Type) where
  title : String
  fields : List (Field α)
  arrayNeeds : Nat
  empty : α

namespace Shape

variable {α : Type}

/-- What follows a fault about the members of an object as a whole: it is placed after the
blanks that follow, and after the closing brace if that comes next. -/
def afterMembers (gs : List Glyph) : List Glyph :=
  match skipSpace gs with
  | [] => []
  | g :: rest => if g.is '\x7d' then rest else g :: rest

/-- The same for a fault about the elements of an array as a whole: after a comma, too, and
the blanks behind it. -/
def afterElements (gs : List Glyph) : List Glyph :=
  match skipSpace gs with
  | [] => []
  | g :: rest =>
    if g.is ']' then rest else if g.is ',' then skipSpace rest else g :: rest

/-- The head of an object's next key, after its opening quote: `none` at the closing brace. -/
def nextKey (first : Bool) (gs : List Glyph) : Except Fault (Parsed Bool) :=
  match skipSpace gs with
  | [] => .error (.before .endInObject [])
  | g :: rest =>
    if g.is '\x7d' then .ok (false, rest)
    else if first then
      if g.is '"' then .ok (true, rest) else .error (.atNext .keyNotString (g :: rest))
    else if g.is ',' then
      match skipSpace rest with
      | [] => .error (.before .endInValue [])
      | g :: rest =>
        if g.is '"' then .ok (true, rest)
        else if g.is '\x7d' then .error (.atNext .trailingComma (g :: rest))
        else .error (.atNext .keyNotString (g :: rest))
    else .error (.atNext .expectedObjectCommaOrEnd (g :: rest))

/-- The text after the colon of a member. -/
def colon (gs : List Glyph) : Except Fault (List Glyph) :=
  match skipSpace gs with
  | [] => .error (.before .endInObject [])
  | g :: rest =>
    if g.is ':' then .ok rest else .error (.atNext .expectedColon (g :: rest))

/-- The members of an object up to its closing brace, read into a record; `seen` are the names
of the fields read so far. -/
def readMembers (shape : Shape α) :
    Nat → Bool → List String → α → List Glyph → Except Fault (Parsed α)
  | 0, _, _, _, rest => .error (.before .endInObject rest)
  | budget + 1, first, seen, a, gs => do
    let (more, rest) ← nextKey first gs
    if more then
      let (key, rest) ← readStringRest rest
      match shape.fields.find? (·.name == key) with
      | none =>
        let rest ← colon rest
        let rest ← skipValue rest
        readMembers shape budget false seen a rest
      | some field =>
        if seen.contains key then .error (.before (.duplicateField key) (afterMembers rest))
        else
          let rest ← colon rest
          let (a, rest) ← field.read a rest
          readMembers shape budget false (key :: seen) a rest
    else
      match shape.fields.find? fun f => f.required && !seen.contains f.name with
      | some field => .error (.before (.missingField field.name) rest)
      | none => .ok (a, rest)

/-- The elements of an array, read into the fields of a record in their order; `count` is the
number of elements read so far. -/
def readElements (shape : Shape α) :
    List (Field α) → Nat → α → List Glyph → Except Fault (Parsed α)
  | [], _, a, gs => do
    let rest ← closeArray gs
    .ok (a, rest)
  | field :: fields, count, a, gs => do
    let (more, rest) ← nextItem (count == 0) gs
    if more then
      let (a, rest) ← field.read a rest
      readElements shape fields (count + 1) a rest
    else if count < shape.arrayNeeds then
      .error (.before (.wrongLength count
        (shape.title ++ " with " ++ toString shape.fields.length ++ " elements"))
        (afterElements rest))
    else
      let rest ← closeArray rest
      .ok (a, rest)

/-- Reads a record, written as an object or as an array of its fields in order. -/
def read (shape : Shape α) (gs : List Glyph) : Except Fault (Parsed α) :=
  match skipSpace gs with
  | [] => .error (.before .endInValue [])
  | g :: rest =>
    if g.is '[' then shape.readElements shape.fields 0 shape.empty rest
    else if g.is '\x7b' then
      shape.readMembers (rest.length + 1) true [] shape.empty rest
    else .error (mistyped shape.title (g :: rest))

/-- Reads a record from a whole text: nothing but blanks may follow it. -/
def readAll (shape : Shape α) (gs : List Glyph) : Except Fault α := do
  let (a, rest) ← shape.read gs
  match skipSpace rest with
  | [] => .ok a
  | g :: rest => .error (.atNext .trailingText (g :: rest))

end Shape

end RemoteFiles.Json
