import RemoteFiles.Text.Hex

/-!
# Strings in TOML

A string has four forms: between single quotes or double quotes, on one line or, with the
quotes written three times, on several.  Between double quotes a backslash begins an escape;
between single quotes every character stands for itself.  `render` writes a string in the
first form that shows it without escapes, and with escapes if there is none.
-/

namespace RemoteFiles.Toml

/-- Blanks within a line. -/
def isBlank (c : Char) : Bool := c == ' ' || c == '\t'

/-- The characters that may stand by themselves in a line: all but the controls other than
tab. -/
def isPlain (c : Char) : Bool := c == '\t' || (0x20 ≤ c.toNat && c.toNat != 0x7f)

/-- The text after a line break, a line feed with or without a carriage return before it. -/
def lineBreak? : List Char → Option (List Char)
  | '\n' :: rest => some rest
  | '\r' :: '\n' :: rest => some rest
  | _ => none

/-! ### Reading -/

/-- The character of a number that names one. -/
def scalar? (n : Nat) : Option Char :=
  if n < 0xD800 ∨ (0xE000 ≤ n ∧ n < 0x110000) then some (Char.ofNat n) else none

/-- The number of exactly `count` hexadecimal digits, after what was read so far. -/
def hexNumber : Nat → Nat → List Char → Option (Nat × List Char)
  | 0, n, rest => some (n, rest)
  | _ + 1, _, [] => none
  | count + 1, n, c :: rest =>
    match Text.Hex.digitValue? c with
    | some d => hexNumber count (n * 16 + d) rest
    | none => none

/-- The character of an escape after its backslash, and what follows it. -/
def escape : List Char → Option (Char × List Char)
  | [] => none
  | c :: rest =>
    if c = 'b' then some ('\x08', rest)
    else if c = 't' then some ('\t', rest)
    else if c = 'n' then some ('\n', rest)
    else if c = 'f' then some ('\x0c', rest)
    else if c = 'r' then some ('\r', rest)
    else if c = '"' then some ('"', rest)
    else if c = '\\' then some ('\\', rest)
    else if c = 'u' ∨ c = 'U' then
      match hexNumber (if c = 'u' then 4 else 8) 0 rest with
      | some (n, rest) => (scalar? n).map (·, rest)
      | none => none
    else none

/-- A character in front of what was read. -/
def prepend (c : Char) (r : Option (List Char × List Char)) : Option (List Char × List Char) :=
  r.map fun (cs, rest) => (c :: cs, rest)

/-- A string between double quotes on one line, after its opening quote; `budget` bounds the
characters. -/
def basicBody : Nat → List Char → Option (List Char × List Char)
  | 0, _ => none
  | _ + 1, [] => none
  | budget + 1, c :: rest =>
    if c = '"' then some ([], rest)
    else if c = '\\' then
      match escape rest with
      | some (d, rest) => prepend d (basicBody budget rest)
      | none => none
    else if isPlain c then prepend c (basicBody budget rest)
    else none

/-- A string between single quotes on one line, after its opening quote. -/
def literalBody : List Char → Option (List Char × List Char)
  | [] => none
  | c :: rest =>
    if c = '\'' then some ([], rest)
    else if isPlain c then prepend c (literalBody rest)
    else none

/-- What three or more quotes in a row make of a string of several lines: up to two of them
belong to the string, then it is closed. -/
def closing (quote : Char) (run : Nat) (cs : List Char) : List Char × List Char :=
  (List.replicate (min (run - 3) 2) quote, cs.drop (min (run - 3) 2 + 3))

/-- The text after a backslash at the end of a line: blanks and line breaks are skipped. -/
def skipBroken : Nat → List Char → List Char
  | 0, cs => cs
  | budget + 1, cs =>
    let cs := cs.dropWhile isBlank
    match lineBreak? cs with
    | some rest => skipBroken budget rest
    | none => cs

/-- A string between triple double quotes, after its opening quotes and a line break right
behind them; `budget` bounds the characters. -/
def longBasicBody : Nat → List Char → Option (List Char × List Char)
  | 0, _ => none
  | _ + 1, [] => none
  | budget + 1, c :: rest =>
    if c = '"' then
      let run := ((c :: rest).takeWhile (· == '"')).length
      if run < 3 then prepend c (longBasicBody budget rest)
      else some (closing '"' run (c :: rest))
    else if c = '\\' then
      match lineBreak? (rest.dropWhile isBlank) with
      | some rest => longBasicBody budget (skipBroken budget rest)
      | none => match escape rest with
        | some (d, rest) => prepend d (longBasicBody budget rest)
        | none => none
    else match lineBreak? (c :: rest) with
      | some rest => prepend '\n' (longBasicBody budget rest)
      | none => if isPlain c then prepend c (longBasicBody budget rest) else none

/-- A string between triple single quotes, after its opening quotes and a line break right
behind them; `budget` bounds the characters. -/
def longLiteralBody : Nat → List Char → Option (List Char × List Char)
  | 0, _ => none
  | _ + 1, [] => none
  | budget + 1, c :: rest =>
    if c = '\'' then
      let run := ((c :: rest).takeWhile (· == '\'')).length
      if run < 3 then prepend c (longLiteralBody budget rest)
      else some (closing '\'' run (c :: rest))
    else match lineBreak? (c :: rest) with
      | some rest => prepend '\n' (longLiteralBody budget rest)
      | none => if isPlain c then prepend c (longLiteralBody budget rest) else none

/-- The text after a line break at its head, or the text itself. -/
def dropLineBreak (cs : List Char) : List Char := (lineBreak? cs).getD cs

/-- A string in any of its forms, and what follows it. -/
def readString (cs : List Char) : Option (List Char × List Char) :=
  let triple (quote : Char) := List.replicate 3 quote
  if (triple '"').isPrefixOf cs then
    longBasicBody cs.length (dropLineBreak (cs.drop 3))
  else if (triple '\'').isPrefixOf cs then
    longLiteralBody cs.length (dropLineBreak (cs.drop 3))
  else match cs with
    | '"' :: rest => basicBody cs.length rest
    | '\'' :: rest => literalBody rest
    | _ => none

/-! ### Writing -/

/-- A control that a string shows only by an escape: all but tab and line feed. -/
def needsEscape (c : Char) : Bool := !isPlain c && c != '\n'

/-- How many of a character stand in a row at most. -/
def longestRun (quote : Char) : Nat → List Char → Nat
  | run, [] => run
  | run, c :: cs =>
    if c = quote then longestRun quote (run + 1) cs else max run (longestRun quote 0 cs)

/-- A character by an escape. -/
def escapeChar (c : Char) : List Char :=
  match c with
  | '\x08' => ['\\', 'b']
  | '\t' => ['\\', 't']
  | '\n' => ['\\', 'n']
  | '\x0c' => ['\\', 'f']
  | '\r' => ['\\', 'r']
  | '"' => ['\\', '"']
  | '\\' => ['\\', '\\']
  | _ => '\\' :: 'u' :: (Text.Hex.lowDigits 4 c.toNat).map Char.toUpper

/-- The characters of a string between double quotes.  On several lines (`long`) line feeds
stand by themselves, and of quotes up to two in a row, `run` of which came right before. -/
def escaped (long : Bool) : Nat → List Char → List Char
  | _, [] => []
  | run, c :: cs =>
    if c = '"' then
      if long && run < 2 then c :: escaped long (run + 1) cs
      else escapeChar c ++ escaped long 0 cs
    else if c = '\n' then
      if long then c :: escaped long 0 cs else escapeChar c ++ escaped long 0 cs
    else if c = '\t' ∨ c = '\\' ∨ needsEscape c then escapeChar c ++ escaped long 0 cs
    else c :: escaped long 0 cs

/-- A string in the first form that shows it without escapes (a tab apart), else in double
quotes with escapes; on several lines only if it has a line feed or needs the longer quotes. -/
def render (s : String) : List Char :=
  let cs := s.toList
  let hasBreak := cs.contains '\n'
  let controls := cs.any needsEscape
  let lead := if hasBreak then ['\n'] else []
  let double := longestRun '"' 0 cs
  let single := longestRun '\'' 0 cs
  let quotes (quote : Char) := List.replicate 3 quote
  if !controls && !cs.contains '\\' && double == 0 && !hasBreak then
    '"' :: (escaped false 0 cs ++ ['"'])
  else if !controls && single == 0 && !hasBreak then
    '\'' :: (cs ++ ['\''])
  else if !controls && !cs.contains '\\' && double ≤ 2 then
    quotes '"' ++ lead ++ escaped true 0 cs ++ quotes '"'
  else if !controls && single ≤ 2 then
    quotes '\'' ++ lead ++ cs ++ quotes '\''
  else if hasBreak then
    quotes '"' ++ lead ++ escaped true 0 cs ++ quotes '"'
  else '"' :: (escaped false 0 cs ++ ['"'])

end RemoteFiles.Toml
