import RemoteFiles.Text.Blank

/-!
# Words of a shell line

A line is cut into words at blanks.  Single quotes keep everything up to the next single
quote, double quotes keep everything but a backslash and the next double quote, and a
backslash outside single quotes stands for the character after it.  Quoted pieces glue to
what stands next to them, and a pair of quotes with nothing inside is an empty word.
-/

namespace RemoteFiles.Shell

open RemoteFiles.Text (isBlank)

/-- How the next character of a line is read. -/
inductive Quoting
  /-- Outside quotes: blanks end a word. -/
  | bare
  /-- Inside single quotes: only another single quote is special. -/
  | single
  /-- Inside double quotes: a backslash and another double quote are special. -/
  | double
  deriving DecidableEq, Repr

/-- The word in progress: its characters so far, last first, or `none` between two words. -/
abbrev Partial := Option (List Char)

namespace Partial

/-- A word is in progress from here on, even if it stays empty. -/
def start (w : Partial) : Partial := some (w.getD [])

/-- The word in progress with one more character. -/
def push (w : Partial) (c : Char) : Partial := some (c :: w.getD [])

/-- The word in progress as a finished word, in front of the words after it. -/
def finish (w : Partial) (rest : List String) : List String :=
  match w with
  | none => rest
  | some cs => String.ofList cs.reverse :: rest

end Partial

/-- The words of the rest of a line, after a partial word and under a way of quoting; `none`
when a quote stays open. -/
def words.go : Quoting → Partial → List Char → Option (List String)
  | .bare, w, [] => some (w.finish [])
  | .single, _, [] => none
  | .double, _, [] => none
  | .single, w, c :: cs =>
    if c = '\'' then words.go .bare w cs else words.go .single (w.push c) cs
  | .double, w, '\\' :: c :: cs => words.go .double (w.push c) cs
  | .double, w, c :: cs =>
    if c = '\\' then words.go .double w.start cs
    else if c = '"' then words.go .bare w cs
    else words.go .double (w.push c) cs
  | .bare, w, '\\' :: c :: cs => words.go .bare (w.push c) cs
  | .bare, w, c :: cs =>
    if c = '\\' then words.go .bare w.start cs
    else if c = '"' then words.go .double w.start cs
    else if c = '\'' then words.go .single w.start cs
    else if isBlank c then (words.go .bare none cs).map w.finish
    else words.go .bare (w.push c) cs

/-- The words of a line, or `none` when a quote stays open. -/
def words (line : String) : Option (List String) :=
  words.go .bare none line.toList

end RemoteFiles.Shell
