/-!
# Errors with their causes

An error is shown with what caused it, and what caused that.  It is shown on one line within a
shell, and as paragraphs when it ends the program.
-/

namespace RemoteFiles

/-- The text of an error, and the texts of its causes from the nearest one on. -/
structure Report where
  message : String
  causes : List String
  deriving DecidableEq, Repr

namespace Report

/-- An error without a cause. -/
def plain (message : String) : Report := ⟨message, []⟩

/-- The error and its causes on one line. -/
def oneLine (r : Report) : String := ": ".intercalate (r.message :: r.causes)

/-- Puts blanks before every line of a text but the first. -/
def indentAfterFirst (blanks : Nat) (text : String) : String :=
  String.ofList (text.toList.flatMap fun c =>
    if c = '\n' then c :: List.replicate blanks ' ' else [c])

/-- The number of a cause, right-aligned. -/
def causeNumber (n : Nat) : String :=
  let digits := Nat.toDigits 10 n
  String.ofList (List.replicate (5 - digits.length) ' ' ++ digits ++ [':', ' '])

/-- The causes, indented and each on lines of its own; several are numbered from zero. -/
def causeLines : List String → List String
  | [] => []
  | [cause] => ["    " ++ indentAfterFirst 4 cause]
  | causes => causes.zipIdx.map fun (cause, n) => causeNumber n ++ indentAfterFirst 7 cause

/-- The error and, after a blank line, its causes. -/
def paragraphs (r : Report) : String :=
  if r.causes.isEmpty then r.message
  else "\n".intercalate (r.message :: "" :: "Caused by:" :: causeLines r.causes)

end Report

end RemoteFiles
