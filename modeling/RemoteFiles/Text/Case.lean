/-!
# Upper and lower case of ASCII letters

Scheme names, directive names, hash names and header names are the same whatever the case of
their ASCII letters.  Letters outside ASCII are left as they are.
-/

namespace RemoteFiles.Text

/-- The text with its ASCII letters in lower case. -/
def lower (s : String) : String :=
  String.ofList (s.toList.map Char.toLower)

/-- Two texts are the same but for the case of ASCII letters. -/
def sameIgnoringCase (s t : String) : Bool :=
  lower s == lower t

end RemoteFiles.Text
