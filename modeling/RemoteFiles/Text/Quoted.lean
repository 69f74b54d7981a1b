import RemoteFiles.Text.Printable

/-!
# Texts in double quotes for display

A text is shown between double quotes so that its ends and its unusual characters can be seen:
a quote and a backslash have a backslash before them, four controls have short names, and any
other character that does not show by itself is given by its number.
-/

namespace RemoteFiles.Text

/-- A character as it is shown between double quotes. -/
def quotedChar (c : Char) : List Char :=
  match c with
  | '"' => ['\\', '"']
  | '\\' => ['\\', '\\']
  | '\t' => ['\\', 't']
  | '\n' => ['\\', 'n']
  | '\r' => ['\\', 'r']
  | '\x00' => ['\\', '0']
  | _ => if isShown c then [c]
    else "\\u\x7b".toList ++ Nat.toDigits 16 c.toNat ++ ['\x7d']

/-- A text between double quotes. -/
def quoted (s : String) : String :=
  "\"" ++ String.ofList (s.toList.flatMap quotedChar) ++ "\""

end RemoteFiles.Text
