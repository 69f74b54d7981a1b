import RemoteFiles.Number.Shortest
import RemoteFiles.Text.Hex

/-!
# JSON values and their text

A value is written without any blanks, the members of an object in their order.  In a string
only quotes, backslashes and controls are escaped.
-/

namespace RemoteFiles.Json

/-- A number: a natural number below 2 ^ 64, a negative one from -2 ^ 63 up, or a binary
floating point number by its bits. -/
inductive Number
  | natural (n : Nat)
  | negative (n : Nat)
  | float (bits : UInt64)
  deriving DecidableEq, Repr

/-- Floating point numbers are written positionally from 0.00001 to below 10 ^ 16. -/
def floatStyle : RemoteFiles.Number.DecimalStyle := ⟨-5, 15⟩

/-- The text of a number; `negative n` stands for `-n`. -/
def Number.render : Number → String
  | .natural n => String.ofList (Nat.toDigits 10 n)
  | .negative n => String.ofList ('-' :: Nat.toDigits 10 n)
  | .float bits => RemoteFiles.Number.renderBits floatStyle bits

/-- A JSON value. -/
inductive Value
  | null
  | bool (b : Bool)
  | number (n : Number)
  | string (s : String)
  | array (items : List Value)
  | object (members : List (String × Value))
  deriving Repr, Inhabited

/-- A character inside a string. -/
def escapeChar (c : Char) : List Char :=
  match c with
  | '"' => ['\\', '"']
  | '\\' => ['\\', '\\']
  | '\x08' => ['\\', 'b']
  | '\t' => ['\\', 't']
  | '\n' => ['\\', 'n']
  | '\x0c' => ['\\', 'f']
  | '\r' => ['\\', 'r']
  | _ =>
    if c.toNat < 0x20 then '\\' :: 'u' :: Text.Hex.lowDigits 4 c.toNat
    else [c]

/-- A string with its quotes. -/
def renderString (s : String) : List Char :=
  '"' :: (s.toList.flatMap escapeChar ++ ['"'])

mutual

/-- The text of a value. -/
def Value.render : Value → List Char
  | .null => "null".toList
  | .bool true => "true".toList
  | .bool false => "false".toList
  | .number n => n.render.toList
  | .string s => renderString s
  | .array items => '[' :: (renderItems items ++ [']'])
  | .object members => '\x7b' :: (renderMembers members ++ ['\x7d'])

/-- The items of an array, parted by commas. -/
def renderItems : List Value → List Char
  | [] => []
  | [v] => v.render
  | v :: vs => v.render ++ ',' :: renderItems vs

/-- The members of an object, parted by commas. -/
def renderMembers : List (String × Value) → List Char
  | [] => []
  | [(k, v)] => renderString k ++ ':' :: v.render
  | (k, v) :: ms => renderString k ++ ':' :: (v.render ++ ',' :: renderMembers ms)

end

/-- The text of a value as a string. -/
def Value.toText (v : Value) : String := String.ofList v.render

end RemoteFiles.Json
