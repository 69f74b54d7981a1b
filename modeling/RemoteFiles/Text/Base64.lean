/-!
# Base64

Three bytes are written as four characters of six bits each.  One or two bytes at the end are
completed by zero bits and the text by `=` to a whole group of four.
-/

namespace RemoteFiles.Text.Base64

/-- The characters of the 64 values, in order. -/
def alphabet : List Char :=
  "ABCDEFGHIJKLMNOPQRSTUVWXYZabcdefghijklmnopqrstuvwxyz0123456789+/".toList

/-- The character of the lowest six bits of a number. -/
def sextet (n : Nat) : Char :=
  alphabet.getD (n % 64) '='

/-- The text of some bytes. -/
def encode : List UInt8 → List Char
  | a :: b :: c :: rest =>
    let n := a.toNat * 65536 + b.toNat * 256 + c.toNat
    sextet (n / 262144) :: sextet (n / 4096) :: sextet (n / 64) :: sextet n :: encode rest
  | [a, b] =>
    let n := a.toNat * 1024 + b.toNat * 4
    [sextet (n / 4096), sextet (n / 64), sextet n, '=']
  | [a] =>
    let n := a.toNat * 16
    [sextet (n / 64), sextet n, '=', '=']
  | [] => []

end RemoteFiles.Text.Base64
