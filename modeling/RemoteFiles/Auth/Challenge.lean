import RemoteFiles.ProtocolError
import RemoteFiles.Text.Blank
import RemoteFiles.Text.Case

/-!
# Authentication challenges

A challenge is the header value by which the service asks for authentication: the name of a
scheme, then items parted by commas and blanks.  An item `key=value` is a directive; its value
is bare, or quoted with a backslash before a character that stands for itself.  Any other item
says nothing.  Of two directives of one name the later counts.
-/

namespace RemoteFiles.Auth

open RemoteFiles.Text (isBlank trim lower sameIgnoringCase)

/-- The scheme that a challenge names. -/
inductive Scheme
  | basic
  | digest
  | other (name : String)
  deriving DecidableEq, Repr

/-- The scheme of a name; any name that is not known stands for itself. -/
def Scheme.ofName (name : String) : Scheme :=
  if sameIgnoringCase name "basic" then .basic
  else if sameIgnoringCase name "digest" then .digest
  else .other name

/-- The name of a scheme. -/
def Scheme.name : Scheme → String
  | .basic => "Basic"
  | .digest => "Digest"
  | .other name => name

/-- Commas and blanks part the items of a challenge. -/
def isSeparator (c : Char) : Bool := c == ',' || isBlank c

/-- The characters of an item before its equals sign. -/
def isKeyChar (c : Char) : Bool := c != '=' && !isSeparator c

/-- The value after an opening quote and what follows the closing quote; a value that is not
closed reaches to the end. -/
def quotedValue : List Char → List Char × List Char
  | [] => ([], [])
  | ['\\'] => ([], [])
  | '\\' :: c :: cs => let (value, rest) := quotedValue cs; (c :: value, rest)
  | c :: cs =>
    if c = '"' then ([], cs)
    else let (value, rest) := quotedValue cs; (c :: value, rest)

/-- A quoted value ends no earlier than its text. -/
theorem length_quotedValue_le (cs : List Char) : (quotedValue cs).2.length ≤ cs.length := by
  fun_induction quotedValue cs with
  | case1 => simp
  | case2 => simp
  | case3 c cs value rest h ih => simp_all; omega
  | case4 => simp
  | case5 c cs _ _ hc value rest h ih => simp_all; omega

/-- The value after an equals sign and what follows it; text glued to a closing quote is
skipped. -/
def directiveValue : List Char → List Char × List Char
  | '"' :: cs =>
    let (value, rest) := quotedValue cs
    (value, rest.dropWhile (!isSeparator ·))
  | cs => (cs.takeWhile (!isSeparator ·), cs.dropWhile (!isSeparator ·))

/-- The name of a directive: its key without quotes at either end and in lower case. -/
def directiveName (key : List Char) : String :=
  let unquoted := ((key.dropWhile (· == '"')).reverse.dropWhile (· == '"')).reverse
  lower (String.ofList unquoted)

/-- A directive by its name and value. -/
abbrev Directive := String × String

/-- The item at the head of a text that begins with no separator, if it is a directive with a
name, and the text after it. -/
def item (cs : List Char) : Option Directive × List Char :=
  match cs.dropWhile isKeyChar with
  | '=' :: rest =>
    let (value, rest) := directiveValue rest
    let name := directiveName (cs.takeWhile isKeyChar)
    (if name = "" then none else some (name, String.ofList value), rest)
  | rest => (none, rest)

theorem length_dropWhile_le (p : Char → Bool) (cs : List Char) :
    (cs.dropWhile p).length ≤ cs.length :=
  (List.dropWhile_sublist p).length_le

theorem length_directiveValue_le (cs : List Char) :
    (directiveValue cs).2.length ≤ cs.length := by
  unfold directiveValue
  split
  · next cs =>
    have h1 := length_quotedValue_le cs
    have h2 := length_dropWhile_le (!isSeparator ·) (quotedValue cs).2
    simp only [List.length_cons]
    omega
  · exact length_dropWhile_le _ _

/-- An item takes at least one character. -/
theorem length_item_lt {c : Char} (cs : List Char) (hc : isSeparator c = false) :
    (item (c :: cs)).2.length < (c :: cs).length := by
  unfold item
  have hle := length_dropWhile_le isKeyChar (c :: cs)
  split
  · next rest h =>
    have hv := length_directiveValue_le rest
    rw [h] at hle
    simp only [List.length_cons] at hle ⊢
    omega
  · next rest h =>
    by_cases he : c = '='
    · subst he
      exact absurd rfl (h cs)
    · have hk : isKeyChar c = true := by simp [isKeyChar, hc, he]
      have := length_dropWhile_le isKeyChar cs
      simp only [List.dropWhile_cons, hk, if_true, List.length_cons]
      omega

/-- The directives of the text after the scheme, in order. -/
def directives (cs : List Char) : List Directive :=
  match _h : cs.dropWhile isSeparator with
  | [] => []
  | c :: rest => (item (c :: rest)).1.toList ++ directives (item (c :: rest)).2
termination_by cs.length
decreasing_by
  have hne : cs.dropWhile isSeparator ≠ [] := by simp [_h]
  have hc : isSeparator c = false := by
    have := List.head_dropWhile_not isSeparator hne
    simpa [_h] using this
  have h1 := length_item_lt rest hc
  have h2 := length_dropWhile_le isSeparator cs
  rw [_h] at h2
  omega

/-- A challenge: its text without blanks at either end, its scheme, and its directives in the
order of the text. -/
structure Challenge where
  raw : String
  scheme : Scheme
  directives : List Directive
  deriving DecidableEq, Repr

namespace Challenge

/-- The challenge that a text is; a text of blanks alone is none. -/
def parse (text : String) : Except ProtocolError Challenge :=
  match trim text.toList with
  | [] => .error .emptyChallenge
  | cs => .ok
    { raw := String.ofList cs
      scheme := .ofName (String.ofList (cs.takeWhile (!isSeparator ·)))
      directives := Auth.directives (cs.dropWhile (!isSeparator ·)) }

/-- The challenge in effect before the service has sent one. -/
def basic : Challenge := ⟨"Basic", .basic, []⟩

/-- The value of the last directive of a name, in any ASCII case. -/
def directive? (c : Challenge) (name : String) : Option String :=
  c.directives.reverse.lookup (lower name)

/-- The realm that the credential is for. -/
def realm? (c : Challenge) : Option String := c.directive? "realm"

/-- The value that the service wants mixed into the answer. -/
def nonce? (c : Challenge) : Option String := c.directive? "nonce"

/-- The value that the service wants back unchanged. -/
def opaqueValue? (c : Challenge) : Option String := c.directive? "opaque"

/-- The name of the hash function that the service asks for. -/
def algorithm? (c : Challenge) : Option String := c.directive? "algorithm"

/-- Whether the service offers the quality of protection `auth`, alone or among others. -/
def offersAuth (c : Challenge) : Bool :=
  match c.directive? "qop" with
  | none => false
  | some options =>
    (options.toList.splitOnP isSeparator).any fun o =>
      sameIgnoringCase (String.ofList o) "auth"

end Challenge

end RemoteFiles.Auth
