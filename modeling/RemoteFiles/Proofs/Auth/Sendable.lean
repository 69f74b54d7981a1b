import RemoteFiles.Http.Message
import RemoteFiles.Proofs.Auth.Basic
import RemoteFiles.Proofs.Auth.Digest

/-!
# Answers that a header can carry

A header value has no control character other than tab.  A `Basic` answer always is one, since
base64 has only visible characters.  A digest answer is made of hexadecimal digits, fixed words and
texts that come from elsewhere: user name, realm, nonce, address, the client's own nonce and the
opaque value.  These are copied as they are, but for the backslashes before quotes, and nobody looks
for controls in them; so the answer can be sent exactly if all of them could be
(`answer_sendable_iff`), and one that cannot be sent is given all the same
(`answer_sendable_not`).
-/

namespace RemoteFiles.Auth

open RemoteFiles.Http (isHeaderValue)
open RemoteFiles.Text.Hex (digit)

/-- A character that a header value may have. -/
def isHeaderChar (c : Char) : Bool := (0x20 ≤ c.toNat && c.toNat != 0x7f) || c == '\t'

theorem isHeaderValue_eq (s : String) : isHeaderValue s = s.toList.all isHeaderChar := rfl

/-! ### Texts put together -/

@[simp] theorem isHeaderValue_append (s t : String) :
    isHeaderValue (s ++ t) = (isHeaderValue s && isHeaderValue t) := by
  rw [isHeaderValue_eq, String.toList_append, List.all_append]
  rfl

theorem all_enumerated (texts : List String) :
    (enumerated texts).all isHeaderChar = texts.all isHeaderValue := by
  induction texts with
  | nil => rfl
  | cons text texts ih =>
    have hcomma : isHeaderChar ',' = true := by decide
    have hblank : isHeaderChar ' ' = true := by decide
    rw [enumerated_cons, List.all_cons, List.all_cons, List.all_append, ih, hcomma, hblank]
    rfl

theorem isHeaderValue_intercalate (texts : List String) :
    isHeaderValue (", ".intercalate texts) = texts.all isHeaderValue := by
  cases texts with
  | nil => rfl
  | cons text texts =>
    rw [isHeaderValue_eq, toList_intercalate_eq, List.all_append, all_enumerated]
    rfl

/-- A backslash before a quote changes nothing. -/
theorem isHeaderValue_escapeQuotes (s : String) :
    isHeaderValue (escapeQuotes s) = isHeaderValue s := by
  have hchar : ∀ c : Char,
      (if c = '\\' ∨ c = '"' then ['\\', c] else [c]).all isHeaderChar = isHeaderChar c := by
    intro c
    have hbackslash : isHeaderChar '\\' = true := by decide
    split
    · simp [hbackslash]
    · simp
  rw [isHeaderValue_eq, escapeQuotes, String.toList_ofList, List.all_flatMap]
  simp only [hchar]
  rfl

theorem isHeaderValue_quotedDirective (name value : String) :
    isHeaderValue (quotedDirective name value) = (isHeaderValue name && isHeaderValue value) := by
  have hopen : isHeaderValue "=\"" = true := by decide
  have hclose : isHeaderValue "\"" = true := by decide
  rw [quotedDirective]
  simp only [isHeaderValue_append, hopen, hclose, Bool.and_true]

/-! ### What an answer computes -/

theorem isHeaderValue_of_digits {s : String} (h : ∀ c ∈ s.toList, ∃ m, c = digit m) :
    isHeaderValue s = true := by
  have all : ∀ m < 16, isHeaderChar (Nat.digitChar m) = true := by decide
  rw [isHeaderValue_eq, List.all_eq_true]
  intro c hc
  obtain ⟨m, rfl⟩ := h c hc
  exact all (m % 16) (Nat.mod_lt m (by decide))

theorem isHeaderValue_answerResponse (ch : Challenge) (c : Credential) (nonce method uri : String)
    (a : Algorithm) (p : Protection) :
    isHeaderValue (answerResponse ch c nonce method uri a p) = true :=
  isHeaderValue_of_digits fun _ => eq_digit_of_mem_digestResponse

theorem isHeaderValue_count (count : UInt32) (clientNonce : String) :
    isHeaderValue (Protection.of count clientNonce).count = true := by
  apply isHeaderValue_of_digits
  intro c hc
  rw [Protection.of, String.toList_ofList] at hc
  exact eq_digit_of_mem_lowDigits hc

/-- Base64 text is visible. -/
theorem isHeaderChar_of_isDigit64 {c : Char} (h : Text.Base64.isDigit64 c = true) :
    isHeaderChar c = true := by
  have between : ∀ {low high : Char}, low.val ≤ c.val ∧ c.val ≤ high.val → 0x20 ≤ low.toNat →
      high.toNat < 0x7f → 0x20 ≤ c.toNat ∧ c.toNat < 0x7f := by
    intro low high hc hlow hhigh
    exact ⟨Nat.le_trans hlow hc.1, Nat.lt_of_le_of_lt hc.2 hhigh⟩
  have hbounds : 0x20 ≤ c.toNat ∧ c.toNat < 0x7f := by
    simp only [Text.Base64.isDigit64, Bool.or_eq_true, beq_iff_eq] at h
    rcases h with (h | rfl) | rfl
    · rcases Bool.or_eq_true_iff.mp h with hletter | hdigit
      · rcases Bool.or_eq_true_iff.mp hletter with hupper | hlower
        · exact between (of_decide_eq_true hupper) (by decide) (by decide)
        · exact between ((Bool.and_eq_true_iff.mp hlower).imp of_decide_eq_true of_decide_eq_true)
            (by decide) (by decide)
      · exact between ((Bool.and_eq_true_iff.mp hdigit).imp of_decide_eq_true of_decide_eq_true)
          (by decide) (by decide)
    · decide
    · decide
  have hne : (c.toNat != 0x7f) = true := bne_iff_ne.mpr (by omega)
  simp [isHeaderChar, hbounds.1, hne]

theorem isHeaderValue_basicAuthorization (c : Credential) :
    isHeaderValue (basicAuthorization c) = true := by
  obtain ⟨digits, pad, htext, hdigits, -⟩ := Text.Base64.isPadded_encode (basicBytes c)
  have hname : isHeaderValue "Basic " = true := by decide
  rw [basicAuthorization_eq, isHeaderValue_append, hname, Bool.true_and, isHeaderValue_eq,
    String.toList_ofList, htext, List.all_append, Bool.and_eq_true, List.all_eq_true,
    List.all_eq_true]
  constructor
  · intro d hd
    exact isHeaderChar_of_isDigit64 (hdigits d hd)
  · intro d hd
    rw [List.eq_of_mem_replicate hd]
    decide

/-! ### Answers -/

variable {ch : Challenge} {c : Credential} {method uri clientNonce header : String}
  {count : UInt32}

/-- The texts that a digest answer copies. -/
def copiedTexts (ch : Challenge) (c : Credential) (uri clientNonce : String) : List String :=
  [c.username, ch.realm?.getD "", ch.nonce?.getD "", uri] ++
    (if ch.offersAuth then [clientNonce] else []) ++ ch.opaqueValue?.toList

/-- All else in the texts of an answer can be sent anyway. -/
theorem all_answerTexts {nonce : String} (hnonce : ch.nonce? = some nonce) (a : Algorithm) :
    (answerTexts ch c nonce method uri a (.of count clientNonce)).all isHeaderValue =
      (copiedTexts ch c uri clientNonce).all isHeaderValue := by
  have hnames : ∀ name ∈ ["username", "realm", "nonce", "uri", "response", "algorithm=", "qop=auth",
      "nc=", "cnonce", "opaque"], isHeaderValue name = true := by decide
  simp only [List.forall_mem_cons] at hnames
  obtain ⟨husername, hrealm, hnonceName, huri, hresponse, halgorithm, hqop, hcount, hcnonce,
    hopaque, -⟩ := hnames
  have hname : isHeaderValue a.name = true := by cases a <;> decide
  have hclient : (Protection.of count clientNonce).clientNonce = clientNonce := rfl
  rw [answerTexts, copiedTexts, offerTexts, opaqueTexts, hnonce, Option.getD_some]
  -- one case for each choice of what the challenge offers
  cases ch.algorithm?.isSome <;> cases ch.offersAuth <;> cases ch.opaqueValue? <;>
    simp [isHeaderValue_quotedDirective, isHeaderValue_escapeQuotes, isHeaderValue_answerResponse,
      isHeaderValue_count, *]

/-- An answer can be the value of a header exactly if it is a `Basic` one or all texts that it
copies could be. -/
theorem answer_sendable_iff
    (h : authorization ch c method uri (.of count clientNonce) = .ok header) :
    isHeaderValue header = true ↔
      (ch.scheme = .digest →
        ∀ text ∈ copiedTexts ch c uri clientNonce, isHeaderValue text = true) := by
  rw [authorization] at h
  split at h
  · rename_i hscheme
    obtain rfl := Except.ok.inj h
    simp [hscheme, isHeaderValue_basicAuthorization]
  · rename_i hscheme
    obtain ⟨nonce, a, hnonce, halgorithm⟩ := exists_of_digestAuthorization h
    rw [digestAuthorization_eq hnonce halgorithm] at h
    obtain rfl := Except.ok.inj h
    have hname : isHeaderValue "Digest " = true := by decide
    rw [isHeaderValue_append, hname, Bool.true_and, isHeaderValue_intercalate,
      all_answerTexts hnonce a, List.all_eq_true]
    simp [hscheme]
  · cases h

/-- An answer that copies nothing with a control can be sent. -/
theorem answer_sendable_iff_of_protected :
    ∃ header, authorization protectedChallenge ⟨"u\t", "p\n"⟩ "GET" "/f" (.of 1 "c") = .ok header ∧
      isHeaderValue header = true := by
  have hnonce : protectedChallenge.nonce? = some "n" := by decide
  have halgorithm : Algorithm.ofName? protectedChallenge.algorithm? = .ok .sha256 := by decide
  have hheader : authorization protectedChallenge ⟨"u\t", "p\n"⟩ "GET" "/f" (.of 1 "c") = .ok _ :=
    digestAuthorization_eq hnonce halgorithm
  exact ⟨_, hheader, (answer_sendable_iff hheader).mpr fun _ => by decide⟩

/-- A line break in the user name is copied into a header. -/
theorem answer_sendable_not :
    ¬ ∀ (text : String) (ch : Challenge) (c : Credential) (method uri clientNonce header : String)
      (count : UInt32), Challenge.parse text = .ok ch →
      authorization ch c method uri (.of count clientNonce) = .ok header →
      isHeaderValue header = true := by
  intro h
  have hnonce : lowerCaseChallenge.nonce? = some "n" := by decide
  have halgorithm : Algorithm.ofName? lowerCaseChallenge.algorithm? = .ok .md5 := by decide
  have hheader : authorization lowerCaseChallenge ⟨"u\nv", "p"⟩ "GET" "/" (.of 1 "c") = .ok _ :=
    digestAuthorization_eq hnonce halgorithm
  have hsendable := h _ _ _ _ _ _ _ _ parse_lowerCaseChallenge hheader
  rw [isHeaderValue_append, isHeaderValue_intercalate, all_answerTexts hnonce] at hsendable
  exact absurd hsendable (by decide)

end RemoteFiles.Auth
