import RemoteFiles.Proofs.Auth.Directives
import Mathlib.Data.List.Forall2

/-!
# Digest answers as a server reads them

The service answers with a challenge, the client with a header, and the service reads the header
as it would a challenge.  `digest_answer_checks` says what it finds there: the directives that
the client meant and no others, whatever characters user name, password and realm have; and with
the password it computes from these directives the response that is among them.

The server's side is `expectedResponse`, which knows of the request nothing but the header and
the method.
-/

namespace RemoteFiles.Auth

open RemoteFiles.Text (lower sameIgnoringCase)
open RemoteFiles.Text.Hex (digit lowDigits encode)

/-! ### Hexadecimal values -/

theorem digit_plain (n : Nat) : isPlainChar (digit n) = true ∧ isSeparator (digit n) = false := by
  have hdigits : ∀ m < 16, isPlainChar (Nat.digitChar m) = true ∧
      isSeparator (Nat.digitChar m) = false := by decide
  exact hdigits (n % 16) (Nat.mod_lt n (by decide))

theorem eq_digit_of_mem_lowDigits {c : Char} {width n : Nat} (h : c ∈ lowDigits width n) :
    ∃ m, c = digit m := by
  induction width generalizing n with
  | zero => cases h
  | succ width ih =>
    rw [lowDigits, List.mem_append, List.mem_singleton] at h
    rcases h with h | h
    · exact ih h
    · exact ⟨n, h⟩

theorem eq_digit_of_mem_hash {ch : Char} {a : Algorithm} {text : String}
    (h : ch ∈ (a.hash text).toList) : ∃ m, ch = digit m := by
  rw [Algorithm.hash, encode, String.toList_ofList] at h
  obtain ⟨b, -, hb⟩ := List.mem_flatMap.mp h
  simp only [Text.Hex.byteDigits, List.mem_cons, List.not_mem_nil, or_false] at hb
  rcases hb with rfl | rfl
  · exact ⟨_, rfl⟩
  · exact ⟨_, rfl⟩

theorem eq_digit_of_mem_digestResponse {ch : Char} {a : Algorithm} {c : Credential}
    {realm nonce method uri : String} {protection : Option Protection}
    (h : ch ∈ (digestResponse a c realm nonce method uri protection).toList) :
    ∃ m, ch = digit m := by
  cases protection <;> exact eq_digit_of_mem_hash h

/-! ### The texts of an answer -/

section Answer

variable (ch : Challenge) (c : Credential) (nonce method uri : String) (a : Algorithm)
  (p : Protection)

/-- The response that an answer gives. -/
def answerResponse : String :=
  digestResponse a c (ch.realm?.getD "") nonce method uri (if ch.offersAuth then some p else none)

/-- The texts of an answer that depend on what the challenge offers. -/
def offerTexts : List String :=
  (if ch.algorithm?.isSome then ["algorithm=" ++ a.name] else []) ++
    if ch.offersAuth then
      ["qop=auth", "nc=" ++ p.count, quotedDirective "cnonce" p.clientNonce]
    else []

/-- The directives of an answer that depend on what the challenge offers. -/
def offerDirectives : List Directive :=
  (if ch.algorithm?.isSome then [("algorithm", a.name)] else []) ++
    if ch.offersAuth then [("qop", "auth"), ("nc", p.count), ("cnonce", p.clientNonce)] else []

/-- The text by which an answer sends the opaque value back. -/
def opaqueTexts : List String :=
  ch.opaqueValue?.toList.map (quotedDirective "opaque")

/-- The directives of an answer with a response. -/
def answerDirectives (response : String) : List Directive :=
  [("username", c.username), ("realm", ch.realm?.getD ""), ("nonce", nonce), ("uri", uri),
    ("response", response)] ++
  offerDirectives ch a p ++ ch.opaqueValue?.toList.map ("opaque", ·)

/-- The texts of an answer. -/
def answerTexts : List String :=
  [quotedDirective "username" (escapeQuotes c.username),
    quotedDirective "realm" (escapeQuotes (ch.realm?.getD "")),
    quotedDirective "nonce" nonce,
    quotedDirective "uri" uri,
    quotedDirective "response" (answerResponse ch c nonce method uri a p)] ++
  offerTexts ch a p ++ opaqueTexts ch

end Answer

variable {ch : Challenge} {c : Credential} {nonce method uri : String} {a : Algorithm}
  {p : Protection}

theorem isPlain_answerResponse (ch : Challenge) (c : Credential) (nonce method uri : String)
    (a : Algorithm) (p : Protection) :
    isPlain (answerResponse ch c nonce method uri a p) = true := by
  rw [isPlain, List.all_eq_true]
  intro d hd
  obtain ⟨m, rfl⟩ := eq_digit_of_mem_digestResponse hd
  exact (digit_plain m).1

theorem isSeparator_answerResponse {d : Char}
    (hd : d ∈ (answerResponse ch c nonce method uri a p).toList) : isSeparator d = false := by
  obtain ⟨m, rfl⟩ := eq_digit_of_mem_digestResponse hd
  exact (digit_plain m).2

theorem digestAuthorization_eq (hnonce : ch.nonce? = some nonce)
    (halgorithm : Algorithm.ofName? ch.algorithm? = .ok a) :
    digestAuthorization ch c method uri p =
      .ok ("Digest " ++ ", ".intercalate (answerTexts ch c nonce method uri a p)) := by
  rw [digestAuthorization, hnonce, halgorithm]
  simp only [answerTexts, answerResponse, offerTexts, opaqueTexts, List.append_assoc]
  cases ch.opaqueValue? <;> rfl

theorem exists_of_digestAuthorization {p : Protection} {header : String}
    (h : digestAuthorization ch c method uri p = .ok header) :
    ∃ nonce a, ch.nonce? = some nonce ∧ Algorithm.ofName? ch.algorithm? = .ok a := by
  rw [digestAuthorization] at h
  cases hnonce : ch.nonce? with
  | none =>
    rw [hnonce] at h
    cases h
  | some nonce =>
    cases halgorithm : Algorithm.ofName? ch.algorithm? with
    | error e =>
      rw [hnonce, halgorithm] at h
      cases h
    | ok a => exact ⟨nonce, a, rfl, rfl⟩

/-! ### The directives of an answer -/

theorem Algorithm.isBare_name (a : Algorithm) : IsBare a.name := by
  cases a <;> decide

theorem Protection.isBare_count (count : UInt32) (clientNonce : String) :
    IsBare (Protection.of count clientNonce).count := by
  have hdigit : ∀ c ∈ (Protection.of count clientNonce).count.toList, ∃ m, c = digit m := by
    intro c hc
    rw [Protection.of, String.toList_ofList] at hc
    exact eq_digit_of_mem_lowDigits hc
  constructor
  · rw [List.all_eq_true]
    intro c hc
    obtain ⟨m, rfl⟩ := hdigit c hc
    rw [(digit_plain m).2]
    rfl
  · intro hquote
    obtain ⟨m, hm⟩ := hdigit '"' (List.mem_of_head? hquote)
    have hplain := (digit_plain m).1
    rw [← hm] at hplain
    exact absurd hplain (by decide)

theorem writes_offer (ch : Challenge) (a : Algorithm) (count : UInt32) {clientNonce : String}
    (hclient : isPlain clientNonce = true) :
    List.Forall₂ Writes (offerTexts ch a (.of count clientNonce))
      (offerDirectives ch a (.of count clientNonce)) := by
  have halgorithm : Writes ("algorithm" ++ "=" ++ a.name) ("algorithm", a.name) :=
    writes_bare (by decide) a.isBare_name
  have hqop : Writes ("qop" ++ "=" ++ "auth") ("qop", "auth") :=
    writes_bare (by decide) (by decide)
  have hcount : Writes ("nc" ++ "=" ++ (Protection.of count clientNonce).count)
      ("nc", (Protection.of count clientNonce).count) :=
    writes_bare (by decide) (Protection.isBare_count count clientNonce)
  have hcnonce : Writes (quotedDirective "cnonce" clientNonce) ("cnonce", clientNonce) :=
    writes_plain (by decide) hclient
  refine List.rel_append ?_ ?_
  · split
    · exact .cons halgorithm .nil
    · exact .nil
  · split
    · exact .cons hqop (.cons hcount (.cons hcnonce .nil))
    · exact .nil

theorem writes_opaqueTexts (hecho : ∀ value ∈ ch.opaqueValue?, isPlain value = true) :
    List.Forall₂ Writes (opaqueTexts ch) (ch.opaqueValue?.toList.map ("opaque", ·)) := by
  rw [opaqueTexts]
  cases h : ch.opaqueValue? with
  | none => exact .nil
  | some value => exact .cons (writes_plain (by decide) (hecho value h)) .nil

theorem endsVisibly_answerTexts (ch : Challenge) (c : Credential) (nonce method uri : String)
    (a : Algorithm) (count : UInt32) (clientNonce : String) :
    ∀ text ∈ answerTexts ch c nonce method uri a (.of count clientNonce),
      EndsVisibly text.toList := by
  have halgorithm : EndsVisibly ("algorithm=" ++ a.name).toList :=
    endsVisibly_bare "algorithm" a.isBare_name
  have hauth : IsBare "auth" := by decide
  have hqop : EndsVisibly "qop=auth".toList := endsVisibly_bare "qop" hauth
  have hcount : EndsVisibly ("nc=" ++ (Protection.of count clientNonce).count).toList :=
    endsVisibly_bare "nc" (Protection.isBare_count count clientNonce)
  intro text htext
  rw [answerTexts, offerTexts, List.mem_append, List.mem_append, List.mem_append] at htext
  rcases htext with (hfixed | halg | hauth) | hecho
  · simp only [List.mem_cons, List.not_mem_nil, or_false] at hfixed
    rcases hfixed with rfl | rfl | rfl | rfl | rfl <;> exact endsVisibly_quotedDirective ..
  · split at halg
    · rw [List.mem_singleton] at halg
      exact halg ▸ halgorithm
    · cases halg
  · split at hauth
    · simp only [List.mem_cons, List.not_mem_nil, or_false] at hauth
      rcases hauth with rfl | rfl | rfl
      · exact hqop
      · exact hcount
      · exact endsVisibly_quotedDirective ..
    · cases hauth
  · obtain ⟨value, -, rfl⟩ := List.mem_map.mp hecho
    exact endsVisibly_quotedDirective "opaque" value

/-- A digest answer is read as a digest challenge with the directives of its texts. -/
theorem parse_digestAuthorization (hnonce : ch.nonce? = some nonce)
    (halgorithm : Algorithm.ofName? ch.algorithm? = .ok a) (c : Credential) (method uri : String)
    (count : UInt32) (clientNonce : String) :
    ∃ header, digestAuthorization ch c method uri (.of count clientNonce) = .ok header ∧
      Challenge.parse header = .ok ⟨header, .digest,
        directives (enumerated (answerTexts ch c nonce method uri a (.of count clientNonce)))⟩ :=
  ⟨_, digestAuthorization_eq hnonce halgorithm,
    parse_answer (by simp [answerTexts])
      (endsVisibly_answerTexts ch c nonce method uri a count clientNonce)⟩

/-- The texts of an answer read as its directives if the values that are not escaped need not
be. -/
theorem directives_answerTexts (ch : Challenge) (c : Credential) (method : String) (a : Algorithm)
    (count : UInt32) (hnonce : isPlain nonce = true) (huri : isPlain uri = true)
    {clientNonce : String} (hclient : isPlain clientNonce = true)
    (hecho : ∀ value ∈ ch.opaqueValue?, isPlain value = true) :
    directives (enumerated (answerTexts ch c nonce method uri a (.of count clientNonce))) =
      answerDirectives ch c nonce uri a (.of count clientNonce)
        (answerResponse ch c nonce method uri a (.of count clientNonce)) := by
  have hfixed : List.Forall₂ Writes
      [quotedDirective "username" (escapeQuotes c.username),
        quotedDirective "realm" (escapeQuotes (ch.realm?.getD "")),
        quotedDirective "nonce" nonce,
        quotedDirective "uri" uri,
        quotedDirective "response" (answerResponse ch c nonce method uri a (.of count clientNonce))]
      [("username", c.username), ("realm", ch.realm?.getD ""), ("nonce", nonce), ("uri", uri),
        ("response", answerResponse ch c nonce method uri a (.of count clientNonce))] :=
    .cons (writes_escaped (by decide) _) <| .cons (writes_escaped (by decide) _) <|
      .cons (writes_plain (by decide) hnonce) <| .cons (writes_plain (by decide) huri) <|
      .cons (writes_plain (by decide) (isPlain_answerResponse ..)) .nil
  have hwrites : List.Forall₂ Writes (answerTexts ch c nonce method uri a (.of count clientNonce))
      (answerDirectives ch c nonce uri a (.of count clientNonce)
        (answerResponse ch c nonce method uri a (.of count clientNonce))) :=
    List.rel_append (List.rel_append hfixed (writes_offer ch a count hclient))
      (writes_opaqueTexts hecho)
  exact directives_enumerated hwrites

/-- A digest answer is read as the directives that it is meant to give. -/
theorem answer_read_back (hnonce : ch.nonce? = some nonce)
    (halgorithm : Algorithm.ofName? ch.algorithm? = .ok a) (c : Credential) (method : String)
    (count : UInt32) {clientNonce : String} (hplain : isPlain nonce = true)
    (huri : isPlain uri = true) (hclient : isPlain clientNonce = true)
    (hecho : ∀ value ∈ ch.opaqueValue?, isPlain value = true) :
    ∃ header answer,
      digestAuthorization ch c method uri (.of count clientNonce) = .ok header ∧
      Challenge.parse header = .ok answer ∧ answer.scheme = .digest ∧
      answer.directives = answerDirectives ch c nonce uri a (.of count clientNonce)
        (answerResponse ch c nonce method uri a (.of count clientNonce)) := by
  obtain ⟨header, hheader, hparse⟩ :=
    parse_digestAuthorization hnonce halgorithm c method uri count clientNonce
  exact ⟨header, _, hheader, hparse, rfl,
    directives_answerTexts ch c method a count hplain huri hclient hecho⟩

/-! ### Looking directives up -/

theorem nodup_answerDirectives (ch : Challenge) (c : Credential) (nonce uri : String)
    (a : Algorithm) (p : Protection) (response : String) :
    ((answerDirectives ch c nonce uri a p response).map Prod.fst).Nodup := by
  rw [answerDirectives, offerDirectives]
  cases ch.algorithm?.isSome <;> cases ch.offersAuth <;> cases ch.opaqueValue? <;> simp

theorem Challenge.directive?_of_mem {answer : Challenge} {name value : String}
    (hnodup : (answer.directives.map Prod.fst).Nodup) (hmem : (name, value) ∈ answer.directives)
    (hname : lower name = name) : answer.directive? name = some value := by
  obtain ⟨before, after, hsplit⟩ := List.append_of_mem hmem
  rw [Challenge.directive?, hname, List.lookup_eq_some_iff]
  refine ⟨after.reverse, before.reverse, by simp [hsplit], ?_⟩
  intro d hd
  rw [hsplit, List.map_append, List.map_cons, List.nodup_append, List.nodup_cons] at hnodup
  have hafter : d.1 ∈ after.map Prod.fst := List.mem_map_of_mem (List.mem_reverse.mp hd)
  rw [bne_iff_ne]
  rintro rfl
  exact hnodup.2.1.1 hafter

theorem lookup_reverse_eq_none {ds : List Directive} {name : String}
    (hmem : name ∉ ds.map Prod.fst) : ds.reverse.lookup name = none := by
  rw [List.lookup_eq_none_iff]
  intro d hd
  rw [bne_iff_ne]
  rintro rfl
  exact hmem (List.mem_map_of_mem (List.mem_reverse.mp hd))

theorem Challenge.directive?_of_not_mem {answer : Challenge} {name : String}
    (hmem : name ∉ answer.directives.map Prod.fst) (hname : lower name = name) :
    answer.directive? name = none := by
  rw [Challenge.directive?, hname, lookup_reverse_eq_none hmem]

section Read

variable {answer : Challenge} {name value response : String}
  (hdirectives : answer.directives = answerDirectives ch c nonce uri a p response)

include hdirectives

theorem directive?_of_mem_answer
    (hmem : (name, value) ∈ answerDirectives ch c nonce uri a p response)
    (hname : lower name = name) : answer.directive? name = some value := by
  refine Challenge.directive?_of_mem ?_ (hdirectives ▸ hmem) hname
  rw [hdirectives]
  exact nodup_answerDirectives ch c nonce uri a p response

theorem directive?_of_not_mem_answer
    (hmem : name ∉ (answerDirectives ch c nonce uri a p response).map Prod.fst)
    (hname : lower name = name) : answer.directive? name = none :=
  Challenge.directive?_of_not_mem (hdirectives ▸ hmem) hname

theorem nonce?_of_directives : answer.nonce? = some nonce :=
  directive?_of_mem_answer hdirectives (by simp [answerDirectives]) (by decide)

theorem opaqueValue?_of_directives : answer.opaqueValue? = ch.opaqueValue? := by
  cases hvalue : ch.opaqueValue? with
  | none =>
    refine directive?_of_not_mem_answer hdirectives ?_ (by decide)
    rw [answerDirectives, offerDirectives, hvalue]
    cases ch.algorithm?.isSome <;> cases ch.offersAuth <;> simp
  | some value =>
    exact directive?_of_mem_answer hdirectives (by simp [answerDirectives, hvalue]) (by decide)

/-- The hash function is given back by its own name, if the challenge gave it one. -/
theorem algorithm?_of_directives : answer.algorithm? = ch.algorithm?.map fun _ => a.name := by
  cases hname : ch.algorithm? with
  | none =>
    exact directive?_of_not_mem_answer hdirectives
      (by simp [answerDirectives, offerDirectives, hname]) (by decide)
  | some name =>
    exact directive?_of_mem_answer hdirectives
      (by simp [answerDirectives, offerDirectives, hname]) (by decide)

end Read

/-! ### The server -/

/-- The hash function by its name in an answer; without a name it is MD5. -/
def Algorithm.named? : Option String → Option Algorithm
  | none => some .md5
  | some name => [Algorithm.md5, .sha256].find? (·.name = name)

/-- The response that a server expects in an answer: computed from the directives of the answer,
the password of its user and the method of the request.  An answer that gives no user name,
realm, nonce or address, or names a hash function that is not known, or asks for protection
without count and nonce of its own, has none. -/
def expectedResponse (answer : Challenge) (password method : String) : Option String := do
  let username ← answer.directive? "username"
  let realm ← answer.realm?
  let nonce ← answer.nonce?
  let uri ← answer.directive? "uri"
  let a ← Algorithm.named? answer.algorithm?
  let user := a.hash (username ++ ":" ++ realm ++ ":" ++ password)
  let request := a.hash (method ++ ":" ++ uri)
  match answer.directive? "qop" with
  | none => some (a.hash (user ++ ":" ++ nonce ++ ":" ++ request))
  | some quality =>
    let count ← answer.directive? "nc"
    let clientNonce ← answer.directive? "cnonce"
    some (a.hash (user ++ ":" ++ nonce ++ ":" ++ count ++ ":" ++ clientNonce ++ ":" ++ quality ++
      ":" ++ request))

theorem Algorithm.named?_name (a : Algorithm) : named? (some a.name) = some a := by
  cases a <;> decide

/-- A server that is given the directives of an answer expects its response. -/
theorem expectedResponse_of_directives {answer : Challenge} {response : String}
    (hdirectives : answer.directives = answerDirectives ch c nonce uri a p response)
    (halgorithm : Algorithm.ofName? ch.algorithm? = .ok a) :
    expectedResponse answer c.password method =
      some (answerResponse ch c nonce method uri a p) := by
  have husername : answer.directive? "username" = some c.username :=
    directive?_of_mem_answer hdirectives (by simp [answerDirectives]) (by decide)
  have hrealm : answer.realm? = some (ch.realm?.getD "") :=
    directive?_of_mem_answer hdirectives (by simp [answerDirectives]) (by decide)
  have hnonce : answer.nonce? = some nonce := nonce?_of_directives hdirectives
  have huri : answer.directive? "uri" = some uri :=
    directive?_of_mem_answer hdirectives (by simp [answerDirectives]) (by decide)
  have hnamed : Algorithm.named? answer.algorithm? = some a := by
    rw [algorithm?_of_directives hdirectives]
    cases hname : ch.algorithm? with
    | none =>
      -- both sides take MD5
      rw [hname] at halgorithm
      cases halgorithm
      rfl
    | some name => exact a.named?_name
  rw [expectedResponse, husername, hrealm, hnonce, huri, hnamed]
  simp only [Option.bind_eq_bind, Option.bind_some, answerResponse]
  -- the client protects the response, and says so, if the challenge offers it
  cases hauth : ch.offersAuth with
  | false =>
    have hqop : answer.directive? "qop" = none :=
      directive?_of_not_mem_answer hdirectives
        (by simp [answerDirectives, offerDirectives, hauth]) (by decide)
    rw [hqop]
    rfl
  | true =>
    have hmem : ∀ d ∈ [("qop", "auth"), ("nc", p.count), ("cnonce", p.clientNonce)],
        d ∈ answerDirectives ch c nonce uri a p response := by
      simp [answerDirectives, offerDirectives, hauth]
    have hqop : answer.directive? "qop" = some "auth" :=
      directive?_of_mem_answer hdirectives (hmem _ (by simp)) (by decide)
    have hcount : answer.directive? "nc" = some p.count :=
      directive?_of_mem_answer hdirectives (hmem _ (by simp)) (by decide)
    have hclient : answer.directive? "cnonce" = some p.clientNonce :=
      directive?_of_mem_answer hdirectives (hmem _ (by simp)) (by decide)
    have hquality : ":auth:" = ":" ++ "auth" ++ ":" := rfl
    rw [hqop]
    simp only [hcount, hclient, Option.bind_some, if_true, digestResponse, hquality,
      String.append_assoc]

/-- The hash function that a challenge names has that name in answers, but for the case. -/
theorem Algorithm.sameIgnoringCase_name {name : String}
    (h : Algorithm.ofName? (some name) = .ok a) : sameIgnoringCase name a.name = true := by
  rw [Algorithm.ofName?] at h
  split at h
  · cases h
    assumption
  · split at h
    · cases h
      assumption
    · cases h

/-- A server that reads a digest answer as it would a challenge finds what the client meant, and
no more; and the response that it computes from this and the password is the one it was given. -/
theorem digest_answer_checks (hnonce : ch.nonce? = some nonce)
    (halgorithm : Algorithm.ofName? ch.algorithm? = .ok a) (c : Credential) (method : String)
    (count : UInt32) {clientNonce : String} (hplain : isPlain nonce = true)
    (huri : isPlain uri = true) (hclient : isPlain clientNonce = true)
    (hecho : ∀ value ∈ ch.opaqueValue?, isPlain value = true) :
    ∃ header answer response,
      digestAuthorization ch c method uri (.of count clientNonce) = .ok header ∧
      Challenge.parse header = .ok answer ∧
      answer.scheme = .digest ∧
      answer.directives = answerDirectives ch c nonce uri a (.of count clientNonce) response ∧
      (answer.directives.map Prod.fst).Nodup ∧
      (∀ name ∈ ch.algorithm?, sameIgnoringCase name a.name = true) ∧
      expectedResponse answer c.password method = some response := by
  obtain ⟨header, answer, hheader, hparse, hscheme, hdirectives⟩ :=
    answer_read_back hnonce halgorithm c method count hplain huri hclient hecho
  refine ⟨header, answer, _, hheader, hparse, hscheme, hdirectives, ?_, ?_, ?_⟩
  · rw [hdirectives]
    exact nodup_answerDirectives ..
  · intro name hname
    rw [hname] at halgorithm
    exact Algorithm.sameIgnoringCase_name halgorithm
  · exact expectedResponse_of_directives hdirectives halgorithm

/-- A challenge that offers protection and wants a value back, with a realm in need of escapes. -/
def protectedChallenge : Challenge :=
  ⟨"Digest realm=\"a\\\"\", nonce=\"n\", qop=\"auth-int,auth\", opaque=\"o=1\", algorithm=sha-256",
    .digest,
    [("realm", "a\""), ("nonce", "n"), ("qop", "auth-int,auth"), ("opaque", "o=1"),
      ("algorithm", "sha-256")]⟩

/-- Quotes, commas and backslashes in user name and realm add no directives and hide none. -/
theorem digest_answer_checks_of_protected :
    ∃ header answer response,
      digestAuthorization protectedChallenge ⟨"u\", nonce=\"x\\", "p"⟩ "GET" "/f" (.of 1 "c") =
        .ok header ∧
      Challenge.parse header = .ok answer ∧
      answer.directives =
        [("username", "u\", nonce=\"x\\"), ("realm", "a\""), ("nonce", "n"),
          ("uri", "/f"), ("response", response), ("algorithm", "SHA-256"), ("qop", "auth"),
          ("nc", "00000001"), ("cnonce", "c"), ("opaque", "o=1")] ∧
      expectedResponse answer "p" "GET" = some response := by
  have hnonce : protectedChallenge.nonce? = some "n" := by decide
  have halgorithm : Algorithm.ofName? protectedChallenge.algorithm? = .ok .sha256 := by decide
  have hplain : isPlain "n" = true := by decide
  have huri : isPlain "/f" = true := by decide
  have hclient : isPlain "c" = true := by decide
  have hecho : ∀ value ∈ protectedChallenge.opaqueValue?, isPlain value = true := by decide
  obtain ⟨header, answer, response, hheader, hparse, -, hdirectives, -, -, hexpected⟩ :=
    digest_answer_checks hnonce halgorithm ⟨"u\", nonce=\"x\\", "p"⟩ "GET" 1 hplain huri hclient
      hecho
  exact ⟨header, answer, response, hheader, hparse, hdirectives, hexpected⟩

/-- A challenge that names its hash function in lower case. -/
def lowerCaseChallenge : Challenge :=
  ⟨"Digest realm=\"r\", nonce=\"n\", algorithm=md5", .digest,
    [("realm", "r"), ("nonce", "n"), ("algorithm", "md5")]⟩

theorem parse_lowerCaseChallenge :
    Challenge.parse lowerCaseChallenge.raw = .ok lowerCaseChallenge := by
  have hwrites : List.Forall₂ Writes
      [quotedDirective "realm" "r", quotedDirective "nonce" "n", "algorithm" ++ "=" ++ "md5"]
      lowerCaseChallenge.directives :=
    .cons (writes_plain (by decide) (by decide)) <|
      .cons (writes_plain (by decide) (by decide)) <|
      .cons (writes_bare (by decide) (by decide)) .nil
  have hraw : lowerCaseChallenge.raw = "Digest " ++ ", ".intercalate
      [quotedDirective "realm" "r", quotedDirective "nonce" "n", "algorithm" ++ "=" ++ "md5"] := by
    decide
  rw [hraw, parse_written hwrites (List.cons_ne_nil _ _), ← hraw]
  rfl

/-- The name of the hash function is not sent back as the challenge gave it. -/
theorem digest_answer_algorithm_not :
    ¬ ∀ (ch answer : Challenge) (a : Algorithm) (nonce uri clientNonce header : String)
      (c : Credential) (method : String) (count : UInt32),
      Challenge.parse ch.raw = .ok ch → ch.nonce? = some nonce →
      Algorithm.ofName? ch.algorithm? = .ok a →
      isPlain nonce = true → isPlain uri = true → isPlain clientNonce = true →
      (∀ value ∈ ch.opaqueValue?, isPlain value = true) →
      digestAuthorization ch c method uri (.of count clientNonce) = .ok header →
      Challenge.parse header = .ok answer → answer.algorithm? = ch.algorithm? := by
  intro h
  have hnonce : lowerCaseChallenge.nonce? = some "n" := by decide
  have halgorithm : Algorithm.ofName? lowerCaseChallenge.algorithm? = .ok .md5 := by decide
  have hplain : isPlain "n" = true := by decide
  have huri : isPlain "/" = true := by decide
  have hclient : isPlain "c" = true := by decide
  have hecho : ∀ value ∈ lowerCaseChallenge.opaqueValue?, isPlain value = true := by decide
  obtain ⟨header, answer, hheader, hparse, -, hdirectives⟩ :=
    answer_read_back hnonce halgorithm ⟨"u", "p"⟩ "GET" 1 hplain huri hclient hecho
  have hsame := h _ _ _ _ _ _ _ _ _ _ parse_lowerCaseChallenge hnonce halgorithm hplain huri
    hclient hecho hheader hparse
  rw [algorithm?_of_directives hdirectives] at hsame
  exact absurd hsame (by decide)

end RemoteFiles.Auth
