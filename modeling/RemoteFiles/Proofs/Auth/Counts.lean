import RemoteFiles.Proofs.Auth.Challenge
import RemoteFiles.Proofs.Auth.Digest
import RemoteFiles.Proofs.Auth.Turns
import RemoteFiles.Proofs.Text.Hex

/-!
# Counts of protected answers

A digest answer with protection carries a count beside the nonce.  `counts_since_change` says
which: how many tokens were asked for by somebody who was logged in since the text of the
challenge in effect changed, as eight hexadecimal digits.  Nothing but such a change starts the
count anew, and nothing but such a token advances it.

`Since before during` cuts a past where the text changed last, `asked before during` is the
number, and `Lived.count_eq` is the invariant that ties a session to it.  That a token carries
one count only, whatever the service put into nonce and realm, is `Carries.unique`: all that
stands before the count in an answer has the same length whatever the count is.
-/

namespace RemoteFiles.Auth

open RemoteFiles.Text.Hex (lowDigits lowerDigits)

/-! ### Where the text changed -/

/-- The text of the challenge in effect changed at the latest turn. -/
def Changes : List Turn → Prop
  | [] => False
  | turn :: past => (inEffect (turn :: past)).raw ≠ (inEffect past).raw

/-- The text of the challenge in effect changed at none of the turns `during`, which came after
`before`. -/
def Steady (before : List Turn) : List Turn → Prop
  | [] => True
  | turn :: earlier => ¬ Changes (turn :: (earlier ++ before)) ∧ Steady before earlier

/-- The turns `during`, which came after `before`, are those since the text of the challenge in
effect changed last, or since the start. -/
structure Since (before during : List Turn) : Prop where
  begins : before = [] ∨ Changes before
  steady : Steady before during

/-- How many tokens were asked for at the turns `during`, which came after `before`, while
somebody was logged in. -/
def asked (before : List Turn) : List Turn → Nat
  | [] => 0
  | .made .. :: earlier =>
    if (holder (earlier ++ before)).isSome then asked before earlier + 1 else asked before earlier
  | .logged _ :: earlier => asked before earlier
  | .told _ :: earlier => asked before earlier

/-- A token was made and given. -/
def Turn.gives : Turn → Bool
  | made _ _ token => token.isSome
  | _ => false

theorem steady_append {before during earlier : List Turn} :
    Steady before (during ++ earlier) ↔
      Steady (earlier ++ before) during ∧ Steady before earlier := by
  induction during with
  | nil => exact ⟨fun h => ⟨trivial, h⟩, And.right⟩
  | cons turn during ih =>
    rw [List.cons_append, Steady, Steady, ih, List.append_assoc, and_assoc]

/-- Every past can be cut where the text changed last. -/
theorem exists_since (past : List Turn) :
    ∃ before during, past = during ++ before ∧ Since before during := by
  induction past with
  | nil => exact ⟨[], [], rfl, .inl rfl, trivial⟩
  | cons turn past ih =>
    by_cases hchanges : Changes (turn :: past)
    · exact ⟨turn :: past, [], rfl, .inr hchanges, trivial⟩
    · obtain ⟨before, during, rfl, since⟩ := ih
      exact ⟨before, turn :: during, rfl, since.begins, hchanges, since.steady⟩

/-- The challenge in effect is the one that its text reads as. -/
theorem parse_inEffect (past : List Turn) :
    Challenge.parse (inEffect past).raw = .ok (inEffect past) := by
  induction past with
  | nil => exact Challenge.parse_basic
  | cons turn past ih =>
    cases turn with
    | logged | made => exact ih
    | told raw =>
      rw [inEffect]
      cases hread : raw.bind fun text => (Challenge.parse text).toOption with
      | none => exact ih
      | some ch =>
        obtain ⟨text, -, htext⟩ := Option.bind_eq_some_iff.mp hread
        have hparse : Challenge.parse text = .ok ch := by
          cases h : Challenge.parse text with
          | error e =>
            rw [h] at htext
            cases htext
          | ok ch' =>
            rw [h] at htext
            cases htext
            rfl
        exact Challenge.parse_raw hparse

/-- As long as the text does not change, neither does the challenge. -/
theorem inEffect_eq_of_not_changes {turn : Turn} {past : List Turn}
    (h : ¬ Changes (turn :: past)) : inEffect (turn :: past) = inEffect past :=
  Challenge.eq_of_raw_eq (parse_inEffect _) (parse_inEffect _) (not_not.mp h)

theorem Steady.inEffect_eq {before during : List Turn} (h : Steady before during) :
    inEffect (during ++ before) = inEffect before := by
  induction during with
  | nil => rfl
  | cons turn earlier ih => exact (inEffect_eq_of_not_changes h.1).trans (ih h.2)

/-- The text changes when a challenge comes that can be read and has another text, and at no other
turn. -/
theorem changes_iff {turn : Turn} {past : List Turn} :
    Changes (turn :: past) ↔ ∃ text ch, turn = .told (some text) ∧
      Challenge.parse text = .ok ch ∧ ch.raw ≠ (inEffect past).raw := by
  constructor
  · intro hchanges
    cases turn with
    | logged | made => exact absurd rfl hchanges
    | told raw =>
      cases raw with
      | none => exact absurd rfl hchanges
      | some text =>
        rw [Changes, inEffect, Option.bind_some] at hchanges
        cases hparse : Challenge.parse text with
        | error e =>
          rw [hparse] at hchanges
          exact absurd rfl hchanges
        | ok ch =>
          rw [hparse] at hchanges
          exact ⟨text, ch, rfl, hparse, hchanges⟩
  · rintro ⟨text, ch, rfl, hparse, hraw⟩
    rw [Changes, inEffect, Option.bind_some, hparse]
    exact hraw

theorem not_changes_of_inEffect_eq {turn : Turn} {past : List Turn}
    (h : inEffect (turn :: past) = inEffect past) : ¬ Changes (turn :: past) :=
  not_not_intro (congrArg Challenge.raw h)

/-! ### The count of a session -/

theorem answer_count (s : Session) (clientNonce method uri : String) :
    (s.answer clientNonce method uri).2.count =
      if s.credential.isSome then s.count + 1 else s.count := by
  unfold Session.answer
  split <;> simp_all

/-- A session has counted what was asked for since the text changed. -/
theorem Lived.count_eq {past before during : List Turn} {s : Session} (lived : Lived past s)
    (hpast : past = during ++ before) (since : Since before during) :
    s.count = UInt32.ofNat (asked before during) := by
  -- a turn that changes nothing does not begin a period
  have extend : ∀ {turn : Turn} {past : List Turn},
      inEffect (turn :: past) = inEffect past →
      ∀ {during}, turn :: past = during ++ before → Since before during →
      ∃ earlier, during = turn :: earlier ∧ past = earlier ++ before ∧ Since before earlier := by
    intro turn past hsame during hpast since
    cases during with
    | nil =>
      obtain rfl : turn :: past = before := hpast
      exact absurd (since.begins.resolve_left (List.cons_ne_nil _ _))
        (not_changes_of_inEffect_eq hsame)
    | cons turn' earlier =>
      obtain ⟨rfl, htail⟩ := List.cons_eq_cons.mp hpast
      exact ⟨earlier, rfl, htail, since.begins, since.steady.2⟩
  induction lived generalizing during with
  | start =>
    obtain ⟨rfl, -⟩ := List.nil_eq_append_iff.mp hpast
    rfl
  | accepted token identity _ ih => exact ih hpast since
  | @logged past s credential _ ih =>
    obtain ⟨earlier, rfl, hpast, since⟩ := extend rfl hpast since
    rw [asked]
    exact ih hpast since
  | @made past s clientNonce method uri lived ih =>
    obtain ⟨earlier, rfl, hpast, since⟩ := extend rfl hpast since
    rw [answer_count, ih hpast since, lived.credential_eq, hpast, asked]
    split
    · rw [UInt32.ofNat_add]
      rfl
    · rfl
  | @told past s raw lived ih =>
    have hcount := challenged_count s raw
    have hafter : (s.challenged raw).challenge = inEffect (.told raw :: past) :=
      (lived.told raw).challenge_eq
    rw [hafter, lived.challenge_eq] at hcount
    by_cases hsame : inEffect (.told raw :: past) = inEffect past
    · obtain ⟨earlier, rfl, hpast, since⟩ := extend hsame hpast since
      rw [hcount, if_neg (not_not_intro hsame), ih hpast since]
      rfl
    · rw [hcount, if_pos hsame]
      cases during with
      | nil => rfl
      | cons turn earlier =>
        obtain ⟨rfl, rfl⟩ := List.cons_eq_cons.mp hpast
        exact absurd (inEffect_eq_of_not_changes since.steady.1) hsame

/-! ### Tokens of a past -/

theorem Lived.of_append {later past : List Turn} {s : Session} (lived : Lived (later ++ past) s) :
    ∃ s', Lived past s' := by
  obtain ⟨whole, hwhole⟩ : ∃ whole, whole = later ++ past := ⟨_, rfl⟩
  rw [← hwhole] at lived
  induction lived generalizing later with
  | start =>
    obtain ⟨-, rfl⟩ := List.nil_eq_append_iff.mp hwhole
    exact ⟨_, .start⟩
  | accepted token identity _ ih => exact ih hwhole
  | logged credential lived ih =>
    cases later with
    | nil => exact ⟨_, hwhole ▸ lived.logged credential⟩
    | cons turn later => exact ih (List.cons_eq_cons.mp hwhole).2
  | made clientNonce method uri lived ih =>
    cases later with
    | nil => exact ⟨_, hwhole ▸ lived.made clientNonce method uri⟩
    | cons turn later => exact ih (List.cons_eq_cons.mp hwhole).2
  | told raw lived ih =>
    cases later with
    | nil => exact ⟨_, hwhole ▸ lived.told raw⟩
    | cons turn later => exact ih (List.cons_eq_cons.mp hwhole).2

theorem Lived.of_cons {turn : Turn} {past : List Turn} {s : Session}
    (lived : Lived (turn :: past) s) : ∃ s', Lived past s' := by
  have happend : Lived ([turn] ++ past) s := lived
  exact happend.of_append

/-- A token was made by a session that the turns before it lead to. -/
theorem Lived.exists_answer {past : List Turn} {method uri : String} {token : Option String}
    {s : Session} (lived : Lived (.made method uri token :: past) s) :
    ∃ s' clientNonce, Lived past s' ∧ (s'.answer clientNonce method uri).1 = token := by
  obtain ⟨whole, hwhole⟩ : ∃ whole, whole = .made method uri token :: past := ⟨_, rfl⟩
  rw [← hwhole] at lived
  induction lived with
  | start => cases hwhole
  | accepted _ _ _ ih => exact ih hwhole
  | logged _ _ _ => cases hwhole
  | told _ _ _ => cases hwhole
  | @made past' s' clientNonce _ _ lived _ =>
    cases hwhole
    exact ⟨s', clientNonce, lived, rfl⟩

/-- Whether a challenge can be answered is a matter of the challenge alone. -/
theorem isSome_authorization {ch : Challenge} {c c' : Credential} {method method' uri uri' : String}
    {p p' : Protection} (h : (authorization ch c method uri p).toOption.isSome) :
    (authorization ch c' method' uri' p').toOption.isSome := by
  rw [authorization] at h ⊢
  cases hscheme : ch.scheme with
  | basic => rfl
  | other name =>
    rw [hscheme] at h
    exact h
  | digest =>
    simp only [hscheme] at h ⊢
    cases hheader : digestAuthorization ch c method uri p with
    | error e =>
      rw [hheader] at h
      cases h
    | ok header =>
      obtain ⟨nonce, a, hnonce, halgorithm⟩ := exists_of_digestAuthorization hheader
      rw [digestAuthorization_eq hnonce halgorithm]
      rfl

/-- Where the challenge in effect can be answered, a token is given exactly to those who are
logged in. -/
theorem Lived.isSome_made {past : List Turn} {method uri : String} {token : Option String}
    {s : Session} {c : Credential} {method' uri' : String} {p : Protection}
    (lived : Lived (.made method uri token :: past) s)
    (hanswers : (authorization (inEffect past) c method' uri' p).toOption.isSome) :
    token.isSome = (holder past).isSome := by
  obtain ⟨s', clientNonce, lived', rfl⟩ := lived.exists_answer
  rw [← lived'.credential_eq]
  rw [← lived'.challenge_eq] at hanswers
  cases hcredential : s'.credential with
  | none => simp [Session.answer, hcredential]
  | some credential =>
    have hgiven : (authorization s'.challenge credential method uri
        (.of (s'.count + 1) clientNonce)).toOption.isSome := isSome_authorization hanswers
    simp [Session.answer, hcredential, hgiven]

/-- Where the challenge can be answered, what was asked for was given. -/
theorem asked_eq_countP {before during : List Turn} {s : Session} {c : Credential}
    {method uri : String} {p : Protection} (lived : Lived (during ++ before) s)
    (steady : Steady before during)
    (hanswers : (authorization (inEffect before) c method uri p).toOption.isSome) :
    asked before during = during.countP Turn.gives := by
  induction during generalizing s with
  | nil => rfl
  | cons turn earlier ih =>
    rw [List.cons_append] at lived
    obtain ⟨s', lived'⟩ := lived.of_cons
    have hearlier : asked before earlier = earlier.countP Turn.gives := ih lived' steady.2
    cases turn with
    | logged | told => rw [asked, hearlier, List.countP_cons_of_neg Bool.false_ne_true]
    | made method' uri' token =>
      rw [← steady.2.inEffect_eq] at hanswers
      have hgiven := lived.isSome_made hanswers
      rw [asked, hearlier, List.countP_cons, Turn.gives, hgiven]
      split <;> rfl

/-! ### The count that a token carries -/

/-- The text is the count `n` in eight hexadecimal digits. -/
structure WritesCount (text : String) (n : Nat) : Prop where
  length_eq : text.length = 8
  digits : ∀ c ∈ text.toList, c ∈ lowerDigits
  value : Url.valueIn 16 text.toList = n

/-- A token that was made after the turns `past` is a digest answer with protection to the
challenge in effect, and what it carries as nonce and as count in eight places. -/
def Carries (past : List Turn) (method uri token nonce count : String) : Prop :=
  (inEffect past).scheme = .digest ∧ (inEffect past).offersAuth = true ∧
  (inEffect past).nonce? = some nonce ∧ count.length = 8 ∧
  ∃ credential clientNonce, holder past = some credential ∧
    digestAuthorization (inEffect past) credential method uri ⟨count, clientNonce⟩ = .ok token

theorem WritesCount.unique {text text' : String} {n : Nat} (h : WritesCount text n)
    (h' : WritesCount text' n) : text = text' := by
  have htext := Text.Hex.eq_lowDigits_valueIn h.digits
  have htext' := Text.Hex.eq_lowDigits_valueIn h'.digits
  rw [h.value, String.length_toList, h.length_eq] at htext
  rw [h'.value, String.length_toList, h'.length_eq] at htext'
  exact String.toList_inj.mp (htext.trans htext'.symm)

theorem writesCount_protection (n : UInt32) (clientNonce : String) :
    WritesCount (Protection.of n clientNonce).count n.toNat where
  length_eq := by rw [Protection.of, String.length_ofList, Text.Hex.length_lowDigits]
  digits c hc := by
    rw [Protection.of, String.toList_ofList] at hc
    exact Text.Hex.mem_lowerDigits_of_mem_lowDigits hc
  value := by
    rw [Protection.of, String.toList_ofList, Text.Hex.valueIn_lowDigits]
    exact Nat.mod_eq_of_lt n.toNat_lt

/-- How many digits the hash of a function has. -/
def Algorithm.hashLength : Algorithm → Nat
  | md5 => 32
  | sha256 => 64

theorem Algorithm.length_hash (a : Algorithm) (text : String) :
    (a.hash text).toList.length = a.hashLength := by
  have hencode : ∀ bytes : List UInt8,
      (Text.Hex.encode bytes).toList.length = 2 * bytes.length := by
    intro bytes
    rw [Text.Hex.encode, String.toList_ofList]
    induction bytes with
    | nil => rfl
    | cons b bytes ih =>
      rw [List.flatMap_cons, List.length_append, ih, List.length_cons, Text.Hex.byteDigits,
        List.length_cons, List.length_singleton]
      omega
  rw [hash, hencode]
  cases a with
  | md5 => rw [digest, Hash.Md5.length_digest]; rfl
  | sha256 => rw [digest, Hash.Sha256.length_digest]; rfl

theorem length_digestResponse (a : Algorithm) (c : Credential) (realm nonce method uri : String)
    (protection : Option Protection) :
    (digestResponse a c realm nonce method uri protection).toList.length = a.hashLength := by
  cases protection <;> exact a.length_hash _

/-- The parts of an answer with protection: only the response depends on the count that follows
it, and its length does not. -/
theorem exists_parts {ch : Challenge} (hauth : ch.offersAuth = true) (c : Credential)
    (method uri : String) :
    ∃ front between n, ∀ p header, digestAuthorization ch c method uri p = .ok header →
      ∃ response rest,
        header.toList = front ++ (response ++ (between ++ (p.count.toList ++ rest))) ∧
          response.length = n := by
  cases hnonce : ch.nonce? with
  | none =>
    refine ⟨[], [], 0, fun p header h => ?_⟩
    obtain ⟨nonce, a, hnonce', -⟩ := exists_of_digestAuthorization h
    rw [hnonce] at hnonce'
    cases hnonce'
  | some nonce =>
    cases halgorithm : Algorithm.ofName? ch.algorithm? with
    | error e =>
      refine ⟨[], [], 0, fun p header h => ?_⟩
      obtain ⟨nonce', a, -, halgorithm'⟩ := exists_of_digestAuthorization h
      rw [halgorithm] at halgorithm'
      cases halgorithm'
    | ok a =>
      let head := quotedDirective "username" (escapeQuotes c.username)
      let more := [quotedDirective "realm" (escapeQuotes (ch.realm?.getD "")),
        quotedDirective "nonce" nonce, quotedDirective "uri" uri]
      let algorithm := if ch.algorithm?.isSome then ["algorithm=" ++ a.name] else []
      refine ⟨"Digest ".toList ++ head.toList ++ enumerated more ++ ", response=\"".toList,
        '"' :: (enumerated algorithm ++ ", qop=auth, nc=".toList), a.hashLength,
        fun p header h => ?_⟩
      rw [digestAuthorization_eq hnonce halgorithm, Except.ok.injEq] at h
      refine ⟨(answerResponse ch c nonce method uri a p).toList,
        enumerated [quotedDirective "cnonce" p.clientNonce] ++ enumerated (opaqueTexts ch), ?_,
        length_digestResponse ..⟩
      have htexts : answerTexts ch c nonce method uri a p = head ::
          (more ++ [quotedDirective "response" (answerResponse ch c nonce method uri a p)] ++
            (algorithm ++ ["qop=auth", "nc=" ++ p.count, quotedDirective "cnonce" p.clientNonce] ++
              opaqueTexts ch)) := by
        rw [answerTexts, offerTexts, hauth, List.append_assoc]
        rfl
      rw [← h, htexts, String.toList_append, toList_intercalate_eq]
      simp only [enumerated_append, enumerated_cons, enumerated_nil, toList_quotedDirective]
      simp

/-- A token carries one nonce and one count. -/
theorem Carries.unique {past : List Turn} {method uri token nonce nonce' count count' : String}
    (h : Carries past method uri token nonce count)
    (h' : Carries past method uri token nonce' count') : nonce = nonce' ∧ count = count' := by
  obtain ⟨-, hauth, hnonce, hlength, c, clientNonce, hholder, htoken⟩ := h
  obtain ⟨-, -, hnonce', hlength', c', clientNonce', hholder', htoken'⟩ := h'
  obtain rfl : c = c' := Option.some.inj (hholder.symm.trans hholder')
  refine ⟨Option.some.inj (hnonce.symm.trans hnonce'), ?_⟩
  obtain ⟨front, between, n, hparts⟩ := exists_parts hauth c method uri
  obtain ⟨response, rest, heq, hresponse⟩ := hparts _ _ htoken
  obtain ⟨response', rest', heq', hresponse'⟩ := hparts _ _ htoken'
  have hrest := List.append_cancel_left (heq.symm.trans heq')
  obtain ⟨-, hrest⟩ := List.append_inj hrest (hresponse.trans hresponse'.symm)
  have hcounts := List.append_cancel_left hrest
  have hlengths : count.toList.length = count'.toList.length := by
    rw [String.length_toList, String.length_toList, hlength, hlength']
  exact String.toList_inj.mp (List.append_inj hcounts hlengths).1

/-- A token for a challenge that offers protection carries what was asked for since the text
changed. -/
theorem Lived.carries {before during : List Turn} {method uri token : String} {s : Session}
    (lived : Lived (.made method uri (some token) :: (during ++ before)) s)
    (since : Since before during) (hscheme : (inEffect before).scheme = .digest)
    (hauth : (inEffect before).offersAuth = true) :
    ∃ nonce count, Carries (during ++ before) method uri token nonce count ∧
      WritesCount count ((asked before during + 1) % 2 ^ 32) := by
  obtain ⟨s', clientNonce, lived', htoken⟩ := lived.exists_answer
  have hchallenge : s'.challenge = inEffect before :=
    lived'.challenge_eq.trans since.steady.inEffect_eq
  cases hcredential : s'.credential with
  | none =>
    rw [Session.answer, hcredential] at htoken
    cases htoken
  | some credential =>
    rw [Session.answer, hcredential] at htoken
    have hanswer : digestAuthorization (inEffect before) credential method uri
        (.of (s'.count + 1) clientNonce) = .ok token := by
      simp only [authorization, hchallenge, hscheme] at htoken
      cases h : digestAuthorization (inEffect before) credential method uri
          (.of (s'.count + 1) clientNonce) with
      | error e =>
        rw [h] at htoken
        cases htoken
      | ok header =>
        rw [h] at htoken
        cases htoken
        rfl
    obtain ⟨nonce, -, hnonce, -⟩ := exists_of_digestAuthorization hanswer
    have hwrites := writesCount_protection (s'.count + 1) clientNonce
    have hcount : (s'.count + 1).toNat = (asked before during + 1) % 2 ^ 32 := by
      rw [lived'.count_eq rfl since, UInt32.toNat_add, UInt32.toNat_ofNat']
      simp
    rw [← since.steady.inEffect_eq] at hscheme hauth hnonce hanswer
    refine ⟨nonce, _, ⟨hscheme, hauth, hnonce, hwrites.length_eq, credential, clientNonce, ?_,
      hanswer⟩, hcount ▸ hwrites⟩
    rw [← lived'.credential_eq, hcredential]

theorem Carries.answers {past : List Turn} {method uri token nonce count : String}
    (h : Carries past method uri token nonce count) (c : Credential) (method' uri' : String)
    (p : Protection) : (authorization (inEffect past) c method' uri' p).toOption.isSome := by
  obtain ⟨hscheme, -, -, -, credential, clientNonce, -, htoken⟩ := h
  have hanswer : (authorization (inEffect past) credential method uri
      ⟨count, clientNonce⟩).toOption.isSome := by
    rw [authorization, hscheme]
    simp only [htoken]
    rfl
  exact isSome_authorization hanswer

/-- Whoever is logged in gets such a token, if the challenge has a nonce and names no unknown hash
function. -/
theorem Lived.exists_carries {before during : List Turn} {method uri nonce : String}
    {token : Option String} {s : Session} {ch : Challenge} {a : Algorithm}
    (lived : Lived (.made method uri token :: (during ++ before)) s) (since : Since before during)
    (hchallenge : inEffect before = ch) (hscheme : ch.scheme = .digest)
    (hauth : ch.offersAuth = true) (hnonce : ch.nonce? = some nonce)
    (halgorithm : Algorithm.ofName? ch.algorithm? = .ok a)
    (hholder : (holder (during ++ before)).isSome) :
    ∃ text count, token = some text ∧ Carries (during ++ before) method uri text nonce count ∧
      WritesCount count ((asked before during + 1) % 2 ^ 32) := by
  have hanswer : (authorization ch ⟨"", ""⟩ "" "" ⟨"", ""⟩).toOption.isSome := by
    rw [authorization, hscheme]
    simp only [digestAuthorization_eq hnonce halgorithm]
    rfl
  rw [← hchallenge, ← since.steady.inEffect_eq] at hanswer
  have hgiven := lived.isSome_made hanswer
  rw [hholder] at hgiven
  obtain ⟨text, rfl⟩ := Option.isSome_iff_exists.mp hgiven
  obtain ⟨nonce', count, carries, hwrites⟩ :=
    lived.carries since (hchallenge ▸ hscheme) (hchallenge ▸ hauth)
  have hsame : some nonce' = some nonce := by
    rw [← carries.2.2.1, since.steady.inEffect_eq, hchallenge, hnonce]
  obtain rfl := Option.some.inj hsame
  exact ⟨text, count, rfl, carries, hwrites⟩

/-! ### Runs -/

variable {σ : Type}

/-- **Counts**: in every run, a token for a digest challenge that offers protection carries, in
eight hexadecimal digits, how many tokens were asked for by somebody who was logged in since the
text of the challenge in effect changed last or since the start, this one included, and up to a
multiple of `2 ^ 32`.  The text changes only when a challenge comes that can be read and has
another text.  All that was asked for meanwhile was given, so the tokens of such a time are
numbered from one on without gap as long as the digits suffice. -/
theorem counts_since_change (h : Host (StateM σ)) (directory : String) (s : σ)
    (actions : List Action) {later during before : List Turn} {method uri token : String}
    (hturns : turns h.service.requestUri (run h actions ⟨.startingIn directory, s⟩).1 =
      later ++ .made method uri (some token) :: (during ++ before))
    (since : Since before during) (hscheme : (inEffect before).scheme = .digest)
    (hauth : (inEffect before).offersAuth = true) :
    (∀ turn past, Changes (turn :: past) ↔ ∃ text ch, turn = .told (some text) ∧
      Challenge.parse text = .ok ch ∧ ch.raw ≠ (inEffect past).raw) ∧
    ∃ nonce count, Carries (during ++ before) method uri token nonce count ∧
      (∀ nonce' count', Carries (during ++ before) method uri token nonce' count' →
        nonce' = nonce ∧ count' = count) ∧
      WritesCount count ((asked before during + 1) % 2 ^ 32) ∧
      asked before during = during.countP Turn.gives ∧
      (during.countP Turn.gives < 2 ^ 32 - 1 →
        Url.valueIn 16 count.toList = during.countP Turn.gives + 1) := by
  have lived := lived_run h directory s actions
  rw [hturns] at lived
  obtain ⟨s', lived'⟩ := lived.of_append
  obtain ⟨nonce, count, carries, hwrites⟩ := lived'.carries since hscheme hauth
  have hanswers := carries.answers ⟨"", ""⟩ "" "" ⟨"", ""⟩
  rw [since.steady.inEffect_eq] at hanswers
  obtain ⟨s₀, lived₀⟩ := lived'.of_cons
  have hasked := asked_eq_countP lived₀ since.steady hanswers
  refine ⟨fun turn past => changes_iff, nonce, count, carries, ?_, hwrites, hasked, ?_⟩
  · intro nonce' count' carries'
    exact carries'.unique carries
  · intro hfew
    rw [hwrites.value, hasked]
    exact Nat.mod_eq_of_lt (by omega)

/-- A challenge that offers protection. -/
def offeredChallenge : Challenge :=
  ⟨"Digest nonce=\"n\", qop=\"auth\"", .digest, [("nonce", "n"), ("qop", "auth")]⟩

theorem parse_offeredChallenge :
    Challenge.parse offeredChallenge.raw = .ok offeredChallenge := by
  have hwrites : List.Forall₂ Writes
      [quotedDirective "nonce" "n", quotedDirective "qop" "auth"] offeredChallenge.directives :=
    .cons (writes_plain (by decide) (by decide)) (.cons (writes_plain (by decide) (by decide)) .nil)
  have hraw : offeredChallenge.raw = "Digest " ++ ", ".intercalate
      [quotedDirective "nonce" "n", quotedDirective "qop" "auth"] := by
    decide
  rw [hraw, parse_written hwrites (List.cons_ne_nil _ _), ← hraw]
  rfl

/-- A session that is told of `offeredChallenge`, a login with a probe, and one token more. -/
def offeredActions : List Action :=
  [.setChallenge (some offeredChallenge.raw), .inquireQuietly (.login ⟨"u", "p"⟩),
    .makeToken "GET" "/f"]

/-- After a challenge and a login with its probe, the next token is the second one. -/
theorem counts_since_change_of_second :
    ∃ before during token nonce count,
      turns id (run (.constant (.ok .empty) (.ok none)) offeredActions ⟨.startingIn "/", ()⟩).1 =
        .made "GET" "/f" (some token) :: (during ++ before) ∧
      Since before during ∧ asked before during = 1 ∧
      Carries (during ++ before) "GET" "/f" token nonce count ∧ WritesCount count 2 := by
  let before : List Turn := [.told (some offeredChallenge.raw)]
  obtain ⟨first, second, hturns⟩ : ∃ first second,
      turns id (run (.constant (.ok .empty) (.ok none)) offeredActions ⟨.startingIn "/", ()⟩).1 =
        .made "GET" "/f" second ::
          ([.told none, .made "GET" "/" first, .logged (some ⟨"u", "p"⟩)] ++ before) :=
    ⟨_, _, rfl⟩
  have hchallenge : inEffect before = offeredChallenge := by
    rw [inEffect, Option.bind_some, parse_offeredChallenge]
    rfl
  have since : Since before
      [.told none, .made "GET" "/" first, .logged (some ⟨"u", "p"⟩)] := by
    have hbegins : Changes before :=
      changes_iff.mpr ⟨_, _, rfl, parse_offeredChallenge, by decide⟩
    refine ⟨.inr hbegins, ?_, ?_, ?_, trivial⟩
    all_goals exact not_changes_of_inEffect_eq rfl
  have lived := lived_run (.constant (.ok .empty) (.ok none)) "/" () offeredActions
  have hnonce : offeredChallenge.nonce? = some "n" := by decide
  have halgorithm : Algorithm.ofName? offeredChallenge.algorithm? = .ok .md5 := by decide
  obtain ⟨token, -, rfl, -, -⟩ := Lived.exists_carries (hturns ▸ lived) since hchallenge rfl
    (by decide) hnonce halgorithm rfl
  have hscheme : (inEffect before).scheme = .digest := by
    rw [hchallenge]
    rfl
  have hauth : (inEffect before).offersAuth = true := by
    rw [hchallenge]
    decide
  have happend := hturns.trans (List.nil_append _).symm
  obtain ⟨-, nonce, count, carries, -, hwrites, -, -⟩ :=
    counts_since_change (.constant (.ok .empty) (.ok none)) "/" () offeredActions happend since
      hscheme hauth
  exact ⟨before, _, token, nonce, count, hturns, since, rfl, carries, hwrites⟩

end RemoteFiles.Auth
