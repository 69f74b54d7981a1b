import RemoteFiles.Proofs.Json.Literals

/-!
# JSON texts as tokens

`Node` is a JSON text with its blanks taken out: strings and numbers are kept as they are spelled,
and the members of an object in their order, also those with equal keys.  A text writes a node if
it is made of the node's tokens with any blanks before, between and after them (`Spaced`).

Where nobody wants a value, exactly its tokens are passed over, at any depth
(`skipValue_tokens`).
-/

namespace RemoteFiles.Json

open RemoteFiles.Text (Glyph)
open RemoteFiles.Text.Glyph (ofList)

/-- A JSON value as it is written. -/
inductive Node
  | null
  | bool (b : Bool)
  | number (l : Literal)
  | string (s : Spelling)
  | array (items : List Node)
  | object (members : List (Spelling × Node))

/-- A member of an object as it is written. -/
abbrev Member := Spelling × Node

mutual

def Node.tokens : Node → List (List Char)
  | .null => ["null".toList]
  | .bool true => ["true".toList]
  | .bool false => ["false".toList]
  | .number l => [l.text]
  | .string s => [s.quoted]
  | .array items => ['['] :: itemTokens true items
  | .object members => ['\x7b'] :: memberTokens true members

/-- The items of an array with its closing bracket; behind another item there is a comma in
front. -/
def itemTokens : Bool → List Node → List (List Char)
  | _, [] => [[']']]
  | first, v :: vs => (if first then [] else [[',']]) ++ v.tokens ++ itemTokens false vs

/-- The members of an object with its closing brace. -/
def memberTokens : Bool → List (Spelling × Node) → List (List Char)
  | _, [] => [['\x7d']]
  | first, (k, v) :: ms =>
    (if first then [] else [[',']]) ++ [k.quoted, [':']] ++ v.tokens ++ memberTokens false ms

end

/-- A text of blanks. -/
def IsBlank (text : List Char) : Prop := ∀ c ∈ text, c ∈ [' ', '\n', '\t', '\r']

/-- A text that consists of tokens, with blanks anywhere between them. -/
inductive Spaced : List (List Char) → List Char → Prop
  | done {blanks : List Char} (blank : IsBlank blanks) : Spaced [] blanks
  | token {blanks : List Char} {c : Char} {cs : List Char} {tokens : List (List Char)}
      {text : List Char} (blank : IsBlank blanks) (rest : Spaced tokens text) :
      Spaced ((c :: cs) :: tokens) (blanks ++ c :: (cs ++ text))

/-- The tokens that may follow a value. -/
def Follows (tokens : List (List Char)) : Prop :=
  ∀ t ∈ tokens.head?, t ∈ [[','], [']'], ['\x7d']]

/-! ### Blanks and what follows them -/

variable {c : Char} {cs text : List Char} {ts more : List (List Char)}

theorem isSpace_of_mem (h : c ∈ [' ', '\n', '\t', '\r']) : isSpace (.char c) = true := by
  simp only [List.mem_cons, List.not_mem_nil, or_false] at h
  rcases h with rfl | rfl | rfl | rfl <;> rfl

theorem skipSpace_append {blanks : List Char} (h : IsBlank blanks) (rest : List Glyph) :
    skipSpace (ofList blanks ++ rest) = skipSpace rest := by
  refine List.dropWhile_append_of_pos ?_
  intro g hg
  obtain ⟨c, hc, rfl⟩ := List.mem_map.mp hg
  exact isSpace_of_mem (h c hc)

theorem skipSpace_cons (hc : isSpace (.char c) = false) (rest : List Glyph) :
    skipSpace (.char c :: rest) = .char c :: rest :=
  List.dropWhile_cons_of_neg (by simp [hc])

theorem Spaced.cons (h : Spaced ts text) (c : Char) (cs : List Char) :
    Spaced ((c :: cs) :: ts) (c :: (cs ++ text)) :=
  have hblank : IsBlank [] := List.forall_mem_nil _
  Spaced.token hblank h

/-- The blanks in front of a token are passed over. -/
theorem Spaced.exists_skipSpace (h : Spaced ((c :: cs) :: ts) text)
    (hc : isSpace (.char c) = false) :
    ∃ rest, Spaced ts rest ∧ skipSpace (ofList text) = .char c :: (ofList cs ++ ofList rest) := by
  cases h with
  | @token blanks _ _ _ rest hblank hrest =>
    refine ⟨rest, hrest, ?_⟩
    rw [Glyph.ofList_append, skipSpace_append hblank, Glyph.ofList_cons, skipSpace_cons hc,
      Glyph.ofList_append]

/-- Nothing follows the last token but blanks. -/
theorem Spaced.skipSpace_eq_nil (h : Spaced [] text) : skipSpace (ofList text) = [] := by
  cases h with
  | done hblank =>
    have hskip := skipSpace_append hblank []
    rwa [List.append_nil] at hskip

/-- The text behind some tokens. -/
theorem Spaced.exists_append (h : Spaced (ts ++ more) text) : ∃ rest, Spaced more rest := by
  induction ts generalizing text with
  | nil => exact ⟨text, h⟩
  | cons t ts ih =>
    cases h with
    | token _ hrest => exact ih hrest

theorem Spaced.length_le (h : Spaced ts text) : ts.length ≤ text.length := by
  induction h with
  | done => exact Nat.zero_le _
  | token _ _ ih =>
    simp only [List.length_append, List.length_cons]
    omega

/-- What may follow a value does not go on with a number. -/
theorem Spaced.endsNumber (h : Spaced more text) (hmore : Follows more) :
    EndsNumber (ofList text) := by
  have hnext : ∀ (blanks rest : List Char), IsBlank blanks →
      EndsNumber (ofList rest) → EndsNumber (ofList (blanks ++ rest)) := by
    intro blanks rest hblank hrest
    cases blanks with
    | nil => exact hrest
    | cons d ds =>
      refine EndsNumber.cons ?_ _
      have hd := hblank d List.mem_cons_self
      simp only [List.mem_cons, List.not_mem_nil, or_false] at hd
      rcases hd with rfl | rfl | rfl | rfl <;> rfl
  cases h with
  | done hblank =>
    rw [← List.append_nil text]
    exact hnext text [] hblank .nil
  | @token blanks c cs _ rest hblank hrest =>
    refine hnext blanks _ hblank (EndsNumber.cons ?_ _)
    have ht := hmore (c :: cs) rfl
    simp only [List.mem_cons, List.cons.injEq, List.not_mem_nil, or_false] at ht
    rcases ht with ⟨rfl, -⟩ | ⟨rfl, -⟩ | ⟨rfl, -⟩ <;> rfl

theorem follows_itemTokens (items : List Node) (more : List (List Char)) :
    Follows (itemTokens false items ++ more) := by
  cases items <;> simp [itemTokens, Follows]

theorem follows_memberTokens (members : List Member) (more : List (List Char)) :
    Follows (memberTokens false members ++ more) := by
  cases members <;> simp [memberTokens, Follows]

/-! ### How nodes begin -/

/-- The characters with which a node can begin. -/
def Node.Opens : Node → Char → Prop
  | .null, c => c = 'n'
  | .bool _, c => c = 't' ∨ c = 'f'
  | .number _, c => c = '-' ∨ c.isDigit = true
  | .string _, c => c = '"'
  | .array _, c => c = '['
  | .object _, c => c = '\x7b'

theorem Node.exists_tokens (v : Node) :
    ∃ c cs ts, v.tokens = (c :: cs) :: ts ∧ v.Opens c := by
  cases v with
  | null => exact ⟨'n', _, _, by rw [tokens]; rfl, rfl⟩
  | bool b =>
    cases b
    · exact ⟨'f', _, _, by rw [tokens]; rfl, .inr rfl⟩
    · exact ⟨'t', _, _, by rw [tokens]; rfl, .inl rfl⟩
  | number l =>
    obtain ⟨c, cs, hcs, hc⟩ := l.exists_cons_text
    exact ⟨c, cs, [], by rw [tokens, hcs], hc⟩
  | string s => exact ⟨'"', _, _, by rw [tokens]; rfl, rfl⟩
  | array items => exact ⟨'[', _, _, by rw [tokens], rfl⟩
  | object members => exact ⟨'\x7b', _, _, by rw [tokens], rfl⟩

theorem Node.Opens.ne {v : Node} (h : v.Opens c) {d : Char}
    (hd : d ∉ ['n', 't', 'f', '-', '"', '[', '\x7b']) (hdigit : d.isDigit = false) : c ≠ d := by
  rintro rfl
  simp only [List.mem_cons, List.not_mem_nil, or_false, not_or] at hd
  obtain ⟨hn, ht, hf, hminus, hquote, hbracket, hbrace⟩ := hd
  cases v with
  | null => exact hn h
  | bool b =>
    rcases h with h | h
    · exact ht h
    · exact hf h
  | number l =>
    rcases h with h | h
    · exact hminus h
    · rw [hdigit] at h
      cases h
  | string s => exact hquote h
  | array items => exact hbracket h
  | object members => exact hbrace h

theorem Node.Opens.isSpace {v : Node} (h : v.Opens c) : isSpace (.char c) = false := by
  have hspace : c ≠ ' ' := h.ne (by decide) rfl
  have hnewline : c ≠ '\n' := h.ne (by decide) rfl
  have htab : c ≠ '\t' := h.ne (by decide) rfl
  have hreturn : c ≠ '\r' := h.ne (by decide) rfl
  simp [Json.isSpace, Glyph.is, hspace, hnewline, htab, hreturn]

/-- A node begins behind the blanks in front of it. -/
theorem Spaced.exists_opens {v : Node} (h : Spaced (v.tokens ++ more) text) :
    ∃ c rest, v.Opens c ∧ skipSpace (ofList text) = .char c :: ofList rest ∧
      Spaced (v.tokens ++ more) (c :: rest) := by
  obtain ⟨c, cs, ts, htokens, hc⟩ := v.exists_tokens
  rw [htokens] at h ⊢
  obtain ⟨rest, hrest, hskip⟩ := h.exists_skipSpace hc.isSpace
  refine ⟨c, cs ++ rest, hc, by rw [hskip, Glyph.ofList_append], ?_⟩
  exact hrest.cons c cs

/-! ### Texts of nodes -/

/-- Tokens with the same blanks in front of each of them. -/
def spread (blanks : List Char) (tokens : List (List Char)) : List Char :=
  tokens.flatMap (blanks ++ ·)

theorem spaced_spread {blanks : List Char} (hblank : IsBlank blanks)
    (hne : ∀ t ∈ ts, t ≠ []) : Spaced ts (spread blanks ts) := by
  induction ts with
  | nil => exact .done (List.forall_mem_nil _)
  | cons t ts ih =>
    rw [List.forall_mem_cons] at hne
    obtain ⟨c, cs, rfl⟩ := List.exists_cons_of_ne_nil hne.1
    rw [spread, List.flatMap_cons, List.append_assoc, ← spread]
    exact .token hblank (ih hne.2)

mutual

theorem ne_nil_of_mem_tokens (v : Node) : ∀ t ∈ v.tokens, t ≠ [] := by
  match v with
  | .null => simp [Node.tokens]
  | .bool true => simp [Node.tokens]
  | .bool false => simp [Node.tokens]
  | .number l =>
    obtain ⟨c, cs, hcs, -⟩ := l.exists_cons_text
    simp [Node.tokens, hcs]
  | .string s => simp [Node.tokens, Spelling.quoted]
  | .array items => simpa [Node.tokens] using ne_nil_of_mem_itemTokens true items
  | .object members => simpa [Node.tokens] using ne_nil_of_mem_memberTokens true members
termination_by structural v

theorem ne_nil_of_mem_itemTokens (first : Bool) (items : List Node) :
    ∀ t ∈ itemTokens first items, t ≠ [] := by
  match items with
  | [] => simp [itemTokens]
  | v :: items =>
    have hvalue := ne_nil_of_mem_tokens v
    have hitems := ne_nil_of_mem_itemTokens false items
    simp only [itemTokens, List.forall_mem_append]
    exact ⟨⟨by cases first <;> simp, hvalue⟩, hitems⟩
termination_by structural items

theorem ne_nil_of_mem_memberTokens (first : Bool) (members : List (Spelling × Node)) :
    ∀ t ∈ memberTokens first members, t ≠ [] := by
  match members with
  | [] => simp [memberTokens]
  | (k, v) :: members =>
    have hvalue := ne_nil_of_mem_tokens v
    have hmembers := ne_nil_of_mem_memberTokens false members
    simp only [memberTokens, List.forall_mem_append]
    exact ⟨⟨⟨by cases first <;> simp, by simp [Spelling.quoted]⟩, hvalue⟩, hmembers⟩
termination_by structural members

end

/-- Every node has texts. -/
theorem Node.spaced_tokens {blanks : List Char} (hblank : IsBlank blanks) (v : Node) :
    Spaced v.tokens (spread blanks v.tokens) :=
  spaced_spread hblank (ne_nil_of_mem_tokens v)

/-! ### Passing over -/

theorem word_append (cs : List Char) (rest : List Glyph) :
    word cs (ofList cs ++ rest) = .ok rest := by
  induction cs with
  | nil => rfl
  | cons c cs ih => rw [Glyph.ofList_cons, List.cons_append, word, if_pos (by simp [Glyph.is]), ih]

theorem skipValueWithin_word {word : String} (hword : word ∈ ["null", "true", "false"])
    (budget : Nat) (h : Spaced (word.toList :: more) text) :
    ∃ rest, Spaced more rest ∧ skipValueWithin (budget + 1) (ofList text) = .ok (ofList rest) := by
  simp only [List.mem_cons, List.not_mem_nil, or_false] at hword
  rcases hword with rfl | rfl | rfl
  all_goals
    obtain ⟨rest, hrest, hskip⟩ := h.exists_skipSpace (by decide)
    refine ⟨rest, hrest, ?_⟩
    rw [skipValueWithin, hskip]
    exact word_append _ _

theorem skipValueWithin_string (s : Spelling) (budget : Nat) (h : Spaced (s.quoted :: more) text) :
    ∃ rest, Spaced more rest ∧ skipValueWithin (budget + 1) (ofList text) = .ok (ofList rest) := by
  obtain ⟨rest, hrest, hskip⟩ := h.exists_skipSpace (by decide)
  refine ⟨rest, hrest, ?_⟩
  rw [skipValueWithin, hskip]
  simpa [Glyph.is, digit?] using skipString_spelling s (ofList rest)

theorem skipValueWithin_number (l : Literal) (budget : Nat) (h : Spaced (l.text :: more) text)
    (hmore : Follows more) :
    ∃ rest, Spaced more rest ∧ skipValueWithin (budget + 1) (ofList text) = .ok (ofList rest) := by
  rw [Literal.text] at h
  cases hsign : l.negative with
  | true =>
    rw [hsign] at h
    obtain ⟨rest, hrest, hskip⟩ := h.exists_skipSpace (by decide)
    refine ⟨rest, hrest, ?_⟩
    rw [skipValueWithin, hskip]
    exact skipNumber_magnitude l (hrest.endsNumber hmore)
  | false =>
    rw [hsign] at h
    have hdigit := l.whole.isDigit _ List.mem_cons_self
    obtain ⟨hspace, hminus, hdigit?⟩ := isDigit_glyph hdigit
    obtain ⟨rest, hrest, hskip⟩ := h.exists_skipSpace hspace
    have hnot : ∀ d : Char, d.isDigit = false → ¬ Glyph.is d (.char l.whole.first) := by
      intro d hd
      simpa [Glyph.is] using Text.ne_of_isDigit hdigit hd
    refine ⟨rest, hrest, ?_⟩
    rw [skipValueWithin, hskip]
    dsimp only
    rw [if_neg (hnot 'n' rfl), if_neg (hnot 't' rfl), if_neg (hnot 'f' rfl),
      if_neg (hnot '-' rfl), if_pos hdigit?]
    exact skipNumber_magnitude l (hrest.endsNumber hmore)

theorem skipItems_close (budget : Nat) (first : Bool) (h : Spaced ([']'] :: more) text) :
    ∃ rest, Spaced more rest ∧ skipItems (budget + 1) first (ofList text) = .ok (ofList rest) := by
  obtain ⟨rest, hrest, hskip⟩ := h.exists_skipSpace (by decide)
  refine ⟨rest, hrest, ?_⟩
  rw [skipItems, hskip]
  rfl

theorem skipMembers_close (budget : Nat) (first : Bool) (h : Spaced (['\x7d'] :: more) text) :
    ∃ rest, Spaced more rest ∧
      skipMembers (budget + 1) first (ofList text) = .ok (ofList rest) := by
  obtain ⟨rest, hrest, hskip⟩ := h.exists_skipSpace (by decide)
  refine ⟨rest, hrest, ?_⟩
  rw [skipMembers, hskip]
  rfl

/-- The comma in front of an item is passed over, and then the item. -/
theorem skipItems_cons (budget : Nat) (first : Bool) (v : Node)
    (h : Spaced ((if first then [] else [[',']]) ++ v.tokens ++ more) text) :
    ∃ rest, Spaced (v.tokens ++ more) rest ∧
      skipItems (budget + 1) first (ofList text) =
        skipValueWithin budget (ofList rest) >>= skipItems budget false := by
  cases first with
  | true =>
    obtain ⟨c, rest, hc, hskip, hrest⟩ := Spaced.exists_opens (v := v) h
    have hclose : c ≠ ']' := hc.ne (by decide) rfl
    refine ⟨c :: rest, hrest, ?_⟩
    rw [skipItems, hskip]
    simp [Glyph.is, hclose]
  | false =>
    obtain ⟨rest, hrest, hskip⟩ := Spaced.exists_skipSpace (c := ',') h (by decide)
    refine ⟨rest, hrest, ?_⟩
    rw [skipItems, hskip]
    simp [Glyph.is]

theorem skipMember_tokens (budget : Nat) (k : Spelling)
    (h : Spaced (k.quoted :: [':'] :: more) text) :
    ∃ rest, Spaced more rest ∧
      skipMember (budget + 1) (ofList text) =
        skipValueWithin budget (ofList rest) >>= skipMembers budget false := by
  obtain ⟨rest, hrest, hskip⟩ := h.exists_skipSpace (by decide)
  obtain ⟨rest', hrest', hskip'⟩ := hrest.exists_skipSpace (by decide)
  refine ⟨rest', hrest', ?_⟩
  have hkey := skipString_spelling k (ofList rest)
  rw [skipMember, hskip]
  simp only [Glyph.ofList_append, Glyph.ofList_cons, Glyph.ofList_nil, List.append_assoc,
    List.cons_append, List.nil_append, Glyph.is, beq_self_eq_true, if_true, hkey]
  simp only [bind, Except.bind, hskip']
  rfl

/-- The same for a member with its key and its colon. -/
theorem skipMembers_cons (budget : Nat) (first : Bool) (k : Spelling)
    (h : Spaced ((if first then [] else [[',']]) ++ [k.quoted, [':']] ++ more) text) :
    ∃ rest, Spaced more rest ∧
      skipMembers (budget + 2) first (ofList text) =
        skipValueWithin budget (ofList rest) >>= skipMembers budget false := by
  cases first with
  | true =>
    -- the blanks in front of the first key are passed over before the member is
    obtain ⟨rest, hrest, hskip⟩ := Spaced.exists_skipSpace (c := '"') h (by decide)
    obtain ⟨rest', hrest', hmember⟩ := skipMember_tokens budget k (hrest.cons '"' _)
    refine ⟨rest', hrest', ?_⟩
    rw [skipMembers, hskip, ← Glyph.ofList_append, ← Glyph.ofList_cons]
    exact hmember
  | false =>
    obtain ⟨rest, hrest, hskip⟩ := Spaced.exists_skipSpace (c := ',') h (by decide)
    obtain ⟨rest', hrest', hmember⟩ := skipMember_tokens budget k hrest
    refine ⟨rest', hrest', ?_⟩
    rw [skipMembers, hskip]
    exact hmember

theorem length_tokens_pos (v : Node) : 0 < v.tokens.length := by
  obtain ⟨c, cs, ts, htokens, -⟩ := v.exists_tokens
  rw [htokens]
  exact Nat.succ_pos _

theorem length_lt_itemTokens (first : Bool) (items : List Node) :
    items.length < (itemTokens first items).length := by
  induction items generalizing first with
  | nil => simp [itemTokens]
  | cons v items ih =>
    have hpos := length_tokens_pos v
    have hlt := ih false
    simp only [itemTokens, List.length_append, List.length_cons]
    omega

theorem length_lt_memberTokens (first : Bool) (members : List Member) :
    members.length < (memberTokens first members).length := by
  induction members generalizing first with
  | nil => simp [memberTokens]
  | cons member members ih =>
    obtain ⟨k, v⟩ := member
    have hlt := ih false
    simp only [memberTokens, List.length_append, List.length_cons]
    omega

/-! The budget counts nested steps.  Where two parts follow each other both get what is left of it,
and each has at least one token, so the number of tokens is always enough. -/

mutual

/-- Exactly the tokens of a value are passed over. -/
theorem skipValueWithin_tokens (v : Node) {budget : Nat} (hbudget : v.tokens.length ≤ budget)
    {more : List (List Char)} {text : List Char} (h : Spaced (v.tokens ++ more) text)
    (hmore : Follows more) :
    ∃ rest, Spaced more rest ∧ skipValueWithin budget (ofList text) = .ok (ofList rest) := by
  have hpos := length_tokens_pos v
  obtain ⟨budget, rfl⟩ : ∃ n, budget = n + 1 := ⟨budget - 1, by omega⟩
  match v with
  | .null => exact skipValueWithin_word (by decide) budget h
  | .bool true => exact skipValueWithin_word (by decide) budget h
  | .bool false => exact skipValueWithin_word (by decide) budget h
  | .number l => exact skipValueWithin_number l budget h hmore
  | .string s => exact skipValueWithin_string s budget h
  | .array items =>
    rw [Node.tokens] at h hbudget
    obtain ⟨rest, hrest, hskip⟩ := h.exists_skipSpace (by decide)
    have hbudget : (itemTokens true items).length ≤ budget := by simpa using hbudget
    obtain ⟨rest', hrest', hitems⟩ := skipItems_tokens items hbudget hrest
    refine ⟨rest', hrest', ?_⟩
    rw [skipValueWithin, hskip]
    exact hitems
  | .object members =>
    rw [Node.tokens] at h hbudget
    obtain ⟨rest, hrest, hskip⟩ := h.exists_skipSpace (by decide)
    have hbudget : (memberTokens true members).length ≤ budget := by simpa using hbudget
    obtain ⟨rest', hrest', hmembers⟩ := skipMembers_tokens members hbudget hrest
    refine ⟨rest', hrest', ?_⟩
    rw [skipValueWithin, hskip]
    exact hmembers
termination_by structural v

theorem skipItems_tokens (items : List Node) {first : Bool} {budget : Nat}
    (hbudget : (itemTokens first items).length ≤ budget) {more : List (List Char)}
    {text : List Char} (h : Spaced (itemTokens first items ++ more) text) :
    ∃ rest, Spaced more rest ∧ skipItems budget first (ofList text) = .ok (ofList rest) := by
  have hpos := length_lt_itemTokens first items
  obtain ⟨budget, rfl⟩ : ∃ n, budget = n + 1 := ⟨budget - 1, by omega⟩
  match items with
  | [] => exact skipItems_close budget first h
  | v :: items =>
    have hvalue := length_tokens_pos v
    have hitems := length_lt_itemTokens false items
    simp only [itemTokens, List.length_append] at hbudget
    rw [itemTokens, List.append_assoc] at h
    obtain ⟨rest, hrest, hskip⟩ := skipItems_cons budget first v h
    obtain ⟨rest₁, hrest₁, hskip₁⟩ := skipValueWithin_tokens v
      (show v.tokens.length ≤ budget by omega) hrest (follows_itemTokens items more)
    obtain ⟨rest₂, hrest₂, hskip₂⟩ := skipItems_tokens items
      (show (itemTokens false items).length ≤ budget by omega) hrest₁
    refine ⟨rest₂, hrest₂, ?_⟩
    rw [hskip, hskip₁]
    exact hskip₂
termination_by structural items

theorem skipMembers_tokens (members : List (Spelling × Node)) {first : Bool} {budget : Nat}
    (hbudget : (memberTokens first members).length ≤ budget) {more : List (List Char)}
    {text : List Char} (h : Spaced (memberTokens first members ++ more) text) :
    ∃ rest, Spaced more rest ∧ skipMembers budget first (ofList text) = .ok (ofList rest) := by
  have hpos := length_lt_memberTokens first members
  match members with
  | [] =>
    obtain ⟨budget, rfl⟩ : ∃ n, budget = n + 1 := ⟨budget - 1, by omega⟩
    exact skipMembers_close budget first h
  | (k, v) :: members =>
    have hvalue := length_tokens_pos v
    have hmembers := length_lt_memberTokens false members
    simp only [memberTokens, List.length_append, List.length_cons] at hbudget
    obtain ⟨budget, rfl⟩ : ∃ n, budget = n + 2 := ⟨budget - 2, by omega⟩
    rw [memberTokens, List.append_assoc, List.append_assoc] at h
    obtain ⟨rest, hrest, hskip⟩ := skipMembers_cons budget first k h
    obtain ⟨rest₁, hrest₁, hskip₁⟩ := skipValueWithin_tokens v
      (show v.tokens.length ≤ budget by omega) hrest (follows_memberTokens members more)
    obtain ⟨rest₂, hrest₂, hskip₂⟩ := skipMembers_tokens members
      (show (memberTokens false members).length ≤ budget by omega) hrest₁
    refine ⟨rest₂, hrest₂, ?_⟩
    rw [hskip, hskip₁]
    exact hskip₂
termination_by structural members

end

/-- A value that nobody wants is passed over, however it is spelled and however deep it is. -/
theorem skipValue_tokens (v : Node) (h : Spaced (v.tokens ++ more) text) (hmore : Follows more) :
    ∃ rest, Spaced more rest ∧ skipValue (ofList text) = .ok (ofList rest) := by
  have hlength := h.length_le
  rw [List.length_append] at hlength
  refine skipValueWithin_tokens v ?_ h hmore
  rw [Glyph.length_ofList]
  omega

end RemoteFiles.Json
