import RemoteFiles.Proofs.Auth.Digest

/-!
# What comes back of a nonce and an opaque value

User name and realm are escaped where an answer puts them in quotes; nonce and opaque value are
put there as they are.  A server that reads the answer gets both back exactly if neither has a
quote or a backslash (`digest_answer_echoes_iff`).

One direction is `answer_read_back`.  For the other, the text behind an unescaped value is read
out of step: quotes that open are taken to close, and parts of the value become directives of
their own, which may well have the name of the one that was cut off.  But none of them can have
its value: what is read inside the value is shorter than it (`Within`), and what is read where
the reading runs on behind its end (`Ends.opened`, `Ends.escaped`) has no quote or backslash or
another end.  The reading is in step again behind the address at the latest
(`readsPast_of_crosses`, used for the value itself and for the address).
-/

namespace RemoteFiles.Auth

open RemoteFiles.Text (lower)

/-! ### Quoted values read out of step -/

/-- How reading a quoted value ends where the text is `text`, a quote and `rest`. -/
inductive QuotedEnd (text rest : List Char) : List Char × List Char → Prop
  /-- at a quote in the text -/
  | inside {value after : List Char} (hsuffix : after <:+ text)
      (hlt : after.length < text.length) (hlength : value.length ≤ text.length) :
      QuotedEnd text rest (value, after ++ '"' :: rest)
  /-- at the quote behind the text -/
  | closing {value : List Char} (hlength : value.length ≤ text.length) :
      QuotedEnd text rest (value, rest)
  /-- behind it, as it is escaped by the text -/
  | escaped {value : List Char} (hlast : text.getLast? = some '\\') :
      QuotedEnd text rest (value ++ '"' :: (quotedValue rest).1, (quotedValue rest).2)

theorem QuotedEnd.cons {text rest : List Char} {read : List Char × List Char}
    (h : QuotedEnd text rest read) {before : List Char} (hbefore : before ≠ []) (c : Char) :
    QuotedEnd (before ++ text) rest (c :: read.1, read.2) := by
  have hpos : 0 < before.length := List.length_pos_of_ne_nil hbefore
  cases h with
  | inside hsuffix hlt hlength =>
    refine .inside (hsuffix.trans (List.suffix_append ..)) ?_ ?_ <;>
      simp only [List.length_append, List.length_cons] <;> omega
  | closing hlength =>
    refine .closing ?_
    simp only [List.length_append, List.length_cons]
    omega
  | @escaped value hlast =>
    have hend : QuotedEnd (before ++ text) rest
        ((c :: value) ++ '"' :: (quotedValue rest).1, (quotedValue rest).2) :=
      .escaped (by rw [List.getLast?_append, hlast, Option.some_or])
    exact hend

theorem quotedEnd (text rest : List Char) :
    QuotedEnd text rest (quotedValue (text ++ '"' :: rest)) := by
  induction text using quoted_induction with
  | nil =>
    rw [List.nil_append, quotedValue_quote]
    exact .closing (Nat.le_refl 0)
  | backslash =>
    rw [List.cons_append, List.nil_append, quotedValue_escaped]
    have hend : QuotedEnd ['\\'] rest ([] ++ '"' :: (quotedValue rest).1, (quotedValue rest).2) :=
      .escaped rfl
    exact hend
  | escaped c cs ih =>
    rw [List.cons_append, List.cons_append, quotedValue_escaped]
    exact ih.cons (List.cons_ne_nil '\\' [c]) c
  | quote cs =>
    rw [List.cons_append, quotedValue_quote]
    exact .inside (List.suffix_cons ..) (by simp) (by simp)
  | plain c cs hc ih =>
    rw [List.cons_append, quotedValue_plain hc]
    exact ih.cons (List.cons_ne_nil c []) c

/-! ### Items read out of step -/

/-- A value read inside a text is no longer, and no quote or backslash is inside it where none is
inside the text. -/
def Within (text value : List Char) : Prop :=
  value.length ≤ text.length ∧
    (text.all isPlainChar = true → value.all isPlainChar = true ∨ value.getLast? = some '"')

/-- How reading an item ends where the text is `text`, a quote and `rest`: the value that is read
last and what follows it. -/
inductive Ends (text rest : List Char) : List Char → List Char → Prop
  /-- in the text -/
  | inside {value after : List Char} (hsuffix : after <:+ text) (hvalue : Within text value) :
      Ends text rest value (after ++ '"' :: rest)
  /-- with the quote -/
  | closing {value : List Char} (hvalue : Within text value) : Ends text rest value rest
  /-- behind the quote, which opens a value -/
  | opened (hlast : text.getLast? = some '=') :
      Ends text rest (quotedValue rest).1 ((quotedValue rest).2.dropWhile (!isSeparator ·))
  /-- behind the quote, which is escaped -/
  | escaped {value : List Char} (hlast : text.getLast? = some '\\') :
      Ends text rest (value ++ '"' :: (quotedValue rest).1)
        ((quotedValue rest).2.dropWhile (!isSeparator ·))

theorem Within.append_left {text value : List Char} (h : Within text value) (before : List Char) :
    Within (before ++ text) value := by
  obtain ⟨hlength, hplain⟩ := h
  constructor
  · rw [List.length_append]
    omega
  · intro hall
    rw [List.all_append, Bool.and_eq_true] at hall
    exact hplain hall.2

theorem Ends.append_left {text rest value after : List Char} (h : Ends text rest value after)
    (before : List Char) : Ends (before ++ text) rest value after := by
  cases h with
  | inside hsuffix hvalue =>
    exact .inside (hsuffix.trans (List.suffix_append ..)) (hvalue.append_left before)
  | closing hvalue => exact .closing (hvalue.append_left before)
  | opened hlast => exact .opened (by rw [List.getLast?_append, hlast, Option.some_or])
  | escaped hlast => exact .escaped (by rw [List.getLast?_append, hlast, Option.some_or])

/-- Skipping characters, quotes among them, stops in the text or behind the quote. -/
theorem dropWhile_append_quote {p : Char → Bool} (hquote : p '"' = true) {rest : List Char}
    (hrest : rest.dropWhile p = rest) (text : List Char) :
    (text ++ '"' :: rest).dropWhile p = rest ∨
      text.dropWhile p ≠ [] ∧
        (text ++ '"' :: rest).dropWhile p = text.dropWhile p ++ '"' :: rest := by
  rw [List.dropWhile_append]
  split
  · left
    rw [List.dropWhile_cons_of_pos hquote, hrest]
  · rename_i hsome
    exact .inr ⟨by simpa using hsome, rfl⟩

theorem ends_of_dropWhile {text rest value : List Char} (hrest : AtSeparator rest)
    {after : List Char} (hsuffix : after <:+ text) (hvalue : Within text value) :
    Ends text rest value ((after ++ '"' :: rest).dropWhile (!isSeparator ·)) := by
  rcases dropWhile_append_quote (by decide) hrest.dropWhile_eq after with h | ⟨-, h⟩
  · rw [h]
    exact .closing hvalue
  · rw [h]
    exact .inside ((List.dropWhile_suffix _).trans hsuffix) hvalue

theorem within_takeWhile {rest : List Char} (hrest : AtSeparator rest) (text : List Char) :
    Within ('=' :: text) ((text ++ '"' :: rest).takeWhile (!isSeparator ·)) := by
  rw [List.takeWhile_append]
  split
  · -- the quote is the last character of the value
    rw [List.takeWhile_cons_of_pos (by decide), hrest.takeWhile_eq]
    exact ⟨by simp, fun _ => .inr (by simp)⟩
  · refine ⟨?_, ?_⟩
    · have hle := (List.takeWhile_sublist (!isSeparator ·) (l := text)).length_le
      rw [List.length_cons]
      omega
    · intro hall
      rw [List.all_cons, Bool.and_eq_true, List.all_eq_true] at hall
      left
      rw [List.all_eq_true]
      intro c hc
      exact hall.2 c ((List.takeWhile_sublist _).subset hc)

theorem directiveValue_ends {rest : List Char} (hrest : AtSeparator rest) (text : List Char) :
    Ends ('=' :: text) rest (directiveValue (text ++ '"' :: rest)).1
      (directiveValue (text ++ '"' :: rest)).2 := by
  cases text with
  | nil => exact .opened rfl
  | cons c cs =>
    by_cases hc : c = '"'
    · subst hc
      have hwithin : ∀ value : List Char, value.length ≤ cs.length →
          Within ('=' :: '"' :: cs) value := by
        intro value hlength
        refine ⟨?_, ?_⟩
        · simp only [List.length_cons]
          omega
        · intro hall
          rw [List.all_cons, List.all_cons, Bool.and_eq_true, Bool.and_eq_true] at hall
          exact absurd hall.2.1 (by decide)
      have hend := quotedEnd cs rest
      rw [List.cons_append, directiveValue_quote]
      generalize quotedValue (cs ++ '"' :: rest) = read at hend ⊢
      cases hend with
      | inside hsuffix _ hlength =>
        exact ends_of_dropWhile hrest (hsuffix.trans (List.suffix_append ['=', '"'] cs))
          (hwithin _ hlength)
      | closing hlength =>
        dsimp only
        rw [hrest.dropWhile_eq]
        exact .closing (hwithin _ hlength)
      | escaped hlast =>
        exact .escaped (by rw [List.getLast?_cons, List.getLast?_cons, hlast]; rfl)
    · rw [directiveValue_of_head_ne (by simpa using hc)]
      exact ends_of_dropWhile hrest (List.suffix_cons ..) (within_takeWhile hrest _)

theorem within_nil (text : List Char) : Within text [] :=
  ⟨Nat.zero_le _, fun _ => .inl rfl⟩

/-- An item that begins in the text ends in one of the ways. -/
theorem item_ends {rest : List Char} (hrest : AtSeparator rest) (text : List Char) :
    ∃ value, (∀ d ∈ (item (text ++ '"' :: rest)).1, d.2.toList = value) ∧
      Ends text rest value (item (text ++ '"' :: rest)).2 := by
  rcases dropWhile_append_quote (by decide) hrest.dropWhile_isKeyChar text with hdrop | ⟨hne, hdrop⟩
  · -- the quote is the last character of the key
    have hne : ∀ after, (text ++ '"' :: rest).dropWhile isKeyChar ≠ '=' :: after := by
      rw [hdrop]
      rintro after rfl
      exact absurd (hrest '=' rfl) (by decide)
    rw [item_of_dropWhile_ne_cons hne, hdrop]
    exact ⟨[], by simp, .closing (within_nil text)⟩
  · obtain ⟨c, after, hafter⟩ := List.exists_cons_of_ne_nil hne
    rw [hafter, List.cons_append] at hdrop
    by_cases hc : c = '='
    · subst hc
      obtain ⟨hvalue, hend⟩ := item_of_dropWhile_eq_cons hdrop
      have hends := (directiveValue_ends hrest after).append_left (text.takeWhile isKeyChar)
      rw [← hafter, List.takeWhile_append_dropWhile] at hends
      rw [hend]
      exact ⟨_, hvalue, hends⟩
    · have hne : ∀ after, (text ++ '"' :: rest).dropWhile isKeyChar ≠ '=' :: after := by
        rw [hdrop]
        intro after heq
        exact hc (List.cons_eq_cons.mp heq).1
      have hsuffix : c :: after <:+ text := hafter ▸ List.dropWhile_suffix _
      rw [item_of_dropWhile_ne_cons hne, hdrop]
      exact ⟨[], by simp, .inside hsuffix (within_nil text)⟩

/-! ### In step again -/

/-- Reading the text comes to `rest`, and no directive before it has the value. -/
def ReadsPast (value rest cs : List Char) : Prop :=
  ∃ ds, directives cs = ds ++ directives rest ∧ ∀ d ∈ ds, d.2.toList ≠ value

theorem readsPast_refl (value rest : List Char) : ReadsPast value rest rest :=
  ⟨[], rfl, by simp⟩

theorem readsPast_item {value rest cs : List Char} {c : Char} (hc : isSeparator c = false)
    (hvalue : ∀ d ∈ (item (c :: cs)).1, d.2.toList ≠ value)
    (hrest : ReadsPast value rest (item (c :: cs)).2) : ReadsPast value rest (c :: cs) := by
  obtain ⟨ds, hds, hne⟩ := hrest
  refine ⟨(item (c :: cs)).1.toList ++ ds, ?_, ?_⟩
  · rw [directives_item hc, hds, List.append_assoc]
  · intro d hd
    rcases List.mem_append.mp hd with hd | hd
    · exact hvalue d (Option.mem_toList.mp hd)
    · exact hne d hd

/-- Where the quote between `text` and `behind` does not end a value, the one that runs on behind it
is another value, and reading comes to `rest` after it. -/
structure Resumes (value rest behind text : List Char) : Prop where
  opened : text.getLast? = some '=' → (quotedValue behind).1 ≠ value ∧
    ReadsPast value rest ((quotedValue behind).2.dropWhile (!isSeparator ·))
  escaped : text.getLast? = some '\\' → (∀ v, v ++ '"' :: (quotedValue behind).1 ≠ value) ∧
    ReadsPast value rest ((quotedValue behind).2.dropWhile (!isSeparator ·))

/-- Moreover no value that is read inside the text is `value`. -/
structure Crosses (value rest behind text : List Char) : Prop extends
    Resumes value rest behind text where
  inside : ∀ v, Within text v → v ≠ value

theorem Resumes.suffix {value rest behind text after : List Char}
    (h : Resumes value rest behind text) (hsuffix : after <:+ text) :
    Resumes value rest behind after := by
  obtain ⟨before, rfl⟩ := hsuffix
  have hlast : ∀ {c}, after.getLast? = some c → (before ++ after).getLast? = some c := by
    intro c hc
    rw [List.getLast?_append, hc, Option.some_or]
  exact ⟨fun hc => h.opened (hlast hc), fun hc => h.escaped (hlast hc)⟩

theorem Crosses.suffix {value rest behind text after : List Char}
    (h : Crosses value rest behind text) (hsuffix : after <:+ text) :
    Crosses value rest behind after := by
  refine ⟨h.toResumes.suffix hsuffix, ?_⟩
  obtain ⟨before, rfl⟩ := hsuffix
  intro v hv
  exact h.inside v (hv.append_left before)

theorem readsPast_separator {value rest cs : List Char} {c : Char} (hc : isSeparator c = true)
    (h : ReadsPast value rest cs) : ReadsPast value rest (c :: cs) := by
  rwa [ReadsPast, directives_separator hc]

/-- However an item ends, its value is another, and reading goes on in the text or comes to
`rest`. -/
theorem Crosses.of_ends {value rest behind text v after : List Char}
    (h : Crosses value rest behind text) (hclosed : ReadsPast value rest behind)
    (hends : Ends text behind v after) :
    v ≠ value ∧ (ReadsPast value rest after ∨
      ∃ text', text' <:+ text ∧ after = text' ++ '"' :: behind) := by
  cases hends with
  | inside hsuffix hvalue => exact ⟨h.inside _ hvalue, .inr ⟨_, hsuffix, rfl⟩⟩
  | closing hvalue => exact ⟨h.inside _ hvalue, .inl hclosed⟩
  | opened hlast => exact ⟨(h.opened hlast).1, .inl (h.opened hlast).2⟩
  | escaped hlast => exact ⟨(h.escaped hlast).1 _, .inl (h.escaped hlast).2⟩

theorem readsPast_of_crosses {value rest behind : List Char} (hbehind : AtSeparator behind)
    (hclosed : ReadsPast value rest behind) {text : List Char}
    (h : Crosses value rest behind text) : ReadsPast value rest (text ++ '"' :: behind) := by
  -- each separator and each item takes at least one character of the text
  induction hn : text.length using Nat.strongRecOn generalizing text with
  | ind n ih =>
    subst hn
    have hitem : ∀ c cs, text ++ '"' :: behind = c :: cs → isSeparator c = false →
        ReadsPast value rest (text ++ '"' :: behind) := by
      intro c cs hcs hc
      obtain ⟨v, hv, hends⟩ := item_ends hbehind text
      obtain ⟨hne, hafter⟩ := h.of_ends hclosed hends
      have hlt := length_item_lt cs hc
      rw [hcs] at hv hafter
      rw [hcs]
      refine readsPast_item hc (fun d hd => hv d hd ▸ hne) ?_
      rcases hafter with hafter | ⟨text', hsuffix, hafter⟩
      · exact hafter
      · rw [hafter]
        rw [hafter, ← hcs, List.length_append, List.length_append] at hlt
        exact ih text'.length (by omega) (h.suffix hsuffix) rfl
    cases text with
    | nil => exact hitem '"' behind rfl (by decide)
    | cons c cs =>
      cases hc : isSeparator c with
      | true =>
        exact readsPast_separator hc (ih cs.length (by simp) (h.suffix (List.suffix_cons ..)) rfl)
      | false => exact hitem c (cs ++ '"' :: behind) rfl hc

/-! ### Values that are not plain -/

/-- Behind a value that is put in quotes as it is, reading comes to `rest` if it does so from
behind the closing quote, whether that is taken for one or not. -/
theorem readsPast_quotedEnd {value rest behind : List Char} (hbehind : AtSeparator behind)
    (hclosed : ReadsPast value rest behind) (hresumes : Resumes value rest behind value) :
    ReadsPast value rest
      ((quotedValue (value ++ '"' :: behind)).2.dropWhile (!isSeparator ·)) := by
  -- what is read inside a proper part of the value is shorter than the value
  have hcrosses : ∀ text, text <:+ value → text.length < value.length →
      Crosses value rest behind text := by
    intro text hsuffix hlt
    refine ⟨hresumes.suffix hsuffix, ?_⟩
    rintro v ⟨hlength, -⟩ rfl
    omega
  have hend := quotedEnd value behind
  generalize quotedValue (value ++ '"' :: behind) = read at hend ⊢
  cases hend with
  | @inside _ after hsuffix hlt _ =>
    dsimp only
    rcases dropWhile_append_quote (by decide) hbehind.dropWhile_eq after with h | ⟨-, h⟩
    · rwa [h]
    · have hsuffix' : after.dropWhile (!isSeparator ·) <:+ after := List.dropWhile_suffix _
      have hle := hsuffix'.length_le
      rw [h]
      exact readsPast_of_crosses hbehind hclosed
        (hcrosses _ (hsuffix'.trans hsuffix) (by omega))
  | closing _ =>
    dsimp only
    rwa [hbehind.dropWhile_eq]
  | escaped hlast => exact (hresumes.escaped hlast).2

/-- The directives of a value that is put in quotes as it is, though it is not plain, and of what
follows up to `rest`: one of them has the name, and none the value. -/
theorem exists_directives_quoted {name value : String} {rest behind : List Char}
    (hname : IsName name) (hvalue : isPlain value = false)
    (hafter : ReadsPast value.toList rest
      ((quotedValue (value.toList ++ '"' :: behind)).2.dropWhile (!isSeparator ·))) :
    ∃ ds, directives ((quotedDirective name value).toList ++ behind) = ds ++ directives rest ∧
      name ∈ ds.map Prod.fst ∧ ∀ d ∈ ds, d.2 ≠ value := by
  obtain ⟨ds, hds, hne⟩ := hafter
  obtain ⟨c, cs, hcs, hc⟩ := exists_cons_quotedDirective hname value
  have hitem := item_quotedDirective hname value behind
  rw [hcs, List.cons_append] at hitem ⊢
  rw [directives_item hc, hitem, hds]
  refine ⟨_ :: ds, rfl, List.mem_cons_self, ?_⟩
  rw [List.forall_mem_cons]
  refine ⟨?_, fun d hd heq => hne d hd (congrArg String.toList heq)⟩
  intro heq
  have hread := congrArg String.toList heq
  rw [String.toList_ofList, quotedValue_eq_iff] at hread
  rw [isPlain, hread] at hvalue
  cases hvalue

/-- A value that is put in quotes as it is at the end of a text, though it is not plain, is the
value of no directive read there. -/
theorem directives_last_ne {name value : String} (hname : IsName name)
    (hvalue : isPlain value = false) :
    name ∈ (directives (enumerated [quotedDirective name value])).map Prod.fst ∧
      ∀ d ∈ directives (enumerated [quotedDirective name value]), d.2 ≠ value := by
  have hafter : ReadsPast value.toList []
      ((quotedValue (value.toList ++ '"' :: [])).2.dropWhile (!isSeparator ·)) := by
    refine readsPast_quotedEnd atSeparator_nil (readsPast_refl _ _) ⟨?_, ?_⟩
    · intro _
      refine ⟨?_, readsPast_refl _ _⟩
      intro hnil
      rw [isPlain, ← hnil] at hvalue
      cases hvalue
    · intro hlast
      refine ⟨?_, readsPast_refl _ _⟩
      intro v hv
      rw [← hv, List.getLast?_append] at hlast
      cases hlast
  obtain ⟨ds, hds, hmem, hne⟩ := exists_directives_quoted hname hvalue hafter
  have hread := directives_enumerated_cons (quotedDirective name value) [] []
  rw [List.append_nil, enumerated_nil, List.nil_append, hds, directives_nil, List.append_nil]
    at hread
  rw [hread]
  exact ⟨hmem, hne⟩

/-! ### Nonces -/

theorem ne_of_plain {value v : List Char} (hvalue : value.all isPlainChar = false)
    (hv : v.all isPlainChar = true) : v ≠ value := by
  rintro rfl
  rw [hv] at hvalue
  cases hvalue

/-- A quote that is taken to open a value closes it where the value of the next directive
begins. -/
theorem quotedValue_enumerated (name : String) (hname : isPlain name = true) (value : String)
    (texts : List String) (rest : List Char) :
    (quotedValue (enumerated (quotedDirective name value :: texts) ++ rest)).1 =
        ',' :: ' ' :: (name.toList ++ ['=']) ∧
      (quotedValue (enumerated (quotedDirective name value :: texts) ++ rest)).2 =
        value.toList ++ '"' :: (enumerated texts ++ rest) := by
  have htext : enumerated (quotedDirective name value :: texts) ++ rest =
      (',' :: ' ' :: (name.toList ++ ['='])) ++
        '"' :: (value.toList ++ '"' :: (enumerated texts ++ rest)) := by
    simp [enumerated_cons, toList_quotedDirective]
  have hplain : (',' :: ' ' :: (name.toList ++ ['='])).all isPlainChar = true := by
    rw [List.all_cons, List.all_cons, List.all_append, ← isPlain, hname]
    decide
  rw [htext, quotedValue_of_plain hplain]
  exact ⟨rfl, rfl⟩

section Nonce

variable {nonce uri response : String} {rest : List Char}

/-- Read out of step, an address leads to what follows the response, and on the way there is no
value that ends as the nonce does. -/
theorem readsPast_uri (hrest : AtSeparator rest) (hnonce : nonce.toList.all isPlainChar = false)
    (hlast : nonce.toList.getLast? ≠ some '"') (huri : isPlain uri = true)
    (hresponse : isPlain response = true) (hsep : ∀ d ∈ response.toList, isSeparator d = false) :
    ReadsPast nonce.toList rest
      ((uri.toList ++ '"' :: (enumerated [quotedDirective "response" response] ++ rest)).dropWhile
        (!isSeparator ·)) := by
  have hbehind : AtSeparator (enumerated [quotedDirective "response" response] ++ rest) :=
    atSeparator_enumerated_append _ hrest
  have hclosed : ReadsPast nonce.toList rest
      (enumerated [quotedDirective "response" response] ++ rest) := by
    have hwrites : List.Forall₂ Writes [quotedDirective "response" response]
        [("response", response)] := .cons (writes_plain (by decide) hresponse) .nil
    refine ⟨_, directives_enumerated_append hwrites hrest, ?_⟩
    rw [List.forall_mem_singleton]
    exact ne_of_plain hnonce hresponse
  rcases dropWhile_append_quote (by decide) hbehind.dropWhile_eq uri.toList with h | ⟨-, h⟩
  · rwa [h]
  rw [h]
  have hplain : (uri.toList.dropWhile (!isSeparator ·)).all isPlainChar = true := by
    rw [isPlain, List.all_eq_true] at huri
    rw [List.all_eq_true]
    intro d hd
    exact huri d ((List.dropWhile_sublist _).subset hd)
  refine readsPast_of_crosses hbehind hclosed ⟨⟨?_, ?_⟩, ?_⟩
  · -- the quote that closes the address opens a value, up to the response
    intro _
    obtain ⟨hread, hafter⟩ :=
      quotedValue_enumerated "response" (by decide) response [] rest
    have hskip : ∀ d ∈ response.toList, (!isSeparator d) = true := by simpa using hsep
    rw [hread, hafter, List.dropWhile_append_of_pos hskip,
      List.dropWhile_cons_of_pos (by decide), enumerated_nil, List.nil_append, hrest.dropWhile_eq]
    exact ⟨ne_of_plain hnonce (by decide), readsPast_refl _ _⟩
  · intro hend
    have hback := List.all_eq_true.mp hplain '\\' (List.mem_of_getLast? hend)
    exact absurd hback (by decide)
  · rintro v ⟨-, hv⟩
    rcases hv hplain with hv | hv
    · exact ne_of_plain hnonce hv
    · rintro rfl
      exact hlast hv

/-- Whatever the nonce is, the text is read in step again behind the response, and a nonce that is
not plain is the value of no directive before. -/
theorem exists_directives_nonce (nonce : String) (hrest : AtSeparator rest)
    (huri : isPlain uri = true) (hresponse : isPlain response = true)
    (hsep : ∀ d ∈ response.toList, isSeparator d = false) :
    ∃ ds, directives (enumerated [quotedDirective "nonce" nonce, quotedDirective "uri" uri,
        quotedDirective "response" response] ++ rest) = ds ++ directives rest ∧
      "nonce" ∈ ds.map Prod.fst ∧ (isPlain nonce = false → ∀ d ∈ ds, d.2 ≠ nonce) := by
  have hwrites : List.Forall₂ Writes
      [quotedDirective "uri" uri, quotedDirective "response" response]
      [("uri", uri), ("response", response)] :=
    .cons (writes_plain (by decide) huri) (.cons (writes_plain (by decide) hresponse) .nil)
  have hname : IsName "nonce" := by decide
  cases hnonce : isPlain nonce with
  | true =>
    exact ⟨_, directives_enumerated_append (.cons (writes_plain hname hnonce) hwrites) hrest,
      List.mem_cons_self, nofun⟩
  | false =>
    have hclosed : ReadsPast nonce.toList rest
        (enumerated [quotedDirective "uri" uri, quotedDirective "response" response] ++ rest) := by
      refine ⟨_, directives_enumerated_append hwrites hrest, ?_⟩
      rw [List.forall_mem_cons, List.forall_mem_singleton]
      exact ⟨ne_of_plain hnonce huri, ne_of_plain hnonce hresponse⟩
    obtain ⟨hread, hafter⟩ := quotedValue_enumerated "uri" (by decide) uri
      [quotedDirective "response" response] rest
    have hpast : ∀ {d}, nonce.toList.getLast? = some d → d ≠ '"' → ReadsPast nonce.toList rest
        ((uri.toList ++ '"' :: (enumerated [quotedDirective "response" response] ++ rest)).dropWhile
          (!isSeparator ·)) := by
      intro d hlast hd
      refine readsPast_uri hrest hnonce ?_ huri hresponse hsep
      rw [hlast]
      simpa using hd
    have hresumes : Resumes nonce.toList rest
        (enumerated [quotedDirective "uri" uri, quotedDirective "response" response] ++ rest)
        nonce.toList := by
      constructor <;> rw [hread, hafter]
      · intro hlast
        exact ⟨ne_of_plain hnonce (by decide), hpast hlast (by decide)⟩
      · intro hlast
        refine ⟨?_, hpast hlast (by decide)⟩
        intro v hv
        have hequals : ('"' :: ',' :: ' ' :: ("uri".toList ++ ['='])).getLast? = some '=' := by
          decide
        rw [← hv, List.getLast?_append, hequals] at hlast
        cases hlast
    have hafterNonce :=
      readsPast_quotedEnd (atSeparator_enumerated_append _ hrest) hclosed hresumes
    obtain ⟨ds, hds, hmem, hne⟩ := exists_directives_quoted hname hnonce hafterNonce
    rw [directives_enumerated_cons]
    exact ⟨ds, hds, hmem, fun _ => hne⟩

end Nonce

/-! ### Answers -/

/-- A value is not found if the last directives of the name have others. -/
theorem Challenge.directive?_ne {answer : Challenge} {name value : String}
    {before ds after : List Directive} (hdirectives : answer.directives = before ++ ds ++ after)
    (hname : lower name = name) (hmem : name ∈ ds.map Prod.fst) (hne : ∀ d ∈ ds, d.2 ≠ value)
    (hafter : name ∉ after.map Prod.fst) : answer.directive? name ≠ some value := by
  intro hfound
  rw [Challenge.directive?, hname, hdirectives, List.reverse_append, List.reverse_append,
    List.lookup_append, List.lookup_append, lookup_reverse_eq_none hafter, Option.none_or]
    at hfound
  cases hlookup : ds.reverse.lookup name with
  | none =>
    obtain ⟨d, hd, rfl⟩ := List.mem_map.mp hmem
    have hother := List.lookup_eq_none_iff.mp hlookup d (List.mem_reverse.mpr hd)
    rw [bne_iff_ne] at hother
    exact hother rfl
  | some v =>
    rw [hlookup, Option.some_or, Option.some_inj] at hfound
    subst hfound
    obtain ⟨l₁, l₂, hsplit, -⟩ := List.lookup_eq_some_iff.mp hlookup
    have hv : (name, v) ∈ ds.reverse := by
      rw [hsplit]
      exact List.mem_append_right _ List.mem_cons_self
    exact hne _ (List.mem_reverse.mp hv) rfl

variable {ch : Challenge} {c : Credential} {nonce method uri clientNonce : String} {a : Algorithm}
  {count : UInt32}

/-- Whatever the nonce is, an answer is read in step again behind the response. -/
theorem exists_directives_answerTexts (ch : Challenge) (c : Credential) (nonce method : String)
    (a : Algorithm) (count : UInt32) (huri : isPlain uri = true)
    (hclient : isPlain clientNonce = true) :
    ∃ before ds, directives (enumerated
        (answerTexts ch c nonce method uri a (.of count clientNonce))) =
        before ++ ds ++ (offerDirectives ch a (.of count clientNonce) ++
          directives (enumerated (opaqueTexts ch))) ∧
      "nonce" ∈ ds.map Prod.fst ∧ (isPlain nonce = false → ∀ d ∈ ds, d.2 ≠ nonce) := by
  have hbefore : List.Forall₂ Writes
      [quotedDirective "username" (escapeQuotes c.username),
        quotedDirective "realm" (escapeQuotes (ch.realm?.getD ""))]
      [("username", c.username), ("realm", ch.realm?.getD "")] :=
    .cons (writes_escaped (by decide) _) (.cons (writes_escaped (by decide) _) .nil)
  have hoffer := writes_offer ch a count hclient
  have hecho := atSeparator_enumerated (opaqueTexts ch)
  have hrest := atSeparator_enumerated_append (offerTexts ch a (.of count clientNonce)) hecho
  have hresponse := isPlain_answerResponse ch c nonce method uri a (.of count clientNonce)
  obtain ⟨ds, hds, hmem, hne⟩ := exists_directives_nonce nonce hrest huri hresponse
    fun _ => isSeparator_answerResponse
  have htexts : enumerated (answerTexts ch c nonce method uri a (.of count clientNonce)) =
      enumerated [quotedDirective "username" (escapeQuotes c.username),
        quotedDirective "realm" (escapeQuotes (ch.realm?.getD ""))] ++
      (enumerated [quotedDirective "nonce" nonce, quotedDirective "uri" uri,
        quotedDirective "response"
          (answerResponse ch c nonce method uri a (.of count clientNonce))] ++
      (enumerated (offerTexts ch a (.of count clientNonce)) ++ enumerated (opaqueTexts ch))) := by
    rw [← enumerated_append, ← enumerated_append, ← enumerated_append, answerTexts,
      List.append_assoc]
    rfl
  refine ⟨[("username", c.username), ("realm", ch.realm?.getD "")], ds, ?_, hmem, hne⟩
  rw [htexts, directives_enumerated_append hbefore (atSeparator_enumerated_append _ hrest), hds,
    directives_enumerated_append hoffer hecho, List.append_assoc]

/-- An opaque value that is not plain is not read back. -/
theorem opaqueValue?_ne {answer : Challenge} {value : String} (huri : isPlain uri = true)
    (hclient : isPlain clientNonce = true)
    (hdirectives : answer.directives =
      directives (enumerated (answerTexts ch c nonce method uri a (.of count clientNonce))))
    (hvalue : ch.opaqueValue? = some value) (hplain : isPlain value = false) :
    answer.opaqueValue? ≠ some value := by
  obtain ⟨before, ds, hds, -, -⟩ :=
    exists_directives_answerTexts ch c nonce method a count huri hclient
  have hname : IsName "opaque" := by decide
  obtain ⟨hmem, hne⟩ := directives_last_ne hname hplain
  have htexts : opaqueTexts ch = [quotedDirective "opaque" value] := by
    rw [opaqueTexts, hvalue]
    rfl
  rw [hds, htexts, ← List.append_assoc, ← List.append_nil (_ ++ directives _)] at hdirectives
  exact Challenge.directive?_ne hdirectives (by decide) hmem hne List.not_mem_nil

/-- A nonce that is not plain is not read back where the opaque value is. -/
theorem nonce?_ne {answer : Challenge} (huri : isPlain uri = true)
    (hclient : isPlain clientNonce = true)
    (hdirectives : answer.directives =
      directives (enumerated (answerTexts ch c nonce method uri a (.of count clientNonce))))
    (hecho : ∀ value ∈ ch.opaqueValue?, isPlain value = true) (hplain : isPlain nonce = false) :
    answer.nonce? ≠ some nonce := by
  obtain ⟨before, ds, hds, hmem, hne⟩ :=
    exists_directives_answerTexts ch c nonce method a count huri hclient
  rw [hds, directives_enumerated (writes_opaqueTexts hecho)] at hdirectives
  refine Challenge.directive?_ne hdirectives (by decide) hmem (hne hplain) ?_
  rw [offerDirectives]
  cases ch.algorithm?.isSome <;> cases ch.offersAuth <;> cases ch.opaqueValue? <;> simp

/-- Nonce and opaque value of a challenge are read back from an answer exactly if neither has a
quote or a backslash. -/
theorem digest_answer_echoes_iff {header : String}
    (hheader : digestAuthorization ch c method uri (.of count clientNonce) = .ok header)
    (huri : isPlain uri = true) (hclient : isPlain clientNonce = true) :
    ∃ answer, Challenge.parse header = .ok answer ∧
      (answer.nonce? = ch.nonce? ∧ answer.opaqueValue? = ch.opaqueValue? ↔
        (∀ value ∈ ch.nonce?, isPlain value = true) ∧
          ∀ value ∈ ch.opaqueValue?, isPlain value = true) := by
  obtain ⟨nonce, a, hnonce, halgorithm⟩ := exists_of_digestAuthorization hheader
  obtain ⟨header', hheader', hparse⟩ :=
    parse_digestAuthorization hnonce halgorithm c method uri count clientNonce
  obtain rfl : header' = header := by
    rw [hheader] at hheader'
    cases hheader'
    rfl
  refine ⟨_, hparse, ?_⟩
  constructor
  · rintro ⟨hnonceBack, hechoBack⟩
    have hecho : ∀ value ∈ ch.opaqueValue?, isPlain value = true := by
      intro value hvalue
      by_contra hplain
      rw [Bool.not_eq_true] at hplain
      rw [hvalue] at hechoBack
      exact opaqueValue?_ne huri hclient rfl hvalue hplain hechoBack
    refine ⟨?_, hecho⟩
    intro value hvalue
    by_contra hplain
    rw [Bool.not_eq_true] at hplain
    rw [hnonce, Option.mem_some_iff] at hvalue
    subst hvalue
    exact nonce?_ne huri hclient rfl hecho hplain (hnonceBack.trans hnonce)
  · rintro ⟨hplain, hecho⟩
    have hdirectives :=
      directives_answerTexts ch c method a count (hplain nonce hnonce) huri hclient hecho
    exact ⟨(nonce?_of_directives hdirectives).trans hnonce.symm,
      opaqueValue?_of_directives hdirectives⟩

/-- A plain nonce and a plain opaque value are read back. -/
theorem digest_answer_echoes_iff_of_plain :
    ∃ header answer,
      digestAuthorization protectedChallenge ⟨"u", "p"⟩ "GET" "/f" (.of 1 "c") = .ok header ∧
      Challenge.parse header = .ok answer ∧
      answer.nonce? = some "n" ∧ answer.opaqueValue? = some "o=1" := by
  have hnonce : protectedChallenge.nonce? = some "n" := by decide
  have halgorithm : Algorithm.ofName? protectedChallenge.algorithm? = .ok .sha256 := by decide
  have huri : isPlain "/f" = true := by decide
  have hclient : isPlain "c" = true := by decide
  obtain ⟨header, hheader, -⟩ :=
    parse_digestAuthorization hnonce halgorithm ⟨"u", "p"⟩ "GET" "/f" 1 "c"
  obtain ⟨answer, hparse, hiff⟩ := digest_answer_echoes_iff hheader huri hclient
  obtain ⟨hnonceBack, hechoBack⟩ := hiff.mpr (by decide)
  exact ⟨header, answer, hheader, hparse, hnonceBack.trans hnonce, hechoBack⟩

/-- A challenge with an escaped quote in its nonce. -/
def quotedNonceChallenge : Challenge :=
  ⟨"Digest realm=\"r\", nonce=\"a\\\"b\"", .digest, [("realm", "r"), ("nonce", "a\"b")]⟩

theorem parse_quotedNonceChallenge :
    Challenge.parse quotedNonceChallenge.raw = .ok quotedNonceChallenge := by
  have hwrites : List.Forall₂ Writes
      [quotedDirective "realm" (escapeQuotes "r"), quotedDirective "nonce" (escapeQuotes "a\"b")]
      quotedNonceChallenge.directives :=
    .cons (writes_escaped (by decide) _) (.cons (writes_escaped (by decide) _) .nil)
  have hraw : quotedNonceChallenge.raw = "Digest " ++ ", ".intercalate
      [quotedDirective "realm" (escapeQuotes "r"),
        quotedDirective "nonce" (escapeQuotes "a\"b")] := by
    decide
  rw [hraw, parse_written hwrites (List.cons_ne_nil _ _), ← hraw]
  rfl

/-- A nonce with a quote is not read back as it was given. -/
theorem digest_answer_echoes_not :
    ¬ ∀ (text : String) (ch answer : Challenge) (c : Credential) (method uri clientNonce : String)
      (count : UInt32) (header : String),
      Challenge.parse text = .ok ch → ch.scheme = .digest →
      digestAuthorization ch c method uri (.of count clientNonce) = .ok header →
      Challenge.parse header = .ok answer →
      answer.nonce? = ch.nonce? ∧ answer.opaqueValue? = ch.opaqueValue? := by
  intro h
  have hnonce : quotedNonceChallenge.nonce? = some "a\"b" := by decide
  have halgorithm : Algorithm.ofName? quotedNonceChallenge.algorithm? = .ok .md5 := by decide
  obtain ⟨header, hheader, hparse⟩ :=
    parse_digestAuthorization hnonce halgorithm ⟨"u", "p"⟩ "GET" "/" 1 "c"
  have hback := (h _ _ _ _ _ _ _ _ _ parse_quotedNonceChallenge rfl hheader hparse).1
  have hecho : ∀ value ∈ quotedNonceChallenge.opaqueValue?, isPlain value = true := by decide
  exact nonce?_ne (by decide) (by decide) rfl hecho (by decide) (hback.trans hnonce)

end RemoteFiles.Auth
