import RemoteFiles.Proofs.Json.Nodes
import Mathlib.Data.List.Forall2

/-!
# What readers take from nodes

`Decodes read means` says that from a text of any value a reader takes what the value means, or
refuses the text if the value means nothing, and that the text behind the value is left, wherever
blanks stand.  The readers of plain values do so, and those of arrays and records if the readers of
their items and fields do (`Decodes.array`, `Shape.decodes_read`).
-/

namespace RemoteFiles.Json

open RemoteFiles.Text (Glyph)
open RemoteFiles.Text.Glyph (ofList)

variable {α β : Type} {c : Char} {text : List Char} {more after : List (List Char)} {v : Node}

/-- Something is read, or the text is refused, and a text of some tokens is left. -/
def Gives (more : List (List Char)) (result : Except Fault (Parsed α)) (meant : Option α) : Prop :=
  ∃ rest, Spaced more rest ∧ result.toOption = meant.map (·, ofList rest)

/-- A reader takes from the text of a value what the value means, and leaves what follows. -/
def Decodes (read : List Glyph → Except Fault (Parsed α)) (means : Node → Option α) : Prop :=
  ∀ {v : Node} {more : List (List Char)} {text : List Char}, Spaced (v.tokens ++ more) text →
    Follows more → Gives more (read (ofList text)) (means v)

theorem Gives.bind {result : Except Fault (Parsed α)} {meant : Option α}
    {next : Parsed α → Except Fault (Parsed β)} {meant' : α → Option β}
    (h : Gives more result meant) (hleft : ∀ rest, Spaced more rest → ∃ rest', Spaced after rest')
    (hnext : ∀ a rest, Spaced more rest → Gives after (next (a, ofList rest)) (meant' a)) :
    Gives after (result >>= next) (meant.bind meant') := by
  obtain ⟨rest, hrest, hresult⟩ := h
  rw [Gives, toOption_bind, hresult]
  cases meant with
  | none =>
    obtain ⟨rest', hrest'⟩ := hleft rest hrest
    exact ⟨rest', hrest', rfl⟩
  | some a => exact hnext a rest hrest

theorem Gives.map {result : Except Fault (Parsed α)} {meant : Option α}
    (h : Gives more result meant) (f : α → β) :
    Gives more (result >>= fun (a, rest) => .ok (f a, rest)) (meant.map f) := by
  rw [Option.map_eq_bind]
  exact h.bind (fun rest hrest => ⟨rest, hrest⟩) fun a rest hrest => ⟨rest, hrest, rfl⟩

namespace Node

def string? : Node → Option String
  | .string s => s.string?
  | _ => none

/-- The type code that a value is. -/
def code? : Node → Option UInt32
  | .number l => l.code?
  | _ => none

/-- A value that may be `null`. -/
def optional? (means : Node → Option α) : Node → Option (Option α)
  | .null => some none
  | v => (means v).map some

/-- The items of an array. -/
def items? (means : Node → Option α) : Node → Option (List α)
  | .array items => items.mapM means
  | _ => none

end Node

variable {read : List Glyph → Except Fault (Parsed α)} {means : Node → Option α}

/-- A value whose first character is refused. -/
theorem Spaced.refused {result : Except Fault (Parsed α)} (h : Spaced (v.tokens ++ more) text)
    (hread : ∀ c rest, v.Opens c → skipSpace (ofList text) = .char c :: rest →
      result.toOption = none) : Gives more result none := by
  obtain ⟨rest, hrest⟩ := h.exists_append
  obtain ⟨c, _, hc, hskip, -⟩ := h.exists_opens
  exact ⟨rest, hrest, hread c _ hc hskip⟩

/-! ### Plain values -/

theorem decodes_string : Decodes readString Node.string? := by
  intro v more text h hmore
  cases v with
  | string s =>
    obtain ⟨rest, hrest, hskip⟩ := Spaced.exists_skipSpace (c := '"') h (by decide)
    refine ⟨rest, hrest, ?_⟩
    have hstring := readStringRest_spelling s (ofList rest)
    rw [readString, hskip]
    simpa [Glyph.is, Node.string?] using hstring
  | _ =>
    refine h.refused fun c rest hc hskip => ?_
    have hquote : c ≠ '"' := by
      rintro rfl
      simp [Node.Opens] at hc
    rw [readString, hskip]
    simp [Glyph.is, hquote]

theorem decodes_uint32 : Decodes readUInt32 Node.code? := by
  intro v more text h hmore
  cases v with
  | number l =>
    obtain ⟨c, cs, hcs, hc⟩ := l.exists_cons_text
    have hspace : isSpace (.char c) = false := Node.Opens.isSpace (v := .number l) hc
    rw [Node.tokens, hcs] at h
    obtain ⟨rest, hrest, hskip⟩ := h.exists_skipSpace hspace
    have hskip : skipSpace (ofList text) = ofList l.text ++ ofList rest := by rw [hskip, hcs]; rfl
    exact ⟨rest, hrest, readUInt32_literal l hskip (hrest.endsNumber hmore)⟩
  | _ =>
    refine h.refused fun c rest hc hskip => ?_
    have hminus : c ≠ '-' := by
      rintro rfl
      simp [Node.Opens] at hc
    have hdigit : digit? (.char c) = none := by
      simp only [Node.Opens] at hc
      rcases hc with rfl | rfl <;> rfl
    rw [readUInt32_cons hskip]
    simp [Glyph.is, hminus, hdigit]

theorem Decodes.option (hread : Decodes read means) :
    Decodes (readOption read) (Node.optional? means) := by
  intro v more text h hmore
  by_cases hnull : v = .null
  · subst hnull
    obtain ⟨rest, hrest, hskip⟩ := Spaced.exists_skipSpace (c := 'n') h (by decide)
    have hword := word_append "ull".toList (ofList rest)
    refine ⟨rest, hrest, ?_⟩
    rw [readOption, hskip]
    change (word "ull".toList (ofList "ull".toList ++ ofList rest) >>= _).toOption = _
    rw [hword]
    rfl
  · obtain ⟨c, rest, hc, hskip, h⟩ := h.exists_opens
    have hmeans : Node.optional? means v = (means v).map some := by
      cases v <;> first | rfl | exact absurd rfl hnull
    rw [readOption, hskip, hmeans]
    split
    · rename_i heq
      cases heq
      cases v <;> simp [Node.Opens] at hc hnull
    · exact (hread h hmore).map some

/-- What a value means put into something else. -/
theorem Decodes.map (hread : Decodes read means) (f : α → β) :
    Decodes (fun gs => do
      let (a, rest) ← read gs
      .ok (f a, rest)) fun v => (means v).map f :=
  fun h hmore => (hread h hmore).map f

/-! ### Arrays -/

/-- The comma in front of an item is passed over. -/
theorem nextItem_tokens {first : Bool}
    (h : Spaced ((if first then [] else [[',']]) ++ v.tokens ++ more) text) :
    ∃ rest, Spaced (v.tokens ++ more) rest ∧
      nextItem first (ofList text) = .ok (true, ofList rest) := by
  cases first with
  | true =>
    obtain ⟨c, rest, hc, hskip, hrest⟩ := Spaced.exists_opens (v := v) h
    have hclose : c ≠ ']' := hc.ne (by decide) rfl
    refine ⟨c :: rest, hrest, ?_⟩
    rw [nextItem, hskip]
    simp [Glyph.is, hclose]
  | false =>
    obtain ⟨rest, hrest, hskip⟩ := Spaced.exists_skipSpace (c := ',') h (by decide)
    obtain ⟨c, rest', hc, hskip', hrest'⟩ := hrest.exists_opens
    have hclose : c ≠ ']' := hc.ne (by decide) rfl
    refine ⟨c :: rest', hrest', ?_⟩
    rw [nextItem, hskip]
    simp [Glyph.is, hskip', hclose]

theorem nextItem_close (first : Bool) (h : Spaced ([']'] :: more) text) :
    ∃ rest, Spaced more rest ∧
      nextItem first (ofList text) = .ok (false, .char ']' :: ofList rest) := by
  obtain ⟨rest, hrest, hskip⟩ := h.exists_skipSpace (by decide)
  refine ⟨rest, hrest, ?_⟩
  rw [nextItem, hskip]
  rfl

theorem closeArray_close (h : Spaced ([']'] :: more) text) :
    ∃ rest, Spaced more rest ∧ closeArray (ofList text) = .ok (ofList rest) := by
  obtain ⟨rest, hrest, hskip⟩ := h.exists_skipSpace (by decide)
  refine ⟨rest, hrest, ?_⟩
  rw [closeArray, hskip]
  rfl

/-- An item where none is wanted. -/
theorem closeArray_item {first : Bool}
    (h : Spaced ((if first then [] else [[',']]) ++ v.tokens ++ more) text) :
    (closeArray (ofList text)).toOption = none := by
  cases first with
  | true =>
    obtain ⟨c, rest, hc, hskip, -⟩ := Spaced.exists_opens (v := v) h
    have hclose : c ≠ ']' := hc.ne (by decide) rfl
    have hcomma : c ≠ ',' := hc.ne (by decide) rfl
    rw [closeArray, hskip]
    simp [Glyph.is, hclose, hcomma]
  | false =>
    obtain ⟨rest, hrest, hskip⟩ := Spaced.exists_skipSpace (c := ',') h (by decide)
    obtain ⟨c, rest', hc, hskip', -⟩ := hrest.exists_opens
    rw [closeArray, hskip]
    simp [Glyph.is, hskip']

theorem readItems_tokens (hread : Decodes read means) (items : List Node) {first : Bool}
    {budget : Nat} (hbudget : items.length < budget)
    (h : Spaced (itemTokens first items ++ more) text) :
    Gives more (readItems read budget first (ofList text)) (items.mapM means) := by
  induction items generalizing first budget text with
  | nil =>
    obtain ⟨budget, rfl⟩ : ∃ n, budget = n + 1 := ⟨budget - 1, by omega⟩
    obtain ⟨rest, hrest, hnext⟩ := nextItem_close first h
    refine ⟨rest, hrest, ?_⟩
    rw [readItems, hnext]
    rfl
  | cons v items ih =>
    obtain ⟨budget, rfl⟩ : ∃ n, budget = n + 1 := ⟨budget - 1, by omega⟩
    rw [itemTokens, List.append_assoc] at h
    obtain ⟨rest, hrest, hnext⟩ := nextItem_tokens h
    rw [readItems, hnext, List.mapM_cons]
    have hitem := hread hrest (follows_itemTokens items more)
    refine hitem.bind (fun _ hleft => hleft.exists_append) fun a rest₁ hrest₁ => ?_
    exact (ih (by simpa using hbudget) hrest₁).bind (fun rest₂ hrest₂ => ⟨rest₂, hrest₂⟩)
      fun as rest₂ hrest₂ => ⟨rest₂, hrest₂, rfl⟩

theorem Decodes.array (hread : Decodes read means) :
    Decodes (readArray read) (Node.items? means) := by
  intro v more text h hmore
  cases v with
  | array items =>
    rw [Node.tokens, List.cons_append] at h
    obtain ⟨rest, hrest, hskip⟩ := h.exists_skipSpace (by decide)
    have hlength := length_lt_itemTokens true items
    have hle := hrest.length_le
    rw [List.length_append] at hle
    rw [readArray, hskip]
    refine readItems_tokens hread items ?_ hrest
    rw [List.length_append, Glyph.length_ofList, Glyph.length_ofList]
    omega
  | _ =>
    refine h.refused fun c rest hc hskip => ?_
    have hbracket : c ≠ '[' := by
      rintro rfl
      simp [Node.Opens] at hc
    rw [readArray, hskip]
    simp [Glyph.is, hbracket]

/-! ### Records -/

/-- A field of a record as it is read off a node. -/
structure Reading (α : Type) where
  name : String
  means : α → Node → Option α
  required : Bool

/-- A field is read off the text of a node as it is off the node. -/
structure Field.Decodes (field : Field α) (reading : Reading α) : Prop where
  name : field.name = reading.name
  required : field.required = reading.required
  reads : ∀ a, Json.Decodes (field.read a) (reading.means a)

namespace Reading

/-- The field that a key names. -/
def find? (readings : List (Reading α)) (key : String) : Option (Reading α) :=
  List.find? (·.name == key) readings

/-- The members of an object as a record; `seen` are the fields before them. -/
def ofMembers? (readings : List (Reading α)) : List String → α → List Member → Option α
  | seen, a, [] =>
    if readings.all fun r => !r.required || seen.contains r.name then some a else none
  | seen, a, (k, v) :: ms => do
    let key ← k.string?
    match find? readings key with
    | none => ofMembers? readings seen a ms
    | some r =>
      if seen.contains key then none
      else
        let a ← r.means a v
        ofMembers? readings (key :: seen) a ms

/-- The items of an array as the fields of a record in their order, after `count` others. -/
def ofItems? (needed : Nat) : List (Reading α) → Nat → α → List Node → Option α
  | [], _, a, [] => some a
  | [], _, _, _ :: _ => none
  | _ :: _, count, a, [] => if count < needed then none else some a
  | r :: readings, count, a, v :: vs => do
    let a ← r.means a v
    ofItems? needed readings (count + 1) a vs

end Reading

namespace Shape

variable {shape : Shape α} {readings : List (Reading α)}

/-- A node as a record. -/
def ofNode? (shape : Shape α) (readings : List (Reading α)) : Node → Option α
  | .object members => Reading.ofMembers? readings [] shape.empty members
  | .array items => Reading.ofItems? shape.arrayNeeds readings 0 shape.empty items
  | _ => none

theorem nextKey_tokens {first : Bool} {k : Spelling}
    (h : Spaced ((if first then [] else [[',']]) ++ [k.quoted] ++ more) text) :
    ∃ rest, Spaced more rest ∧
      nextKey first (ofList text) = .ok (true, ofList k.text ++ .char '"' :: ofList rest) := by
  cases first with
  | true =>
    obtain ⟨rest, hrest, hskip⟩ := Spaced.exists_skipSpace (c := '"') h (by decide)
    refine ⟨rest, hrest, ?_⟩
    rw [nextKey, hskip]
    simp [Glyph.is]
  | false =>
    obtain ⟨rest, hrest, hskip⟩ := Spaced.exists_skipSpace (c := ',') h (by decide)
    obtain ⟨rest', hrest', hskip'⟩ := Spaced.exists_skipSpace (c := '"') hrest (by decide)
    refine ⟨rest', hrest', ?_⟩
    rw [nextKey, hskip]
    simp [Glyph.is, hskip']

theorem nextKey_close (first : Bool) (h : Spaced (['\x7d'] :: more) text) :
    ∃ rest, Spaced more rest ∧ nextKey first (ofList text) = .ok (false, ofList rest) := by
  obtain ⟨rest, hrest, hskip⟩ := h.exists_skipSpace (by decide)
  refine ⟨rest, hrest, ?_⟩
  rw [nextKey, hskip]
  rfl

theorem colon_tokens (h : Spaced ([':'] :: more) text) :
    ∃ rest, Spaced more rest ∧ colon (ofList text) = .ok (ofList rest) := by
  obtain ⟨rest, hrest, hskip⟩ := h.exists_skipSpace (by decide)
  refine ⟨rest, hrest, ?_⟩
  rw [colon, hskip]
  rfl

/-- A key names the same field among the fields and among the readings. -/
theorem find?_decodes {fields : List (Field α)} (h : List.Forall₂ Field.Decodes fields readings)
    (key : String) :
    Option.Rel Field.Decodes (fields.find? (·.name == key)) (Reading.find? readings key) := by
  induction h with
  | nil => exact .none
  | @cons field reading fields readings hfield _ ih =>
    rw [Reading.find?, List.find?_cons, List.find?_cons, hfield.name]
    split
    · exact .some hfield
    · exact ih

/-- The same fields are missing. -/
theorem find?_missing {fields : List (Field α)} (h : List.Forall₂ Field.Decodes fields readings)
    (seen : List String) :
    (fields.find? fun f => f.required && !seen.contains f.name).isNone =
      readings.all fun r => !r.required || seen.contains r.name := by
  induction h with
  | nil => rfl
  | @cons field reading fields readings hfield _ ih =>
    rw [List.find?_cons, List.all_cons, ← ih, hfield.name, hfield.required]
    cases reading.required <;> cases seen.contains reading.name <;> rfl

theorem readMembers_tokens (hfields : List.Forall₂ Field.Decodes shape.fields readings)
    (members : List Member) {first : Bool} {budget : Nat} (hbudget : members.length < budget)
    (seen : List String) (a : α) (h : Spaced (memberTokens first members ++ more) text) :
    Gives more (shape.readMembers budget first seen a (ofList text))
      (Reading.ofMembers? readings seen a members) := by
  induction members generalizing first budget seen a text with
  | nil =>
    obtain ⟨budget, rfl⟩ : ∃ n, budget = n + 1 := ⟨budget - 1, by omega⟩
    obtain ⟨rest, hrest, hnext⟩ := nextKey_close first h
    refine ⟨rest, hrest, ?_⟩
    rw [readMembers, hnext, Reading.ofMembers?, ← find?_missing hfields]
    simp only [bind, Except.bind]
    rw [if_neg (by decide)]
    cases shape.fields.find? fun f => f.required && !seen.contains f.name <;> rfl
  | cons member members ih =>
    obtain ⟨k, v⟩ := member
    obtain ⟨budget, rfl⟩ : ∃ n, budget = n + 1 := ⟨budget - 1, by omega⟩
    have hbudget : members.length < budget := by simpa using hbudget
    have h : Spaced ((if first then [] else [[',']]) ++ [k.quoted] ++
        ([':'] :: v.tokens ++ (memberTokens false members ++ more))) text := by
      simpa [memberTokens] using h
    have hmore := follows_memberTokens members more
    obtain ⟨rest, hrest, hnext⟩ := nextKey_tokens h
    have hkey : Gives _ (readStringRest (ofList k.text ++ .char '"' :: ofList rest)) k.string? :=
      ⟨rest, hrest, readStringRest_spelling k (ofList rest)⟩
    rw [readMembers, hnext, Reading.ofMembers?]
    refine hkey.bind ?_ ?_
    · -- a key that spells nothing is refused, but the tokens behind the member are there
      intro _ hleft
      obtain ⟨_, hleft⟩ := Spaced.exists_append hleft
      exact hleft.exists_append
    · intro key rest₁ hrest₁
      -- the key names a field and its reading, or neither
      have hfind := find?_decodes hfields key
      obtain ⟨rest₂, hrest₂, hcolon⟩ := colon_tokens hrest₁
      dsimp only
      revert hfind
      cases shape.fields.find? (·.name == key) <;> cases Reading.find? readings key <;>
        intro hfind
      · obtain ⟨rest₃, hrest₃, hskip⟩ := skipValue_tokens v hrest₂ hmore
        rw [hcolon]
        change Gives more (skipValue (ofList rest₂) >>= _) _
        rw [hskip]
        exact ih hbudget seen a hrest₃
      · cases hfind
      · cases hfind
      · rename_i field r
        cases hfind with
        | some hfield =>
          dsimp only
          by_cases hseen : seen.contains key = true
          · obtain ⟨_, hleft⟩ := Spaced.exists_append hrest₂
            obtain ⟨rest₃, hrest₃⟩ := hleft.exists_append
            rw [if_pos hseen, if_pos hseen]
            exact ⟨rest₃, hrest₃, rfl⟩
          · rw [if_neg hseen, if_neg hseen, hcolon]
            exact (hfield.reads a hrest₂ hmore).bind (fun _ hleft => hleft.exists_append)
              fun b rest₃ hrest₃ => ih hbudget (key :: seen) b hrest₃

theorem readElements_tokens {fields : List (Field α)}
    (hfields : List.Forall₂ Field.Decodes fields readings) (items : List Node) (count : Nat) (a : α)
    (h : Spaced (itemTokens (count == 0) items ++ more) text) :
    Gives more (shape.readElements fields count a (ofList text))
      (Reading.ofItems? shape.arrayNeeds readings count a items) := by
  induction hfields generalizing items count a text with
  | nil =>
    cases items with
    | nil =>
      obtain ⟨rest, hrest, hclose⟩ := closeArray_close h
      refine ⟨rest, hrest, ?_⟩
      rw [readElements, hclose]
      rfl
    | cons v items =>
      obtain ⟨rest, hrest⟩ := h.exists_append
      rw [itemTokens, List.append_assoc] at h
      refine ⟨rest, hrest, ?_⟩
      rw [readElements, toOption_bind, closeArray_item h]
      rfl
  | @cons field r fields readings hfield _ ih =>
    cases items with
    | nil =>
      obtain ⟨rest, hrest, hnext⟩ := nextItem_close (count == 0) h
      refine ⟨rest, hrest, ?_⟩
      rw [readElements, hnext, Reading.ofItems?]
      simp only [bind, Except.bind]
      rw [if_neg (by decide)]
      split <;> rfl
    | cons v items =>
      rw [itemTokens, List.append_assoc] at h
      obtain ⟨rest, hrest, hnext⟩ := nextItem_tokens h
      rw [readElements, hnext, Reading.ofItems?]
      exact (hfield.reads a hrest (follows_itemTokens items more)).bind
        (fun _ hleft => hleft.exists_append) fun b rest₁ hrest₁ => ih items (count + 1) b hrest₁

/-- A record is read off the text of a node as it is off the node. -/
theorem decodes_read (hfields : List.Forall₂ Field.Decodes shape.fields readings) :
    Decodes shape.read (shape.ofNode? readings) := by
  intro v more text h hmore
  cases v with
  | array items =>
    rw [Node.tokens, List.cons_append] at h
    obtain ⟨rest, hrest, hskip⟩ := h.exists_skipSpace (by decide)
    rw [read, hskip]
    exact readElements_tokens hfields items 0 shape.empty hrest
  | object members =>
    rw [Node.tokens, List.cons_append] at h
    obtain ⟨rest, hrest, hskip⟩ := h.exists_skipSpace (by decide)
    have hlength := length_lt_memberTokens true members
    have hle := hrest.length_le
    rw [List.length_append] at hle
    rw [read, hskip]
    refine readMembers_tokens hfields members ?_ [] shape.empty hrest
    rw [List.length_append, Glyph.length_ofList, Glyph.length_ofList]
    omega
  | _ =>
    refine h.refused fun c rest hc hskip => ?_
    have hbracket : c ≠ '[' := by
      rintro rfl
      simp [Node.Opens] at hc
    have hbrace : c ≠ '\x7b' := by
      rintro rfl
      simp [Node.Opens] at hc
    rw [read, hskip]
    simp [Glyph.is, hbracket, hbrace]

/-- A record is read off a whole text, whatever blanks stand in it. -/
theorem readAll_tokens (hfields : List.Forall₂ Field.Decodes shape.fields readings)
    (h : Spaced v.tokens text) :
    (shape.readAll (ofList text)).toOption = shape.ofNode? readings v := by
  rw [← List.append_nil v.tokens] at h
  obtain ⟨rest, hrest, hresult⟩ := decodes_read hfields h (by simp [Follows])
  rw [readAll, toOption_bind, hresult]
  cases shape.ofNode? readings v with
  | none => rfl
  | some a =>
    dsimp only [Option.map_some, Option.bind_some]
    rw [hrest.skipSpace_eq_nil]
    rfl

end Shape

end RemoteFiles.Json
