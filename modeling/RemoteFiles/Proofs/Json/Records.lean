import RemoteFiles.Proofs.Json.Literals
import RemoteFiles.Proofs.Json.Strings
import Mathlib.Data.List.Forall2

/-!
# JSON arrays and records read back

`ReadsBack read text a` says that a reader takes `a` from the text, whatever follows it.  If the
readers of the items of an array, and of the fields of a record, read back their texts, then so do
the readers of the array (`readsBack_array`) and of the record (`readsBack_object`).

The members of an object may stand in any order, and members that a record does not know are passed
over: `Shape.Fills` has one rule for a member that is a field and one for a member that is none.
-/

namespace RemoteFiles.Json

open RemoteFiles.Text (Glyph)
open RemoteFiles.Text.Glyph (ofList)

variable {α β : Type}

/-- The first character is neither a blank nor the end of an array. -/
def Starts (text : List Char) : Prop :=
  ∃ c cs, text = c :: cs ∧ isSpace (.char c) = false ∧ c ≠ ']'

/-- A text is read as a value, whatever follows it that does not go on with a number. -/
structure ReadsBack (read : List Glyph → Except Fault (Parsed α)) (text : List Char) (a : α) :
    Prop where
  starts : Starts text
  reads : ∀ rest, EndsNumber rest → read (ofList text ++ rest) = .ok (a, rest)

/-- A text is passed over as one value. -/
structure Skips (text : List Char) : Prop where
  starts : Starts text
  skips : ∀ rest, EndsNumber rest → skipValue (ofList text ++ rest) = .ok rest

theorem skipSpace_of_starts {text : List Char} (h : Starts text) (rest : List Glyph) :
    skipSpace (ofList text ++ rest) = ofList text ++ rest := by
  obtain ⟨c, cs, rfl, hspace, -⟩ := h
  exact List.dropWhile_cons_of_neg (by simp [hspace])

theorem Starts.append {text : List Char} (h : Starts text) (more : List Char) :
    Starts (text ++ more) := by
  obtain ⟨c, cs, rfl, hc⟩ := h
  exact ⟨c, cs ++ more, rfl, hc⟩

/-! ### Plain values -/

theorem starts_renderString (s : String) : Starts (renderString s) :=
  ⟨'"', _, rfl, by decide, by decide⟩

theorem readsBack_string (s : String) : ReadsBack readString (renderString s) s :=
  ⟨starts_renderString s, fun rest _ => readString_render s rest⟩

theorem skips_string (s : String) : Skips (renderString s) :=
  ⟨starts_renderString s, fun rest _ => skipValue_string s rest⟩

theorem readsBack_uint32 (code : UInt32) :
    ReadsBack readUInt32 (Nat.toDigits 10 code.toNat) code := by
  obtain ⟨c, cs, hdigits, hc⟩ := Text.exists_cons_toDigits code.toNat
  have hstarts : Starts (Nat.toDigits 10 code.toNat) :=
    ⟨c, cs, hdigits, (isDigit_glyph hc).1, Text.ne_of_isDigit hc (by decide)⟩
  have hlt : code.toNat < 0x100000000 := code.toNat_lt
  have hcode : (Literal.ofInt code.toNat).code? = Option.some code := by
    rw [Literal.code?_ofInt, if_pos (by omega), Int.toNat_natCast, UInt32.ofNat_toNat]
  refine ⟨hstarts, fun rest hrest => eq_ok_of_toOption ?_⟩
  rw [← Literal.text_ofInt] at hstarts ⊢
  rw [readUInt32_literal _ (skipSpace_of_starts hstarts rest) hrest, hcode, Option.map_some]

variable {read : List Glyph → Except Fault (Parsed α)} {text : List Char} {a : α}

/-- A value that does not look like `null`. -/
theorem ReadsBack.some (h : ReadsBack read text a) (hnull : text.head? ≠ some 'n') :
    ReadsBack (readOption read) text (some a) := by
  refine ⟨h.starts, fun rest hrest => ?_⟩
  rw [readOption, skipSpace_of_starts h.starts]
  split
  · rename_i heq
    obtain ⟨c, cs, rfl, -⟩ := h.starts
    cases heq
    exact absurd rfl hnull
  · rw [h.reads rest hrest]
    rfl

theorem ReadsBack.map (h : ReadsBack read text a) (f : α → β) :
    ReadsBack (fun gs => do
      let (a, rest) ← read gs
      .ok (f a, rest)) text (f a) := by
  refine ⟨h.starts, fun rest hrest => ?_⟩
  rw [h.reads rest hrest]
  rfl

/-! ### Lists of texts -/

/-- Texts parted by commas; behind other texts there is a comma in front. -/
def listed : Bool → List (List Char) → List Char
  | _, [] => []
  | first, text :: texts => (if first then [] else [',']) ++ text ++ listed false texts

theorem length_le_length_listed {texts : List (List Char)} (h : ∀ text ∈ texts, Starts text)
    (first : Bool) : texts.length ≤ (listed first texts).length := by
  induction texts generalizing first with
  | nil => exact Nat.zero_le _
  | cons text texts ih =>
    obtain ⟨c, cs, rfl, -⟩ := h text List.mem_cons_self
    have hle := ih (fun t ht => h t (List.mem_cons_of_mem _ ht)) false
    rw [listed, List.length_append, List.length_append, List.length_cons, List.length_cons]
    omega

/-! ### Arrays -/

theorem nextItem_listed {text : List Char} (h : Starts text) (first : Bool) (rest : List Glyph) :
    nextItem first (ofList ((if first then [] else [',']) ++ text) ++ rest) =
      .ok (true, ofList text ++ rest) := by
  obtain ⟨c, cs, rfl, hspace, hclose⟩ := h
  cases first <;>
    simp [nextItem, skipSpace, hspace, hclose, Glyph.is,
      show isSpace (.char ',') = false from rfl]

theorem readItems_close (read : List Glyph → Except Fault (Parsed α)) (budget : Nat)
    (first : Bool) (rest : List Glyph) :
    readItems read (budget + 1) first (.char ']' :: rest) = .ok ([], rest) := by
  cases first <;> rfl

/-- The glyph behind an item: a comma or the closing bracket. -/
theorem endsNumber_listed (texts : List (List Char)) {close : Char}
    (hclose : continuesNumber (.char close) = false) (rest : List Glyph) :
    EndsNumber (ofList (listed false texts) ++ .char close :: rest) := by
  cases texts with
  | nil => exact .cons hclose rest
  | cons text texts => exact .cons rfl _

theorem readItems_listed {texts : List (List Char)} {as : List α}
    (h : List.Forall₂ (ReadsBack read) texts as) {budget : Nat} (hbudget : texts.length < budget)
    (first : Bool) (rest : List Glyph) :
    readItems read budget first (ofList (listed first texts) ++ .char ']' :: rest) =
      .ok (as, rest) := by
  induction h generalizing budget first with
  | nil =>
    obtain ⟨budget, rfl⟩ : ∃ n, budget = n + 1 := ⟨budget - 1, by omega⟩
    exact readItems_close read budget first rest
  | @cons text a texts as htext htexts ih =>
    obtain ⟨budget, rfl⟩ : ∃ n, budget = n + 1 := ⟨budget - 1, by omega⟩
    have hrest := ih (show texts.length < budget by simpa using hbudget) false
    rw [listed, Glyph.ofList_append, List.append_assoc, readItems, nextItem_listed htext.starts]
    simp only [bind, Except.bind, if_true]
    rw [htext.reads _ (endsNumber_listed texts rfl rest)]
    dsimp only
    rw [hrest]

theorem starts_of_readsBack {texts : List (List Char)} {as : List α}
    (h : List.Forall₂ (ReadsBack read) texts as) : ∀ text ∈ texts, Starts text := by
  induction h with
  | nil => simp
  | cons htext _ ih => exact List.forall_mem_cons.mpr ⟨htext.starts, ih⟩

/-- The text of an array. -/
def arrayText (texts : List (List Char)) : List Char := '[' :: (listed true texts ++ [']'])

theorem readsBack_array {texts : List (List Char)} {as : List α}
    (h : List.Forall₂ (ReadsBack read) texts as) :
    ReadsBack (readArray read) (arrayText texts) as := by
  refine ⟨⟨'[', _, rfl, by decide, by decide⟩, fun rest _ => ?_⟩
  have hlength := length_le_length_listed (starts_of_readsBack h) true
  rw [arrayText, Glyph.ofList_cons, Glyph.ofList_append, List.cons_append, List.append_assoc,
    readArray, skipSpace, List.dropWhile_cons_of_neg (by decide)]
  refine readItems_listed h ?_ true rest
  rw [List.length_append, Glyph.length_ofList]
  omega

/-! ### Records -/

/-- The text of a member of an object. -/
def memberText (member : String × List Char) : List Char :=
  renderString member.1 ++ ':' :: member.2

/-- The text of an object. -/
def objectText (members : List (String × List Char)) : List Char :=
  '\x7b' :: (listed true (members.map memberText) ++ ['\x7d'])

namespace Shape

variable {shape : Shape α}

/-- The members of an object fill a record in: those that are fields of it are read into it one
after another, and the others are passed over. -/
inductive Fills (shape : Shape α) : α → List (String × List Char) → α → Prop
  | done (a : α) : Fills shape a [] a
  | known {a b c : α} {key : String} {text : List Char} {field : Field α}
      {members : List (String × List Char)}
      (found : shape.fields.find? (·.name == key) = some field)
      (reads : ReadsBack (field.read a) text b) (rest : Fills shape b members c) :
      Fills shape a ((key, text) :: members) c
  | unknown {a b : α} {key : String} {text : List Char} {members : List (String × List Char)}
      (found : shape.fields.find? (·.name == key) = none) (skips : Skips text)
      (rest : Fills shape a members b) : Fills shape a ((key, text) :: members) b

theorem Fills.append {a b c : α} {members more : List (String × List Char)}
    (h : shape.Fills a members b) (hmore : shape.Fills b more c) :
    shape.Fills a (members ++ more) c := by
  induction h with
  | done a => exact hmore
  | known found reads _ ih => exact .known found reads (ih hmore)
  | unknown found skips _ ih => exact .unknown found skips (ih hmore)

/-- The keys of the members that are fields of a record. -/
def knownKeys (shape : Shape α) (members : List (String × List Char)) : List String :=
  (members.map Prod.fst).filter fun key => (shape.fields.find? (·.name == key)).isSome

/-- The members have every field that a record must have. -/
def HasRequired (shape : Shape α) (seen : List String) (members : List (String × List Char)) :
    Prop :=
  ∀ field ∈ shape.fields, field.required = true →
    field.name ∈ seen ∨ field.name ∈ members.map Prod.fst

theorem nextKey_listed (first : Bool) (key : String) (text : List Char) (rest : List Glyph) :
    nextKey first (ofList ((if first then [] else [',']) ++ memberText (key, text)) ++ rest) =
      .ok (true, ofList (key.toList.flatMap escapeChar) ++
        .char '"' :: .char ':' :: (ofList text ++ rest)) := by
  cases first <;>
    simp [nextKey, memberText, renderString, skipSpace, Glyph.is,
      show isSpace (.char ',') = false from rfl, show isSpace (.char '"') = false from rfl]

theorem readMembers_close (budget : Nat) (first : Bool) {seen : List String} (a : α)
    (hrequired : shape.HasRequired seen []) (rest : List Glyph) :
    shape.readMembers (budget + 1) first seen a (.char '\x7d' :: rest) = .ok (a, rest) := by
  have hnone : shape.fields.find? (fun f => f.required && !seen.contains f.name) = none := by
    rw [List.find?_eq_none]
    intro field hmem hmissing
    rw [Bool.and_eq_true] at hmissing
    rcases hrequired field hmem hmissing.1 with hseen | hmembers
    · simp [hseen] at hmissing
    · exact absurd hmembers List.not_mem_nil
  have hkey : nextKey first (.char '\x7d' :: rest) = .ok (false, rest) := by cases first <;> rfl
  rw [readMembers, hkey]
  simp only [bind, Except.bind]
  rw [if_neg (by decide), hnone]

/-- One member: its key is read, and then its value by the field of that name, if there is one. -/
theorem readMembers_cons (budget : Nat) (first : Bool) (seen : List String) (a : α) (key : String)
    (text : List Char) (rest : List Glyph) :
    shape.readMembers (budget + 1) first seen a
        (ofList ((if first then [] else [',']) ++ memberText (key, text)) ++ rest) =
      match shape.fields.find? (·.name == key) with
      | none =>
        (skipValue (ofList text ++ rest)).bind fun rest =>
          shape.readMembers budget false seen a rest
      | some field =>
        if seen.contains key then
          .error (.before (.duplicateField key) (afterMembers (.char ':' :: (ofList text ++ rest))))
        else
          (field.read a (ofList text ++ rest)).bind fun (a, rest) =>
            shape.readMembers budget false (key :: seen) a rest := by
  rw [readMembers, nextKey_listed]
  simp only [bind, Except.bind, if_true]
  rw [readStringRest_escaped]
  rfl

theorem HasRequired.field {seen : List String} {key : String} {text : List Char}
    {members : List (String × List Char)}
    (h : shape.HasRequired seen ((key, text) :: members)) :
    shape.HasRequired (key :: seen) members := by
  intro field hmem hneeded
  rcases h field hmem hneeded with hseen | hmembers
  · exact .inl (List.mem_cons_of_mem key hseen)
  · rw [List.map_cons, List.mem_cons] at hmembers
    exact hmembers.imp_left fun hkey => List.mem_cons.mpr (.inl hkey)

theorem HasRequired.other {seen : List String} {key : String} {text : List Char}
    {members : List (String × List Char)}
    (h : shape.HasRequired seen ((key, text) :: members))
    (hkey : shape.fields.find? (·.name == key) = none) : shape.HasRequired seen members := by
  intro field hmem hneeded
  refine (h field hmem hneeded).imp_right fun hmembers => ?_
  rw [List.map_cons, List.mem_cons] at hmembers
  refine hmembers.resolve_left fun hname => ?_
  exact List.find?_eq_none.mp hkey field hmem (beq_iff_eq.mpr hname)

/-- Members that fill a record in are read into it, if no field stands there twice and none that is
needed is missing. -/
theorem readMembers_listed {a b : α} {members : List (String × List Char)}
    (h : shape.Fills a members b) {budget : Nat} (hbudget : members.length < budget)
    (first : Bool) {seen : List String} (hnodup : (shape.knownKeys members).Nodup)
    (hfresh : ∀ key ∈ shape.knownKeys members, key ∉ seen)
    (hrequired : shape.HasRequired seen members) (rest : List Glyph) :
    shape.readMembers budget first seen a
        (ofList (listed first (members.map memberText)) ++ .char '\x7d' :: rest) =
      .ok (b, rest) := by
  induction h generalizing budget first seen with
  | done a =>
    obtain ⟨budget, rfl⟩ : ∃ n, budget = n + 1 := ⟨budget - 1, by omega⟩
    exact readMembers_close budget first a hrequired rest
  | @known a b c key text field members found reads _ ih =>
    obtain ⟨budget, rfl⟩ : ∃ n, budget = n + 1 := ⟨budget - 1, by omega⟩
    have hkeys : shape.knownKeys ((key, text) :: members) = key :: shape.knownKeys members := by
      simp [knownKeys, found]
    rw [hkeys, List.nodup_cons] at hnodup
    rw [hkeys, List.forall_mem_cons] at hfresh
    have hmore : ∀ k ∈ shape.knownKeys members, k ∉ key :: seen := by
      intro k hk hseen
      rcases List.mem_cons.mp hseen with rfl | hseen
      · exact hnodup.1 hk
      · exact hfresh.2 k hk hseen
    have hrest := ih (show members.length < budget by simpa using hbudget) false hnodup.2 hmore
      hrequired.field
    rw [List.map_cons, listed, Glyph.ofList_append, List.append_assoc, readMembers_cons, found]
    dsimp only
    rw [if_neg (by simpa using hfresh.1), reads.reads _ (endsNumber_listed _ rfl rest)]
    exact hrest
  | @unknown a b key text members found skips _ ih =>
    obtain ⟨budget, rfl⟩ : ∃ n, budget = n + 1 := ⟨budget - 1, by omega⟩
    have hkeys : shape.knownKeys ((key, text) :: members) = shape.knownKeys members := by
      simp [knownKeys, found]
    rw [hkeys] at hnodup hfresh
    have hrest := ih (show members.length < budget by simpa using hbudget) false hnodup hfresh
      (hrequired.other found)
    rw [List.map_cons, listed, Glyph.ofList_append, List.append_assoc, readMembers_cons, found]
    dsimp only
    rw [skips.skips _ (endsNumber_listed _ rfl rest)]
    exact hrest

theorem starts_memberText (member : String × List Char) : Starts (memberText member) :=
  (starts_renderString member.1).append _

/-- An object is read as the record that its members fill in. -/
theorem readsBack_object {a : α} {members : List (String × List Char)}
    (h : shape.Fills shape.empty members a) (hnodup : (shape.knownKeys members).Nodup)
    (hrequired : shape.HasRequired [] members) :
    ReadsBack shape.read (objectText members) a := by
  refine ⟨⟨'\x7b', _, rfl, by decide, by decide⟩, fun rest _ => ?_⟩
  have hstarts : ∀ text ∈ members.map memberText, Starts text := by
    intro text htext
    obtain ⟨member, -, rfl⟩ := List.mem_map.mp htext
    exact starts_memberText member
  have hlength := length_le_length_listed hstarts true
  rw [List.length_map] at hlength
  rw [objectText, Glyph.ofList_cons, Glyph.ofList_append, List.cons_append, List.append_assoc,
    read, skipSpace, List.dropWhile_cons_of_neg (by decide)]
  refine readMembers_listed h ?_ true hnodup (fun _ _ => List.not_mem_nil) hrequired rest
  rw [List.length_append, Glyph.length_ofList]
  omega

theorem readAll_of_readsBack {text : List Char} {a : α} (h : ReadsBack shape.read text a) :
    shape.readAll (ofList text) = .ok a := by
  have hread := h.reads [] .nil
  rw [List.append_nil] at hread
  rw [readAll, hread]
  rfl

end Shape

/-! ### Texts of values -/

theorem renderItems_eq (vs : List Value) : renderItems vs = listed true (vs.map Value.render) := by
  induction vs with
  | nil => simp [renderItems, listed]
  | cons v vs ih => cases vs <;> simp_all [renderItems, listed]

/-- The members of an object with the texts of their values. -/
def written (members : List (String × Value)) : List (String × List Char) :=
  members.map fun member => (member.1, member.2.render)

theorem renderMembers_eq (members : List (String × Value)) :
    renderMembers members = listed true ((written members).map memberText) := by
  induction members with
  | nil => simp [renderMembers, written, listed]
  | cons member members ih =>
    cases members <;> simp_all [renderMembers, written, listed, memberText]

theorem render_array (vs : List Value) :
    (Value.array vs).render = arrayText (vs.map Value.render) := by
  rw [Value.render, renderItems_eq, arrayText]

theorem render_object (members : List (String × Value)) :
    (Value.object members).render = objectText (written members) := by
  rw [Value.render, renderMembers_eq, objectText]

/-- A value that is written under the name of a field is put into it. -/
theorem Shape.fills_field {shape : Shape α} {name : String} {required : Bool}
    {read : List Glyph → Except Fault (Parsed β)} {v : Value} {b : β} (put : α → β → α)
    (found : shape.fields.find? (·.name == name) = Option.some ⟨name, fun a gs => do
      let (b, rest) ← read gs
      .ok (put a b, rest), required⟩)
    (reads : ReadsBack read v.render b) (a : α) :
    shape.Fills a (written [(name, v)]) (put a b) :=
  .known found (reads.map (put a)) (.done _)

end RemoteFiles.Json
