import Mathlib.Data.List.Forall2
import RemoteFiles.Proofs.Text.Pieces
import RemoteFiles.Proofs.Toml.Strings
import RemoteFiles.Toml.Reader

/-!
# Keys of TOML documents

Any name can be a key: it is written without quotes if it is made of letters, digits, underscores
and hyphens, and between quotes otherwise.  Either is read up to its end (`readKey_keyText`).

Values whose keys have a single part each are added to a table in their order, if no name is given
twice (`insertAll_ownEntries`).
-/

namespace RemoteFiles.Toml

/-! ### Names as keys -/

/-- A name that stands as a key without quotes. -/
def IsBare (name : String) : Prop :=
  name.toList ≠ [] ∧ ∀ c ∈ name.toList, isKeyChar c = true

instance (name : String) : Decidable (IsBare name) :=
  decidable_of_iff ((!name.toList.isEmpty && name.toList.all isKeyChar) = true) (by simp [IsBare])

/-- The characters of a key: its name, between quotes if need be. -/
def keyText (name : String) : List Char :=
  if IsBare name then name.toList else '"' :: (escaped false 0 name.toList ++ ['"'])

/-- The first characters of keys. -/
def startsKey (c : Char) : Bool := isKeyChar c || c == '"'

/-- What is asked of a character is asked of the ones that ASCII has first. -/
theorem of_ascii {p : Char → Prop} (hascii : ∀ n < 0x80, p (Char.ofNat n))
    (hother : ∀ c : Char, 0x80 ≤ c.toNat → p c) (c : Char) : p c := by
  by_cases hc : c.toNat < 0x80
  · have hp := hascii c.toNat hc
    rwa [Char.ofNat_toNat] at hp
  · exact hother c (Nat.not_lt.mp hc)

theorem isPlain_of_le {c : Char} (hc : 0x80 ≤ c.toNat) : isPlain c = true := by
  simp only [isPlain, Bool.or_eq_true, Bool.and_eq_true, decide_eq_true_eq, bne_iff_ne]
  omega

/-- Where a key starts there is no blank, comment, header, or end of a table. -/
theorem of_startsKey {c : Char} (hc : startsKey c = true) :
    isBlank c = false ∧ isPlain c = true ∧ c ≠ '#' ∧ c ≠ '[' ∧ c ≠ '\x7d' ∧ c ≠ '\uFEFF' := by
  have hother : ∀ d, startsKey d = false → c ≠ d := by
    rintro d hd rfl
    rw [hd] at hc
    cases hc
  have hplain : ∀ c, startsKey c = true → isPlain c = true :=
    of_ascii (by decide) fun c hc _ => isPlain_of_le hc
  refine ⟨?_, hplain c hc, hother _ (by decide), hother _ (by decide), hother _ (by decide),
    hother _ (by decide)⟩
  rw [isBlank, beq_false_of_ne (hother ' ' (by decide)), beq_false_of_ne (hother '\t' (by decide))]
  rfl

theorem exists_keyText (name : String) :
    ∃ c cs, keyText name = c :: cs ∧ startsKey c = true := by
  unfold keyText
  split
  · rename_i hbare
    obtain ⟨c, cs, hform⟩ := List.exists_cons_of_ne_nil hbare.1
    have hc := hbare.2 c (by rw [hform]; exact List.mem_cons_self)
    exact ⟨c, cs, hform, by rw [startsKey, hc, Bool.true_or]⟩
  · exact ⟨'"', _, rfl, rfl⟩

/-! ### Reading keys -/

section

variable {name : String} {stop : Char}

theorem keyPart_bare (h : IsBare name) (hstop : isKeyChar stop = false) (rest : List Char) :
    ∃ span, keyPart (name.toList ++ stop :: rest) = some (⟨name, span⟩, stop :: rest) := by
  have hend : ∀ c ∈ (stop :: rest).head?, isKeyChar c = false := by
    intro c hc
    rwa [← Option.some.inj hc]
  obtain ⟨htake, hdrop⟩ := Text.takeWhile_append_stop h.2 hend
  obtain ⟨c, cs, hform⟩ := List.exists_cons_of_ne_nil h.1
  have hc : isKeyChar c = true := h.2 c (by rw [hform]; exact List.mem_cons_self)
  unfold keyPart
  split
  · rename_i heq
    rw [hform] at heq
    rw [(List.cons.inj heq).1] at hc
    cases hc
  · rename_i heq
    rw [hform] at heq
    rw [(List.cons.inj heq).1] at hc
    cases hc
  · simp only [htake, hdrop]
    split
    · rename_i heq
      exact absurd heq h.1
    · rw [String.ofList_toList]
      exact ⟨_, rfl⟩

theorem keyPart_quoted (name : String) (rest : List Char) :
    ∃ span, keyPart ('"' :: (escaped false 0 name.toList ++ '"' :: rest)) =
      some (⟨name, span⟩, rest) := by
  have hbudget : name.toList.length <
      ('"' :: (escaped false 0 name.toList ++ '"' :: rest)).length := by
    have hlength := length_le_length_escaped false 0 name.toList
    simp only [List.length_cons, List.length_append]
    omega
  rw [keyPart, basicBody_escaped 0 rest hbudget]
  simp only [Option.map_some, String.ofList_toList]
  exact ⟨_, rfl⟩

theorem keyPart_keyText (name : String) (hstop : isKeyChar stop = false) (rest : List Char) :
    ∃ span, keyPart (keyText name ++ stop :: rest) = some (⟨name, span⟩, stop :: rest) := by
  unfold keyText
  split
  · rename_i hbare
    exact keyPart_bare hbare hstop rest
  · rw [List.cons_append, List.append_assoc]
    exact keyPart_quoted name (stop :: rest)

theorem skipBlanks_cons {c : Char} (hc : isBlank c = false) (cs : List Char) :
    skipBlanks (c :: cs) = c :: cs :=
  List.dropWhile_cons_of_neg (by simp [hc])

theorem readKey_keyText (name : String) (hstop : isKeyChar stop = false) {rest : List Char}
    (hpoint : (skipBlanks (stop :: rest)).head? ≠ some '.') :
    ∃ span, readKey (keyText name ++ stop :: rest) =
      some (([], ⟨name, span⟩), skipBlanks (stop :: rest)) := by
  obtain ⟨span, hpart⟩ := keyPart_keyText name hstop rest
  obtain ⟨c, cs, hform, hstart⟩ := exists_keyText name
  obtain ⟨n, hlen⟩ : ∃ n, (keyText name ++ stop :: rest).length = n + 1 :=
    ⟨_, List.length_append⟩
  have hparts : keyParts (n + 1) (keyText name ++ stop :: rest) =
      some ([⟨name, span⟩], skipBlanks (stop :: rest)) := by
    rw [hform, List.cons_append] at hpart ⊢
    rw [keyParts, skipBlanks_cons (of_startsKey hstart).1, hpart]
    simp only [Option.bind_eq_bind, Option.bind_some]
    -- no point follows, so this part is the whole key
    split
    · rename_i heq
      exact absurd (by rw [heq]; rfl) hpoint
    · rfl
  refine ⟨span, ?_⟩
  rw [readKey, hlen, hparts]
  rfl

end

/-! ### Entries by their names -/

/-- The names of entries, in order. -/
def names (es : Entries) : List String := es.map (·.1.name)

theorem find?_eq_none {es : Entries} {name : String} (h : name ∉ names es) :
    Entries.find? es name = none := by
  rw [Entries.find?, Option.map_eq_none_iff, List.find?_eq_none]
  intro e he hname
  exact h (List.mem_map.mpr ⟨e, he, by simpa using hname⟩)

/-- An entry as the lines of a document give it, with a key of a single part. -/
def ownEntry (entry : Key × Node) : (List Key × Key) × Node := (([], entry.1), entry.2)

theorem insertAll_ownEntries {es entries : Entries} (h : (names (es ++ entries)).Nodup) :
    Entries.insertAll es (entries.map ownEntry) = some (es ++ entries) := by
  induction entries generalizing es with
  | nil => rw [List.map_nil, Entries.insertAll, List.append_nil]
  | cons entry entries ih =>
    have hjoin : es ++ entry :: entries = (es ++ [entry]) ++ entries := by simp
    have hnew : entry.1.name ∉ names es := by
      intro hmem
      rw [names, List.map_append, List.nodup_append] at h
      exact h.2.2 _ hmem _ (by simp) rfl
    have hinsert : Entries.insert es [] entry.1 entry.2 = some (es ++ [entry]) := by
      simp [Entries.insert, Entries.update, find?_eq_none hnew]
    rw [List.map_cons, ownEntry, Entries.insertAll, hinsert]
    simp only [Option.bind_eq_bind, Option.bind_some]
    rw [hjoin, ih (hjoin ▸ h)]

/-- A name and what stands under it, as an entry whose value is related to that. -/
def Named {α : Type} (shows : α → Node → Prop) (a : String × α) (entry : Key × Node) : Prop :=
  entry.1.name = a.1 ∧ shows a.2 entry.2

section

variable {α : Type} {shows : α → Node → Prop} {as : List (String × α)} {entries : Entries}

theorem names_of_forall₂ (h : List.Forall₂ (Named shows) as entries) :
    names entries = as.map Prod.fst := by
  induction h with
  | nil => rfl
  | cons hentry _ ih => rw [names, List.map_cons, List.map_cons, hentry.1, ← ih, names]

/-- What is found under a name among the entries shows what stands there. -/
theorem rel_find? (h : List.Forall₂ (Named shows) as entries) (name : String) :
    Option.Rel shows (as.lookup name) (Entries.find? entries name) := by
  induction h with
  | nil => exact .none
  | @cons a entry as entries hentry _ ih =>
    obtain ⟨own, x⟩ := a
    have hname : entry.1.name = own := hentry.1
    rw [List.lookup_cons, Entries.find?, List.find?_cons, hname, Bool.beq_comm]
    cases hown : own == name with
    | true => exact .some hentry.2
    | false => exact ih

end

end RemoteFiles.Toml
