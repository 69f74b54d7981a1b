import Mathlib.Data.List.Nodup
import RemoteFiles.Proofs.Config.Fields
import RemoteFiles.Proofs.Toml.Proper

/-!
# Reading the settings of a document

A text is a configuration exactly if it is a document whose values at the places of settings have
their types, and the configuration is that of the settings given there (`ofToml_eq_ok_iff`).  Which
parts and settings come first, and what else is there, makes no difference, because no table has a
name twice.

A document is read part by part, and a part setting by setting.  What a fold does to one setting is
decided by the one element that has its key (`get_foldlM`), and whether a fold succeeds is decided
by its elements alone (`isOk_foldlM_iff`).
-/

namespace RemoteFiles.Config

open Toml (Node Key Entries)

/-! ### Folds -/

section

variable {ε α : Type} {step : Config → α → Except ε Config} {l : List α} {c c' : Config}

variable (step) in
/-- A setting that no element changes stays as it is. -/
theorem get_foldlM_of_get {f : Field}
    (hkeeps : ∀ a ∈ l, ∀ c c', step c a = .ok c' → f.get c' = f.get c)
    (h : l.foldlM step c = .ok c') : f.get c' = f.get c := by
  induction l generalizing c with
  | nil =>
    cases h
    rfl
  | cons a l ih =>
    rw [List.forall_mem_cons] at hkeeps
    rw [List.foldlM_cons] at h
    cases hstep : step c a with
    | error fault =>
      rw [hstep] at h
      cases h
    | ok c₁ =>
      rw [hstep] at h
      exact (ih hkeeps.2 h).trans (hkeeps.1 c c₁ hstep)

/-- If one element at most decides about a setting, the whole list does what that element does. -/
theorem get_foldlM (f : Field) (key : α → String) (name : String) (value : α → Option f.Value)
    (hother : ∀ a ∈ l, ∀ c c', key a ≠ name → step c a = .ok c' → f.get c' = f.get c)
    (hown : ∀ a ∈ l, ∀ c c', key a = name → step c a = .ok c' →
      f.get c' = (value a).or (f.get c))
    (hnodup : (l.map key).Nodup) (h : l.foldlM step c = .ok c') :
    f.get c' = ((l.find? (key · == name)).bind value).or (f.get c) := by
  induction l generalizing c with
  | nil =>
    cases h
    rfl
  | cons a l ih =>
    rw [List.forall_mem_cons] at hother hown
    rw [List.map_cons, List.nodup_cons] at hnodup
    rw [List.foldlM_cons] at h
    cases hstep : step c a with
    | error fault =>
      rw [hstep] at h
      cases h
    | ok c₁ =>
    rw [hstep] at h
    have hrest := ih hother.2 hown.2 hnodup.2 h
    by_cases hkey : key a = name
    · -- what comes later has other keys
      have hnone : l.find? (key · == name) = none := by
        rw [List.find?_eq_none]
        intro b hb hname
        rw [beq_iff_eq, ← hkey] at hname
        exact hnodup.1 (List.mem_map.mpr ⟨b, hb, hname⟩)
      have hfind : (a :: l).find? (key · == name) = some a :=
        List.find?_cons_of_pos (beq_iff_eq.mpr hkey)
      rw [hnone] at hrest
      rw [hrest, hfind]
      exact hown.1 _ _ hkey hstep
    · have hfind : (a :: l).find? (key · == name) = l.find? (key · == name) :=
        List.find?_cons_of_neg (by simpa using hkey)
      rw [hfind, hrest, hother.1 _ _ hkey hstep]

/-- If it does not depend on the configuration whether an element is accepted, a list is accepted
whose elements are. -/
theorem isOk_foldlM_iff {accepted : α → Prop}
    (h : ∀ a ∈ l, ∀ c, (step c a).isOk = true ↔ accepted a) :
    (l.foldlM step c).isOk = true ↔ ∀ a ∈ l, accepted a := by
  induction l generalizing c with
  | nil => exact iff_of_true rfl (List.forall_mem_nil _)
  | cons a l ih =>
    rw [List.forall_mem_cons] at h ⊢
    rw [List.foldlM_cons, ← h.1 c]
    cases step c a with
    | error fault => exact iff_of_false Bool.false_ne_true fun h => Bool.false_ne_true h.1
    | ok c₁ => exact (ih h.2).trans (and_iff_right rfl).symm

end

/-! ### Parts -/

section

variable {part : Part} {size : Nat} {key : Key} {node : Node} {f : Field} {c c' : Config}

/-- A setting is found under its name among those of its part. -/
theorem lookup_settings (fields : List Field) (name : String) :
    (fields.map fun f => (f.name, f.read)).lookup name =
      (fields.find? (·.name == name)).map Field.read := by
  induction fields with
  | nil => rfl
  | cons f fields ih =>
    rw [List.map_cons, List.lookup_cons, List.find?_cons, ih, Bool.beq_comm]
    cases f.name == name <;> rfl

/-- One entry of a part that is a table. -/
def entryStep (size : Nat) (settings : List (String × Setting)) (c : Config) (e : Key × Node) :
    Except ConfigTextFault Config :=
  match settings.lookup e.1.name with
  | some read => read size (some e.1) e.2 c
  | none => .ok c

theorem entryStep_cases (size : Nat) (hpart : part ∈ parts) (c : Config) (e : Key × Node) :
    (∃ f : Field, f.part = part.name ∧ f.name = e.1.name ∧
      entryStep size part.settings c e = f.read size (some e.1) e.2 c) ∨
    ((∀ f : Field, f.part = part.name → f.name ≠ e.1.name) ∧
      entryStep size part.settings c e = .ok c) := by
  unfold entryStep
  rw [settings_of_mem hpart, lookup_settings]
  cases hfind : (Field.ofPart part.name).find? (·.name == e.1.name) with
  | some f =>
    refine .inl ⟨f, Field.mem_ofPart.mp (List.mem_of_find?_eq_some hfind), ?_, rfl⟩
    simpa using List.find?_some hfind
  | none =>
    rw [List.find?_eq_none] at hfind
    refine .inr ⟨fun f hf hname => ?_, rfl⟩
    exact hfind f (Field.mem_ofPart.mpr hf) (beq_iff_eq.mpr hname)

theorem readEntries_eq (settings : List (String × Setting)) (own : Entries) (c : Config) :
    readEntries size settings own c = own.foldlM (entryStep size settings) c := rfl

/-- A table changes the settings of its part to the values under their names. -/
theorem get_readEntries (hpart : part ∈ parts) {own : Entries} (hown : own.IsProper)
    (h : readEntries size part.settings own c = .ok c') (hf : f.part = part.name) :
    f.get c' = ((own.find? f.name).bind f.ofNode?).or (f.get c) := by
  rw [readEntries_eq] at h
  have hget := get_foldlM f (fun e : Key × Node => e.1.name) f.name (fun e => f.ofNode? e.2) ?_ ?_
    hown.nodup h
  · rw [hget, Entries.find?]
    cases List.find? _ own <;> rfl
  · intro e _ c c' hne hstep
    obtain ⟨g, -, hname, hread⟩ | ⟨-, hskip⟩ := entryStep_cases size hpart c e
    · rw [hstep] at hread
      obtain ⟨v, -, rfl⟩ := Field.ofNode?_of_read hread.symm
      refine Field.get_set_of_ne ?_ v c
      rintro rfl
      exact hne hname.symm
    · rw [hstep, Except.ok.injEq] at hskip
      rw [hskip]
  · intro e _ c c' heq hstep
    obtain ⟨g, -, hname, hread⟩ | ⟨hnone, -⟩ := entryStep_cases size hpart c e
    · obtain rfl := Field.name_injective (hname.trans heq)
      rw [hstep] at hread
      obtain ⟨v, hnode, rfl⟩ := Field.ofNode?_of_read hread.symm
      rw [hnode, Field.get_set_self]
      rfl
    · exact absurd heq.symm (hnone f hf)

/-- One element of a part that is an array, with the setting in whose place it stands. -/
def itemStep (size : Nat) (c : Config) (a : (String × Setting) × Node) :
    Except ConfigTextFault Config :=
  a.1.2 size none a.2 c

theorem readItems_eq (settings : List (String × Setting)) (items : List Node) (c : Config) :
    readItems size settings items c = (settings.zip items).foldlM (itemStep size) c := rfl

theorem exists_of_mem_zip (hpart : part ∈ parts) {items : List Node}
    {a : (String × Setting) × Node} (ha : a ∈ part.settings.zip items) :
    ∃ g : Field, g.part = part.name ∧ a.1 = (g.name, g.read) := by
  have hmem := (List.of_mem_zip ha).1
  rw [settings_of_mem hpart, List.mem_map] at hmem
  obtain ⟨g, hg, heq⟩ := hmem
  exact ⟨g, Field.mem_ofPart.mp hg, heq.symm⟩

/-- The settings of a part stand in their places. -/
theorem find?_zip (hpart : part ∈ parts) (hf : f.part = part.name) (items : List Node) :
    (part.settings.zip items).find? (·.1.1 == f.name) =
      items[f.index]?.map fun node => ((f.name, f.read), node) := by
  rw [settings_of_mem hpart, ← hf]
  cases f <;> rcases items with _ | ⟨a, _ | ⟨b, items⟩⟩ <;> rfl

theorem nodup_map_zip {α β γ : Type} (key : α → γ) {l : List α} (l' : List β)
    (h : (l.map key).Nodup) : ((l.zip l').map fun a => key a.1).Nodup := by
  refine h.sublist ?_
  clear h
  induction l generalizing l' with
  | nil => exact List.Sublist.refl _
  | cons a l ih =>
    cases l' with
    | nil => exact List.nil_sublist _
    | cons b l' => exact (ih l').cons_cons _

theorem nodup_names_settings (hpart : part ∈ parts) : (part.settings.map Prod.fst).Nodup := by
  rw [settings_of_mem hpart, List.map_map]
  refine List.Nodup.map (fun _ _ => Field.name_injective) (List.Nodup.filter _ ?_)
  decide

/-- An array changes the settings of its part to the values in their places. -/
theorem get_readItems (hpart : part ∈ parts) {items : List Node}
    (h : readItems size part.settings items c = .ok c') (hf : f.part = part.name) :
    f.get c' = (items[f.index]?.bind f.ofNode?).or (f.get c) := by
  rw [readItems_eq] at h
  have hget := get_foldlM f (fun a : (String × Setting) × Node => a.1.1) f.name
    (fun a => f.ofNode? a.2) ?_ ?_ (nodup_map_zip _ items (nodup_names_settings hpart)) h
  · rw [hget, find?_zip hpart hf]
    cases items[f.index]? <;> rfl
  · intro a ha c c' hne hstep
    obtain ⟨g, -, hg⟩ := exists_of_mem_zip hpart ha
    rw [itemStep, hg] at hstep
    rw [hg] at hne
    obtain ⟨v, -, rfl⟩ := Field.ofNode?_of_read hstep
    refine Field.get_set_of_ne ?_ v c
    rintro rfl
    exact hne rfl
  · intro a ha c c' heq hstep
    obtain ⟨g, -, hg⟩ := exists_of_mem_zip hpart ha
    rw [hg] at heq
    obtain rfl := Field.name_injective heq
    rw [itemStep, hg] at hstep
    obtain ⟨v, hnode, rfl⟩ := Field.ofNode?_of_read hstep
    rw [hnode, Field.get_set_self]
    rfl

/-- A part changes its settings to the values in their places. -/
theorem get_read (hpart : part ∈ parts) (hnode : node.IsProper)
    (h : part.read size key node c = .ok c') (hf : f.part = part.name) :
    f.get c' = ((f.nodeIn? node).bind f.ofNode?).or (f.get c) := by
  cases hnode with
  | table hnames hentries => exact get_readEntries hpart ⟨hnames, hentries⟩ h hf
  | inline hnames hentries => exact get_readEntries hpart ⟨hnames, hentries⟩ h hf
  | array hitems => exact get_readItems hpart h hf
  | tables hitems => exact get_readItems hpart h hf
  | moment =>
    cases h
    rfl
  | string | integer | float | boolean => cases h

/-- A part leaves the settings of other parts alone. -/
theorem get_read_of_ne (hpart : part ∈ parts) (h : part.read size key node c = .ok c')
    (hf : f.part ≠ part.name) : f.get c' = f.get c := by
  have hentries : ∀ own, readEntries size part.settings own c = .ok c' → f.get c' = f.get c := by
    refine fun own => get_foldlM_of_get (entryStep size part.settings) ?_
    intro e _ c c' hstep
    obtain ⟨g, hg, -, hread⟩ | ⟨-, hskip⟩ := entryStep_cases size hpart c e
    · rw [hstep] at hread
      obtain ⟨v, -, rfl⟩ := Field.ofNode?_of_read hread.symm
      refine Field.get_set_of_ne ?_ v c
      rintro rfl
      exact hf hg
    · rw [hstep, Except.ok.injEq] at hskip
      rw [hskip]
  have hitems : ∀ items, readItems size part.settings items c = .ok c' → f.get c' = f.get c := by
    refine fun items => get_foldlM_of_get (itemStep size) ?_
    intro a ha c c' hstep
    obtain ⟨g, hg, hread⟩ := exists_of_mem_zip hpart ha
    rw [itemStep, hread] at hstep
    obtain ⟨v, -, rfl⟩ := Field.ofNode?_of_read hstep
    refine Field.get_set_of_ne ?_ v c
    rintro rfl
    exact hf hg
  cases node with
  | table => exact hentries _ h
  | inline => exact hentries _ h
  | array => exact hitems _ h
  | tables => exact hitems _ h
  | moment =>
    cases h
    rfl
  | string | integer | float | boolean => cases h

/-! ### What is accepted -/

theorem isOk_readEntries_iff (hpart : part ∈ parts) {own : Entries} (hown : own.IsProper) :
    (readEntries size part.settings own c).isOk = true ↔
      ∀ f : Field, f.part = part.name → ∀ n, own.find? f.name = some n →
        (f.ofNode? n).isSome = true := by
  have hstep : ∀ e ∈ own, ∀ c, (entryStep size part.settings c e).isOk = true ↔
      ∀ f : Field, f.part = part.name → f.name = e.1.name → (f.ofNode? e.2).isSome = true := by
    intro e _ c
    obtain ⟨g, hg, hname, hread⟩ | ⟨hnone, hskip⟩ := entryStep_cases size hpart c e
    · rw [hread, Field.isOk_read_iff]
      refine ⟨fun h f _ hf => ?_, fun h => h g hg hname⟩
      obtain rfl := Field.name_injective (hname.trans hf.symm)
      exact h
    · rw [hskip]
      exact iff_of_true rfl fun f hf hname => absurd hname (hnone f hf)
  rw [readEntries_eq, isOk_foldlM_iff hstep]
  constructor
  · intro h f hf n hfind
    obtain ⟨k, hmem, hname⟩ := Toml.find?_eq_some hfind
    exact h (k, n) hmem f hf hname.symm
  · intro h e he f hf hname
    exact h f hf e.2 (hname ▸ hown.find?_of_mem he)

theorem isOk_readItems_iff (hpart : part ∈ parts) {items : List Node} :
    (readItems size part.settings items c).isOk = true ↔
      ∀ f : Field, f.part = part.name → ∀ n, items[f.index]? = some n →
        (f.ofNode? n).isSome = true := by
  have hstep : ∀ a ∈ part.settings.zip items, ∀ c, (itemStep size c a).isOk = true ↔
      ∀ f : Field, f.part = part.name → f.name = a.1.1 → (f.ofNode? a.2).isSome = true := by
    intro a ha c
    obtain ⟨g, hg, hread⟩ := exists_of_mem_zip hpart ha
    rw [itemStep, hread, Field.isOk_read_iff]
    refine ⟨fun h f _ hname => ?_, fun h => h g hg rfl⟩
    obtain rfl := Field.name_injective hname
    exact h
  have hnodup := nodup_map_zip Prod.fst items (nodup_names_settings hpart)
  rw [readItems_eq, isOk_foldlM_iff hstep]
  constructor
  · intro h f hf n hn
    have hfind := find?_zip hpart hf items
    rw [hn] at hfind
    exact h _ (List.mem_of_find?_eq_some hfind) f hf rfl
  · intro h a ha f hf hname
    have hfind := find?_zip hpart hf items
    rw [hname, Toml.find?_of_mem hnodup ha, eq_comm, Option.map_eq_some_iff] at hfind
    obtain ⟨n, hn, heq⟩ := hfind
    rw [← heq]
    exact h f hf n hn

/-- A part is accepted if it is no scalar and the values in the places of its settings have their
types. -/
theorem isOk_read_iff (hpart : part ∈ parts) (hnode : node.IsProper) :
    (part.read size key node c).isOk = true ↔
      isPart node = true ∧ ∀ f : Field, f.part = part.name → ∀ n, f.nodeIn? node = some n →
        (f.ofNode? n).isSome = true := by
  cases hnode with
  | table hnames hentries =>
    exact (isOk_readEntries_iff hpart ⟨hnames, hentries⟩).trans (and_iff_right rfl).symm
  | inline hnames hentries =>
    exact (isOk_readEntries_iff hpart ⟨hnames, hentries⟩).trans (and_iff_right rfl).symm
  | array hitems => exact (isOk_readItems_iff hpart).trans (and_iff_right rfl).symm
  | tables hitems => exact (isOk_readItems_iff hpart).trans (and_iff_right rfl).symm
  | moment => exact iff_of_true rfl ⟨rfl, fun f _ n hn => nomatch hn⟩
  | string | integer | float | boolean =>
    exact iff_of_false Bool.false_ne_true fun h => Bool.false_ne_true h.1

end

/-! ### Documents -/

section

variable {size : Nat} {entries : Entries} {c c' : Config} {text : String}

/-- One entry of a document. -/
def partStep (size : Nat) (c : Config) (e : Key × Node) : Except ConfigTextFault Config :=
  match parts.find? (·.name == e.1.name) with
  | some part => part.read size e.1 e.2 c
  | none => .ok c

theorem partStep_cases (size : Nat) (c : Config) (e : Key × Node) :
    (∃ part ∈ parts, part.name = e.1.name ∧ partStep size c e = part.read size e.1 e.2 c) ∨
      ((∀ f : Field, f.part ≠ e.1.name) ∧ partStep size c e = .ok c) := by
  unfold partStep
  cases hfind : parts.find? (·.name == e.1.name) with
  | some part =>
    exact .inl ⟨part, List.mem_of_find?_eq_some hfind, by simpa using List.find?_some hfind, rfl⟩
  | none =>
    refine .inr ⟨fun f hf => ?_, rfl⟩
    obtain ⟨part, hpart⟩ := exists_part f
    rw [hf, hfind] at hpart
    cases hpart

/-- A document changes the settings to the values that it gives them. -/
theorem get_foldlM_partStep (hentries : entries.IsProper)
    (h : entries.foldlM (partStep size) c = .ok c') (f : Field) :
    f.get c' = (f.given? entries).or (f.get c) := by
  have hget := get_foldlM f (fun e : Key × Node => e.1.name) f.part
    (fun e => (f.nodeIn? e.2).bind f.ofNode?) ?_ ?_ hentries.nodup h
  · rw [hget, Field.given?, Field.node?, Entries.find?]
    cases List.find? _ entries <;> rfl
  · intro e _ c c' hne hstep
    obtain ⟨part, hpart, hname, hread⟩ | ⟨-, hskip⟩ := partStep_cases size c e
    · rw [hstep] at hread
      exact get_read_of_ne hpart hread.symm fun hf => hne (hname.symm.trans hf.symm)
    · rw [hstep, Except.ok.injEq] at hskip
      rw [hskip]
  · intro e he c c' heq hstep
    obtain ⟨part, hpart, hname, hread⟩ | ⟨hnone, -⟩ := partStep_cases size c e
    · rw [hstep] at hread
      exact get_read hpart (hentries.proper e he) hread.symm (heq.symm.trans hname.symm)
    · exact absurd heq.symm (hnone f)

theorem isOk_foldlM_partStep_iff (size : Nat) (c : Config) (hentries : entries.IsProper) :
    (entries.foldlM (partStep size) c).isOk = true ↔ IsTyped entries := by
  have hstep : ∀ e ∈ entries, ∀ c, (partStep size c e).isOk = true ↔
      ∀ f : Field, f.part = e.1.name → isPart e.2 = true ∧ ∀ n, f.nodeIn? e.2 = some n →
        (f.ofNode? n).isSome = true := by
    intro e he c
    obtain ⟨part, hpart, hname, hread⟩ | ⟨hnone, hskip⟩ := partStep_cases size c e
    · rw [hread, isOk_read_iff hpart (hentries.proper e he), hname]
      constructor
      · exact fun h f hf => ⟨h.1, h.2 f hf⟩
      · intro h
        obtain ⟨f, hf⟩ := exists_field hpart
        exact ⟨(h f (hf.trans hname)).1, fun f hf => (h f hf).2⟩
    · rw [hskip]
      exact iff_of_true rfl fun f hf => absurd hf (hnone f)
  rw [isOk_foldlM_iff hstep]
  constructor
  · intro h
    refine ⟨fun f node hfind => ?_, fun f n hn => ?_⟩
    · obtain ⟨k, hmem, hname⟩ := Toml.find?_eq_some hfind
      exact (h _ hmem f hname.symm).1
    · obtain ⟨node, hfind, hin⟩ := Option.bind_eq_some_iff.mp hn
      obtain ⟨k, hmem, hname⟩ := Toml.find?_eq_some hfind
      exact (h _ hmem f hname.symm).2 n hin
  · intro h e he f hf
    have hfind : entries.find? f.part = some e.2 := hf ▸ hentries.find?_of_mem he
    refine ⟨h.isPart f e.2 hfind, fun n hn => h.isSome f n ?_⟩
    rw [Field.node?, hfind]
    exact hn

theorem ofToml_of_none (h : Toml.read text = none) : ofToml text = .error .notToml := by
  rw [ofToml, h]

theorem ofToml_of_some (h : Toml.read text = some entries) :
    ofToml text = entries.foldlM (partStep text.utf8ByteSize) standard := by
  rw [ofToml, h]
  rfl

/-- A text is a configuration exactly if it is a document with values of the right types at the
places of parts and settings, and the configuration is that of the settings given there. -/
theorem ofToml_eq_ok_iff :
    ofToml text = .ok c ↔ ∃ entries, Toml.read text = some entries ∧ IsTyped entries ∧
      c = ofChoice fun f => f.given? entries := by
  cases hread : Toml.read text with
  | none =>
    rw [ofToml_of_none hread]
    exact iff_of_false (by simp) (by simp)
  | some entries =>
    rw [ofToml_of_some hread]
    have hentries := Toml.isProper_of_read hread
    have htyped := isOk_foldlM_partStep_iff text.utf8ByteSize standard hentries
    have hsame : ∀ {c}, entries.foldlM (partStep text.utf8ByteSize) standard = .ok c →
        c = ofChoice fun f => f.given? entries := fun h =>
      Field.eq_of_get fun f => by rw [get_foldlM_partStep hentries h, get_ofChoice]
    constructor
    · intro h
      refine ⟨entries, rfl, htyped.mp ?_, hsame h⟩
      rw [h]
      rfl
    · rintro ⟨_, heq, hall, rfl⟩
      cases heq
      have hok := htyped.mpr hall
      cases hfold : entries.foldlM (partStep text.utf8ByteSize) standard with
      | error fault =>
        rw [hfold] at hok
        cases hok
      | ok c => rw [hsame hfold]

end

end RemoteFiles.Config
