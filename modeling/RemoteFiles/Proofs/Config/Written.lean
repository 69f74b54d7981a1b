import RemoteFiles.Proofs.Config.Reading
import RemoteFiles.Proofs.Toml.Documents

/-!
# Documents with some of the settings

Any choice of settings can be written in a document, with the parts and their settings in any order
and among anything else (`Gives`), and the document is read as the chosen settings with the standard
ones in the other places (`ofToml_of_gives`).  The one value that a document has no place for is a
timeout that 63 bits do not hold (`exists_gives_iff`).
-/

namespace RemoteFiles.Config

open Toml (Document Line Block Node Entries)

/-! ### Settings as they are written -/

/-- The value of a setting as it is written. -/
def Field.written : (f : Field) → f.Value → Toml.Value
  | .timeout, n => .scalar (Nat.toDigits 10 n.toNat)
  | .url, s | .root, s | .userAgent, s | .username, s | .level, s => .text s

/-- The setting is one that a document has a place for. -/
def Field.IsWritable : (f : Field) → f.Value → Prop
  | .timeout, n => n.toNat < numberBound
  | .url, _ | .root, _ | .userAgent, _ | .username, _ | .level, _ => True

/-- The document gives exactly the chosen settings, each in its part, which is a block. -/
structure Gives (doc : Document) (choice : (f : Field) → Option f.Value) : Prop where
  top : ∀ f : Field, f.part ∉ doc.top.map Prod.fst
  own : ∀ f : Field,
    (doc.blocks.lookup f.part).bind (·.lookup f.name) = (choice f).map f.written

section

variable {f : Field} {v : f.Value} {node : Node}

/-- What is written for a setting is read as its value. -/
theorem ofNode?_of_is (h : (f.written v).Is node) : f.ofNode? node = some v := by
  have htext : ∀ {s : String}, (Toml.Value.text s).Is node → Field.text? node = some s := by
    rintro s ⟨span, rfl⟩
    rfl
  cases f
  case timeout =>
    obtain ⟨span, hscalar⟩ := h
    rw [Toml.scalar_toDigits (Toml.lt_of_scalar_toDigits hscalar)] at hscalar
    cases hscalar
    show Field.count? (.integer span (v.toNat : Int)) = some v
    rw [Field.count?, if_pos (Int.natCast_nonneg _), Int.toNat_natCast, UInt64.ofNat_toNat]
  all_goals exact htext h

theorem fits_written_iff (depth : Nat) :
    (f.written v).Fits depth ↔ f.IsWritable v := by
  cases f
  case timeout =>
    constructor
    · intro h
      cases h with
      | scalar _ hscalar =>
        obtain ⟨node, hnode⟩ := Option.isSome_iff_exists.mp (hscalar.isSome ⟨0, 0⟩)
        exact Toml.lt_of_scalar_toDigits hnode
    · exact fun h => .scalar depth (Toml.isScalar_toDigits h)
  all_goals exact iff_of_true (.text depth _) trivial

end

/-! ### Reading -/

section

variable {doc : Document} {choice : (f : Field) → Option f.Value}

/-- The lines of a block stand in the places of the settings. -/
theorem nodeIn?_of_isTable {f : Field} {ls : List Line} {node : Node} (h : Block.IsTable ls node) :
    isPart node = true ∧ Option.Rel Toml.Value.Is (ls.lookup f.name) (f.nodeIn? node) := by
  obtain ⟨kind, span, entries, rfl, hentries⟩ := h
  exact ⟨rfl, Toml.rel_find? hentries f.name⟩

theorem exists_of_rel {α β : Type} {r : α → β → Prop} {o : Option α} {b : β}
    (h : Option.Rel r o (some b)) : ∃ a, o = some a ∧ r a b := by
  cases h with
  | some hab => exact ⟨_, rfl, hab⟩

/-- In what is read from a document the blocks stand in the places of the parts, and the chosen
settings in theirs. -/
theorem exists_read_of_gives (hdoc : doc.Fits) (h : Gives doc choice) :
    ∃ entries, Toml.read doc.text = some entries ∧
      (∀ f : Field, Option.Rel Block.IsTable (doc.blocks.lookup f.part)
        (Entries.find? entries f.part)) ∧
      ∀ f : Field, Option.Rel Toml.Value.Is ((choice f).map f.written) (f.node? entries) := by
  obtain ⟨first, entries, hread, hfirst, hentries⟩ := Toml.read_document hdoc
  have hpart : ∀ f : Field, Option.Rel Block.IsTable (doc.blocks.lookup f.part)
      (Entries.find? (first ++ entries) f.part) := by
    intro f
    have hnone : Entries.find? first f.part = none :=
      Toml.find?_eq_none (Toml.names_of_forall₂ hfirst ▸ h.top f)
    rw [Entries.find?, Option.map_eq_none_iff] at hnone
    rw [Entries.find?, List.find?_append, hnone, Option.none_or]
    exact Toml.rel_find? hentries f.part
  refine ⟨_, hread, hpart, fun f => ?_⟩
  have hf := hpart f
  rw [← h.own f, Field.node?]
  generalize doc.blocks.lookup f.part = ls at hf ⊢
  generalize Entries.find? (first ++ entries) f.part = node at hf ⊢
  cases hf with
  | none => exact .none
  | some hnode => exact (nodeIn?_of_isTable hnode).2

/-- A document is read as exactly the settings that it gives. -/
theorem given?_of_gives (hdoc : doc.Fits) (h : Gives doc choice) :
    ∃ entries, Toml.read doc.text = some entries ∧ IsTyped entries ∧
      ∀ f : Field, f.given? entries = choice f := by
  obtain ⟨entries, hread, hpart, hsetting⟩ := exists_read_of_gives hdoc h
  have hgiven : ∀ (f : Field) (node : Node), f.node? entries = some node →
      ∃ v, choice f = some v ∧ f.ofNode? node = some v := by
    intro f node hnode
    obtain ⟨value, hvalue, his⟩ := exists_of_rel (hnode ▸ hsetting f)
    obtain ⟨v, hv, rfl⟩ := Option.map_eq_some_iff.mp hvalue
    exact ⟨v, hv, ofNode?_of_is his⟩
  refine ⟨entries, hread, ⟨fun f node hfind => ?_, fun f node hnode => ?_⟩, fun f => ?_⟩
  · obtain ⟨ls, -, htable⟩ := exists_of_rel (hfind ▸ hpart f)
    exact (nodeIn?_of_isTable (f := f) htable).1
  · obtain ⟨v, -, hv⟩ := hgiven f node hnode
    rw [hv]
    rfl
  · rw [Field.given?]
    cases hnode : f.node? entries with
    | some node =>
      obtain ⟨v, hchoice, hv⟩ := hgiven f node hnode
      rw [hchoice]
      exact hv
    | none =>
      have hf := hsetting f
      rw [hnode] at hf
      cases hchoice : choice f with
      | none => rfl
      | some v =>
        rw [hchoice] at hf
        cases hf

/-- A document with chosen settings is read as the configuration of that choice. -/
theorem ofToml_of_gives (hdoc : doc.Fits) (h : Gives doc choice) :
    ofToml doc.text = .ok (ofChoice choice) := by
  obtain ⟨entries, hread, htyped, hgiven⟩ := given?_of_gives hdoc h
  refine ofToml_eq_ok_iff.mpr ⟨entries, hread, htyped, ?_⟩
  rw [funext hgiven]

end

/-! ### Writing -/

section

variable {choice : (f : Field) → Option f.Value}

/-- The lines of the chosen ones among some settings. -/
def linesOf (choice : (f : Field) → Option f.Value) (fields : List Field) : List Line :=
  fields.filterMap fun f => (choice f).map fun v => (f.name, f.written v)

/-- The document of the chosen settings, with all parts in their order. -/
def documentOf (choice : (f : Field) → Option f.Value) : Document :=
  ⟨[], parts.map fun part => (part.name, linesOf choice (Field.ofPart part.name))⟩

theorem lookup_linesOf (f : Field) (fields : List Field) :
    (linesOf choice fields).lookup f.name =
      if f ∈ fields then (choice f).map f.written else none := by
  induction fields with
  | nil => rfl
  | cons g fields ih =>
    unfold linesOf at ih ⊢
    by_cases hg : g = f
    · subst hg
      rw [if_pos List.mem_cons_self]
      cases hchoice : choice g with
      | some v => simp [hchoice]
      | none =>
        rw [List.filterMap_cons, hchoice]
        refine ih.trans ?_
        rw [hchoice]
        exact ite_self _
    · have hname : (f.name == g.name) = false :=
        beq_false_of_ne fun heq => hg (Field.name_injective heq.symm)
      have hmem : f ∈ g :: fields ↔ f ∈ fields := by
        rw [List.mem_cons, or_iff_right fun heq => hg heq.symm]
      simp only [hmem]
      cases hchoice : choice g with
      | some v =>
        rw [List.filterMap_cons, hchoice]
        simp only [Option.map_some, List.lookup_cons, hname]
        exact ih
      | none =>
        rw [List.filterMap_cons, hchoice]
        exact ih

theorem gives_documentOf (choice : (f : Field) → Option f.Value) :
    Gives (documentOf choice) choice where
  top _ := List.not_mem_nil
  own f := by
    have hpart : (documentOf choice).blocks.lookup f.part =
        some (linesOf choice (Field.ofPart f.part)) := by
      cases f
      all_goals rfl
    rw [hpart, Option.bind_some, lookup_linesOf, if_pos (Field.mem_ofPart.mpr rfl)]

theorem fits_documentOf (h : ∀ (f : Field) (v : f.Value), choice f = some v → f.IsWritable v) :
    (documentOf choice).Fits where
  top := List.forall_mem_nil _
  blocks := by
    intro block hblock
    obtain ⟨part, -, rfl⟩ := List.mem_map.mp hblock
    constructor
    · intro line hline
      obtain ⟨f, -, hf⟩ := List.mem_filterMap.mp hline
      obtain ⟨v, hv, rfl⟩ := Option.map_eq_some_iff.mp hf
      exact (fits_written_iff _).mpr (h f v hv)
    · -- the names are some of those of all settings of the part, which are distinct
      have hsublist : ∀ fields : List Field,
          ((linesOf choice fields).map Prod.fst).Sublist (fields.map Field.name) := by
        intro fields
        induction fields with
        | nil => exact List.Sublist.refl _
        | cons f fields ih =>
          unfold linesOf at ih ⊢
          rw [List.filterMap_cons]
          cases choice f with
          | none => exact ih.cons _
          | some v => exact ih.cons_cons _
      refine List.Nodup.sublist (hsublist _) (List.Nodup.map ?_ (List.Nodup.filter _ (by decide)))
      exact fun _ _ => Field.name_injective
  nodup := by
    show ["server", "http", "auth", "log"].Nodup
    decide

theorem mem_of_lookup {α : Type} {as : List (String × α)} {name : String} {a : α}
    (h : as.lookup name = some a) : (name, a) ∈ as := by
  obtain ⟨before, after, rfl, -⟩ := List.lookup_eq_some_iff.mp h
  exact List.mem_append_right _ List.mem_cons_self

/-- A choice of settings can be written exactly if 63 bits hold the timeout. -/
theorem exists_gives_iff :
    (∃ doc : Document, doc.Fits ∧ Gives doc choice) ↔
      ∀ (f : Field) (v : f.Value), choice f = some v → f.IsWritable v := by
  constructor
  · rintro ⟨doc, hdoc, hgives⟩ f v hv
    have hown := hgives.own f
    rw [hv, Option.map_some, Option.bind_eq_some_iff] at hown
    obtain ⟨ls, hls, hvalue⟩ := hown
    have hblock := hdoc.blocks _ (mem_of_lookup hls)
    exact (fits_written_iff _).mp (hblock.1 _ (mem_of_lookup hvalue))
  · exact fun h => ⟨documentOf choice, fits_documentOf h, gives_documentOf choice⟩

end

end RemoteFiles.Config
