import RemoteFiles.Proofs.Toml.Keys

/-!
# What a document cannot hold

In everything that is read, integers have 64 bits, and no table has a name twice, however deep it is
(`Node.IsProper`).  That values are so follows the reader (`isProper_of_readValue`), and that tables
stay so while a document is put together follows the changes of its entries (`isProper_update`).  So
the entries of every document are proper (`isProper_of_read`).
-/

namespace RemoteFiles.Toml

variable {read : List Char → Option (Node × List Char)} {cs rest : List Char}

/-! ### Names -/

theorem find?_eq_some {es : Entries} {name : String} {node : Node} (h : es.find? name = some node) :
    ∃ k, (k, node) ∈ es ∧ k.name = name := by
  rw [Entries.find?, Option.map_eq_some_iff] at h
  obtain ⟨⟨k, _⟩, hfind, rfl⟩ := h
  exact ⟨k, List.mem_of_find?_eq_some hfind, by simpa using List.find?_some hfind⟩

theorem notMem_names_of_find? {es : Entries} {name : String} (h : es.find? name = none) :
    name ∉ names es := by
  intro hmem
  obtain ⟨e, he, hname⟩ := List.mem_map.mp hmem
  rw [Entries.find?, Option.map_eq_none_iff, List.find?_eq_none] at h
  exact h e he (by simpa using hname)

/-- With distinct keys, every element is the one that is found under its key. -/
theorem find?_of_mem {α : Type} {key : α → String} {l : List α} (hnodup : (l.map key).Nodup) {a : α}
    (ha : a ∈ l) : l.find? (key · == key a) = some a := by
  induction l with
  | nil => cases ha
  | cons b l ih =>
    rw [List.map_cons, List.nodup_cons] at hnodup
    obtain rfl | ha := List.mem_cons.mp ha
    · exact List.find?_cons_of_pos (beq_self_eq_true _)
    · have hne : key b ≠ key a := fun heq => hnodup.1 (heq ▸ List.mem_map_of_mem ha)
      exact (List.find?_cons_of_neg (by simpa using hne)).trans (ih hnodup.2 ha)

theorem names_replace (es : Entries) (name : String) (node : Node) :
    names (es.replace name node) = names es := by
  rw [names, names, Entries.replace, List.map_map]
  refine List.map_congr_left fun e _ => ?_
  obtain ⟨k, v⟩ := e
  dsimp only [Function.comp_apply]
  split <;> rfl

/-! ### Proper values -/

/-- Integers have 64 bits, and no table has a name twice. -/
inductive Node.IsProper : Node → Prop
  | string (span : Span) (s : String) : IsProper (.string span s)
  | integer {span : Span} {n : Int} (hn : inRange n = true) : IsProper (.integer span n)
  | float (span : Span) (bits : UInt64) : IsProper (.float span bits)
  | boolean (span : Span) (b : Bool) : IsProper (.boolean span b)
  | moment (span : Span) : IsProper (.moment span)
  | array {span : Span} {items : List Node} (hitems : ∀ item ∈ items, item.IsProper) :
    IsProper (.array span items)
  | inline {span : Span} {entries : Entries} (hnames : (names entries).Nodup)
    (hentries : ∀ e ∈ entries, e.2.IsProper) : IsProper (.inline span entries)
  | table {kind : TableKind} {span : Option Span} {entries : Entries}
    (hnames : (names entries).Nodup) (hentries : ∀ e ∈ entries, e.2.IsProper) :
    IsProper (.table kind span entries)
  | tables {span : Span} {items : List Node} (hitems : ∀ item ∈ items, item.IsProper) :
    IsProper (.tables span items)

/-- The entries of a table that is proper. -/
structure Entries.IsProper (es : Entries) : Prop where
  nodup : (names es).Nodup
  proper : ∀ e ∈ es, e.2.IsProper

namespace Entries.IsProper

variable {es inner : Entries} {k : Key} {node : Node}

theorem nil : IsProper [] := ⟨List.nodup_nil, List.forall_mem_nil _⟩

theorem of_table {kind : TableKind} {span : Option Span}
    (h : (Node.table kind span es).IsProper) : es.IsProper := by
  cases h with
  | table hnames hentries => exact ⟨hnames, hentries⟩

theorem table (h : es.IsProper) (kind : TableKind) (span : Option Span) :
    (Node.table kind span es).IsProper := .table h.nodup h.proper

theorem of_find? (h : es.IsProper) {name : String} (hfind : es.find? name = some node) :
    node.IsProper := by
  obtain ⟨k, hmem, -⟩ := find?_eq_some hfind
  exact h.proper _ hmem

theorem find?_of_mem (h : es.IsProper) (hmem : (k, node) ∈ es) : es.find? k.name = some node :=
  Option.map_eq_some_iff.mpr ⟨_, Toml.find?_of_mem h.nodup hmem, rfl⟩

theorem append (h : es.IsProper) (hnew : k.name ∉ names es) (hnode : node.IsProper) :
    (es ++ [(k, node)]).IsProper where
  nodup := by
    rw [names, List.map_append]
    refine List.nodup_append.mpr ⟨h.nodup, List.pairwise_singleton _ _, ?_⟩
    rintro name hname _ hlast rfl
    rw [List.mem_singleton.mp hlast] at hname
    exact hnew hname
  proper e he := by
    obtain he | he := List.mem_append.mp he
    · exact h.proper e he
    · rw [List.mem_singleton.mp he]
      exact hnode

theorem replace (h : es.IsProper) (name : String) (hnode : node.IsProper) :
    (es.replace name node).IsProper where
  nodup := by
    rw [names_replace]
    exact h.nodup
  proper e he := by
    obtain ⟨old, hold, rfl⟩ := List.mem_map.mp he
    obtain ⟨k, v⟩ := old
    dsimp only
    split
    · exact hnode
    · exact h.proper _ hold

theorem erase (h : es.IsProper) (name : String) : (es.erase name).IsProper where
  nodup := h.nodup.sublist (List.filter_sublist.map _)
  proper e he := h.proper e (List.mem_of_mem_filter he)

/-! ### Changes of entries -/

/-- Entries are proper after a change that leaves every table proper. -/
theorem update {dotted : Bool} {change : Bool → Entries → Option Entries}
    (hchange : ∀ {isDotted es es'}, es.IsProper → change isDotted es = some es' → es'.IsProper)
    {path : List Key} {isDotted : Bool} {es' : Entries} (hes : es.IsProper)
    (h : Entries.update dotted change path isDotted es = some es') : es'.IsProper := by
  induction path generalizing isDotted es es' with
  | nil => exact hchange hes h
  | cons k path ih =>
    rw [Entries.update] at h
    split at h
    · -- a table that is missing
      rename_i hfind
      obtain ⟨inner, hinner, h⟩ := Option.bind_eq_some_iff.mp h
      cases h
      exact hes.append (notMem_names_of_find? hfind) ((ih .nil hinner).table _ _)
    · rename_i kind span inner hfind
      split at h
      · cases h
      · obtain ⟨inner', hinner, h⟩ := Option.bind_eq_some_iff.mp h
        cases h
        exact hes.replace _ ((ih (of_table (hes.of_find? hfind)) hinner).table _ _)
    · -- the last one of several tables
      rename_i span items hfind
      split at h
      · rename_i kind own inner before hreverse
        obtain ⟨inner', hinner, h⟩ := Option.bind_eq_some_iff.mp h
        cases h
        cases hes.of_find? hfind with
        | tables hitems =>
          have hmem : ∀ item ∈ Node.table kind own inner :: before, item.IsProper := by
            intro item hitem
            exact hitems item (List.mem_reverse.mp (hreverse ▸ hitem))
          rw [List.forall_mem_cons] at hmem
          refine hes.replace _ (.tables fun item hitem => ?_)
          rw [List.mem_append, List.mem_reverse, List.mem_singleton] at hitem
          obtain hitem | rfl := hitem
          · exact hmem.2 item hitem
          · exact (ih (of_table hmem.1) hinner).table _ _
      · cases h
    · cases h

theorem insert {es' : Entries} {path : List Key} (hes : es.IsProper) (hnode : node.IsProper)
    (h : es.insert path k node = some es') : es'.IsProper := by
  refine hes.update (fun {isDotted inner inner'} hinner hadd => ?_) h
  split at hadd
  · cases hadd
  · split at hadd
    · cases hadd
    · rename_i hfind
      cases hadd
      exact hinner.append (notMem_names_of_find? hfind) hnode

theorem insertAll {es' : Entries} {pairs : List ((List Key × Key) × Node)} (hes : es.IsProper)
    (hpairs : ∀ pair ∈ pairs, pair.2.IsProper) (h : es.insertAll pairs = some es') :
    es'.IsProper := by
  induction pairs generalizing es with
  | nil =>
    cases h
    exact hes
  | cons pair pairs ih =>
    obtain ⟨⟨path, key⟩, node⟩ := pair
    rw [List.forall_mem_cons] at hpairs
    rw [Entries.insertAll] at h
    obtain ⟨es₁, hinsert, h⟩ := Option.bind_eq_some_iff.mp h
    exact ih (hes.insert hpairs.1 hinsert) hpairs.2 h

end Entries.IsProper

/-! ### Values that are read -/

theorem inRange_of_integer? {n : Int} (h : integer? cs = some n) : inRange n = true := by
  unfold integer? at h
  exact (Option.filter_eq_some_iff.mp h).2

theorem isProper_of_scalar {span : Span} {node : Node} (h : scalar span cs = some node) :
    node.IsProper := by
  unfold scalar at h
  split at h
  · cases h
    exact .boolean _ _
  split at h
  · cases h
    exact .boolean _ _
  · split at h
    · rename_i n hinteger
      cases h
      exact .integer (inRange_of_integer? hinteger)
    · split at h
      · cases h
        exact .float _ _
      · split at h
        · cases h
          exact .moment _
        · cases h

section

variable (hread : ∀ {cs node rest}, read cs = some (node, rest) → node.IsProper)
include hread

theorem isProper_of_arrayItems {budget : Nat} {items : List Node}
    (h : arrayItems read budget cs = some (items, rest)) : ∀ item ∈ items, item.IsProper := by
  induction budget generalizing cs items rest with
  | zero => cases h
  | succ budget ih =>
    rw [arrayItems] at h
    split at h
    · cases h
      exact List.forall_mem_nil _
    · obtain ⟨⟨item, after⟩, hitem, h⟩ := Option.bind_eq_some_iff.mp h
      dsimp only at h
      split at h
      · obtain ⟨⟨others, last⟩, hothers, h⟩ := Option.bind_eq_some_iff.mp h
        cases h
        exact List.forall_mem_cons.mpr ⟨hread hitem, ih hothers⟩
      · cases h
        exact List.forall_mem_singleton.mpr (hread hitem)
      · cases h

theorem isProper_of_keyValue {pair : (List Key × Key) × Node}
    (h : keyValue read cs = some (pair, rest)) : pair.2.IsProper := by
  rw [keyValue] at h
  obtain ⟨⟨key, after⟩, -, h⟩ := Option.bind_eq_some_iff.mp h
  dsimp only at h
  split at h
  · obtain ⟨⟨node, last⟩, hnode, h⟩ := Option.bind_eq_some_iff.mp h
    cases h
    exact hread hnode
  · cases h

theorem isProper_of_inlinePairs {budget : Nat} {pairs : List ((List Key × Key) × Node)}
    (h : inlinePairs read budget cs = some (pairs, rest)) : ∀ pair ∈ pairs, pair.2.IsProper := by
  induction budget generalizing cs pairs rest with
  | zero => cases h
  | succ budget ih =>
    rw [inlinePairs] at h
    obtain ⟨⟨pair, after⟩, hpair, h⟩ := Option.bind_eq_some_iff.mp h
    dsimp only at h
    split at h
    · obtain ⟨⟨others, last⟩, hothers, h⟩ := Option.bind_eq_some_iff.mp h
      cases h
      exact List.forall_mem_cons.mpr ⟨isProper_of_keyValue hread hpair, ih hothers⟩
    · cases h
      exact List.forall_mem_singleton.mpr (isProper_of_keyValue hread hpair)
    · cases h

theorem isProper_of_inlineEntries {entries : Entries}
    (h : inlineEntries read cs = some (entries, rest)) : entries.IsProper := by
  unfold inlineEntries at h
  split at h
  · cases h
    exact .nil
  · obtain ⟨⟨pairs, after⟩, hpairs, h⟩ := Option.bind_eq_some_iff.mp h
    obtain ⟨es, hinsert, h⟩ := Option.bind_eq_some_iff.mp h
    cases h
    exact Entries.IsProper.nil.insertAll (isProper_of_inlinePairs hread hpairs) hinsert

end

theorem isProper_of_readValue {depth : Nat} {node : Node}
    (h : readValue depth cs = some (node, rest)) : node.IsProper := by
  induction depth using Nat.strong_induction_on generalizing cs node rest with
  | _ depth ih =>
  rw [readValue.eq_def] at h
  dsimp only at h
  split at h
  · cases h
  · split_ifs at h
    · rw [Option.map_eq_some_iff] at h
      obtain ⟨_, -, h⟩ := h
      cases h
      exact .string _ _
    · split at h
      · cases h
      · rw [Option.map_eq_some_iff] at h
        obtain ⟨⟨items, after⟩, hitems, h⟩ := h
        cases h
        exact .array (isProper_of_arrayItems (ih _ (Nat.lt_succ_self _)) hitems)
    · split at h
      · cases h
      · rw [Option.map_eq_some_iff] at h
        obtain ⟨⟨entries, after⟩, hentries, h⟩ := h
        cases h
        have hproper := isProper_of_inlineEntries (ih _ (Nat.lt_succ_self _)) hentries
        exact .inline hproper.nodup hproper.proper
    · rw [Option.map_eq_some_iff] at h
      obtain ⟨_, hscalar, h⟩ := h
      cases h
      exact isProper_of_scalar hscalar

/-! ### Documents -/

theorem isProper_of_lines {budget : Nat} {top : List ((List Key × Key) × Node)}
    {sections : List Section} (h : lines budget cs = some (top, sections)) :
    (∀ pair ∈ top, pair.2.IsProper) ∧
      ∀ sec ∈ sections, ∀ pair ∈ sec.pairs, pair.2.IsProper := by
  induction budget generalizing cs top sections with
  | zero => cases h
  | succ budget ih =>
    rw [lines] at h
    split at h
    · cases h
      exact ⟨List.forall_mem_nil _, List.forall_mem_nil _⟩
    · simp only [Option.bind_eq_bind, Option.bind_eq_some_iff, Prod.exists] at h
      obtain ⟨sec, after, -, pairs, others, hrest, h⟩ := h
      cases h
      obtain ⟨hpairs, hothers⟩ := ih hrest
      exact ⟨List.forall_mem_nil _, List.forall_mem_cons.mpr ⟨hpairs, hothers⟩⟩
    · simp only [Option.bind_eq_bind, Option.bind_eq_some_iff, Prod.exists] at h
      obtain ⟨path, key, node, after, hpair, last, -, pairs, others, hrest, h⟩ := h
      cases h
      obtain ⟨hpairs, hothers⟩ := ih hrest
      exact ⟨List.forall_mem_cons.mpr ⟨isProper_of_keyValue isProper_of_readValue hpair, hpairs⟩,
        hothers⟩

/-- The document is proper after a section was added whose values are. -/
theorem isProper_of_addTo {sec : Section} {root root' : Entries} (hroot : root.IsProper)
    (hpairs : ∀ pair ∈ sec.pairs, pair.2.IsProper) (h : sec.addTo root = some root') :
    root'.IsProper := by
  refine hroot.update (fun {isDotted es es'} hes hadd => ?_) h
  dsimp only at hadd
  split at hadd
  · -- one more of several tables
    obtain ⟨own, hown, hadd⟩ := Option.bind_eq_some_iff.mp hadd
    have hclosed := (Entries.IsProper.nil.insertAll hpairs hown).table .explicit (some sec.fullSpan)
    split at hadd
    · rename_i hfind
      cases hadd
      exact hes.append (notMem_names_of_find? hfind) (.tables (List.forall_mem_singleton.mpr hclosed))
    · rename_i span items hfind
      cases hadd
      cases hes.of_find? hfind with
      | tables hitems =>
        refine hes.replace _ (.tables fun item hitem => ?_)
        obtain hitem | hitem := List.mem_append.mp hitem
        · exact hitems item hitem
        · rw [List.mem_singleton.mp hitem]
          exact hclosed
    · cases hadd
  · split at hadd
    · rename_i hfind
      obtain ⟨own, hown, hadd⟩ := Option.bind_eq_some_iff.mp hadd
      cases hadd
      exact hes.append (notMem_names_of_find? hfind)
        ((Entries.IsProper.nil.insertAll hpairs hown).table _ _)
    · -- a table that was only named on the way to another one
      rename_i span inner hfind
      obtain ⟨own, hown, hadd⟩ := Option.bind_eq_some_iff.mp hadd
      cases hadd
      have hinner := Entries.IsProper.of_table (hes.of_find? hfind)
      have hgone : sec.key.name ∉ names (es.erase sec.key.name) := by
        simp [names, Entries.erase]
      exact (hes.erase _).append hgone ((hinner.insertAll hpairs hown).table _ _)
    · cases hadd

theorem isProper_of_document? {top : List ((List Key × Key) × Node)} {sections : List Section}
    {entries : Entries} (htop : ∀ pair ∈ top, pair.2.IsProper)
    (hsections : ∀ sec ∈ sections, ∀ pair ∈ sec.pairs, pair.2.IsProper)
    (h : document? top sections = some entries) : entries.IsProper := by
  rw [document?] at h
  obtain ⟨root, hinsert, hfold⟩ := Option.bind_eq_some_iff.mp h
  have hroot := Entries.IsProper.nil.insertAll htop hinsert
  clear hinsert h
  induction sections generalizing root with
  | nil =>
    cases hfold
    exact hroot
  | cons sec sections ih =>
    rw [List.forall_mem_cons] at hsections
    rw [List.foldlM_cons] at hfold
    obtain ⟨root', hadd, hfold⟩ := Option.bind_eq_some_iff.mp hfold
    exact ih hsections.2 root' hfold (isProper_of_addTo hroot hsections.1 hadd)

/-- The entries of a document are proper. -/
theorem isProper_of_read {text : String} {entries : Entries} (h : Toml.read text = some entries) :
    entries.IsProper := by
  simp only [Toml.read, Option.bind_eq_bind, Option.bind_eq_some_iff, Prod.exists] at h
  obtain ⟨top, sections, hlines, hdocument⟩ := h
  obtain ⟨htop, hsections⟩ := isProper_of_lines hlines
  exact isProper_of_document? htop hsections hdocument

end RemoteFiles.Toml
