import RemoteFiles.Proofs.Toml.Values

/-!
# TOML documents read back

A document is written as lines with a key and a value each, and then as blocks of such lines with a
header each (`Document`).  It is read as the entries of its first lines and then its blocks in
order, each as a table with the entries of its lines in order (`read_document`), provided that no
name is given twice and that the values can be read.

The text is taken apart from its end: what is read from the rest of a document is known
(`ReadsAs`), and a line or a header in front of it adds its own entry.
-/

namespace RemoteFiles.Toml

/-! ### Lines -/

/-- What is read from the rest of a document that is not longer than the steps there are. -/
def ReadsAs (cs : List Char) (top : List ((List Key × Key) × Node)) (sections : List Section) :
    Prop :=
  ∀ budget, cs.length < budget → lines budget cs = some (top, sections)

theorem readsAs_nil : ReadsAs [] [] [] := by
  intro budget hbudget
  obtain ⟨budget, rfl⟩ := Nat.exists_eq_add_of_lt hbudget
  rfl

/-- An empty line is passed over. -/
theorem ReadsAs.break {cs : List Char} {top : List ((List Key × Key) × Node)}
    {sections : List Section} (h : ReadsAs cs top sections) :
    ReadsAs ('\n' :: cs) top sections := by
  intro budget hbudget
  have hsame : lines budget ('\n' :: cs) = lines budget cs := by
    cases budget with
    | zero => rfl
    | succ budget => rfl
  rw [hsame]
  exact h budget (by rw [List.length_cons] at hbudget; omega)

theorem lineEnd?_break (cs : List Char) : lineEnd? ('\n' :: cs) = some cs := rfl

namespace Line

/-- The characters of a line. -/
def text (line : Line) : List Char := line.render ++ ['\n']

/-- The value has a place in a document. -/
def Fits (line : Line) : Prop := line.2.Fits (nestingBound - 1)

/-- A line is read as its key and its value. -/
abbrev Is : Line → Key × Node → Prop := Named Value.Is

end Line

section

variable {rest : List Char} {top : List ((List Key × Key) × Node)} {sections : List Section}

theorem ReadsAs.line {line : Line} (hline : line.Fits) (h : ReadsAs rest top sections) :
    ∃ entry, line.Is entry ∧ ReadsAs (line.text ++ rest) (ownEntry entry :: top) sections := by
  have hstop : EndsValue ('\n' :: rest) := endsValue_cons (by decide) rest
  obtain ⟨entry, hread, hentry⟩ := keyValue_render (readsBack hline) hstop
  refine ⟨entry, hentry, fun budget hbudget => ?_⟩
  obtain ⟨c, cs, hkey, hstart⟩ := exists_keyText line.1
  obtain ⟨hblank, hplain, hcomment, hbracket, -⟩ := of_startsKey hstart
  have htext : line.text ++ rest = line.render ++ '\n' :: rest := by
    rw [Line.text, List.append_assoc, List.singleton_append]
  obtain ⟨tail, hform⟩ : ∃ tail, line.render ++ '\n' :: rest = c :: tail := by
    rw [Line.render, hkey]
    exact ⟨_, rfl⟩
  have hlen : rest.length < (line.text ++ rest).length := by
    rw [htext, List.length_append, List.length_cons]
    omega
  obtain ⟨budget, rfl⟩ : ∃ n, budget = n + 1 := ⟨budget - 1, by omega⟩
  have hrest := h budget (by omega)
  rw [htext, hform]
  rw [hform] at hread
  rw [lines, skipLines_stop hblank hplain hcomment]
  -- what a key begins with is not the bracket of a header
  split
  · contradiction
  · rename_i heq
    exact absurd (List.cons.inj heq).1 hbracket
  · simp only [hread, lineEnd?_break, hrest, Option.bind_eq_bind, Option.bind_some]

theorem ReadsAs.lines {ls : List Line} (hls : ∀ line ∈ ls, line.Fits)
    (h : ReadsAs rest top sections) :
    ∃ entries, List.Forall₂ Line.Is ls entries ∧
      ReadsAs (ls.flatMap Line.text ++ rest) (entries.map ownEntry ++ top) sections := by
  induction ls with
  | nil => exact ⟨[], .nil, h⟩
  | cons line ls ih =>
    obtain ⟨hline, hls⟩ := List.forall_mem_cons.mp hls
    obtain ⟨entries, hentries, hrest⟩ := ih hls
    obtain ⟨entry, hentry, hread⟩ := hrest.line hline
    refine ⟨entry :: entries, .cons hentry hentries, ?_⟩
    rw [List.flatMap_cons, List.append_assoc]
    exact hread

theorem ReadsAs.header (name : String) (h : ReadsAs rest top sections) :
    ∃ span place, ReadsAs ('[' :: (keyText name ++ ']' :: '\n' :: rest)) []
      (⟨[], ⟨name, span⟩, false, place, top⟩ :: sections) := by
  have hblanks : skipBlanks (']' :: '\n' :: rest) = ']' :: '\n' :: rest := rfl
  have hstop : isKeyChar ']' = false := by decide
  obtain ⟨span, hkey⟩ := readKey_keyText name hstop (by rw [hblanks]; simp)
  rw [hblanks] at hkey
  obtain ⟨c, cs, hform, hstart⟩ := exists_keyText name
  have hbracket := (of_startsKey hstart).2.2.2.1
  have hheader : ∃ place, Toml.header ('[' :: (keyText name ++ ']' :: '\n' :: rest)) =
      some (⟨[], ⟨name, span⟩, false, place, []⟩, rest) := by
    unfold Toml.header
    split
    · rename_i heq
      rw [hform, List.cons_append] at heq
      injection heq with _ heq
      exact absurd (List.cons.inj heq).1 hbracket
    · rename_i heq
      injection heq with _ heq
      rw [← heq, hkey]
      exact ⟨_, rfl⟩
    · rename_i hno
      exact absurd rfl (hno _)
  obtain ⟨place, hheader⟩ := hheader
  refine ⟨span, place, fun budget hbudget => ?_⟩
  obtain ⟨budget, rfl⟩ : ∃ n, budget = n + 1 := ⟨budget - 1, by omega⟩
  have hrest := h budget (by
    simp only [List.length_cons, List.length_append] at hbudget
    omega)
  rw [Toml.lines, skipLines_stop (by decide) (by decide) (by decide)]
  simp only [hheader, hrest, Option.bind_eq_bind, Option.bind_some]

end

/-! ### Blocks -/

/-- A name and the lines below its header. -/
abbrev Block := String × List Line

namespace Block

/-- The characters of a header and the lines below it. -/
def text (block : Block) : List Char :=
  '[' :: (keyText block.1 ++ ']' :: '\n' :: block.2.flatMap Line.text)

/-- No key is given twice, and every line has a place in a document. -/
def Fits (block : Block) : Prop :=
  (∀ line ∈ block.2, line.Fits) ∧ (block.2.map Prod.fst).Nodup

/-- A header and its lines are read as a section without a path. -/
def IsSection (block : Block) (sec : Section) : Prop :=
  sec.path = [] ∧ sec.key.name = block.1 ∧ sec.isArray = false ∧
    ∃ entries, sec.pairs = entries.map ownEntry ∧ List.Forall₂ Line.Is block.2 entries

/-- Lines are the entries of a table. -/
def IsTable (ls : List Line) (node : Node) : Prop :=
  ∃ kind span entries, node = .table kind span entries ∧ List.Forall₂ Line.Is ls entries

/-- A header and its lines stand for a table. -/
abbrev Is : Block → Key × Node → Prop := Named IsTable

end Block

theorem ReadsAs.block {rest : List Char} {sections : List Section} {block : Block}
    (hblock : block.Fits) (h : ReadsAs rest [] sections) :
    ∃ sec, block.IsSection sec ∧ ReadsAs (block.text ++ rest) [] (sec :: sections) := by
  obtain ⟨entries, hentries, hbody⟩ := h.lines hblock.1
  rw [List.append_nil] at hbody
  obtain ⟨span, place, hread⟩ := hbody.header block.1
  refine ⟨⟨[], ⟨block.1, span⟩, false, place, entries.map ownEntry⟩,
    ⟨rfl, rfl, rfl, entries, rfl, hentries⟩, ?_⟩
  rw [Block.text, List.cons_append, List.append_assoc]
  exact hread

/-- The characters of blocks, with an empty line between them. -/
def blocksText (blocks : List Block) : List Char :=
  ['\n'].intercalate (blocks.map Block.text)

theorem readsAs_blocksText {blocks : List Block} (h : ∀ block ∈ blocks, block.Fits) :
    ∃ sections, List.Forall₂ Block.IsSection blocks sections ∧
      ReadsAs (blocksText blocks) [] sections := by
  induction blocks with
  | nil => exact ⟨[], .nil, readsAs_nil⟩
  | cons block blocks ih =>
    obtain ⟨hblock, hblocks⟩ := List.forall_mem_cons.mp h
    obtain ⟨sections, hsections, hrest⟩ := ih hblocks
    cases blocks with
    | nil =>
      cases hsections
      obtain ⟨sec, hsec, hread⟩ := readsAs_nil.block hblock
      refine ⟨[sec], .cons hsec .nil, ?_⟩
      simpa [blocksText] using hread
    | cons next blocks =>
      obtain ⟨sec, hsec, hread⟩ := hrest.break.block hblock
      refine ⟨sec :: sections, .cons hsec hsections, ?_⟩
      simpa [blocksText, List.intercalate_cons_cons] using hread

/-! ### Tables -/

/-- A section with a new name is added behind the tables that there are. -/
theorem addTo_of_isSection {block : Block} {sec : Section} (hblock : block.Fits)
    (h : block.IsSection sec) {root : Entries} (hnew : block.1 ∉ names root) :
    ∃ entry, block.Is entry ∧ sec.addTo root = some (root ++ [entry]) := by
  obtain ⟨hpath, hname, harray, entries, hpairs, hentries⟩ := h
  have hown : Entries.insertAll [] sec.pairs = some entries := by
    have hnodup : (names ([] ++ entries)).Nodup := by
      rw [List.nil_append, names_of_forall₂ hentries]
      exact hblock.2
    rw [hpairs, insertAll_ownEntries hnodup, List.nil_append]
  refine ⟨(sec.key, .table .explicit (some sec.fullSpan) entries),
    ⟨hname, _, _, entries, rfl, hentries⟩, ?_⟩
  rw [← hname] at hnew
  simp [Section.addTo, hpath, harray, Entries.update, find?_eq_none hnew, hown]

theorem foldlM_addTo {blocks : List Block} {sections : List Section}
    (h : List.Forall₂ Block.IsSection blocks sections) (hblocks : ∀ block ∈ blocks, block.Fits)
    {root : Entries} (hnodup : (names root ++ blocks.map Prod.fst).Nodup) :
    ∃ entries, List.Forall₂ Block.Is blocks entries ∧
      sections.foldlM (fun root sec => sec.addTo root) root = some (root ++ entries) := by
  induction h generalizing root with
  | nil => exact ⟨[], .nil, by rw [List.append_nil]; rfl⟩
  | @cons block sec blocks sections hsec _ ih =>
    obtain ⟨hblock, hblocks⟩ := List.forall_mem_cons.mp hblocks
    have hnew : block.1 ∉ names root := by
      intro hmem
      rw [List.nodup_append] at hnodup
      exact hnodup.2.2 _ hmem _ (by simp) rfl
    obtain ⟨entry, hentry, hadd⟩ := addTo_of_isSection hblock hsec hnew
    have hnames : names (root ++ [entry]) ++ blocks.map Prod.fst =
        names root ++ (block :: blocks).map Prod.fst := by
      simp [names, hentry.1]
    rw [← hnames] at hnodup
    obtain ⟨entries, hentries, hfold⟩ := ih hblocks hnodup
    refine ⟨entry :: entries, .cons hentry hentries, ?_⟩
    rw [List.foldlM_cons, hadd]
    simp only [Option.bind_eq_bind, Option.bind_some, hfold, List.append_assoc,
      List.singleton_append]

/-! ### Documents -/

/-- A document: lines before the first header, and blocks. -/
structure Document where
  top : List Line
  blocks : List Block

namespace Document

variable (doc : Document)

/-- The characters of a document. -/
def chars : List Char := doc.top.flatMap Line.text ++ blocksText doc.blocks

/-- The text of a document. -/
def text : String := String.ofList doc.chars

/-- Every line and every block has a place in a document, and no name is given twice. -/
structure Fits : Prop where
  top : ∀ line ∈ doc.top, line.Fits
  blocks : ∀ block ∈ doc.blocks, block.Fits
  nodup : (doc.top.map Prod.fst ++ doc.blocks.map Prod.fst).Nodup

variable {doc}

/-- The text does not begin with a byte order mark. -/
theorem chars_ne_mark (rest : List Char) : doc.chars ≠ '\uFEFF' :: rest := by
  obtain ⟨top, blocks⟩ := doc
  intro heq
  cases top with
  | nil =>
    cases blocks with
    | nil => cases heq
    | cons block blocks =>
      have hhead : (blocksText (block :: blocks)).head? = some '[' := by
        cases blocks with
        | nil => simp [blocksText, Block.text]
        | cons next blocks => simp [blocksText, List.intercalate_cons_cons, Block.text]
      rw [chars, List.flatMap_nil, List.nil_append] at heq
      rw [heq, List.head?_cons, Option.some_inj] at hhead
      exact absurd hhead (by decide)
  | cons line top =>
    obtain ⟨c, cs, hkey, hstart⟩ := exists_keyText line.1
    rw [chars, List.flatMap_cons, Line.text, Line.render, hkey] at heq
    exact absurd (List.cons.inj heq).1 (of_startsKey hstart).2.2.2.2.2

end Document

/-- A document that was written is read as its lines and blocks in order. -/
theorem read_document {doc : Document} (h : doc.Fits) :
    ∃ first entries, read doc.text = some (first ++ entries) ∧
      List.Forall₂ Line.Is doc.top first ∧ List.Forall₂ Block.Is doc.blocks entries := by
  obtain ⟨sections, hsections, hblocks⟩ := readsAs_blocksText h.blocks
  obtain ⟨first, hfirst, hread⟩ := hblocks.lines h.top
  rw [List.append_nil] at hread
  have hnames := names_of_forall₂ hfirst
  have hroot : Entries.insertAll [] (first.map ownEntry) = some first := by
    have hnodup : (names ([] ++ first)).Nodup := by
      rw [List.nil_append, hnames]
      exact (List.nodup_append.mp h.nodup).1
    rw [insertAll_ownEntries hnodup, List.nil_append]
  have hnodup : (names first ++ doc.blocks.map Prod.fst).Nodup := by
    rw [hnames]
    exact h.nodup
  obtain ⟨entries, hentries, hfold⟩ := foldlM_addTo hsections h.blocks hnodup
  refine ⟨first, entries, ?_, hfirst, hentries⟩
  have hlines : lines (doc.chars.length + 1) doc.chars =
      some (first.map ownEntry, sections) := hread _ (Nat.lt_succ_self _)
  unfold read
  rw [Document.text, String.toList_ofList]
  split
  · rename_i heq
    exact absurd heq (Document.chars_ne_mark _)
  · simp only [hlines, Option.bind_eq_bind, Option.bind_some, document?, hroot]
    exact hfold

end RemoteFiles.Toml
