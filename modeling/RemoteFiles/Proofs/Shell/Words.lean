import RemoteFiles.Auth.Authorization
import RemoteFiles.Shell.Words
import Mathlib.Data.List.Basic

/-!
# Words as they are written on a line

A word is written in pieces that stand right behind each other, and each piece in one of four ways
(`Piece`): as it is, between single or double quotes, or with a backslash before every character.
A line has blanks between its words, and may have blanks around them (`Writing`).
`words_as_written` says that the words of a line are read as they were written, whichever way was
chosen for each piece; and since any word can be put between double quotes, every list of words is
that of some line (`Writing.quoting`).

The reading of a piece adds its characters to the word in progress and ends where the piece does
(`go_piece`), so pieces that touch are one word; what ends a word is a blank (`go_gap`), and so an
empty piece is a word if it stands alone.
-/

namespace RemoteFiles.Shell

open RemoteFiles.Auth (escapeQuotes)
open RemoteFiles.Text (isBlank)

/-! ### Writings -/

/-- A character that stands for itself outside quotes. -/
def isBareChar (c : Char) : Bool := !isBlank c && c != '\\' && c != '"' && c != '\''

/-- A piece of a word as it may be written. -/
inductive Piece
  /-- As it is. -/
  | bare (text : String) (ne : text ≠ "") (chars : text.toList.all isBareChar = true)
  /-- Between single quotes, if there is none in it. -/
  | single (text : String) (chars : '\'' ∉ text.toList)
  /-- Between double quotes, with a backslash before each double quote and each backslash. -/
  | double (text : String)
  /-- With a backslash before every character. -/
  | escaped (text : String) (ne : text ≠ "")

namespace Piece

/-- What a piece stands for. -/
def value : Piece → String
  | bare text _ _ | single text _ | double text | escaped text _ => text

/-- How a piece is written. -/
def text : Piece → List Char
  | bare text _ _ => text.toList
  | single text _ => '\'' :: (text.toList ++ ['\''])
  | double text => '"' :: ((escapeQuotes text).toList ++ ['"'])
  | escaped text _ => text.toList.flatMap fun c => ['\\', c]

end Piece

/-- A word in pieces. -/
structure Spelling where
  pieces : List Piece
  ne : pieces ≠ []

namespace Spelling

def word (s : Spelling) : String := String.join (s.pieces.map Piece.value)

def text (s : Spelling) : List Char := s.pieces.flatMap Piece.text

end Spelling

/-- Words as they may be written on a line: blanks, and words with the blanks behind them, which
only the last word can do without. -/
structure Writing where
  front : String
  entries : List (Spelling × String)
  front_blank : front.toList.all isBlank = true
  gaps_blank : ∀ entry ∈ entries, entry.2.toList.all isBlank = true
  parted : ∀ entry ∈ entries.dropLast, entry.2 ≠ ""

/-- Words with the blanks behind them, as they are written. -/
def written (entries : List (Spelling × String)) : List Char :=
  entries.flatMap fun (spelling, gap) => spelling.text ++ gap.toList

namespace Writing

def words (l : Writing) : List String := l.entries.map fun entry => entry.1.word

def text (l : Writing) : String := l.front ++ String.ofList (written l.entries)

/-- Every word between double quotes, with a space behind it. -/
def quoting (ws : List String) : Writing where
  front := ""
  entries := ws.map fun word => (⟨[.double word], List.cons_ne_nil _ _⟩, " ")
  front_blank := rfl
  gaps_blank := by
    rw [List.forall_mem_map]
    intro word _
    show " ".toList.all isBlank = true
    decide
  parted := by
    rw [← List.map_dropLast, List.forall_mem_map]
    intro word _
    show " " ≠ ""
    decide

theorem words_quoting (ws : List String) : (quoting ws).words = ws := by
  simp [words, quoting, Spelling.word, Piece.value, Function.comp_def, String.join]

end Writing

/-! ### The word in progress -/

namespace Partial

/-- The word in progress with more characters; with none, it is in progress all the same. -/
def extend (w : Partial) (cs : List Char) : Partial := some (cs.reverse ++ w.getD [])

@[simp] theorem push_eq_extend (w : Partial) (c : Char) : w.push c = w.extend [c] := rfl

@[simp] theorem isSome_start (w : Partial) : w.start.isSome = true := rfl

@[simp] theorem isSome_extend (w : Partial) (cs : List Char) : (w.extend cs).isSome = true := rfl

@[simp] theorem extend_start (w : Partial) (cs : List Char) : w.start.extend cs = w.extend cs := rfl

@[simp] theorem extend_extend (w : Partial) (cs ds : List Char) :
    (w.extend cs).extend ds = w.extend (cs ++ ds) := by
  simp [extend]

theorem extend_nil {w : Partial} (h : w.isSome = true) : w.extend [] = w := by
  obtain ⟨cs, rfl⟩ := Option.isSome_iff_exists.mp h
  rfl

/-- A word that was read from its beginning is what has been read. -/
theorem finish_extend_none (cs : List Char) (rest : List String) :
    (extend none cs).finish rest = String.ofList cs :: rest := by
  simp [extend, finish]

end Partial

/-! ### One step -/

section
variable {c : Char} (w : Partial) (rest : List Char)

/-- Outside quotes, a character other than a backslash opens quotes, ends the word, or is added. -/
theorem go_bare_cons (hbackslash : c ≠ '\\') :
    words.go .bare w (c :: rest) =
      if c = '"' then words.go .double w.start rest
      else if c = '\'' then words.go .single w.start rest
      else if isBlank c then (words.go .bare none rest).map w.finish
      else words.go .bare (w.extend [c]) rest := by
  simp [words.go, hbackslash]

/-- Between double quotes, a character other than a backslash closes them or is added. -/
theorem go_double_cons (hbackslash : c ≠ '\\') :
    words.go .double w (c :: rest) =
      if c = '"' then words.go .bare w rest else words.go .double (w.extend [c]) rest := by
  simp [words.go, hbackslash]

theorem go_escaped (c : Char) :
    words.go .bare w ('\\' :: c :: rest) = words.go .bare (w.extend [c]) rest := rfl

theorem go_single_open : words.go .bare w ('\'' :: rest) = words.go .single w.start rest := by
  rw [go_bare_cons w rest (by decide), if_neg (by decide), if_pos rfl]

theorem go_double_open : words.go .bare w ('"' :: rest) = words.go .double w.start rest := by
  rw [go_bare_cons w rest (by decide), if_pos rfl]

theorem go_bare (h : isBareChar c = true) :
    words.go .bare w (c :: rest) = words.go .bare (w.extend [c]) rest := by
  obtain ⟨⟨⟨hblank, hbackslash⟩, hdouble⟩, hsingle⟩ :
      ((isBlank c = false ∧ c ≠ '\\') ∧ c ≠ '"') ∧ c ≠ '\'' := by
    simpa [isBareChar] using h
  rw [go_bare_cons w rest hbackslash, if_neg hdouble, if_neg hsingle, hblank, if_neg (by decide)]

theorem go_blank (h : isBlank c = true) :
    words.go .bare w (c :: rest) = (words.go .bare none rest).map w.finish := by
  have hne : ∀ d, isBlank d = false → c ≠ d := by
    rintro d hd rfl
    exact Bool.false_ne_true (hd.symm.trans h)
  rw [go_bare_cons w rest (hne '\\' (by decide)), if_neg (hne '"' (by decide)),
    if_neg (hne '\'' (by decide)), if_pos h]

theorem go_single_close : words.go .single w ('\'' :: rest) = words.go .bare w rest := rfl

theorem go_single (h : c ≠ '\'') :
    words.go .single w (c :: rest) = words.go .single (w.extend [c]) rest := by
  rw [words.go, if_neg h, Partial.push_eq_extend]

theorem go_double_close : words.go .double w ('"' :: rest) = words.go .bare w rest := by
  rw [go_double_cons w rest (by decide), if_pos rfl]

theorem go_double_escaped (c : Char) :
    words.go .double w ('\\' :: c :: rest) = words.go .double (w.extend [c]) rest := rfl

theorem go_double (hbackslash : c ≠ '\\') (hquote : c ≠ '"') :
    words.go .double w (c :: rest) = words.go .double (w.extend [c]) rest := by
  rw [go_double_cons w rest hbackslash, if_neg hquote]

end

/-! ### Pieces and words -/

/-- What is read part by part is read as a whole.  With no part there has to be a word in progress
already, or none would be begun. -/
theorem go_flatMap {α : Type} {q : Quoting} {text value : α → List Char} {parts : List α}
    (h : ∀ a ∈ parts, ∀ w rest,
      words.go q w (text a ++ rest) = words.go q (w.extend (value a)) rest)
    {w : Partial} (hw : parts ≠ [] ∨ w.isSome = true) (rest : List Char) :
    words.go q w (parts.flatMap text ++ rest) =
      words.go q (w.extend (parts.flatMap value)) rest := by
  induction parts generalizing w with
  | nil =>
    have hsome := hw.resolve_left fun hne => hne rfl
    rw [List.flatMap_nil, List.flatMap_nil, List.nil_append, Partial.extend_nil hsome]
  | cons a parts ih =>
    obtain ⟨ha, hparts⟩ := List.forall_mem_cons.mp h
    rw [List.flatMap_cons, List.append_assoc, ha, ih hparts (.inr (Partial.isSome_extend w _)),
      Partial.extend_extend, List.flatMap_cons]

/-- The characters of a text, each read as itself. -/
theorem go_chars {q : Quoting} (text : Char → List Char) {cs : List Char}
    (h : ∀ c ∈ cs, ∀ w rest, words.go q w (text c ++ rest) = words.go q (w.extend [c]) rest)
    {w : Partial} (hw : cs ≠ [] ∨ w.isSome = true) (rest : List Char) :
    words.go q w (cs.flatMap text ++ rest) = words.go q (w.extend cs) rest := by
  rw [go_flatMap h hw, List.flatMap_singleton']

/-- Between single quotes everything is read as itself. -/
theorem go_single_chars {cs : List Char} (h : '\'' ∉ cs) {w : Partial} (hw : w.isSome = true)
    (rest : List Char) : words.go .single w (cs ++ rest) = words.go .single (w.extend cs) rest := by
  have hchars := go_chars (fun c => [c])
    (fun c hc w rest => go_single w rest fun heq => h (heq ▸ hc)) (.inr hw) rest
  rwa [List.flatMap_singleton'] at hchars

/-- A piece is read up to its end, and what it stands for is added to the word in progress. -/
theorem go_piece (p : Piece) (w : Partial) (rest : List Char) :
    words.go .bare w (p.text ++ rest) = words.go .bare (w.extend p.value.toList) rest := by
  cases p with
  | bare text ne chars =>
    have hchars := go_chars (fun c => [c]) (w := w)
      (fun c hc w rest => go_bare w rest (List.all_eq_true.mp chars c hc))
      (.inl (mt String.toList_eq_nil_iff.mp ne)) rest
    rwa [List.flatMap_singleton'] at hchars
  | single text chars =>
    rw [Piece.text, List.cons_append, List.append_assoc, go_single_open,
      go_single_chars chars (Partial.isSome_start w), Partial.extend_start, List.singleton_append,
      go_single_close, Piece.value]
  | double text =>
    rw [Piece.text, List.cons_append, List.append_assoc, go_double_open, escapeQuotes,
      String.toList_ofList, go_chars _ ?_ (.inr (Partial.isSome_start w)), Partial.extend_start,
      List.singleton_append, go_double_close, Piece.value]
    -- a quote and a backslash are read behind a backslash, anything else as it is
    intro c _ w rest
    split_ifs with hc
    · exact go_double_escaped w rest c
    · exact go_double w rest (not_or.mp hc).1 (not_or.mp hc).2
  | escaped text ne =>
    exact go_chars _ (fun c _ w rest => go_escaped w rest c)
      (.inl (mt String.toList_eq_nil_iff.mp ne)) rest

/-- A word is read up to its end. -/
theorem go_spelling (s : Spelling) (rest : List Char) :
    words.go .bare none (s.text ++ rest) =
      words.go .bare (Partial.extend none s.word.toList) rest := by
  have hword : s.word.toList = s.pieces.flatMap fun p => p.value.toList := by
    rw [Spelling.word, String.toList_join, List.flatMap_map]
  rw [Spelling.text, go_flatMap (fun p _ => go_piece p) (.inl s.ne), hword]

/-! ### Lines -/

/-- Blanks before a word are passed over. -/
theorem go_front {gap : List Char} (h : ∀ c ∈ gap, isBlank c = true) (rest : List Char) :
    words.go .bare none (gap ++ rest) = words.go .bare none rest := by
  induction gap with
  | nil => rfl
  | cons c gap ih =>
    obtain ⟨hc, hgap⟩ := List.forall_mem_cons.mp h
    have hfinish : Partial.finish none = id := rfl
    rw [List.cons_append, go_blank none _ hc, ih hgap, hfinish, Option.map_id_apply]

/-- Blanks behind a word end it; at the end of a line there need not be any. -/
theorem go_gap {gap rest : List Char} (h : ∀ c ∈ gap, isBlank c = true)
    (hgap : rest ≠ [] → gap ≠ []) (w : Partial) :
    words.go .bare w (gap ++ rest) = (words.go .bare none rest).map w.finish := by
  cases gap with
  | nil =>
    obtain rfl : rest = [] := by
      by_contra hne
      exact hgap hne rfl
    rfl
  | cons c gap =>
    obtain ⟨hc, hblank⟩ := List.forall_mem_cons.mp h
    rw [List.cons_append, go_blank w _ hc, go_front hblank]

theorem go_written {entries : List (Spelling × String)}
    (hblank : ∀ entry ∈ entries, entry.2.toList.all isBlank = true)
    (hparted : ∀ entry ∈ entries.dropLast, entry.2 ≠ "") :
    words.go .bare none (written entries) = some (entries.map fun entry => entry.1.word) := by
  induction entries with
  | nil => rfl
  | cons entry entries ih =>
    obtain ⟨hentry, hentries⟩ := List.forall_mem_cons.mp hblank
    -- only behind the last word the gap may be empty, and nothing is written behind that
    have hsplit : (written entries ≠ [] → entry.2.toList ≠ []) ∧
        ∀ later ∈ entries.dropLast, later.2 ≠ "" := by
      cases entries with
      | nil => exact ⟨fun hne => absurd rfl hne, by simp⟩
      | cons next entries =>
        obtain ⟨hne, hlater⟩ := List.forall_mem_cons.mp hparted
        exact ⟨fun _ => mt String.toList_eq_nil_iff.mp hne, hlater⟩
    have hlater := ih hentries hsplit.2
    calc words.go .bare none (written (entry :: entries))
        = words.go .bare none (entry.1.text ++ (entry.2.toList ++ written entries)) := by
          rw [written, List.flatMap_cons, List.append_assoc, ← written]
      _ = (words.go .bare none (written entries)).map
            (Partial.extend none entry.1.word.toList).finish := by
          rw [go_spelling, go_gap (List.all_eq_true.mp hentry) hsplit.1]
      _ = some ((entry :: entries).map fun entry => entry.1.word) := by
          rw [hlater, Option.map_some, Partial.finish_extend_none, String.ofList_toList,
            List.map_cons]

theorem Writing.words_text (l : Writing) : Shell.words l.text = some l.words := by
  rw [Shell.words, text, String.toList_append, String.toList_ofList,
    go_front (List.all_eq_true.mp l.front_blank), go_written l.gaps_blank l.parted]
  rfl

/-- **Words as they are written**: the words of a line are read as they were written, whatever
characters they have, however each of them is put together from pieces, and whatever blanks there
are; and every list of words can be written. -/
theorem words_as_written :
    (∀ l : Writing, words l.text = some l.words) ∧
      ∀ ws : List String, ∃ l : Writing, l.words = ws :=
  ⟨Writing.words_text, fun ws => ⟨.quoting ws, Writing.words_quoting ws⟩⟩

/-- Pieces that touch, with a quote and a backslash in them, and an empty word. -/
example : words " 'a b'\\ c\"d\\\"\\\\'\"\t'' " = some ["a b cd\"\\'", ""] := by decide

end RemoteFiles.Shell
