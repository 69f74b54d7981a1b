import RemoteFiles.Proofs.Auth.Basic
import RemoteFiles.Proofs.Config.Files
import RemoteFiles.Proofs.Shell.Commands
import RemoteFiles.Shell.Interpreter

/-!
# Lines of an input

The shell cuts its input behind every byte that ends a line, and takes the end off.  Texts in which
no line ends come back as they were put in, one behind another (`linesOf_inputOf`,
`lineText_of_isLine`).  Only a carriage return at the end of a text would be taken for a part of the
end (`IsLine`).  The line of a command, with its arguments between quotes, is such a text unless a
line ends in an argument (`isLine_line`).
-/

namespace RemoteFiles.Shell

open Auth (escapeQuotes toList_toUTF8)
open Url (bytes)

/-! ### Bytes -/

/-- The byte that ends a line is part of no other character. -/
theorem eq_newline_of_mem_encode {c : Char} (h : 0x0a ∈ String.utf8EncodeChar c) : c = '\n' := by
  have hbyte : ∀ n : Nat, (0x0a : UInt8) = UInt8.ofNat n ↔ n % 256 = 10 := fun n => by
    rw [eq_comm, ← UInt8.toNat_inj, UInt8.toNat_ofNat']
    rfl
  have hvalue : c.val.toNat = 10 := by
    unfold String.utf8EncodeChar at h
    dsimp only at h
    -- a byte of a longer encoding is 128 or more
    split_ifs at h
    all_goals
      simp only [List.mem_cons, List.not_mem_nil, or_false, hbyte] at h
      omega
  exact Char.ext (UInt32.toNat_inj.mp hvalue)

theorem not_mem_bytes {cs : List Char} (h : '\n' ∉ cs) : 0x0a ∉ bytes cs := by
  intro hmem
  obtain ⟨c, hc, hbyte⟩ := List.mem_flatMap.mp hmem
  exact h (eq_newline_of_mem_encode hbyte ▸ hc)

/-! ### Cutting -/

/-- Nothing is cut off as an empty line. -/
theorem ne_nil_of_mem_cutLines {bytes line : List UInt8} (h : line ∈ cutLines bytes) :
    line ≠ [] := by
  induction bytes generalizing line with
  | nil => exact absurd h List.not_mem_nil
  | cons b bytes ih =>
    rw [cutLines] at h
    split at h
    · rcases List.mem_cons.mp h with rfl | h
      · exact List.cons_ne_nil _ _
      · exact ih h
    split at h
    · obtain rfl := List.mem_singleton.mp h
      exact List.cons_ne_nil _ _
    · rename_i hlines
      rcases List.mem_cons.mp h with rfl | h
      · exact List.cons_ne_nil _ _
      · exact ih (hlines ▸ List.mem_cons_of_mem _ h)

theorem isEmpty_of_mem_linesOf {input line : ByteArray} (h : line ∈ linesOf input) :
    line.isEmpty = false := by
  obtain ⟨bytes, hbytes, rfl⟩ := List.mem_map.mp h
  have hlength := List.length_pos_iff.mpr (ne_nil_of_mem_cutLines hbytes)
  simp only [ByteArray.isEmpty, List.size_toByteArray, beq_eq_false_iff_ne]
  omega

theorem cutLines_append {line : List UInt8} (h : 0x0a ∉ line) (rest : List UInt8) :
    cutLines (line ++ 0x0a :: rest) = (line ++ [0x0a]) :: cutLines rest := by
  induction line with
  | nil => rw [List.nil_append, cutLines, if_pos rfl, List.nil_append]
  | cons b line ih =>
    obtain ⟨hb, hline⟩ := not_or.mp (mt List.mem_cons.mpr h)
    rw [List.cons_append, cutLines, if_neg (Ne.symm hb), ih hline]
    rfl

/-! ### Texts as lines -/

/-- The text is read back from a line. -/
structure IsLine (text : String) : Prop where
  unbroken : '\n' ∉ text.toList
  ends : text.toList.getLast? ≠ some '\r'

/-- Texts as an input, each with the end of a line behind it. -/
def inputOf (texts : List String) : ByteArray :=
  (String.join (texts.map (· ++ "\n"))).toUTF8

theorem linesOf_inputOf {texts : List String} (h : ∀ text ∈ texts, '\n' ∉ text.toList) :
    linesOf (inputOf texts) = texts.map fun text => (text ++ "\n").toUTF8 := by
  have hcut : cutLines (bytes (texts.flatMap fun text => text.toList ++ ['\n'])) =
      texts.map fun text => bytes text.toList ++ [0x0a] := by
    induction texts with
    | nil => rfl
    | cons text texts ih =>
      obtain ⟨htext, htexts⟩ := List.forall_mem_cons.mp h
      rw [List.flatMap_cons, Url.bytes_append, Url.bytes_append, List.append_assoc]
      exact (cutLines_append (not_mem_bytes htext) _).trans (congrArg _ (ih htexts))
  have hchars : (String.join (texts.map (· ++ "\n"))).toList =
      texts.flatMap fun text => text.toList ++ ['\n'] := by
    rw [String.toList_join, List.flatMap_map]
    exact congrArg (texts.flatMap ·) (funext fun text => String.toList_append)
  rw [linesOf, inputOf, toList_toUTF8, hchars, hcut, List.map_map]
  refine List.map_congr_left fun text _ => ?_
  rw [Url.toUTF8_eq, String.toList_append, Url.bytes_append]
  rfl

theorem lineText_of_isLine {text : String} (h : IsLine text) :
    lineText (text ++ "\n").toUTF8 = .ok text := by
  rw [lineText, Config.decodeUtf8?_toUTF8]
  have hlast : (text ++ "\n").toList.getLast? = some '\n' := by
    rw [String.toList_append]
    exact List.getLast?_concat
  have hfront : (text ++ "\n").toList.dropLast = text.toList := by
    rw [String.toList_append]
    exact List.dropLast_concat
  simp only [hlast, hfront, h.ends, ↓reduceIte, String.ofList_toList]

/-! ### Commands as lines -/

theorem gap_of_mem_map {spellings : List Spelling} {entry : Spelling × String}
    (h : entry ∈ spellings.map fun spelling => (spelling, " ")) : entry.2 = " " := by
  obtain ⟨spelling, -, rfl⟩ := List.mem_map.mp h
  rfl

theorem front_isBlank : "".toList.all Text.isBlank = true := rfl

theorem gaps_isBlank {spellings : List Spelling} :
    ∀ entry ∈ spellings.map fun spelling => (spelling, " "),
      entry.2.toList.all Text.isBlank = true := by
  intro entry h
  rw [gap_of_mem_map h]
  decide

theorem gaps_part {spellings : List Spelling} :
    ∀ entry ∈ (spellings.map fun spelling => (spelling, " ")).dropLast, entry.2 ≠ "" := by
  intro entry h
  rw [gap_of_mem_map (List.dropLast_subset _ h)]
  decide

/-- Words with a space behind each of them. -/
def Writing.spaced (spellings : List Spelling) : Writing :=
  ⟨"", spellings.map fun spelling => (spelling, " "), front_isBlank, gaps_isBlank, gaps_part⟩

theorem name_ne (c : Command) : c.name ≠ "" := by
  cases c
  all_goals
    dsimp only [Command.name]
    decide

theorem name_bare (c : Command) : c.name.toList.all isBareChar = true := by
  cases c
  all_goals
    dsimp only [Command.name]
    decide

theorem singleton_ne_nil (piece : Piece) : [piece] ≠ [] := List.cons_ne_nil piece []

/-- A word in one piece. -/
def Spelling.ofPiece (piece : Piece) : Spelling := ⟨[piece], singleton_ne_nil piece⟩

/-- A word as it is, if it is the name of a command. -/
def Spelling.ofName (c : Command) : Spelling := .ofPiece (.bare c.name (name_ne c) (name_bare c))

/-- A word between double quotes. -/
def Spelling.quoted (word : String) : Spelling := .ofPiece (.double word)

/-- The line of a command: its name, and its arguments between double quotes. -/
def Command.line (c : Command) : String :=
  (Writing.spaced (.ofName c :: c.arguments.map .quoted)).text

theorem words_line (c : Command) : words c.line = some (c.name :: c.arguments) := by
  rw [Command.line, Writing.words_text]
  simp [Writing.spaced, Writing.words, Spelling.word, Spelling.ofName, Spelling.quoted,
    Spelling.ofPiece, Piece.value, String.join, Function.comp_def]

/-- Every word has a blank behind it. -/
theorem toList_line (c : Command) :
    c.line.toList = c.name.toList ++
      ' ' :: c.arguments.flatMap fun argument => (Piece.double argument).text ++ [' '] := by
  rw [Command.line, Writing.text, String.toList_append, String.toList_ofList]
  simp [Writing.spaced, written, Spelling.text, Spelling.ofName, Spelling.quoted,
    Spelling.ofPiece, Piece.text, List.flatMap_map]

/-- Between quotes an argument has its own characters, and backslashes. -/
theorem not_mem_double {text : String} (h : '\n' ∉ text.toList) :
    '\n' ∉ (Piece.double text).text := by
  have hescaped : '\n' ∉ (escapeQuotes text).toList := by
    rw [escapeQuotes, String.toList_ofList]
    intro hmem
    obtain ⟨c, hc, hmem⟩ := List.mem_flatMap.mp hmem
    have hne : '\n' ≠ c := fun heq => h (heq ▸ hc)
    split_ifs at hmem
    all_goals simp [hne] at hmem
  simpa [Piece.text] using hescaped

theorem isLine_line {c : Command} (h : ∀ argument ∈ c.arguments, '\n' ∉ argument.toList) :
    IsLine c.line where
  unbroken := by
    rw [toList_line]
    intro hmem
    rcases List.mem_append.mp hmem with hname | hmem
    · exact absurd (List.all_eq_true.mp (name_bare c) _ hname) (by decide)
    rcases List.mem_cons.mp hmem with hblank | hmem
    · exact absurd hblank (by decide)
    obtain ⟨argument, hargument, hmem⟩ := List.mem_flatMap.mp hmem
    rcases List.mem_append.mp hmem with hmem | hblank
    · exact not_mem_double (h argument hargument) hmem
    · exact absurd (List.mem_singleton.mp hblank) (by decide)
  ends := by
    have hlast : ∀ arguments : List String, (' ' :: arguments.flatMap fun argument =>
        (Piece.double argument).text ++ [' ']).getLast? = some ' ' := by
      intro arguments
      cases arguments using List.reverseRecOn with
      | nil => rfl
      | append_singleton arguments argument =>
        rw [List.flatMap_append, List.flatMap_singleton, ← List.append_assoc, ← List.cons_append]
        exact List.getLast?_concat
    rw [toList_line, List.getLast?_append, hlast, Option.some_or]
    decide

end RemoteFiles.Shell
