import RemoteFiles.Path
import RemoteFiles.Proofs.Text.Pieces

/-!
# What targets look like

The client asks for places by the paths that `join`, `joinDirectory` and `resolve` make
(`IsTarget`).  Such a path is written from its names, each one behind a slash; the names are plain,
which is to say neither empty nor dots and without slashes, except that the last one is empty where
the path is written as a directory (`Listed`).  Nothing else can be said of targets: whatever is
written in this way is one (`isTarget_iff`).

`names` reads the names off a target again (`IsTarget.listed`, `IsTarget.toList_eq`), and what is
proved about requests speaks of targets by their names.
-/

namespace RemoteFiles.Path

/-- A name that stands for an entry: there is something in it, it is not made of one or two dots,
and it has no slash. -/
structure IsPlain (name : List Char) : Prop where
  ne_nil : name ≠ []
  ne_dot : name ≠ ['.']
  ne_dots : name ≠ ['.', '.']
  no_slash : '/' ∉ name

/-- The names on the way to a place: plain ones, after which there may be an empty one. -/
inductive Listed : List (List Char) → Prop
  | directory : Listed [[]]
  | entry {name} (plain : IsPlain name) : Listed [name]
  | within {name names} (plain : IsPlain name) (rest : Listed names) : Listed (name :: names)

/-- Names as they are written in a path, each one behind a slash. -/
def behindSlashes (names : List (List Char)) : List Char := names.flatMap ('/' :: ·)

/-- The paths that requests are made on. -/
inductive IsTarget : String → Prop
  | entry (dir name : String) : IsTarget (join dir name)
  | entryDirectory (dir name : String) : IsTarget (joinDirectory dir name)
  | directory (dir path : String) : IsTarget (resolve dir path)

/-- The names of a path that begins with a slash. -/
def names (target : String) : List (List Char) := (target.toList.drop 1).splitOn '/'

/-! ### Lists of names -/

@[simp] theorem behindSlashes_nil : behindSlashes [] = [] := rfl

@[simp] theorem behindSlashes_cons (name : List Char) (names : List (List Char)) :
    behindSlashes (name :: names) = '/' :: (name ++ behindSlashes names) := rfl

@[simp] theorem behindSlashes_append (names more : List (List Char)) :
    behindSlashes (names ++ more) = behindSlashes names ++ behindSlashes more :=
  List.flatMap_append

theorem intercalate_cons (name : List Char) (names : List (List Char)) :
    ['/'].intercalate (name :: names) = name ++ behindSlashes names := by
  induction names generalizing name with
  | nil => simp
  | cons next names ih => rw [List.intercalate_cons_cons, ih, List.append_assoc]; rfl

/-- Behind a first slash, slashes only part the names. -/
theorem behindSlashes_eq_intercalate {names : List (List Char)} (h : names ≠ []) :
    behindSlashes names = '/' :: ['/'].intercalate names := by
  obtain ⟨name, names, rfl⟩ := List.exists_cons_of_ne_nil h
  rw [behindSlashes_cons, intercalate_cons]

namespace Listed

theorem ne_nil {names : List (List Char)} (h : Listed names) : names ≠ [] := by
  cases h <;> exact List.cons_ne_nil _ _

theorem eq_nil_or_plain {names : List (List Char)} (h : Listed names) :
    ∀ name ∈ names, name = [] ∨ IsPlain name := by
  induction h with
  | directory => simp
  | entry plain => simpa using Or.inr plain
  | within plain _ ih => exact List.forall_mem_cons.mpr ⟨.inr plain, ih⟩

theorem no_slash {names : List (List Char)} (h : Listed names) : ∀ name ∈ names, '/' ∉ name := by
  intro name hname
  rcases h.eq_nil_or_plain name hname with rfl | plain
  · exact List.not_mem_nil
  · exact plain.no_slash

theorem ne_dots {names : List (List Char)} (h : Listed names) :
    ∀ name ∈ names, name ≠ ['.'] ∧ name ≠ ['.', '.'] := by
  intro name hname
  rcases h.eq_nil_or_plain name hname with rfl | plain
  · exact ⟨(List.cons_ne_nil _ _).symm, (List.cons_ne_nil _ _).symm⟩
  · exact ⟨plain.ne_dot, plain.ne_dots⟩

theorem of_plain {names : List (List Char)} (hne : names ≠ []) (h : ∀ name ∈ names, IsPlain name) :
    Listed names := by
  induction names with
  | nil => exact absurd rfl hne
  | cons name names ih =>
    obtain ⟨plain, hrest⟩ := List.forall_mem_cons.mp h
    cases names with
    | nil => exact .entry plain
    | cons next names => exact .within plain (ih (List.cons_ne_nil next names) hrest)

theorem of_plain_directory {names : List (List Char)} (h : ∀ name ∈ names, IsPlain name) :
    Listed (names ++ [[]]) := by
  induction names with
  | nil => exact .directory
  | cons name names ih =>
    obtain ⟨plain, hrest⟩ := List.forall_mem_cons.mp h
    exact .within plain (ih hrest)

/-- Either all names are plain or all but an empty one at the end. -/
theorem plain_or_directory {names : List (List Char)} (h : Listed names) :
    (names ≠ [] ∧ ∀ name ∈ names, IsPlain name) ∨
      ∃ before, (∀ name ∈ before, IsPlain name) ∧ names = before ++ [[]] := by
  induction h with
  | directory => exact .inr ⟨[], by simp, rfl⟩
  | entry plain => exact .inl ⟨List.cons_ne_nil _ _, by simpa using plain⟩
  | @within name names plain rest ih =>
    rcases ih with ⟨-, hall⟩ | ⟨before, hall, rfl⟩
    · exact .inl ⟨List.cons_ne_nil _ _, List.forall_mem_cons.mpr ⟨plain, hall⟩⟩
    · exact .inr ⟨name :: before, List.forall_mem_cons.mpr ⟨plain, hall⟩, rfl⟩

/-- Only the root has an empty name in front. -/
theorem eq_nil_or_ne_nil {name : List Char} {rest : List (List Char)} (h : Listed (name :: rest)) :
    rest = [] ∨ name ≠ [] := by
  cases h with
  | directory | entry => exact .inl rfl
  | within plain _ => exact .inr plain.ne_nil

/-- The first name on the way to a place is a way by itself. -/
theorem first {name : List Char} {rest : List (List Char)} (h : Listed (name :: rest)) :
    Listed [name] := by
  cases h with
  | directory => exact .directory
  | entry plain | within plain => exact .entry plain

/-- Names that have no slashes are found again where they are written. -/
theorem names_eq {ns : List (List Char)} {target : String} (h : Listed ns)
    (htarget : target.toList = behindSlashes ns) : names target = ns := by
  rw [names, htarget, behindSlashes_eq_intercalate h.ne_nil]
  exact List.splitOn_intercalate '/' h.no_slash h.ne_nil

end Listed

/-! ### Paths are made of plain names -/

/-- One more piece keeps the stack plain: what is not plain is not put on it. -/
theorem push_plain {stack : List String} {piece : String} (hpiece : '/' ∉ piece.toList)
    (hstack : ∀ seg ∈ stack, IsPlain seg.toList) :
    ∀ seg ∈ push stack piece, IsPlain seg.toList := by
  unfold push
  split
  · exact hstack
  · rename_i hne
    split
    · exact fun seg hseg => hstack seg (List.mem_of_mem_tail hseg)
    · rename_i hdots
      obtain ⟨hempty, hdot⟩ := not_or.mp hne
      refine List.forall_mem_cons.mpr ⟨⟨?_, ?_, ?_, hpiece⟩, hstack⟩
      · exact fun h => hempty (String.toList_inj.mp h)
      · exact fun h => hdot (String.toList_inj.mp h)
      · exact fun h => hdots (String.toList_inj.mp h)

theorem segments_plain (path : String) : ∀ seg ∈ segments path, IsPlain seg.toList := by
  -- induction on the pieces, for every plain stack
  have fold : ∀ (ps stack : List String), (∀ p ∈ ps, '/' ∉ p.toList) →
      (∀ seg ∈ stack, IsPlain seg.toList) →
      ∀ seg ∈ ps.foldl push stack, IsPlain seg.toList := by
    intro ps
    induction ps with
    | nil => exact fun _ _ hstack => hstack
    | cons p ps ih =>
      intro stack hps hstack
      obtain ⟨hp, hrest⟩ := List.forall_mem_cons.mp hps
      exact ih (push stack p) hrest (push_plain hp hstack)
  have hpieces : ∀ p ∈ pieces path, '/' ∉ p.toList := by
    intro p hp
    obtain ⟨cs, hcs, rfl⟩ := List.mem_map.mp hp
    rw [String.toList_ofList]
    intro hslash
    exact absurd (Text.eq_false_of_mem_piece hcs '/' hslash) (by decide)
  intro seg hseg
  exact fold (pieces path) [] hpieces (by simp) seg (List.mem_reverse.mp hseg)

/-- Plain pieces are all kept. -/
theorem foldl_push_of_plain {segs : List String} (h : ∀ seg ∈ segs, IsPlain seg.toList)
    (stack : List String) : segs.foldl push stack = segs.reverse ++ stack := by
  induction segs generalizing stack with
  | nil => rfl
  | cons seg segs ih =>
    obtain ⟨plain, hrest⟩ := List.forall_mem_cons.mp h
    have hpush : push stack seg = seg :: stack := by
      have hempty : seg ≠ "" := fun h => plain.ne_nil (congrArg String.toList h)
      have hdot : seg ≠ "." := fun h => plain.ne_dot (congrArg String.toList h)
      have hdots : seg ≠ ".." := fun h => plain.ne_dots (congrArg String.toList h)
      unfold push
      rw [if_neg (not_or.mpr ⟨hempty, hdot⟩), if_neg hdots]
    rw [List.foldl_cons, hpush, ih hrest, List.reverse_cons, List.append_assoc]
    rfl

theorem toList_renderEntry (segs : List String) :
    (renderEntry segs).toList = behindSlashes (segs.map String.toList) := by
  induction segs with
  | nil => rfl
  | cons seg segs ih =>
    rw [renderEntry, List.map_cons, String.join_cons, ← renderEntry, String.toList_append, ih]
    simp

theorem toList_renderDirectory (segs : List String) :
    (renderDirectory segs).toList = behindSlashes (segs.map String.toList ++ [[]]) := by
  rw [renderDirectory, String.toList_append, toList_renderEntry, behindSlashes_append]
  rfl

/-! ### Targets and their names -/

/-- The text is written from names on the way to a place. -/
def IsWritten (target : String) : Prop := ∃ ns, Listed ns ∧ target.toList = behindSlashes ns

theorem isWritten_renderDirectory {segs : List String} (h : ∀ seg ∈ segs, IsPlain seg.toList) :
    IsWritten (renderDirectory segs) :=
  ⟨_, .of_plain_directory (List.forall_mem_map.mpr h), toList_renderDirectory segs⟩

theorem isWritten_renderEntry {segs : List String} (hne : segs ≠ [])
    (h : ∀ seg ∈ segs, IsPlain seg.toList) : IsWritten (renderEntry segs) :=
  ⟨_, .of_plain (by simpa using hne) (List.forall_mem_map.mpr h), toList_renderEntry segs⟩

theorem isDirectoryForm_renderDirectory (segs : List String) :
    isDirectoryForm (renderDirectory segs) = true := by
  rw [isDirectoryForm, renderDirectory, String.toList_append]
  simp

theorem isWritten_join (dir name : String) : IsWritten (join dir name) := by
  simp only [join]
  split
  · exact isWritten_renderDirectory (segments_plain _)
  · rename_i hentry
    exact isWritten_renderEntry (not_or.mp hentry).1 (segments_plain _)

theorem IsTarget.isWritten {target : String} (h : IsTarget target) : IsWritten target := by
  cases h with
  | directory dir path => exact isWritten_renderDirectory (segments_plain _)
  | entry dir name => exact isWritten_join dir name
  | entryDirectory dir name =>
    -- A slash is added only to what `join` has not written as a directory.
    have hjoin : isDirectoryForm (join dir name) = true ∨
        join dir name = renderEntry (segments (combine dir name)) := by
      simp only [join]
      split
      · exact .inl (isDirectoryForm_renderDirectory _)
      · exact .inr rfl
    simp only [joinDirectory]
    split
    · exact isWritten_join dir name
    · rename_i hform
      rw [hjoin.resolve_left hform]
      exact isWritten_renderDirectory (segments_plain _)

/-- What is written from names begins with a slash, behind which are the names. -/
theorem pieces_of_written {ns : List (List Char)} {target : String} (hns : Listed ns)
    (htarget : target.toList = behindSlashes ns) :
    isAbsolute target = true ∧ pieces target = "" :: ns.map String.ofList := by
  rw [isAbsolute, pieces, htarget, behindSlashes_eq_intercalate hns.ne_nil,
    List.splitOn_cons_eq_if_modifyHead, List.splitOn_intercalate '/' hns.no_slash hns.ne_nil]
  exact ⟨rfl, rfl⟩

theorem foldl_push_ofList {names : List (List Char)} (h : ∀ name ∈ names, IsPlain name) :
    (names.map String.ofList).foldl push [] = (names.map String.ofList).reverse := by
  rw [foldl_push_of_plain, List.append_nil]
  rw [List.forall_mem_map]
  exact fun name hname => (String.toList_ofList).symm ▸ h name hname

/-- A path that is written from plain names, and perhaps a last slash, has these names. -/
theorem segments_of_written {ns before : List (List Char)} {target : String} (hns : Listed ns)
    (htarget : target.toList = behindSlashes ns) (hplain : ∀ name ∈ before, IsPlain name)
    (h : ns = before ∨ ns = before ++ [[]]) :
    segments target = before.map String.ofList := by
  rw [segments, (pieces_of_written hns htarget).2, List.foldl_cons,
    show push [] "" = [] from rfl]
  rcases h with rfl | rfl
  · rw [foldl_push_ofList hplain, List.reverse_reverse]
  · rw [List.map_append, List.foldl_append, foldl_push_ofList hplain]
    exact List.reverse_reverse _

/-- A path that ends in a plain name is not written as a directory. -/
theorem isDirectoryForm_of_plain {ns : List (List Char)} {target : String} (hne : ns ≠ [])
    (hplain : ∀ name ∈ ns, IsPlain name) (htarget : target.toList = behindSlashes ns) :
    isDirectoryForm target = false := by
  obtain ⟨before, last, rfl⟩ := (List.eq_nil_or_concat ns).resolve_left hne
  have plain := hplain last (by simp)
  obtain ⟨c, hc⟩ : ∃ c, last.getLast? = some c :=
    ⟨_, List.getLast?_eq_some_getLast plain.ne_nil⟩
  have hslash : c ≠ '/' := fun hslash => plain.no_slash (hslash ▸ List.mem_of_getLast? hc)
  rw [isDirectoryForm, htarget, List.concat_eq_append, behindSlashes_append]
  simp [List.getLast?_append, List.getLast?_cons, hc, hslash]

/-- What is written from names is its own place: joined to any directory, it stays as it is. -/
theorem IsWritten.join_eq {target : String} (h : IsWritten target) (dir : String) :
    join dir target = target := by
  obtain ⟨ns, hns, htarget⟩ := h
  -- It begins with a slash, so the directory does not matter.
  have hcombine : combine dir target = target := if_pos (pieces_of_written hns htarget).1
  have hback : ∀ before : List (List Char), (before.map String.ofList).map String.toList = before :=
    fun before => by rw [List.map_map]; simp [Function.comp_def]
  apply String.toList_inj.mp
  rcases hns.plain_or_directory with ⟨hne, hplain⟩ | ⟨before, hplain, rfl⟩
  · have hentry := isDirectoryForm_of_plain hne hplain htarget
    have hsome : target ≠ "" := by
      rintro rfl
      rw [behindSlashes_eq_intercalate hne] at htarget
      exact (List.cons_ne_nil _ _).symm htarget
    rw [join, hcombine, segments_of_written hns htarget hplain (.inl rfl),
      if_neg (by simp [hne, hsome, hentry]), toList_renderEntry, hback, htarget]
  · have hdirectory : isDirectoryForm target = true := by
      rw [isDirectoryForm, htarget, behindSlashes_append]
      simp
    rw [join, hcombine, segments_of_written hns htarget hplain (.inr rfl),
      if_pos (by simp [hdirectory]), toList_renderDirectory, hback, htarget]

theorem isTarget_of_isWritten {target : String} (h : IsWritten target) : IsTarget target := by
  rw [← h.join_eq ""]
  exact .entry "" target

/-- The targets are the texts written from names on the way to a place. -/
theorem isTarget_iff {target : String} :
    IsTarget target ↔ ∃ ns, Listed ns ∧ target.toList = behindSlashes ns :=
  ⟨IsTarget.isWritten, isTarget_of_isWritten⟩

namespace IsTarget

theorem listed {target : String} (h : IsTarget target) : Listed (names target) := by
  obtain ⟨ns, hns, htarget⟩ := isTarget_iff.mp h
  rwa [hns.names_eq htarget]

theorem toList_eq {target : String} (h : IsTarget target) :
    target.toList = behindSlashes (names target) := by
  obtain ⟨ns, hns, htarget⟩ := isTarget_iff.mp h
  rw [hns.names_eq htarget, htarget]

/-- A plain name has no slash to be stripped. -/
theorem dropWhile_of_plain {name : List Char} (plain : IsPlain name) (rest : List Char) :
    (name ++ rest).dropWhile (· == '/') = name ++ rest := by
  obtain ⟨c, cs, rfl⟩ := List.exists_cons_of_ne_nil plain.ne_nil
  have hc : (c == '/') = false :=
    beq_eq_false_iff_ne.mpr fun hc => plain.no_slash (hc ▸ List.mem_cons_self)
  exact List.dropWhile_cons_of_neg (by simp [hc])

/-- A target begins with one slash, even where slashes are stripped as long as there are any. -/
theorem dropWhile_slash {target : String} (h : IsTarget target) :
    (target.toList.dropWhile (· == '/')).splitOn '/' = names target := by
  obtain ⟨ns, hns, htarget⟩ := isTarget_iff.mp h
  rw [names, htarget]
  cases hns with
  | directory => rfl
  | entry plain | within plain =>
    rw [behindSlashes_cons, List.dropWhile_cons_of_pos rfl, dropWhile_of_plain plain]
    rfl

end IsTarget

example : names (join "/a/b/" "../c//d/") = ["a".toList, "c".toList, "d".toList, []] := by decide

end RemoteFiles.Path
