import RemoteFiles.Proofs.Path.Targets

/-!
# Names joined to directories

A directory in normal form is written from plain names with a slash at its end
(`IsNormalDirectory`); `normalize` and `resolve` make nothing else, and leave it as it is.

What follows a slash is read from the segments that were there before it (`segments_append`).  So a
plain name is written behind the directory that it is joined to (`join_of_isPlain`), and a name that
is empty or dots leads to the directory itself or out of it, never into it: these are the only names
without slashes that name no child of the directory (`exists_join_eq_append_iff`).

Two names for one entry are joined to the same path exactly if both are written as directories or
neither is (`join_eq_join_iff`).
-/

namespace RemoteFiles.Path

/-- A directory as it is kept: slashes at both ends, and no segment that is empty or dots. -/
def IsNormalDirectory (dir : String) : Prop :=
  ∃ names, (∀ name ∈ names, IsPlain name) ∧ dir.toList = behindSlashes (names ++ [[]])

/-- A name that is written as a directory: it is empty or ends with a slash. -/
def IsDirectoryName (name : String) : Prop := name = "" ∨ isDirectoryForm name = true

instance (name : String) : Decidable (IsDirectoryName name) := inferInstanceAs (Decidable (_ ∨ _))

/-! ### Segments -/

/-- Only three texts without slashes are not plain. -/
theorem isPlain_toList_iff {name : String} :
    IsPlain name.toList ↔ name ∉ ["", ".", ".."] ∧ '/' ∉ name.toList := by
  have htext : ∀ text : String, name.toList = text.toList ↔ name = text :=
    fun _ => String.toList_inj
  simp only [List.mem_cons, List.not_mem_nil, or_false, not_or]
  constructor
  · intro plain
    have hempty := mt (htext "").mpr plain.ne_nil
    have hdot := mt (htext ".").mpr plain.ne_dot
    have hdots := mt (htext "..").mpr plain.ne_dots
    exact ⟨⟨hempty, hdot, hdots⟩, plain.no_slash⟩
  · rintro ⟨⟨hempty, hdot, hdots⟩, hslash⟩
    exact ⟨mt (htext "").mp hempty, mt (htext ".").mp hdot, mt (htext "..").mp hdots, hslash⟩

theorem pieces_append (dir path : String) :
    pieces (dir ++ "/" ++ path) = pieces dir ++ pieces path := by
  have htext : (dir ++ "/" ++ path).toList = dir.toList ++ '/' :: path.toList := by simp
  rw [pieces, htext, List.splitOn_append_cons_self, List.map_append, pieces, pieces]

/-- Behind a slash, a path goes on from the segments that it has reached. -/
theorem segments_append (dir path : String) :
    segments (dir ++ "/" ++ path) = ((pieces path).foldl push (segments dir).reverse).reverse := by
  rw [segments, pieces_append, List.foldl_append, segments, List.reverse_reverse]

/-- A name without slashes is one piece behind the segments of the directory. -/
theorem segments_combine_of_no_slash (dir : String) {name : String} (h : '/' ∉ name.toList) :
    segments (combine dir name) = (push (segments dir).reverse name).reverse := by
  have habsolute : isAbsolute name = false := by
    rw [isAbsolute, beq_eq_false_iff_ne]
    intro hhead
    exact h (List.mem_of_mem_head? hhead)
  have hpieces : pieces name = [name] := by
    rw [pieces, List.splitOn_eq_singleton h, List.map_singleton, String.ofList_toList]
  rw [combine, habsolute, if_neg Bool.false_ne_true, segments_append, hpieces]
  rfl

/-- A plain name is one more segment behind those of the directory. -/
theorem segments_combine_of_isPlain (dir : String) {name : String} (plain : IsPlain name.toList) :
    segments (combine dir name) = segments dir ++ [name] := by
  have hpush := foldl_push_of_plain (List.forall_mem_singleton.mpr plain) (segments dir).reverse
  rw [List.foldl_cons, List.foldl_nil] at hpush
  rw [segments_combine_of_no_slash dir plain.no_slash, hpush]
  simp

/-- A piece that is not plain adds nothing. -/
theorem push_suffix {piece : String} (hslash : '/' ∉ piece.toList) (h : ¬ IsPlain piece.toList)
    (stack : List String) : push stack piece <:+ stack := by
  unfold push
  split_ifs with hnothing hdots
  · exact List.suffix_rfl
  · exact List.tail_suffix stack
  · -- neither empty nor dots, and without slashes: the piece is plain after all
    obtain ⟨hempty, hdot⟩ := not_or.mp hnothing
    have hname : piece ∉ ["", ".", ".."] := by simp [hempty, hdot, hdots]
    exact absurd (isPlain_toList_iff.mpr ⟨hname, hslash⟩) h

/-! ### Directories in normal form -/

theorem isNormalDirectory_renderDirectory {segs : List String}
    (h : ∀ seg ∈ segs, IsPlain seg.toList) : IsNormalDirectory (renderDirectory segs) :=
  ⟨segs.map String.toList, List.forall_mem_map.mpr h, toList_renderDirectory segs⟩

theorem isNormalDirectory_normalize (path : String) : IsNormalDirectory (normalize path) :=
  isNormalDirectory_renderDirectory (segments_plain path)

theorem isNormalDirectory_resolve (dir path : String) : IsNormalDirectory (resolve dir path) :=
  isNormalDirectory_normalize (combine dir path)

namespace IsNormalDirectory

variable {dir : String} (h : IsNormalDirectory dir)
include h

/-- A directory in normal form is the directory of its own segments. -/
theorem normalize_eq : normalize dir = dir := by
  obtain ⟨names, hplain, hdir⟩ := h
  have hsegments : segments dir = names.map String.ofList :=
    segments_of_written (.of_plain_directory hplain) hdir hplain (.inr rfl)
  apply String.toList_inj.mp
  rw [normalize, toList_renderDirectory, hsegments, hdir, List.map_map]
  simp [Function.comp_def]

/-- From anywhere, a directory in normal form is itself. -/
theorem resolve_eq (current : String) : resolve current dir = dir := by
  obtain ⟨names, hplain, hdir⟩ := h
  have habsolute := (pieces_of_written (.of_plain_directory hplain) hdir).1
  rw [resolve, combine, if_pos habsolute, normalize_eq ⟨names, hplain, hdir⟩]

theorem isTarget : IsTarget dir := by
  rw [← h.resolve_eq "/"]
  exact .directory "/" dir

/-- A plain name is written behind the directory that it is joined to. -/
theorem join_of_isPlain {name : String} (plain : IsPlain name.toList) :
    join dir name = dir ++ name := by
  have hsegments := segments_combine_of_isPlain dir plain
  have hempty : name ≠ "" := fun heq => plain.ne_nil (congrArg String.toList heq)
  have hform : isDirectoryForm name = false := by
    rw [isDirectoryForm, beq_eq_false_iff_ne]
    exact fun hlast => plain.no_slash (List.mem_of_getLast? hlast)
  have hentry : join dir name = renderEntry (segments dir ++ [name]) := by
    simp only [join, hsegments]
    rw [if_neg (by simp [hempty, hform])]
  calc join dir name
      = renderDirectory (segments dir) ++ name := by
        rw [hentry, renderDirectory, renderEntry, renderEntry, List.map_append, String.join_append]
        simp [String.append_assoc]
    _ = dir ++ name := by rw [show renderDirectory (segments dir) = dir from normalize_eq h]

/-- What has no more segments than the directory is not longer when it is written. -/
theorem length_join_le {name : String} (hkept : segments (combine dir name) <+: segments dir) :
    (join dir name).toList.length ≤ dir.toList.length := by
  obtain ⟨more, hmore⟩ := hkept
  have hslash (segs : List String) :
      (renderDirectory segs).toList.length = (renderEntry segs).toList.length + 1 := by
    rw [renderDirectory, String.toList_append, List.length_append]
    rfl
  have hentry : (renderEntry (segments (combine dir name))).toList.length ≤
      (renderEntry (segments dir)).toList.length := by
    rw [← hmore, toList_renderEntry, toList_renderEntry, List.map_append, behindSlashes_append,
      List.length_append]
    omega
  have hdir : dir.toList.length = (renderEntry (segments dir)).toList.length + 1 := by
    rw [← hslash, show renderDirectory (segments dir) = dir from normalize_eq h]
  simp only [join]
  split_ifs
  · rw [hslash]
    omega
  · omega

/-- A name without slashes names a child of the directory exactly if it is plain. -/
theorem exists_join_eq_append_iff {name : String} (hslash : '/' ∉ name.toList) :
    (∃ child, child ≠ "" ∧ '/' ∉ child.toList ∧ join dir name = dir ++ child) ↔
      IsPlain name.toList := by
  constructor
  · rintro ⟨child, hne, -, heq⟩
    by_contra hplain
    have hkept : segments (combine dir name) <+: segments dir := by
      rw [segments_combine_of_no_slash dir hslash]
      simpa using List.reverse_prefix.mpr (push_suffix hslash hplain (segments dir).reverse)
    have hle := h.length_join_le hkept
    have hpos : 0 < child.toList.length :=
      List.length_pos_of_ne_nil fun hnil => hne (String.toList_inj.mp hnil)
    rw [heq, String.toList_append, List.length_append] at hle
    omega
  · intro plain
    have hne : name ≠ "" := fun heq => plain.ne_nil (congrArg String.toList heq)
    exact ⟨name, hne, hslash, h.join_of_isPlain plain⟩

end IsNormalDirectory

/-! ### Two names for one entry -/

theorem isDirectoryForm_renderEntry {segs : List String} (hne : segs ≠ [])
    (h : ∀ seg ∈ segs, IsPlain seg.toList) : isDirectoryForm (renderEntry segs) = false :=
  isDirectoryForm_of_plain (by simpa using hne) (List.forall_mem_map.mpr h)
    (toList_renderEntry segs)

/-- A path is made with a slash at its end if it is the root or its name was written with one. -/
theorem isDirectoryForm_join (dir name : String) :
    isDirectoryForm (join dir name) = true ↔
      segments (combine dir name) = [] ∨ IsDirectoryName name := by
  simp only [join]
  split_ifs with hdirectory
  · exact iff_of_true (isDirectoryForm_renderDirectory _) hdirectory
  · have hentry := isDirectoryForm_renderEntry (not_or.mp hdirectory).1 (segments_plain _)
    rw [hentry]
    exact iff_of_false Bool.false_ne_true hdirectory

/-- With a slash at its end, the path of an entry is the directory of its segments. -/
theorem joinDirectory_eq_resolve (dir name : String) :
    joinDirectory dir name = resolve dir name := by
  simp only [joinDirectory, join, resolve, normalize]
  split_ifs with hdirectory hform hform
  · rfl
  · exact absurd (isDirectoryForm_renderDirectory _) hform
  · have hentry := isDirectoryForm_renderEntry (not_or.mp hdirectory).1 (segments_plain _)
    rw [hentry] at hform
    exact absurd hform Bool.false_ne_true
  · rfl

/-- Only the root has no segments. -/
theorem joinDirectory_eq_root_iff (dir name : String) :
    joinDirectory dir name = "/" ↔ segments (combine dir name) = [] := by
  rw [joinDirectory_eq_resolve, resolve, normalize]
  constructor
  · intro hroot
    cases hsegs : segments (combine dir name) with
    | nil => rfl
    | cons seg segs =>
      have hlength := congrArg (List.length ∘ String.toList) hroot
      rw [hsegs] at hlength
      simp [toList_renderDirectory] at hlength
  · intro hnil
    rw [hnil]
    rfl

/-- Two names for one entry are joined to the same path exactly if the entry is the root, or both
names are written as directories or neither is. -/
theorem join_eq_join_iff {dir name other : String}
    (h : joinDirectory dir name = joinDirectory dir other) :
    join dir name = join dir other ↔
      joinDirectory dir name = "/" ∨ (IsDirectoryName name ↔ IsDirectoryName other) := by
  have hforms : join dir name = join dir other ↔
      (isDirectoryForm (join dir name) = true ↔ isDirectoryForm (join dir other) = true) := by
    constructor
    · intro heq
      rw [heq]
    · intro hiff
      simp only [joinDirectory] at h
      by_cases hform : isDirectoryForm (join dir name) = true
      · rw [if_pos hform, if_pos (hiff.mp hform)] at h
        exact h
      · rw [if_neg hform, if_neg (mt hiff.mpr hform)] at h
        exact (String.append_left_inj "/").mp h
  have hroots : segments (combine dir name) = [] ↔ segments (combine dir other) = [] := by
    rw [← joinDirectory_eq_root_iff, ← joinDirectory_eq_root_iff, h]
  rw [hforms, isDirectoryForm_join, isDirectoryForm_join, joinDirectory_eq_root_iff, ← hroots]
  by_cases hroot : segments (combine dir name) = []
  · simp only [hroot, true_or]
  · simp only [hroot, false_or]

end RemoteFiles.Path
