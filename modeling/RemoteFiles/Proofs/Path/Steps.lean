import RemoteFiles.Proofs.Client.Recording
import RemoteFiles.Proofs.Path.Joins

/-!
# Paths taken in steps

Someone who changes to a directory by a path and then uses a relative name gets to the same place as
with the longer path at once, whatever empty and dot segments there are (`paths_in_steps`).

A directory in normal form has the segments of the path that it was made from
(`segments_normalize`), and behind a slash a path goes on from the segments that it has reached.  So
the two ways lead to the same segments (`segments_combine_resolve`).  A path is written from its
segments, and from whether its name was written as a directory; the longer name is so exactly if the
shorter one is (`isDirectoryName_append_iff`).
-/

namespace RemoteFiles

namespace Path

variable {path rest : String}

/-! ### The same segments -/

/-- Plain segments are found again where they are written as a directory. -/
theorem segments_renderDirectory {segs : List String} (h : ∀ seg ∈ segs, IsPlain seg.toList) :
    segments (renderDirectory segs) = segs := by
  have hplain : ∀ name ∈ segs.map String.toList, IsPlain name := List.forall_mem_map.mpr h
  rw [segments_of_written (.of_plain_directory hplain) (toList_renderDirectory segs) hplain
    (.inr rfl), List.map_map]
  simp [Function.comp_def]

theorem segments_normalize (path : String) : segments (normalize path) = segments path :=
  segments_renderDirectory (segments_plain path)

theorem normalize_normalize (path : String) : normalize (normalize path) = normalize path := by
  rw [normalize, segments_normalize, ← normalize]

/-- Whether a path begins at the root is settled by its first step. -/
theorem isAbsolute_append (hne : path ≠ "") (rest : String) :
    isAbsolute (path ++ rest) = isAbsolute path := by
  obtain ⟨c, cs, hpath⟩ := List.exists_cons_of_ne_nil (mt String.toList_eq_nil_iff.mp hne)
  rw [isAbsolute, isAbsolute, String.toList_append, hpath]
  rfl

theorem combine_append (dir : String) (hne : path ≠ "") (rest : String) :
    combine dir (path ++ "/" ++ rest) = combine dir path ++ "/" ++ rest := by
  have habsolute : isAbsolute (path ++ "/" ++ rest) = isAbsolute path := by
    rw [String.append_assoc, isAbsolute_append hne]
  rw [combine, combine, habsolute]
  split
  · rfl
  · simp only [String.append_assoc]

/-- From the directory that a path names, a relative path goes on to where both go together. -/
theorem segments_combine_resolve (dir : String) (hne : path ≠ "")
    (hrelative : isAbsolute rest = false) :
    segments (combine (resolve dir path) rest) = segments (combine dir (path ++ "/" ++ rest)) := by
  have hbehind : combine (resolve dir path) rest = resolve dir path ++ "/" ++ rest := by
    rw [combine, hrelative, if_neg Bool.false_ne_true]
  calc segments (combine (resolve dir path) rest)
      = ((pieces rest).foldl push (segments (resolve dir path)).reverse).reverse := by
        rw [hbehind, segments_append]
    _ = ((pieces rest).foldl push (segments (combine dir path)).reverse).reverse := by
        rw [resolve, segments_normalize]
    _ = segments (combine dir (path ++ "/" ++ rest)) := by
        rw [combine_append dir hne, segments_append]

/-! ### The same paths -/

theorem resolve_resolve (dir : String) (hne : path ≠ "") (hrelative : isAbsolute rest = false) :
    resolve (resolve dir path) rest = resolve dir (path ++ "/" ++ rest) := by
  rw [resolve, normalize, segments_combine_resolve dir hne hrelative, ← normalize, ← resolve]

/-- What is behind a slash says whether a name is written as a directory. -/
theorem isDirectoryName_append_iff (path rest : String) :
    IsDirectoryName (path ++ "/" ++ rest) ↔ IsDirectoryName rest := by
  have hslash : path ++ "/" ++ rest ≠ "" := by
    intro hempty
    have hlist := congrArg String.toList hempty
    simp at hlist
  rw [IsDirectoryName, or_iff_right hslash, IsDirectoryName, isDirectoryForm, isDirectoryForm,
    String.toList_append, String.toList_append]
  by_cases hrest : rest = ""
  · -- then the slash itself is the end
    subst hrest
    simp
  · rw [or_iff_right hrest, List.getLast?_append_of_ne_nil _ (mt String.toList_eq_nil_iff.mp hrest)]

theorem join_resolve (dir : String) (hne : path ≠ "") (hrelative : isAbsolute rest = false) :
    join (resolve dir path) rest = join dir (path ++ "/" ++ rest) := by
  have hform := isDirectoryName_append_iff path rest
  simp only [IsDirectoryName] at hform
  simp only [join, segments_combine_resolve dir hne hrelative, hform]

/-- Two dots take back a plain name. -/
theorem resolve_dots {dir name : String} (hdir : normalize dir = dir)
    (plain : IsPlain name.toList) : resolve (resolve dir name) ".." = dir := by
  have hback : segments (combine (resolve dir name) "..") = segments dir := by
    rw [segments_combine_of_no_slash _ (by decide), resolve, segments_normalize,
      segments_combine_of_isPlain dir plain]
    simp [push]
  rw [resolve, normalize, hback, ← normalize, hdir]

end Path

/-! ### Changes of the directory -/

variable {σ : Type}

/-- A change of the directory succeeds, and the client stands where the path leads from where it
stood. -/
theorem Client.directory_changeDirectory (h : Host (StateM σ)) (path : String) (c : Client)
    (s : σ) :
    (perform h (.changeDirectory path) c s).1.2.directory = Path.resolve c.directory path :=
  rfl

open RemoteFiles.Path in
/-- **Paths in steps**: to change to a directory by a path and then to use a relative name leads to
the same place as the longer path at once, for every directory, and so for a client wherever it
stands.  Normal form is reached in one step, and from there two dots take back a plain name. -/
theorem paths_in_steps :
    (∀ dir path rest : String, path ≠ "" → isAbsolute rest = false →
      resolve (resolve dir path) rest = resolve dir (path ++ "/" ++ rest) ∧
        join (resolve dir path) rest = join dir (path ++ "/" ++ rest)) ∧
    (∀ {σ : Type} (h : Host (StateM σ)) (c : Client) (s : σ) (path rest : String), path ≠ "" →
      isAbsolute rest = false →
      join (Client.perform h (.changeDirectory path) c s).1.2.directory rest =
        join c.directory (path ++ "/" ++ rest)) ∧
    (∀ path : String, normalize (normalize path) = normalize path) ∧
    ∀ dir name : String, normalize dir = dir → IsPlain name.toList →
      resolve (resolve dir name) ".." = dir := by
  refine ⟨fun dir path rest hne hrelative => ?_, fun h c s path rest hne hrelative => ?_,
    normalize_normalize, fun dir name hdir plain => resolve_dots hdir plain⟩
  · exact ⟨resolve_resolve dir hne hrelative, join_resolve dir hne hrelative⟩
  · rw [Client.directory_changeDirectory]
    exact join_resolve c.directory hne hrelative

open RemoteFiles.Path in
/-- A path with empty and dot segments, then a name that climbs above the root; a client that uses
the directory itself after a step aside; and three dots, which are a plain name. -/
theorem paths_in_steps_of_winding :
    (resolve (resolve "a" "b//..") "../../c/." = resolve "a" "b//../../../c/." ∧
      resolve "a" "b//../../../c/." = "/c/") ∧
    (let c := Client.startingIn "/a/b"
      let h := Host.constant (.ok .empty) (.ok none)
      join (Client.perform h (.changeDirectory "../c") c ()).1.2.directory "" = "/a/c/") ∧
    normalize "/a/b/" = "/a/b/" ∧ IsPlain "...".toList ∧
      resolve (resolve "/a/b/" "...") ".." = "/a/b/" := by
  obtain ⟨hsteps, hclient, -, hback⟩ := paths_in_steps
  have hresolve := (hsteps "a" "b//.." "../../c/." (by decide) (by decide)).1
  have hjoin := hclient (.constant (.ok .empty) (.ok none)) (.startingIn "/a/b") () "../c" ""
    (by decide) (by decide)
  have plain : IsPlain "...".toList := isPlain_toList_iff.mpr (by decide)
  refine ⟨⟨hresolve, by decide⟩, ?_, by decide, plain, hback "/a/b/" "..." (by decide) plain⟩
  exact hjoin.trans (by decide)

end RemoteFiles
