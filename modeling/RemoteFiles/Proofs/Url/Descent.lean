import RemoteFiles.Proofs.Path.Targets
import RemoteFiles.Proofs.Url.Settled

/-!
# Ways down from a directory

`descend` adds the names of a target to the path of a directory one by one.  A name is written
behind a slash (`pushName_of_visible_ne`), unless it is two dots in disguise, with tabs or line
breaks between them that no URL has: then the last segment is taken back instead
(`pushName_of_visible_eq`).

Names without tabs and line breaks are all written, one behind the other
(`IsDirectory.descend_eq`), and are found in the path again (`splitOn_intercalate_encode`).  With
whatever names, a path that has gone below a directory stays below it (`prefix_foldl_pushName`), and
so it is the first name that decides (`IsDirectory.prefix_pushName_iff`).
-/

namespace RemoteFiles.Url

open RemoteFiles.Path (Listed behindSlashes)

/-- A name without the characters that no URL has. -/
def visible (name : List Char) : List Char := name.filter (!isIgnored ·)

/-- A path up to the place where the next name begins. -/
def slashed (path : List Char) : List Char :=
  if path.length = 1 then path else path ++ ['/']

/-- A path to a directory: the root, or with a slash at both ends. -/
inductive IsDirectory : List Char → Prop
  | root : IsDirectory ['/']
  | below (between : List Char) : IsDirectory ('/' :: (between ++ ['/']))

theorem visible_eq_self {name : List Char} (h : ∀ c ∈ name, isIgnored c = false) :
    visible name = name := by
  rw [visible, List.filter_eq_self]
  exact fun c hc => by rw [h c hc, Bool.not_false]

theorem prefix_slashed (path : List Char) : path <+: slashed path := by
  unfold slashed
  split
  · exact List.prefix_refl path
  · exact List.prefix_append path ['/']

theorem head?_of_prefix {path more : List Char} (h : path <+: more)
    (hhead : path.head? = some '/') : more.head? = some '/' := by
  obtain ⟨rest, rfl⟩ := h
  rw [List.head?_append, hhead]
  rfl

/-- The only path from the root that has one character is the root. -/
theorem eq_root_of_length {path : List Char} (hhead : path.head? = some '/')
    (hlength : path.length = 1) : path = ['/'] := by
  obtain ⟨c, rfl⟩ := List.length_eq_one_iff.mp hlength
  rw [List.head?_cons, Option.some_inj] at hhead
  rw [hhead]

theorem exists_slashed_eq {path : List Char} (hhead : path.head? = some '/') :
    ∃ before, slashed path = before ++ ['/'] := by
  unfold slashed
  split
  · rename_i hlength
    exact ⟨[], eq_root_of_length hhead hlength⟩
  · exact ⟨path, rfl⟩

theorem slash_not_mem_encode (name : List Char) : '/' ∉ encode specialSegmentSet name := by
  intro hslash
  rcases mem_encode hslash with ⟨-, -, hset⟩ | hescape
  · exact absurd hset (by decide)
  · exact absurd hescape (by decide)

/-! ### One name -/

section
variable {name : List Char} (hdots : name ≠ ['.'] ∧ name ≠ ['.', '.']) {path : List Char}
include hdots

theorem pushName_eq :
    pushName .special path name =
      addSegment .special (slashed path) (encode specialSegmentSet (visible name)) false := by
  unfold pushName
  rw [if_neg (not_or.mpr hdots)]
  rfl

/-- Two dots with tabs or line breaks among them are taken for two dots. -/
theorem pushName_of_visible_eq (h : visible name = ['.', '.']) :
    pushName .special path name = takeBack (slashed path) := by
  rw [pushName_eq hdots, addSegment_of_dots _ _ ((isDoubleDot_encode rfl rfl).mpr h)]
  rfl

/-- A name that is no dots at all is written behind the slash. -/
theorem pushName_of_name (hone : visible name ≠ ['.']) (htwo : visible name ≠ ['.', '.']) :
    pushName .special path name =
      slashed path ++ encode specialSegmentSet (visible name) := by
  have hdouble : isDoubleDot (encode specialSegmentSet (visible name)) = false :=
    Bool.eq_false_of_not_eq_true (mt (isDoubleDot_encode rfl rfl).mp htwo)
  have hsingle : isSingleDot (encode specialSegmentSet (visible name)) = false :=
    Bool.eq_false_of_not_eq_true (mt (isSingleDot_encode rfl rfl).mp hone)
  rw [pushName_eq hdots, addSegment_of_name _ _ hdouble hsingle]
  exact List.append_nil _

/-- Every name that is not taken for two dots only adds to the path, and it adds no slash. -/
theorem pushName_of_visible_ne (hhead : path.head? = some '/') (h : visible name ≠ ['.', '.']) :
    ∃ more, '/' ∉ more ∧ pushName .special path name = slashed path ++ more := by
  by_cases hone : visible name = ['.']
  · -- one dot stands for the directory that the path ends with
    have hdouble : isDoubleDot (encode specialSegmentSet (visible name)) = false :=
      Bool.eq_false_of_not_eq_true (mt (isDoubleDot_encode rfl rfl).mp h)
    obtain ⟨before, hbefore⟩ := exists_slashed_eq hhead
    refine ⟨[], List.not_mem_nil, ?_⟩
    rw [pushName_eq hdots,
      addSegment_of_dot _ _ hdouble ((isSingleDot_encode rfl rfl).mpr hone), hbefore,
      endsWithSlash_concat, if_pos rfl, List.append_nil]
  · exact ⟨_, slash_not_mem_encode (visible name), pushName_of_name hdots hone h⟩

/-- A name without tabs and line breaks is written encoded. -/
theorem pushName_of_visible (h : visible name = name) :
    pushName .special path name = slashed path ++ encode specialSegmentSet name := by
  have hname : pushName .special path name =
      slashed path ++ encode specialSegmentSet (visible name) :=
    pushName_of_name hdots (h.symm ▸ hdots.1) (h.symm ▸ hdots.2)
  rwa [h] at hname

end

/-! ### Taking segments back -/

theorem prefix_uptoLastSlash {before path : List Char} (h : before ++ ['/'] <+: path) :
    before ++ ['/'] <+: uptoLastSlash path := by
  obtain ⟨rest, rfl⟩ := h
  rw [uptoLastSlash, List.reverse_append, List.dropWhile_append]
  split
  · rw [List.reverse_append, List.reverse_singleton, List.singleton_append,
      List.dropWhile_cons_of_neg (by decide)]
    simp
  · rw [List.reverse_append, List.reverse_reverse]
    exact List.prefix_append _ _

theorem length_uptoLastSlash_le (path : List Char) : (uptoLastSlash path).length ≤ path.length := by
  have h := (List.dropWhile_suffix (· != '/') (l := path.reverse)).length_le
  rwa [List.length_reverse, ← List.length_reverse] at h

/-- Behind a path from the root, two dots take back its last segment, or nothing. -/
theorem takeBack_slashed {path : List Char} (hhead : path.head? = some '/') :
    takeBack (slashed path) =
      if canDropSlash (slashed path) then uptoLastSlash path else slashed path := by
  obtain ⟨before, hbefore⟩ := exists_slashed_eq hhead
  have hends : endsWithSlash (slashed path) = true := by rw [hbefore, endsWithSlash_concat]
  rw [takeBack, hends, Bool.true_and]
  split
  · rename_i hdrop
    unfold slashed at hdrop ⊢
    split at hdrop
    · rename_i hlength
      rw [eq_root_of_length hhead hlength] at hdrop
      exact absurd hdrop (by decide)
    · rename_i hlength
      rw [if_neg hlength, List.dropLast_concat]
  · rw [hbefore, uptoLastSlash_concat]

/-! ### All names -/

/-- A path below a directory stays below it, whatever names come. -/
theorem prefix_foldl_pushName {before : List Char} (hhead : (before ++ ['/']).head? = some '/')
    (names : List (List Char)) {path : List Char} (h : before ++ ['/'] <+: path) :
    before ++ ['/'] <+: names.foldl (pushName .special) path := by
  induction names generalizing path with
  | nil => exact h
  | cons name names ih =>
    refine ih ?_
    have hroot := head?_of_prefix h hhead
    by_cases hdots : name ≠ ['.'] ∧ name ≠ ['.', '.']
    · -- Dots take back what is behind the last slash, which is not before that of the directory.
      by_cases htwo : visible name = ['.', '.']
      · rw [pushName_of_visible_eq hdots htwo, takeBack_slashed hroot]
        split
        · exact prefix_uptoLastSlash h
        · exact h.trans (prefix_slashed path)
      · obtain ⟨more, -, heq⟩ := pushName_of_visible_ne hdots hroot htwo
        rw [heq]
        exact (h.trans (prefix_slashed path)).trans (List.prefix_append _ _)
    · have hleft : pushName .special path name = path := by
        unfold pushName
        rw [if_pos (by tauto)]
      rwa [hleft]

/-- Names without tabs and line breaks are written one behind the other. -/
theorem foldl_pushName_of_visible {names : List (List Char)}
    (hdots : ∀ name ∈ names, name ≠ ['.'] ∧ name ≠ ['.', '.'])
    (hvisible : ∀ name ∈ names, visible name = name) {path : List Char}
    (hlength : 1 < path.length) :
    names.foldl (pushName .special) path =
      path ++ behindSlashes (names.map (encode specialSegmentSet)) := by
  induction names generalizing path with
  | nil => simp
  | cons name names ih =>
    obtain ⟨hname, hnames⟩ := List.forall_mem_cons.mp hdots
    obtain ⟨hself, hselves⟩ := List.forall_mem_cons.mp hvisible
    have hslashed : slashed path = path ++ ['/'] := if_neg (by omega)
    have hlonger : 1 < (path ++ ['/'] ++ encode specialSegmentSet name).length := by
      simp only [List.length_append]
      omega
    rw [List.foldl_cons, pushName_of_visible hname hself, hslashed, ih hnames hselves hlonger]
    simp

/-! ### Names below a directory -/

/-- The names of a target are added to the path without its last slash, unless it is the root. -/
theorem dropEmptyEnd_below (between : List Char) :
    dropEmptyEnd ('/' :: (between ++ ['/'])) = '/' :: between := by
  rw [dropEmptyEnd, List.drop_one, List.tail_cons, endsWithSlash_concat, if_pos rfl,
    List.dropLast_cons_of_ne_nil (by simp), List.dropLast_concat]

namespace IsDirectory

variable {root : List Char} (h : IsDirectory root)
include h

theorem head?_eq : root.head? = some '/' := by
  cases h <;> rfl

theorem exists_eq_concat : ∃ before, root = before ++ ['/'] := by
  cases h with
  | root => exact ⟨[], rfl⟩
  | below between => exact ⟨'/' :: between, rfl⟩

theorem head?_dropEmptyEnd : (dropEmptyEnd root).head? = some '/' := by
  cases h with
  | root => rfl
  | below between => rw [dropEmptyEnd_below, List.head?_cons]

/-- The directory itself is where the first name begins.  This fails for the one directory whose
path is an empty segment and nothing else. -/
theorem slashed_dropEmptyEnd (hne : root ≠ ['/', '/']) : slashed (dropEmptyEnd root) = root := by
  cases h with
  | root => rfl
  | below between =>
    have hbetween : between ≠ [] := by
      rintro rfl
      exact hne rfl
    have hlength : ('/' :: between).length ≠ 1 := by
      rw [List.length_cons]
      have hpos := List.length_pos_of_ne_nil hbetween
      omega
    rw [dropEmptyEnd_below, slashed, if_neg hlength]
    rfl

/-- What is taken back leaves less than the directory. -/
theorem not_prefix_takeBack (hdrop : canDropSlash root = true) :
    ¬ root <+: uptoLastSlash (dropEmptyEnd root) := by
  intro hprefix
  have hle := hprefix.length_le.trans (length_uptoLastSlash_le _)
  cases h with
  | root => exact absurd hdrop (by decide)
  | below between =>
    rw [dropEmptyEnd_below] at hle
    simp only [List.length_cons, List.length_append, List.length_nil] at hle
    omega

/-- A directory is kept by the first name exactly if its path is not one empty segment and the name
is not taken for dots that take its last segment back. -/
theorem prefix_pushName_iff {name : List Char} (hdots : name ≠ ['.'] ∧ name ≠ ['.', '.']) :
    root <+: pushName .special (dropEmptyEnd root) name ↔
      root ≠ ['/', '/'] ∧ (visible name = ['.', '.'] → canDropSlash root = false) := by
  have hhead := h.head?_dropEmptyEnd
  by_cases hroot : root = ['/', '/']
  · -- The empty segment is dropped, and no name adds a second slash to the first.
    refine iff_of_false ?_ fun hiff => hiff.1 hroot
    rw [hroot, show dropEmptyEnd ['/', '/'] = ['/'] from rfl]
    by_cases htwo : visible name = ['.', '.']
    · rw [pushName_of_visible_eq hdots htwo]
      decide
    · obtain ⟨more, hmore, heq⟩ :=
        pushName_of_visible_ne hdots (show ['/'].head? = some '/' from rfl) htwo
      rw [heq]
      rintro ⟨rest, hrest⟩
      have hcons : '/' :: rest = more := by simpa [slashed] using hrest
      exact hmore (hcons ▸ List.mem_cons_self)
  · have hslashed := h.slashed_dropEmptyEnd hroot
    by_cases htwo : visible name = ['.', '.']
    · rw [pushName_of_visible_eq hdots htwo, takeBack_slashed hhead, hslashed]
      cases hdrop : canDropSlash root with
      | false => simp [hroot]
      | true =>
        exact iff_of_false (h.not_prefix_takeBack hdrop) fun hiff => by simpa using hiff.2 htwo
    · obtain ⟨more, -, heq⟩ := pushName_of_visible_ne hdots hhead htwo
      rw [heq, hslashed]
      exact iff_of_true (List.prefix_append root more) ⟨hroot, fun h => absurd h htwo⟩

/-- Whether a target stays below a directory is decided by its first name. -/
theorem prefix_descend {first : List Char} {rest : List (List Char)} {target : List Char}
    (hnames : (target.dropWhile (· == '/')).splitOn '/' = first :: rest)
    (hfirst : root <+: pushName .special (dropEmptyEnd root) first) :
    root <+: descend .special root target := by
  have hhead := h.head?_eq
  rw [descend, hnames, List.foldl_cons]
  generalize pushName .special (dropEmptyEnd root) first = path at hfirst
  obtain ⟨before, rfl⟩ := h.exists_eq_concat
  exact prefix_foldl_pushName hhead rest hfirst

/-- A target without tabs and line breaks has its names written behind the directory. -/
theorem descend_eq (hne : root ≠ ['/', '/']) {names : List (List Char)} {target : List Char}
    (hlisted : Listed names) (hnames : (target.dropWhile (· == '/')).splitOn '/' = names)
    (hvisible : ∀ name ∈ names, visible name = name) :
    descend .special root target =
      root ++ ['/'].intercalate (names.map (encode specialSegmentSet)) := by
  obtain ⟨first, rest, rfl⟩ := List.exists_cons_of_ne_nil hlisted.ne_nil
  obtain ⟨hfirst, hrest⟩ := List.forall_mem_cons.mp hlisted.ne_dots
  obtain ⟨hself, hselves⟩ := List.forall_mem_cons.mp hvisible
  rw [descend, hnames, List.foldl_cons, pushName_of_visible hfirst hself,
    h.slashed_dropEmptyEnd hne, List.map_cons, Path.intercalate_cons]
  -- The first name stands behind the slash of the directory, each other one behind its own.
  rcases hlisted.eq_nil_or_ne_nil with rfl | hsome
  · simp
  · have hsegment : encode specialSegmentSet first ≠ [] := mt encode_eq_nil_iff.mp hsome
    have hlength : 1 < (root ++ encode specialSegmentSet first).length := by
      obtain ⟨before, rfl⟩ := h.exists_eq_concat
      have hpos := List.length_pos_of_ne_nil hsegment
      simp only [List.length_append, List.length_cons]
      omega
    rw [foldl_pushName_of_visible hrest hselves hlength, List.append_assoc]

end IsDirectory

/-- Encoded names have no slashes, and so they are found again where slashes part them. -/
theorem splitOn_intercalate_encode {names : List (List Char)} (h : names ≠ []) :
    (['/'].intercalate (names.map (encode specialSegmentSet))).splitOn '/' =
      names.map (encode specialSegmentSet) := by
  refine List.splitOn_intercalate '/' ?_ (by simpa using h)
  rw [List.forall_mem_map]
  exact fun name _ => slash_not_mem_encode name

end RemoteFiles.Url
