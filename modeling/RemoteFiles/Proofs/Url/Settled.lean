import RemoteFiles.Proofs.Text.Pieces
import RemoteFiles.Proofs.Url.Percent
import RemoteFiles.Url.Basic

/-!
# Settled paths

The path of a URL of the web is settled once it has been parsed: its segments are encoded, hold no
slashes, and are no dots (`isSettledPath_startPath`, by `addSegment_directory` for each segment).
Parsing it once more changes nothing (`extendPath_settled`), and so the URL as a directory has the
same path up to a last slash (`asDirectory_eq`).
-/

namespace RemoteFiles.Url

/-- A segment as it stands in a path of the web. -/
structure IsSettled (seg : List Char) : Prop where
  kept : ∀ c ∈ seg, IsKept pathSet c
  no_slash : ∀ c ∈ seg, SchemeKind.special.isSlash c = false
  not_dot : isSingleDot seg = false
  not_dots : isDoubleDot seg = false

/-- Segments behind a first slash, each with a slash behind it. -/
def directoryOf (segs : List (List Char)) : List Char := '/' :: segs.flatMap (· ++ ['/'])

/-- A path of settled segments, with or without a slash at its end. -/
def IsSettledPath (path : List Char) : Prop :=
  ∃ segs last, (∀ seg ∈ segs, IsSettled seg) ∧ IsSettled last ∧ path = directoryOf segs ++ last

theorem isSettled_nil : IsSettled [] :=
  ⟨by simp, by simp, by decide, by decide⟩

/-! ### What a segment does to a path of the web -/

/-- What two dots leave of a path: all before its last segment, or all up to its last slash if
that slash has to stay. -/
def takeBack (path : List Char) : List Char :=
  uptoLastSlash (if endsWithSlash path && canDropSlash path then path.dropLast else path)

section
variable {seg : List Char} (path : List Char) (slash : Bool)

theorem addSegment_of_dots (h : isDoubleDot seg = true) :
    addSegment .special path seg slash =
      if slash && !endsWithSlash (takeBack path) then takeBack path ++ ['/']
      else takeBack path := by
  simp [addSegment, h, shorten, takeBack]

theorem addSegment_of_dot (hdots : isDoubleDot seg = false) (h : isSingleDot seg = true) :
    addSegment .special path seg slash =
      if endsWithSlash path then path else path ++ ['/'] := by
  simp [addSegment, hdots, h]

theorem addSegment_of_name (hdots : isDoubleDot seg = false) (hdot : isSingleDot seg = false) :
    addSegment .special path seg slash = path ++ seg ++ if slash then ['/'] else [] := by
  simp [addSegment, hdots, hdot]

end

/-! ### Paths written as directories -/

theorem directoryOf_concat (segs : List (List Char)) (seg : List Char) :
    directoryOf (segs ++ [seg]) = directoryOf segs ++ seg ++ ['/'] := by
  simp [directoryOf]

@[simp] theorem endsWithSlash_concat (path : List Char) : endsWithSlash (path ++ ['/']) = true := by
  simp [endsWithSlash]

/-- A directory has its last slash behind its last segment, or is the root. -/
theorem directoryOf_eq_concat (segs : List (List Char)) :
    ∃ before, directoryOf segs = before ++ ['/'] := by
  rcases List.eq_nil_or_concat segs with rfl | ⟨segs, seg, rfl⟩
  · exact ⟨[], rfl⟩
  · rw [List.concat_eq_append, directoryOf_concat]
    exact ⟨_, rfl⟩

theorem endsWithSlash_directoryOf (segs : List (List Char)) :
    endsWithSlash (directoryOf segs) = true := by
  obtain ⟨before, h⟩ := directoryOf_eq_concat segs
  rw [h, endsWithSlash_concat]

theorem uptoLastSlash_append (path : List Char) {last : List Char} (h : '/' ∉ last) :
    uptoLastSlash (path ++ '/' :: last) = path ++ ['/'] := by
  have hlast : ∀ c ∈ last.reverse, (c != '/') = true := by
    intro c hc
    rw [bne_iff_ne]
    rintro rfl
    exact h (List.mem_reverse.mp hc)
  rw [uptoLastSlash, List.reverse_append, List.reverse_cons, List.append_assoc,
    List.dropWhile_append_of_pos hlast]
  simp

theorem uptoLastSlash_concat (path : List Char) : uptoLastSlash (path ++ ['/']) = path ++ ['/'] :=
  uptoLastSlash_append path List.not_mem_nil

theorem uptoLastSlash_directoryOf_append (segs : List (List Char)) {last : List Char}
    (h : '/' ∉ last) : uptoLastSlash (directoryOf segs ++ last) = directoryOf segs := by
  obtain ⟨before, heq⟩ := directoryOf_eq_concat segs
  rw [heq, List.append_assoc]
  exact uptoLastSlash_append before h

theorem IsSettled.slash_not_mem {seg : List Char} (h : IsSettled seg) : '/' ∉ seg :=
  fun hmem => absurd (h.no_slash '/' hmem) (by decide)

/-! ### Parsing settles a path -/

theorem takeBack_directoryOf {segs : List (List Char)} (hsegs : ∀ seg ∈ segs, IsSettled seg) :
    takeBack (directoryOf segs) =
      directoryOf (if canDropSlash (directoryOf segs) then segs.dropLast else segs) := by
  rw [takeBack, endsWithSlash_directoryOf, Bool.true_and]
  split
  · rename_i hdrop
    -- The slash of the root stays, so there is a segment to be taken back.
    have hne : segs ≠ [] := by
      rintro rfl
      exact absurd hdrop (by decide)
    obtain ⟨before, last, rfl⟩ := (List.eq_nil_or_concat segs).resolve_left hne
    have hlast : IsSettled last := hsegs last (by simp)
    rw [List.concat_eq_append, directoryOf_concat, List.dropLast_concat, List.dropLast_concat,
      uptoLastSlash_directoryOf_append before hlast.slash_not_mem]
  · have h := uptoLastSlash_directoryOf_append segs List.not_mem_nil
    rwa [List.append_nil] at h

/-- A segment that is read behind a directory leads to a directory again, or to an entry in one if
no slash follows. -/
theorem addSegment_directory {segs : List (List Char)} {seg : List Char}
    (hsegs : ∀ seg ∈ segs, IsSettled seg) (hkept : ∀ c ∈ seg, IsKept pathSet c)
    (hslash : ∀ c ∈ seg, SchemeKind.special.isSlash c = false) :
    (∃ after, (∀ seg ∈ after, IsSettled seg) ∧
      addSegment .special (directoryOf segs) seg true = directoryOf after) ∧
    IsSettledPath (addSegment .special (directoryOf segs) seg false) := by
  have hdirectory : ∀ after : List (List Char), (∀ seg ∈ after, IsSettled seg) →
      IsSettledPath (directoryOf after) :=
    fun after h => ⟨after, [], h, isSettled_nil, (List.append_nil _).symm⟩
  cases hdots : isDoubleDot seg with
  | true =>
    have hleft : ∀ seg ∈ (if canDropSlash (directoryOf segs) then segs.dropLast else segs),
        IsSettled seg := by
      split
      · exact fun seg hseg => hsegs seg (List.dropLast_subset segs hseg)
      · exact hsegs
    simp only [addSegment_of_dots _ _ hdots, takeBack_directoryOf hsegs, endsWithSlash_directoryOf,
      Bool.not_true, Bool.and_false, Bool.false_eq_true, if_false]
    exact ⟨⟨_, hleft, rfl⟩, hdirectory _ hleft⟩
  | false =>
    cases hdot : isSingleDot seg with
    | true =>
      simp only [addSegment_of_dot _ _ hdots hdot, endsWithSlash_directoryOf, if_true]
      exact ⟨⟨segs, hsegs, rfl⟩, hdirectory segs hsegs⟩
    | false =>
      have hseg : IsSettled seg := ⟨hkept, hslash, hdot, hdots⟩
      rw [addSegment_of_name _ _ hdots hdot, addSegment_of_name _ _ hdots hdot]
      refine ⟨⟨segs ++ [seg], ?_, (directoryOf_concat segs seg).symm⟩, segs, seg, hsegs, hseg, ?_⟩
      · exact List.forall_mem_append.mpr ⟨hsegs, by simpa using hseg⟩
      · exact List.append_nil _

theorem addSegments_directory {segs parts : List (List Char)} (hne : parts ≠ [])
    (hsegs : ∀ seg ∈ segs, IsSettled seg)
    (hparts : ∀ part ∈ parts, (∀ c ∈ part, IsKept pathSet c) ∧
      ∀ c ∈ part, SchemeKind.special.isSlash c = false) :
    IsSettledPath (addSegments .special (directoryOf segs) parts) := by
  induction parts generalizing segs with
  | nil => exact absurd rfl hne
  | cons part parts ih =>
    obtain ⟨⟨hkept, hslash⟩, hrest⟩ := List.forall_mem_cons.mp hparts
    obtain ⟨⟨after, hafter, heq⟩, hlast⟩ := addSegment_directory hsegs hkept hslash
    cases parts with
    | nil => exact hlast
    | cons next parts =>
      rw [addSegments, heq]
      · exact ih (List.cons_ne_nil next parts) hafter hrest
      · exact List.cons_ne_nil next parts

/-- What is read from a text is encoded and parted at all slashes. -/
theorem isSettledPath_extendPath (text : List Char) :
    IsSettledPath (extendPath .special ['/'] text) := by
  have hne : (text.splitOnP SchemeKind.special.isSlash).map (encode pathSet) ≠ [] := by simp
  have hroot : ∀ seg ∈ ([] : List (List Char)), IsSettled seg := by simp
  refine addSegments_directory hne hroot ?_
  rw [List.forall_mem_map]
  intro piece hpiece
  have hescapes : ∀ c ∈ escapes, IsKept pathSet c ∧ SchemeKind.special.isSlash c = false := by
    have hall : escapes.all fun c =>
        c.toNat < 0x80 && !pathSet c && !SchemeKind.special.isSlash c := by
      decide
    intro c hc
    simpa [IsKept] using List.all_eq_true.mp hall c hc
  constructor
  · intro c hc
    rcases mem_encode hc with ⟨-, hkept⟩ | hc
    · exact hkept
    · exact (hescapes c hc).1
  · intro c hc
    rcases mem_encode hc with ⟨hmem, -⟩ | hc
    · exact Text.eq_false_of_mem_piece hpiece c hmem
    · exact (hescapes c hc).2

theorem isSettledPath_startPath (text : List Char) :
    IsSettledPath (startPath .special true text) := by
  unfold startPath
  cases text with
  | nil => exact isSettledPath_extendPath []
  | cons c rest =>
    simp only [SchemeKind.isSpecial, Bool.true_and, if_true]
    split
    · exact isSettledPath_extendPath rest
    · exact isSettledPath_extendPath (c :: rest)

/-! ### Parsing a settled path once more -/

theorem addSegments_settled {segs : List (List Char)} (hsegs : ∀ seg ∈ segs, IsSettled seg)
    (path : List Char) :
    addSegments .special path (segs ++ [[]]) = path ++ segs.flatMap (· ++ ['/']) := by
  induction segs generalizing path with
  | nil =>
    rw [List.nil_append, addSegments,
      addSegment_of_name _ _ isSettled_nil.not_dots isSettled_nil.not_dot]
    simp
  | cons seg segs ih =>
    obtain ⟨hseg, hrest⟩ := List.forall_mem_cons.mp hsegs
    rw [List.cons_append, addSegments, addSegment_of_name _ _ hseg.not_dots hseg.not_dot, ih hrest,
      List.flatMap_cons]
    · simp
    · simp

theorem extendPath_settled {segs : List (List Char)} (hsegs : ∀ seg ∈ segs, IsSettled seg) :
    extendPath .special ['/'] (segs.flatMap (· ++ ['/'])) = directoryOf segs := by
  have hencoded : (segs ++ [[]]).map (encode pathSet) = segs ++ [[]] := by
    rw [List.map_append, List.map_congr_left fun seg hseg => encode_eq_self (hsegs seg hseg).kept,
      List.map_id']
    rfl
  rw [extendPath, Text.splitOnP_behind (by decide) fun seg hseg => (hsegs seg hseg).no_slash,
    hencoded, addSegments_settled hsegs]
  rfl

/-- Behind a first slash, a path is parsed in the same way whether there is a host or not. -/
theorem startPath_cons_slash (hasHost : Bool) (rest : List Char) :
    startPath .special hasHost ('/' :: rest) = extendPath .special ['/'] rest := by
  cases hasHost with
  | true => rfl
  | false =>
    -- The piece before the slash is empty: it adds the slash to the empty path.
    obtain ⟨piece, pieces, hpieces⟩ :=
      List.exists_cons_of_ne_nil (List.splitOnP_ne_nil SchemeKind.special.isSlash rest)
    have hsplit : ('/' :: rest).splitOnP SchemeKind.special.isSlash = [] :: piece :: pieces := by
      rw [List.splitOnP_cons_eq_if_modifyHead, hpieces]
      rfl
    unfold startPath extendPath
    rw [hpieces]
    simp only [SchemeKind.isSpecial, Bool.false_and, Bool.false_eq_true, if_true, if_false, hsplit]
    rfl

/-- A settled path with a slash at its end is parsed to itself. -/
theorem startPath_settled {path : List Char} (h : IsSettledPath path) (hasHost : Bool) :
    startPath .special hasHost (path ++ ['/']) = path ++ ['/'] := by
  obtain ⟨segs, last, hsegs, hlast, rfl⟩ := h
  have hall : ∀ seg ∈ segs ++ [last], IsSettled seg :=
    List.forall_mem_append.mpr ⟨hsegs, by simpa using hlast⟩
  rw [← directoryOf_concat, directoryOf, startPath_cons_slash, extendPath_settled hall]
  rfl

/-! ### URLs of the web -/

theorem kindOf_web {scheme : String} (h : scheme = "http" ∨ scheme = "https") :
    kindOf scheme = .special := by
  rcases h with rfl | rfl <;> decide

/-- A computation that goes on after a step has gone through that step. -/
theorem exists_of_bind_eq_ok {α β ε : Type} {x : Except ε α} {f : α → Except ε β} {b : β}
    (h : x >>= f = .ok b) : ∃ a, x = .ok a ∧ f a = .ok b := by
  cases x with
  | error e => cases h
  | ok a => exact ⟨a, rfl, h⟩

theorem parseFile_scheme {cs : List Char} {u : Url} (h : parseFile cs = .ok u) :
    u.scheme = "file" := by
  unfold parseFile at h
  simp only at h
  split at h
  · split at h
    · split at h
      · cases h
        rfl
      · obtain ⟨name, -, h⟩ := exists_of_bind_eq_ok h
        split at h
        · cases h
          rfl
        · cases h
          split <;> rfl
    · cases h
      rfl
  · cases h
    rfl

/-- A parsed URL of the web was read behind the slashes that follow its scheme. -/
theorem exists_parseAfterSlashes {text : String} {u : Url} (h : Url.parse text = .ok u)
    (hkind : u.kind = .special) :
    ∃ scheme cs, kindOf scheme = .special ∧ parseAfterSlashes scheme cs = .ok u := by
  have hafter : ∀ {scheme : String} {cs : List Char}, parseAfterSlashes scheme cs = .ok u →
      ∃ scheme cs, kindOf scheme = .special ∧ parseAfterSlashes scheme cs = .ok u := by
    intro scheme cs h
    obtain ⟨authority, -, hrest⟩ := exists_of_bind_eq_ok h
    cases hrest
    exact ⟨scheme, cs, hkind, h⟩
  unfold Url.parse at h
  split at h
  · cases h
  · split at h
    · rw [Url.kind, parseFile_scheme h] at hkind
      exact absurd hkind (by decide)
    · exact hafter h
    · rename_i hother
      split at h
      · exact hafter h
      · cases h
        exact absurd (hother.symm.trans hkind) (by decide)
      · cases h
        exact absurd (hother.symm.trans hkind) (by decide)

theorem parseAfterSlashes_eq_ok {scheme : String} {cs : List Char} {u : Url}
    (h : parseAfterSlashes scheme cs = .ok u) :
    ∃ text authority rest, parseAuthority scheme text = .ok authority ∧
      u = withRest scheme (some authority) (startPath (kindOf scheme) true) rest := by
  obtain ⟨authority, hauthority, h⟩ := exists_of_bind_eq_ok h
  cases h
  exact ⟨_, authority, _, hauthority, rfl⟩

/-- A parsed URL of the web has an authority and a path that was read behind it. -/
theorem exists_of_parse {text : String} {u : Url} (h : Url.parse text = .ok u)
    (hkind : u.kind = .special) :
    u.authority.isSome ∧ ∃ pathText, u.path = startPath .special true pathText := by
  obtain ⟨scheme, cs, hscheme, hafter⟩ := exists_parseAfterSlashes h hkind
  obtain ⟨_, authority, rest, -, rfl⟩ := parseAfterSlashes_eq_ok hafter
  exact ⟨rfl, (splitPath rest).1, by rw [← hscheme]; rfl⟩

/-- The path of a URL with a slash at its end. -/
def directoryPath (u : Url) : List Char :=
  if endsWithSlash u.path then u.path else u.path ++ ['/']

/-- A settled path with a slash at its end is a directory of settled segments. -/
theorem exists_directoryPath {u : Url} (h : IsSettledPath u.path) :
    ∃ segs, (∀ seg ∈ segs, IsSettled seg) ∧ u.directoryPath = directoryOf segs := by
  obtain ⟨segs, last, hsegs, hlast, hpath⟩ := h
  unfold directoryPath
  rw [hpath]
  split
  · rename_i hends
    -- There is no slash in the last segment, so it is the empty one.
    have hnil : last = [] := by
      by_contra hne
      rw [endsWithSlash, List.getLast?_append_of_ne_nil _ hne, beq_iff_eq] at hends
      exact hlast.slash_not_mem (List.mem_of_getLast? hends)
    exact ⟨segs, hsegs, by rw [hnil, List.append_nil]⟩
  · exact ⟨segs ++ [last], List.forall_mem_append.mpr ⟨hsegs, by simpa using hlast⟩,
      (directoryOf_concat segs last).symm⟩

section
variable {text : String} {u : Url} (h : Url.parse text = .ok u) (hkind : u.kind = .special)
include h hkind

theorem isSettledPath_of_parse : IsSettledPath u.path := by
  obtain ⟨-, pathText, hpath⟩ := exists_of_parse h hkind
  rw [hpath]
  exact isSettledPath_startPath pathText

theorem hasSegments_of_parse : u.hasSegments = true := by
  rw [hasSegments, (exists_of_parse h hkind).1, Bool.true_or]

/-- As a directory, a URL of the web gets the slash it may lack, and nothing else changes. -/
theorem asDirectory_eq : u.asDirectory = { u with path := u.directoryPath } := by
  unfold asDirectory directoryPath
  split
  · rfl
  · unfold withPath
    rw [if_pos (hasSegments_of_parse h hkind), hkind,
      startPath_settled (isSettledPath_of_parse h hkind)]

end

end RemoteFiles.Url
