import RemoteFiles.Proofs.Url.Descent
import RemoteFiles.Proofs.Url.Hosts

/-!
# The characters of URLs

Each part of a parsed URL of the web is written with characters of its own (`IsWritten`,
`isWritten_of_parse`).  What its path and its query encode does not stand in them, a host is a name
without the marks of other parts or an address in brackets, and user information ends with its `@`.
A target below the URL changes its path alone, and that keeps its characters
(`IsWritten.withDescent`).
-/

namespace RemoteFiles.Url

/-! ### Encoded texts -/

theorem isKept_of_mem_encode {set : EncodeSet} (hescapes : escapes.all (!set ·) = true)
    {cs : List Char} {c : Char} (h : c ∈ encode set cs) : IsKept set c := by
  rcases mem_encode h with ⟨-, hkept⟩ | hescape
  · exact hkept
  · have hascii : escapes.all (·.toNat < 0x80) = true := by decide
    refine ⟨?_, ?_⟩
    · simpa using List.all_eq_true.mp hascii c hescape
    · simpa using List.all_eq_true.mp hescapes c hescape

/-! ### Paths -/

theorem mem_uptoLastSlash {path : List Char} {c : Char} (h : c ∈ uptoLastSlash path) :
    c ∈ path := by
  have hmem := (List.dropWhile_suffix (· != '/')).subset (List.mem_reverse.mp h)
  exact List.mem_reverse.mp hmem

theorem mem_takeBack {path : List Char} {c : Char} (h : c ∈ takeBack path) : c ∈ path := by
  have hmem := mem_uptoLastSlash h
  split at hmem
  · exact List.dropLast_subset path hmem
  · exact hmem

/-- A segment brings no more than its own characters and slashes. -/
theorem mem_addSegment {path seg : List Char} {slash : Bool} {c : Char}
    (h : c ∈ addSegment .special path seg slash) : c ∈ path ∨ c ∈ seg ∨ c = '/' := by
  have hbehind : ∀ {before : List Char}, c ∈ before ++ ['/'] → c ∈ before ∨ c = '/' := by
    intro before h
    rwa [List.mem_append, List.mem_singleton] at h
  cases hdots : isDoubleDot seg with
  | true =>
    rw [addSegment_of_dots _ _ hdots] at h
    split at h
    · exact (hbehind h).imp mem_takeBack .inr
    · exact .inl (mem_takeBack h)
  | false =>
    cases hdot : isSingleDot seg with
    | true =>
      rw [addSegment_of_dot _ _ hdots hdot] at h
      split at h
      · exact .inl h
      · exact (hbehind h).imp_right .inr
    | false =>
      rw [addSegment_of_name _ _ hdots hdot] at h
      rcases List.mem_append.mp h with h | h
      · exact (List.mem_append.mp h).imp_right .inl
      · split at h
        · exact .inr (.inr (List.mem_singleton.mp h))
        · cases h

theorem mem_slashed {path : List Char} {c : Char} (h : c ∈ slashed path) :
    c ∈ path ∨ c = '/' := by
  unfold slashed at h
  split at h
  · exact .inl h
  · rwa [List.mem_append, List.mem_singleton] at h

theorem isKept_of_mem_encode_segment {name : List Char} {c : Char}
    (h : c ∈ encode specialSegmentSet name) : IsKept pathSet c := by
  rcases mem_encode h with ⟨-, hascii, hset⟩ | hescape
  · refine ⟨hascii, ?_⟩
    simp only [specialSegmentSet, segmentSet, Bool.or_eq_false_iff] at hset
    exact hset.1.1
  · have hall : escapes.all (fun c => c.toNat < 0x80 && !pathSet c) = true := by decide
    simpa [IsKept] using List.all_eq_true.mp hall c hescape

theorem isKept_slash : IsKept pathSet '/' := ⟨by decide, rfl⟩

/-- One name keeps a path within the characters of paths. -/
theorem isKept_of_mem_pushName {path name : List Char} (hpath : ∀ c ∈ path, IsKept pathSet c)
    {c : Char} (h : c ∈ pushName .special path name) : IsKept pathSet c := by
  by_cases hdots : name ≠ ['.'] ∧ name ≠ ['.', '.']
  · rw [pushName_eq hdots] at h
    rcases mem_addSegment h with h | h | rfl
    · rcases mem_slashed h with h | rfl
      · exact hpath c h
      · exact isKept_slash
    · exact isKept_of_mem_encode_segment h
    · exact isKept_slash
  · rw [pushName, if_pos (by tauto)] at h
    exact hpath c h

theorem mem_dropEmptyEnd {path : List Char} {c : Char} (h : c ∈ dropEmptyEnd path) : c ∈ path := by
  unfold dropEmptyEnd at h
  split at h
  · exact List.dropLast_subset path h
  · exact h

theorem isKept_of_mem_descend {path target : List Char} (hpath : ∀ c ∈ path, IsKept pathSet c)
    {c : Char} (h : c ∈ descend .special path target) : IsKept pathSet c := by
  have hnames : ∀ (names : List (List Char)) (path : List Char), (∀ c ∈ path, IsKept pathSet c) →
      ∀ c ∈ names.foldl (pushName .special) path, IsKept pathSet c := by
    intro names
    induction names with
    | nil => exact fun path hpath => hpath
    | cons name names ih => exact fun path hpath => ih _ fun c => isKept_of_mem_pushName hpath
  exact hnames _ _ (fun c hc => hpath c (mem_dropEmptyEnd hc)) c h

theorem isKept_of_mem_directoryPath {u : Url} (h : ∀ c ∈ u.path, IsKept pathSet c) :
    ∀ c ∈ u.directoryPath, IsKept pathSet c := by
  unfold directoryPath
  split
  · exact h
  · exact List.forall_mem_append.mpr ⟨h, List.forall_mem_singleton.mpr isKept_slash⟩

theorem IsSettledPath.isKept {path : List Char} (h : IsSettledPath path) :
    ∀ c ∈ path, IsKept pathSet c := by
  obtain ⟨segs, last, hsegs, hlast, rfl⟩ := h
  intro c hc
  rcases List.mem_append.mp hc with hc | hc
  · rcases List.mem_cons.mp hc with rfl | hc
    · exact isKept_slash
    · obtain ⟨seg, hseg, hc⟩ := List.mem_flatMap.mp hc
      rcases List.mem_append.mp hc with hc | hc
      · exact (hsegs seg hseg).kept c hc
      · rw [List.mem_singleton.mp hc]
        exact isKept_slash
  · exact hlast.kept c hc

theorem IsDirectory.head?_descend {root : List Char} (h : IsDirectory root) (target : List Char) :
    (descend .special root target).head? = some '/' := by
  have hroot : [] ++ ['/'] <+: dropEmptyEnd root := by
    obtain ⟨rest, hrest⟩ := List.head?_eq_some_iff.mp h.head?_dropEmptyEnd
    exact ⟨rest, hrest.symm⟩
  exact head?_of_prefix (prefix_foldl_pushName rfl _ hroot) rfl

/-! ### User information -/

/-- User information as it is written: nothing, or a name and maybe a password up to an `@`. -/
inductive IsWrittenUserInfo : List Char → Prop
  | nil : IsWrittenUserInfo []
  | given {cs : List Char} (kept : ∀ c ∈ cs, c = ':' ∨ IsKept userInfoSet c)
    (colons : cs.count ':' ≤ 1) : IsWrittenUserInfo (cs ++ ['@'])

theorem isWrittenUserInfo_render (cs : List Char) :
    IsWrittenUserInfo (renderUserInfo cs).toList := by
  have hkept : ∀ {ds : List Char}, ∀ c ∈ encode userInfoSet ds, IsKept userInfoSet c :=
    fun c => isKept_of_mem_encode (by decide)
  have hcount : ∀ ds : List Char, (encode userInfoSet ds).count ':' = 0 := fun ds =>
    List.count_eq_zero.mpr fun h => absurd (hkept ':' h).2 (by decide)
  unfold renderUserInfo
  dsimp only
  split
  · exact .nil
  · split
    · rw [String.toList_ofList]
      exact .given (fun c hc => .inr (hkept c hc)) (by rw [hcount]; exact Nat.zero_le 1)
    · rw [String.toList_ofList]
      refine .given (fun c hc => ?_) ?_
      · rcases List.mem_append.mp hc with hc | hc
        · exact .inr (hkept c hc)
        · exact (List.mem_cons.mp hc).imp_right (hkept c)
      · rw [List.count_append, List.count_cons_self, hcount, hcount]

/-! ### URLs -/

/-- An authority of the web as it is written. -/
structure IsWrittenAuthority (a : Authority) : Prop where
  userInfo : IsWrittenUserInfo a.userInfo.toList
  host : IsWrittenHost a.host.toList

/-- A URL of the web as it is written. -/
structure IsWritten (u : Url) : Prop where
  special : u.kind = .special
  authority : ∃ a, u.authority = some a ∧ IsWrittenAuthority a
  head : u.path.head? = some '/'
  path : ∀ c ∈ u.path, IsKept pathSet c
  query : ∀ q ∈ u.query, ∀ c ∈ q.toList, IsKept specialQuerySet c

theorem isWrittenAuthority_of_parse {scheme : String} {cs : List Char} {a : Authority}
    (hkind : kindOf scheme = .special) (h : parseAuthority scheme cs = .ok a) :
    IsWrittenAuthority a := by
  unfold parseAuthority at h
  simp only [hkind] at h
  split_ifs at h
  obtain ⟨host, hhost, h⟩ := exists_of_bind_eq_ok h
  split_ifs at h
  obtain ⟨port, -, h⟩ := exists_of_bind_eq_ok h
  rw [← Except.ok.inj h]
  refine ⟨?_, isWrittenHost_of_parseHost hhost⟩
  dsimp only
  split
  · exact isWrittenUserInfo_render _
  · exact .nil

theorem isKept_of_parseEnd {cs : List Char} :
    ∀ q ∈ (parseEnd .special cs).1, ∀ c ∈ q.toList, IsKept specialQuerySet c := by
  intro q hq c hc
  unfold parseEnd at hq
  dsimp only at hq
  split at hq
  · rw [← Option.some.inj hq, String.toList_ofList] at hc
    exact isKept_of_mem_encode (by decide) hc
  · cases hq

theorem IsSettledPath.head? {path : List Char} (h : IsSettledPath path) :
    path.head? = some '/' := by
  obtain ⟨segs, last, -, -, rfl⟩ := h
  rfl

/-- What is parsed is written with the characters of its parts. -/
theorem isWritten_of_parse {text : String} {u : Url} (h : Url.parse text = .ok u)
    (hkind : u.kind = .special) : IsWritten u := by
  have hsettled := isSettledPath_of_parse h hkind
  obtain ⟨scheme, cs, hscheme, hafter⟩ := exists_parseAfterSlashes h hkind
  obtain ⟨_, authority, rest, hauthority, hu⟩ := parseAfterSlashes_eq_ok hafter
  refine ⟨hkind, ⟨authority, by rw [hu]; rfl, isWrittenAuthority_of_parse hscheme hauthority⟩,
    hsettled.head?, hsettled.isKept, ?_⟩
  have hquery : u.query = (parseEnd .special (splitPath rest).2).1 := by
    rw [hu, ← hscheme]
    rfl
  rw [hquery]
  exact isKept_of_parseEnd

namespace IsWritten

variable {u : Url} (h : IsWritten u)
include h

theorem hasHost : u.hasHost = true := by
  obtain ⟨a, ha, hwritten⟩ := h.authority
  have hne : a.host ≠ "" := fun hempty => hwritten.host.ne_nil (by rw [hempty]; rfl)
  rw [Url.hasHost, ha]
  exact bne_iff_ne.mpr hne

/-- The URL of a target below a directory is written in the same way. -/
theorem withDescent {root : List Char} (hroot : IsDirectory root)
    (hkept : ∀ c ∈ root, IsKept pathSet c) (target : List Char) :
    IsWritten { u with path := descend .special root target } :=
  ⟨h.special, h.authority, hroot.head?_descend target, fun _ => isKept_of_mem_descend hkept,
    h.query⟩

end IsWritten

end RemoteFiles.Url
