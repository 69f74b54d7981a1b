import RemoteFiles.Http.Service
import RemoteFiles.Proofs.Url.Descent

/-!
# Requests below the root of a service

For a service whose root is a URL of the web, the URL of every target is the root's with another
path (`url?_eq`).

* `requestUri_reads_back`: a target without tabs and line breaks is written behind the root's path,
  name by name, and is read off its request URI again; so no two such targets are requested alike.
* `stays_below_iff`: whether targets stay below the root is decided by their first name.  One that
  is two dots as soon as tabs and line breaks are dropped takes the last segment of the root back;
  and a root whose path is one empty segment loses it.
-/

namespace RemoteFiles.Http

open RemoteFiles.Path (IsTarget Listed behindSlashes names)
open Url (IsDirectory bytes decode decode_encode encode isIgnored specialSegmentSet visible)

/-! ### Roots -/

theorem isDirectory_directoryPath {u : Url} (h : Url.IsSettledPath u.path) :
    IsDirectory u.directoryPath := by
  obtain ⟨segs, -, heq⟩ := Url.exists_directoryPath h
  rw [heq]
  rcases List.eq_nil_or_concat segs with rfl | ⟨before, last, rfl⟩
  · exact .root
  · rw [List.concat_eq_append, Url.directoryOf_concat]
    exact .below _

/-- A slash at its end makes no empty segment of a path. -/
theorem directoryPath_eq_iff {u : Url} : u.directoryPath = ['/', '/'] ↔ u.path = ['/', '/'] := by
  unfold Url.directoryPath
  split
  · rfl
  · -- The slash was added, so the path is neither the root nor ends in an empty segment.
    rename_i hends
    refine iff_of_false ?_ ?_
    · intro heq
      have hroot : u.path ++ ['/'] = ['/'] ++ ['/'] := heq
      have hpath : u.path = ['/'] := List.append_cancel_right hroot
      exact hends (by rw [hpath]; rfl)
    · intro heq
      exact hends (by rw [heq]; rfl)

section
variable {text : String} {u : Url} {e : Endpoint} (hparse : Url.parse text = .ok u)
  (hweb : u.scheme = "http" ∨ u.scheme = "https") (hroot : e.root = u.asDirectory)
include hparse hweb hroot

/-- The URL of a target differs from the root only in its path. -/
theorem url?_eq (target : String) :
    e.url? target = some { u with path := Url.descend .special u.directoryPath target.toList } := by
  have hkind : u.kind = .special := Url.kindOf_web hweb
  have hdirectory : e.root = { u with path := u.directoryPath } :=
    hroot.trans (Url.asDirectory_eq hparse hkind)
  have hsegments : e.root.hasSegments = true := by
    rw [hdirectory, Url.hasSegments, (Url.exists_of_parse hparse hkind).1, Bool.true_or]
  rw [Endpoint.url?, Url.below?, if_pos hsegments, hdirectory]
  show some { u with path := Url.descend u.kind u.directoryPath target.toList } = _
  rw [hkind]

theorem requestUri_eq (target : String) :
    e.requestUri target =
      String.ofList (Url.descend .special u.directoryPath target.toList) := by
  rw [Endpoint.requestUri, url?_eq hparse hweb hroot]

end

/-! ### Targets read off their request URIs -/

/-- The text has no tabs and no line breaks. -/
def IsUnbroken (target : String) : Prop := ∀ c ∈ target.toList, isIgnored c = false

/-- The target that the end of a request URI is read as: each segment is decoded, and there is a
slash before it. -/
def readTarget? (ending : List Char) : Option String :=
  Text.decodeUtf8?
    ((ending.splitOn '/').flatMap fun segment => bytes ['/'] ++ decode segment).toByteArray

theorem decodeUtf8?_bytes (target : String) :
    Text.decodeUtf8? (bytes target.toList).toByteArray = some target := by
  rw [← Url.toUTF8_eq]
  exact dif_pos target.isValidUTF8

theorem visible_of_isUnbroken {target : String} (htarget : IsTarget target)
    (h : IsUnbroken target) : ∀ name ∈ names target, visible name = name := by
  intro name hname
  refine Url.visible_eq_self fun c hc => h c ?_
  rw [htarget.toList_eq, behindSlashes, List.mem_flatMap]
  exact ⟨name, hname, List.mem_cons_of_mem '/' hc⟩

/-- Encoded names are read as the target that they are the names of. -/
theorem readTarget?_encode {target : String} (h : IsTarget target) :
    readTarget? (['/'].intercalate ((names target).map (encode specialSegmentSet))) =
      some target := by
  have hbytes : ∀ ns : List (List Char),
      ((ns.map (encode specialSegmentSet)).flatMap fun segment => bytes ['/'] ++ decode segment) =
        bytes (behindSlashes ns) := by
    intro ns
    induction ns with
    | nil => rfl
    | cons name ns ih =>
      rw [List.map_cons, List.flatMap_cons, ih, decode_encode rfl, Path.behindSlashes_cons]
      simp
  rw [readTarget?, Url.splitOn_intercalate_encode h.listed.ne_nil, hbytes, ← h.toList_eq,
    decodeUtf8?_bytes]

section
variable {text : String} {u : Url} {e : Endpoint} (hparse : Url.parse text = .ok u)
  (hweb : u.scheme = "http" ∨ u.scheme = "https") (hroot : e.root = u.asDirectory)
include hparse hweb hroot

/-- A target without tabs and line breaks is requested by the root's path, with its slash, and the
names of the target encoded one by one; and this is read as the target again.  So different targets
are requested by different URIs.  Query and fragment are always the root's.

All this needs of the root is that its path is not one empty segment: empty segments elsewhere do
no harm. -/
theorem requestUri_reads_back (hpath : u.path ≠ ['/', '/']) :
    (∀ target, IsTarget target → IsUnbroken target →
      e.requestUri target = String.ofList (u.directoryPath ++
        ['/'].intercalate ((names target).map (encode specialSegmentSet))) ∧
      readTarget? ((e.requestUri target).toList.drop u.directoryPath.length) = some target) ∧
    (∀ target other, IsTarget target → IsUnbroken target → IsTarget other → IsUnbroken other →
      e.requestUri target = e.requestUri other → target = other) ∧
    ∀ target, ∃ v, e.url? target = some v ∧ v.query = u.query ∧ v.fragment = u.fragment := by
  have hdirectory :=
    isDirectory_directoryPath (Url.isSettledPath_of_parse hparse (Url.kindOf_web hweb))
  have hne : u.directoryPath ≠ ['/', '/'] := mt directoryPath_eq_iff.mp hpath
  have hwritten : ∀ target, IsTarget target → IsUnbroken target →
      e.requestUri target = String.ofList (u.directoryPath ++
        ['/'].intercalate ((names target).map (encode specialSegmentSet))) := by
    intro target htarget hunbroken
    rw [requestUri_eq hparse hweb hroot, hdirectory.descend_eq hne htarget.listed
      htarget.dropWhile_slash (visible_of_isUnbroken htarget hunbroken)]
  have hread : ∀ target, IsTarget target → IsUnbroken target →
      readTarget? ((e.requestUri target).toList.drop u.directoryPath.length) = some target := by
    intro target htarget hunbroken
    rw [hwritten target htarget hunbroken, String.toList_ofList, List.drop_left,
      readTarget?_encode htarget]
  refine ⟨fun target h hu => ⟨hwritten target h hu, hread target h hu⟩, ?_, ?_⟩
  · intro target other htarget htargetUnbroken hother hotherUnbroken heq
    have hsame := hread target htarget htargetUnbroken
    rw [heq, hread other hother hotherUnbroken] at hsame
    exact (Option.some_inj.mp hsame).symm
  · exact fun target => ⟨_, url?_eq hparse hweb hroot target, rfl, rfl⟩

end

/-- A root with a port, a query and a fragment. -/
def sharedRoot : Url := ⟨"http", some ⟨"", "[::1]", some 8080⟩, "/a%20b".toList, some "q", some "f"⟩

/-- The service there. -/
def sharedEndpoint : Endpoint := ⟨sharedRoot.asDirectory, "", 0⟩

theorem parse_sharedRoot : Url.parse "http://[::1]:8080/a b?q#f" = .ok sharedRoot := by rfl

/-- Reserved characters, a name that looks encoded and one that is not ASCII are read back. -/
theorem requestUri_reads_back_of_reserved :
    Url.parse "http://[::1]:8080/a b?q#f" = .ok sharedRoot ∧
      sharedEndpoint.root = sharedRoot.asDirectory ∧ sharedRoot.path ≠ ['/', '/'] ∧
      sharedEndpoint.requestUri (Path.join "/100%" "?#/%41/é/") =
        "/a%20b/100%25/%3F%23/%2541/%C3%A9/" ∧
      readTarget? ((sharedEndpoint.requestUri (Path.join "/100%" "?#/%41/é/")).toList.drop 7) =
        some "/100%/?#/%41/é/" := by
  have hpath : sharedRoot.path ≠ ['/', '/'] := by decide
  obtain ⟨hall, -⟩ :=
    requestUri_reads_back (e := sharedEndpoint) parse_sharedRoot (.inl rfl) rfl hpath
  have hunbroken : IsUnbroken (Path.join "/100%" "?#/%41/é/") := by
    have hall : (Path.join "/100%" "?#/%41/é/").toList.all (!isIgnored ·) := by decide
    intro c hc
    simpa using List.all_eq_true.mp hall c hc
  obtain ⟨huri, hread⟩ := hall _ (.entry "/100%" "?#/%41/é/") hunbroken
  have htarget : Path.join "/100%" "?#/%41/é/" = "/100%/?#/%41/é/" := by decide
  have hroot : sharedRoot.directoryPath = "/a%20b/".toList := by decide
  refine ⟨parse_sharedRoot, rfl, hpath, ?_, ?_⟩
  · rw [huri]
    decide
  · rw [hroot, htarget] at hread
    rw [htarget]
    exact hread

/-! ### Leaving the root -/

/-- The URL of a target is at the root's authority and below its path. -/
def StaysBelow (e : Endpoint) (u : Url) (target : String) : Prop :=
  ∃ v, e.url? target = some v ∧ v.scheme = u.scheme ∧ v.authority = u.authority ∧
    u.directoryPath <+: v.path

/-- The first name of a target is two dots once tabs and line breaks are dropped.  It is not two
dots before, for no name of a target is. -/
def HidesDots (target : String) : Prop :=
  ∃ name, (names target).head? = some name ∧ visible name = ['.', '.']

section
variable {text : String} {u : Url} {e : Endpoint} (hparse : Url.parse text = .ok u)
  (hweb : u.scheme = "http" ∨ u.scheme = "https") (hroot : e.root = u.asDirectory)
include hparse hweb hroot

theorem staysBelow_iff (target : String) :
    StaysBelow e u target ↔
      u.directoryPath <+: Url.descend .special u.directoryPath target.toList := by
  constructor
  · rintro ⟨v, hv, -, -, hprefix⟩
    rw [url?_eq hparse hweb hroot, Option.some_inj] at hv
    rwa [← hv] at hprefix
  · exact fun hprefix => ⟨_, url?_eq hparse hweb hroot target, rfl, rfl, hprefix⟩

/-- No request leaves the scheme, the host and the port of the root.  The targets with a certain
first name all stay below its path as well exactly if that path is not one empty segment, and the
name hides no dots or the last slash of the path has to stay in spite of dots, as that of the root
of the host has to and that behind a drive letter. -/
theorem stays_below_iff {target : String} (htarget : IsTarget target) :
    (∀ other, ∃ v, e.url? other = some v ∧ v.scheme = u.scheme ∧ v.authority = u.authority) ∧
    ((∀ other, IsTarget other → (names other).head? = (names target).head? →
        StaysBelow e u other) ↔
      u.path ≠ ['/', '/'] ∧
        (HidesDots target → Url.canDropSlash u.directoryPath = false)) := by
  have hdirectory :=
    isDirectory_directoryPath (Url.isSettledPath_of_parse hparse (Url.kindOf_web hweb))
  obtain ⟨first, rest, hnames⟩ := List.exists_cons_of_ne_nil htarget.listed.ne_nil
  have hlisted : Listed (first :: rest) := hnames ▸ htarget.listed
  have hfirst := hdirectory.prefix_pushName_iff (hlisted.ne_dots first List.mem_cons_self)
  have hhides : HidesDots target ↔ visible first = ['.', '.'] := by
    simp [HidesDots, hnames]
  refine ⟨fun other => ⟨_, url?_eq hparse hweb hroot other, rfl, rfl⟩, ?_⟩
  have hpath : u.directoryPath ≠ ['/', '/'] ↔ u.path ≠ ['/', '/'] := not_congr directoryPath_eq_iff
  rw [hhides, ← hpath, ← hfirst]
  constructor
  · -- The entry of that name in the root is one of the targets.
    intro hall
    have htext : (String.ofList ('/' :: first)).toList = behindSlashes [first] := by simp
    have hentry := hlisted.first.names_eq htext
    have htargetEntry : IsTarget (String.ofList ('/' :: first)) :=
      Path.isTarget_iff.mpr ⟨[first], hlisted.first, htext⟩
    have hbelow := hall _ htargetEntry (by rw [hentry, hnames]; rfl)
    rw [staysBelow_iff hparse hweb hroot, Url.descend, htargetEntry.dropWhile_slash,
      hentry] at hbelow
    exact hbelow
  · intro hprefix other hother hhead
    obtain ⟨others, hothers⟩ : ∃ others, names other = first :: others := by
      rw [hnames, List.head?_cons, List.head?_eq_some_iff] at hhead
      exact hhead
    rw [staysBelow_iff hparse hweb hroot]
    exact hdirectory.prefix_descend (hother.dropWhile_slash.trans hothers) hprefix

end

/-- A name with tabs and line breaks stays below the root as long as these hide no dots. -/
theorem stays_below_iff_of_tab :
    IsTarget (Path.join "/" "a\tb/..\n/c") ∧ ¬ HidesDots (Path.join "/" "a\tb/..\n/c") ∧
      StaysBelow sharedEndpoint sharedRoot (Path.join "/" "a\tb/..\n/c") := by
  have htarget : IsTarget (Path.join "/" "a\tb/..\n/c") := .entry "/" "a\tb/..\n/c"
  have hnames : (names (Path.join "/" "a\tb/..\n/c")).head? = some ['a', '\t', 'b'] := by decide
  have hhides : ¬ HidesDots (Path.join "/" "a\tb/..\n/c") := by
    rintro ⟨name, hname, hdots⟩
    rw [hnames, Option.some_inj] at hname
    rw [← hname] at hdots
    exact absurd hdots (by decide)
  obtain ⟨-, hiff⟩ := stays_below_iff (e := sharedEndpoint) parse_sharedRoot (.inl rfl) rfl htarget
  exact ⟨htarget, hhides, hiff.mpr ⟨by decide, fun h => absurd h hhides⟩ _ htarget rfl⟩

/-- A tab behind two dots leads out of the root. -/
theorem stays_below_not :
    ¬ ∀ (text : String) (u : Url) (e : Endpoint) (target : String),
      Url.parse text = .ok u → u.scheme = "http" ∨ u.scheme = "https" →
      e.root = u.asDirectory → IsTarget target → StaysBelow e u target := by
  intro hall
  obtain ⟨v, hv, -, -, hprefix⟩ := hall _ _ sharedEndpoint (Path.join "/" "..\t/x")
    parse_sharedRoot (.inl rfl) rfl (.entry "/" "..\t/x")
  have hpath : (sharedEndpoint.url? (Path.join "/" "..\t/x")).map (·.path) = some "/x".toList := by
    decide
  rw [hv, Option.map_some, Option.some_inj] at hpath
  rw [hpath] at hprefix
  exact absurd hprefix (by decide)

end RemoteFiles.Http
