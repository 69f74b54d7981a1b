import RemoteFiles.Http.Uri
import RemoteFiles.Proofs.Url.Characters

/-!
# Which URLs are URIs

A URL of the web is a URI unless it is too long or its host has a character that no URI has
(`isUri_render_iff`), since the other parts are written with fewer characters than URIs allow there.
The scan of an authority is followed part by part: it is back at its start behind user information
(`foldlM_userInfo`), done behind a host (`exists_foldlM_host`), and still done behind a port.

What is requested is the URL without the user name and the password in it, and that has the same
host (`isUri_requested_iff`).
-/

namespace RemoteFiles

namespace Url

/-- A character that a host may have and a URI may not. -/
def isHostOnly (c : Char) : Bool := ['"', '\x60', '\x7b', '\x7d'].contains c

/-- The host is written with the characters of URIs. -/
def hasUriHost (u : Url) : Bool := u.authority.all fun a => a.host.toList.all (!isHostOnly ·)

@[simp] theorem requested_path (u : Url) : u.requested.path = u.path := by
  unfold requested
  split <;> rfl

@[simp] theorem requested_query (u : Url) : u.requested.query = u.query := by
  unfold requested
  split <;> rfl

theorem hasUriHost_requested (u : Url) : u.requested.hasUriHost = u.hasUriHost := by
  unfold requested
  split
  · rw [hasUriHost, hasUriHost, Option.all_map]
  · rfl

end Url

namespace Http

open Url (IsKept IsWritten IsWrittenAuthority IsWrittenHost IsWrittenUserInfo isHostOnly of_isDigit
  of_kept of_name)

/-! ### The parts of a URL in its text -/

/-- A part behind its mark, if it is there. -/
def marked (mark : Char) : Option String → List Char
  | none => []
  | some text => mark :: text.toList

/-- What is written behind the two slashes before an authority. -/
def authorityText (a : Authority) : List Char :=
  a.userInfo.toList ++ (a.host.toList ++ marked ':' (a.port.map toString))

theorem toList_renderAuthority (a : Authority) :
    (Url.renderAuthority a).toList = '/' :: '/' :: authorityText a := by
  obtain ⟨userInfo, host, port⟩ := a
  cases port <;> simp [Url.renderAuthority, authorityText, marked]

theorem toList_render {u : Url} {a : Authority} (ha : u.authority = some a) :
    u.render.toList = u.scheme.toList ++ ':' :: '/' :: '/' :: (authorityText a ++
      (u.path ++ (marked '?' u.query ++ marked '#' u.fragment))) := by
  obtain ⟨scheme, authority, path, query, fragment⟩ := u
  dsimp only at ha
  subst ha
  cases query <;> cases fragment <;>
    simp [Url.render, Url.renderRequest, toList_renderAuthority, marked]

/-! ### The scan of an authority -/

namespace AuthorityScan

/-- A character that the scan takes no note of. -/
def isPlain (c : Char) : Bool := isUriChar c && !([':', '[', ']', '@'].contains c)

theorem step_colon {s : AuthorityScan} (h : s.colons < colonLimit) :
    s.step ':' = some { s with colons := s.colons + 1 } := if_pos h

theorem step_percent (s : AuthorityScan) : s.step '%' = some { s with percent := true } := rfl

theorem step_plain (s : AuthorityScan) {c : Char} (hc : isPlain c = true) : s.step c = some s := by
  have hother : isUriChar c = true ∧ c ≠ ':' ∧ c ≠ '[' ∧ c ≠ ']' ∧ c ≠ '@' := by
    simpa [isPlain] using hc
  obtain ⟨huri, hcolon, hopen, hclose, hat⟩ := hother
  have hpercent : c ≠ '%' := by
    rintro rfl
    exact absurd huri (by decide)
  rw [step, if_neg hcolon, if_neg hopen, if_neg hclose, if_neg hat, if_neg hpercent, if_pos huri]

theorem foldlM_plain {cs : List Char} (hcs : ∀ c ∈ cs, isPlain c = true) (s : AuthorityScan) :
    cs.foldlM step s = some s := by
  induction cs with
  | nil => rfl
  | cons c cs ih =>
    obtain ⟨hc, hrest⟩ := List.forall_mem_cons.mp hcs
    rw [List.foldlM_cons, step_plain s hc]
    exact ih hrest

/-- Without brackets and `@`, a text changes no more than what is counted. -/
theorem foldlM_counted {cs : List Char} (hcs : ∀ c ∈ cs, c = ':' ∨ c = '%' ∨ isPlain c = true)
    {s : AuthorityScan} (hcolons : s.colons + cs.count ':' ≤ colonLimit) :
    ∃ colons percent, cs.foldlM step s = some { s with colons := colons, percent := percent } := by
  induction cs generalizing s with
  | nil => exact ⟨s.colons, s.percent, rfl⟩
  | cons c cs ih =>
    obtain ⟨hc, hrest⟩ := List.forall_mem_cons.mp hcs
    rw [List.foldlM_cons]
    rcases hc with rfl | rfl | hc
    · rw [List.count_cons_self] at hcolons
      rw [step_colon (by omega)]
      refine ih hrest (s := { s with colons := s.colons + 1 }) ?_
      show s.colons + 1 + cs.count ':' ≤ colonLimit
      omega
    · rw [step_percent]
      exact ih hrest (s := { s with percent := true })
        ((Nat.add_le_add_left List.count_le_count_cons _).trans hcolons)
    · rw [step_plain s hc]
      exact ih hrest ((Nat.add_le_add_left List.count_le_count_cons _).trans hcolons)

/-- A character that stops the scan stops it wherever it stands. -/
theorem foldlM_eq_none {cs : List Char} {c : Char} (hc : c ∈ cs) (hstop : ∀ s, step s c = none)
    (s : AuthorityScan) : cs.foldlM step s = none := by
  obtain ⟨front, back, rfl⟩ := List.append_of_mem hc
  rw [List.foldlM_append]
  cases front.foldlM step s with
  | none => rfl
  | some s =>
    rw [Option.bind_eq_bind, Option.bind_some, List.foldlM_cons, hstop s]
    rfl

theorem step_hostOnly {c : Char} (hc : isHostOnly c = true) (s : AuthorityScan) :
    s.step c = none := by
  rw [isHostOnly, List.contains_iff_mem] at hc
  simp only [List.mem_cons, List.not_mem_nil, or_false] at hc
  rcases hc with rfl | rfl | rfl | rfl <;> rfl

/-- Behind user information all is forgotten. -/
theorem foldlM_userInfo {cs : List Char} (h : IsWrittenUserInfo cs) :
    cs.foldlM step start = some start := by
  cases h with
  | nil => rfl
  | @given cs kept colons =>
    have hcounted : ∀ c ∈ cs, c = ':' ∨ c = '%' ∨ isPlain c = true := by
      intro c hc
      rcases kept c hc with rfl | hc
      · exact .inl rfl
      · exact .inr (of_kept (P := fun c => c = '%' ∨ isPlain c = true) (by decide) hc)
    obtain ⟨_, _, hscan⟩ := foldlM_counted hcounted (s := start)
      ((Nat.zero_add _).trans_le (colons.trans (by decide)))
    rw [List.foldlM_append, hscan]
    rfl

/-- Behind a host with the characters of URIs the scan is done. -/
theorem exists_foldlM_host {cs : List Char} (h : IsWrittenHost cs)
    (huri : cs.all (!isHostOnly ·) = true) :
    ∃ s, cs.foldlM step start = some s ∧ s.colons = 0 ∧ s.isDone = true := by
  cases h with
  | name ne_nil ascii free =>
    have hplain := of_name (P := fun c => (!isHostOnly c) = true → isPlain c = true) (by decide)
      ascii free
    exact ⟨start, foldlM_plain (fun c hc => hplain c hc (List.all_eq_true.mp huri c hc)) start, rfl,
      rfl⟩
  | @address6 inner digits colons =>
    have hcounted : ∀ c ∈ inner, c = ':' ∨ c = '%' ∨ isPlain c = true := by
      intro c hc
      have hplain : Text.Hex.lowerDigits.all isPlain = true := by decide
      exact (digits c hc).imp_right fun hc => .inr (List.all_eq_true.mp hplain c hc)
    obtain ⟨_, _, hscan⟩ := foldlM_counted hcounted (s := ⟨0, false, true, false⟩)
      ((Nat.zero_add _).trans_le colons)
    refine ⟨⟨0, false, true, true⟩, ?_, rfl, rfl⟩
    have hopen : start.step '[' = some ⟨0, false, true, false⟩ := rfl
    rw [List.foldlM_cons, hopen, Option.bind_eq_bind, Option.bind_some, List.foldlM_append, hscan]
    rfl

theorem isDigit_of_mem_port {n : Nat} {c : Char} (h : c ∈ (toString n).toList) :
    c.isDigit = true :=
  Text.isDigit_of_mem_toDigits (by simpa using h)

/-- A port leaves the scan done. -/
theorem exists_foldlM_port (port : Option Nat) {s : AuthorityScan} (hcolons : s.colons = 0)
    (hdone : s.isDone = true) :
    ∃ t, (marked ':' (port.map toString)).foldlM step s = some t ∧ t.isDone = true := by
  cases port with
  | none => exact ⟨s, rfl, hdone⟩
  | some n =>
    have hplain : ∀ c ∈ (toString n).toList, isPlain c = true := by
      intro c hc
      exact of_isDigit (P := fun c => isPlain c = true) (by decide) (isDigit_of_mem_port hc)
    -- its colon is the only one: those before it are forgotten
    obtain ⟨colons, percent, opened, closed⟩ := s
    dsimp only at hcolons
    subst hcolons
    refine ⟨⟨1, percent, opened, closed⟩, ?_, hdone⟩
    rw [Option.map_some, marked, List.foldlM_cons, step_colon (show 0 < colonLimit by decide)]
    exact foldlM_plain hplain _

end AuthorityScan

/-! ### Authorities -/

/-- A character that stands in hosts and ports. -/
def isPlaceChar (c : Char) : Bool := !isAuthorityEnd c && c != '@'

theorem isPlaceChar_of_host {cs : List Char} (h : IsWrittenHost cs) :
    ∀ c ∈ cs, isPlaceChar c = true := by
  cases h with
  | name ne_nil ascii free =>
    exact of_name (P := fun c => isPlaceChar c = true) (by decide) ascii free
  | address6 digits colons =>
    intro c hc
    have hdigits : Text.Hex.lowerDigits.all isPlaceChar = true := by decide
    rcases List.mem_cons.mp hc with rfl | hc
    · rfl
    · rcases List.mem_append.mp hc with hc | hc
      · rcases digits c hc with rfl | hc
        · rfl
        · exact List.all_eq_true.mp hdigits c hc
      · rw [List.mem_singleton.mp hc]
        rfl

theorem isPlaceChar_of_port {port : Option Nat} :
    ∀ c ∈ marked ':' (port.map toString), isPlaceChar c = true := by
  intro c hc
  cases port with
  | none => cases hc
  | some n =>
    rcases List.mem_cons.mp hc with rfl | hc
    · rfl
    · exact of_isDigit (P := fun c => isPlaceChar c = true) (by decide)
        (AuthorityScan.isDigit_of_mem_port hc)

theorem not_isAuthorityEnd_of_userInfo {cs : List Char} (h : IsWrittenUserInfo cs) :
    ∀ c ∈ cs, (!isAuthorityEnd c) = true := by
  intro c hc
  cases h with
  | nil => cases hc
  | given kept colons =>
    rcases List.mem_append.mp hc with hc | hc
    · rcases kept c hc with rfl | hc
      · rfl
      · exact of_kept (P := fun c => (!isAuthorityEnd c) = true) (by decide) hc
    · rw [List.mem_singleton.mp hc]
      rfl

section
variable {a : Authority} (h : IsWrittenAuthority a)
include h

theorem isPlaceChar_of_place :
    ∀ c ∈ a.host.toList ++ marked ':' (a.port.map toString), isPlaceChar c = true :=
  List.forall_mem_append.mpr ⟨isPlaceChar_of_host h.host, isPlaceChar_of_port⟩

theorem not_isAuthorityEnd : ∀ c ∈ authorityText a, (!isAuthorityEnd c) = true := by
  refine List.forall_mem_append.mpr ⟨not_isAuthorityEnd_of_userInfo h.userInfo, fun c hc => ?_⟩
  exact (Bool.and_eq_true_iff.mp (isPlaceChar_of_place h c hc)).1

/-- An authority is that of a URI if all characters of its host are. -/
theorem isAuthority_iff :
    isAuthority (authorityText a) = true ↔ a.host.toList.all (!isHostOnly ·) = true := by
  constructor
  · intro hauthority
    rw [List.all_eq_true]
    intro c hc
    -- a character that no URI has would have stopped the scan
    by_contra hnot
    have hstop : isHostOnly c = true := by simpa using hnot
    have hmem : c ∈ authorityText a :=
      List.mem_append_right _ (List.mem_append_left _ hc)
    rw [isAuthority, AuthorityScan.foldlM_eq_none hmem (AuthorityScan.step_hostOnly hstop),
      Option.any_none, Bool.and_false] at hauthority
    cases hauthority
  · intro hhost
    have hne : a.host.toList ++ marked ':' (a.port.map toString) ≠ [] :=
      List.append_ne_nil_of_left_ne_nil h.host.ne_nil _
    have hlast : (authorityText a).getLast? ≠ some '@' := by
      rw [authorityText, List.getLast?_append_of_ne_nil _ hne]
      intro hlast
      exact absurd (isPlaceChar_of_place h '@' (List.mem_of_getLast? hlast)) (by decide)
    obtain ⟨s, hscan, hcolons, hdone⟩ := AuthorityScan.exists_foldlM_host h.host hhost
    obtain ⟨t, hport, hdone⟩ := AuthorityScan.exists_foldlM_port a.port hcolons hdone
    have hfold : (authorityText a).foldlM AuthorityScan.step .start = some t := by
      rw [authorityText, List.foldlM_append, AuthorityScan.foldlM_userInfo h.userInfo,
        Option.bind_eq_bind, Option.bind_some, List.foldlM_append, hscan]
      exact hport
    have htext : authorityText a ≠ [] := List.append_ne_nil_of_right_ne_nil _ hne
    rw [isAuthority, hfold, Option.any_some, hdone, Bool.and_true, Bool.and_eq_true]
    exact ⟨bne_iff_ne.mpr htext, bne_iff_ne.mpr hlast⟩

end

/-! ### Whole URLs -/

/-- What follows the slashes is taken apart where the path and where its end begin. -/
theorem isUriRest_eq {authority path marks : List Char}
    (hauthority : ∀ c ∈ authority, (!isAuthorityEnd c) = true) (hhead : path.head? = some '/')
    (hpath : ∀ c ∈ path, (!isPathEnd c) = true)
    (hmarks : ∀ c ∈ marks.head?, (!isPathEnd c) = false) :
    isUriRest (authority ++ (path ++ marks)) =
      (isAuthority authority && path.all isUriPathChar &&
        ((marks.takeWhile (· != '#')).drop 1).all isUriQueryChar) := by
  have hslash : ∀ c ∈ (path ++ marks).head?, (!isAuthorityEnd c) = false := by
    intro c hc
    rw [List.head?_append, hhead, Option.some_or] at hc
    rw [← Option.some.inj hc]
    rfl
  obtain ⟨htake, hdrop⟩ := Text.takeWhile_append_stop hauthority hslash
  obtain ⟨hbefore, hbehind⟩ := Text.takeWhile_append_stop hpath hmarks
  rw [isUriRest, htake, hdrop, hbefore, hbehind]

theorem isUri_eq {text : String} {scheme rest : List Char}
    (htext : text.toList = scheme ++ ':' :: '/' :: '/' :: rest)
    (hscheme : ∀ c ∈ scheme, (c != ':') = true) :
    isUri text = (decide (text.utf8ByteSize ≤ uriLimit) && isUriRest rest) := by
  have hcolon : ∀ c ∈ (':' :: '/' :: '/' :: rest).head?, (c != ':') = false := by
    intro c hc
    rw [← Option.some.inj hc]
    rfl
  rw [isUri, htext, (Text.takeWhile_append_stop hscheme hcolon).2]
  rfl

theorem isUriPathChar_of_kept {c : Char} (h : IsKept Url.pathSet c) :
    (!isPathEnd c) = true ∧ isUriPathChar c = true :=
  of_kept (P := fun c => (!isPathEnd c) = true ∧ isUriPathChar c = true) (by decide) h

theorem isUriQueryChar_of_kept {c : Char} (h : IsKept Url.specialQuerySet c) :
    (c != '#') = true ∧ isUriQueryChar c = true :=
  of_kept (P := fun c => (c != '#') = true ∧ isUriQueryChar c = true) (by decide) h

theorem isPathEnd_of_marked (query fragment : Option String) :
    ∀ c ∈ (marked '?' query ++ marked '#' fragment).head?, (!isPathEnd c) = false := by
  intro c hc
  cases query with
  | some q =>
    rw [← Option.some.inj hc]
    rfl
  | none =>
    cases fragment with
    | some f =>
      rw [← Option.some.inj hc]
      rfl
    | none => cases hc

/-- What is read between the marks of a query and of a fragment can be in a URI. -/
theorem all_isUriQueryChar {query : Option String} (fragment : Option String)
    (h : ∀ q ∈ query, ∀ c ∈ q.toList, IsKept Url.specialQuerySet c) :
    ((((marked '?' query ++ marked '#' fragment).takeWhile (· != '#')).drop 1).all
      isUriQueryChar) = true := by
  have hfragment : ∀ c ∈ (marked '#' fragment).head?, (c != '#') = false := by
    intro c hc
    cases fragment with
    | none => cases hc
    | some f =>
      rw [← Option.some.inj hc]
      rfl
  cases query with
  | none => cases fragment <;> rfl
  | some q =>
    have hquery : ∀ c ∈ '?' :: q.toList, (c != '#') = true :=
      List.forall_mem_cons.mpr ⟨rfl, fun c hc => (isUriQueryChar_of_kept (h q rfl c hc)).1⟩
    rw [marked, (Text.takeWhile_append_stop hquery hfragment).1, List.all_eq_true]
    exact fun c hc => (isUriQueryChar_of_kept (h q rfl c hc)).2

section
variable {u : Url} (h : IsWritten u)
include h

theorem scheme_ne_colon : ∀ c ∈ u.scheme.toList, (c != ':') = true := by
  have hkind := h.special
  unfold Url.kind Url.kindOf at hkind
  split at hkind
  · cases hkind
  · split at hkind
    · rename_i hmem
      rw [List.contains_iff_mem] at hmem
      have hall : ["http", "https", "ws", "wss", "ftp"].all (·.toList.all (· != ':')) = true := by
        decide
      exact List.all_eq_true.mp (List.all_eq_true.mp hall _ hmem)
    · cases hkind

/-- A URL is a URI if it is no longer than one and has a host of one. -/
theorem isUri_render_iff :
    isUri u.render = true ↔ u.hasUriHost = true ∧ u.render.utf8ByteSize ≤ uriLimit := by
  obtain ⟨a, ha, hwritten⟩ := h.authority
  have hpath : u.path.all isUriPathChar = true :=
    List.all_eq_true.mpr fun c hc => (isUriPathChar_of_kept (h.path c hc)).2
  have hhost : u.hasUriHost = a.host.toList.all (!isHostOnly ·) := by
    rw [Url.hasUriHost, ha, Option.all_some]
  rw [isUri_eq (toList_render ha) (scheme_ne_colon h),
    isUriRest_eq (not_isAuthorityEnd hwritten) h.head
      (fun c hc => (isUriPathChar_of_kept (h.path c hc)).1) (isPathEnd_of_marked _ _),
    hpath, all_isUriQueryChar _ h.query, Bool.and_true, Bool.and_true, Bool.and_eq_true,
    decide_eq_true_eq, isAuthority_iff hwritten, hhost, and_comm]

/-! ### What is requested -/

/-- What is left without a user name and a password is written as before. -/
theorem isWritten_requested : IsWritten u.requested := by
  unfold Url.requested
  split
  · obtain ⟨a, ha, hwritten⟩ := h.authority
    exact ⟨h.special, ⟨{ a with userInfo := "" }, by rw [ha]; rfl, ⟨.nil, hwritten.host⟩⟩, h.head,
      h.path, h.query⟩
  · exact h

end

/-- A URL that can be requested: its host has no characters but those of URIs, and without user
name and password it is no longer than a URI. -/
def IsRequestable (u : Url) : Prop :=
  u.hasUriHost = true ∧ u.requested.render.utf8ByteSize ≤ uriLimit

theorem isUri_requested_iff {u : Url} (h : IsWritten u) :
    isUri u.requested.render = true ↔ IsRequestable u := by
  rw [isUri_render_iff (isWritten_requested h), Url.hasUriHost_requested, IsRequestable]

end Http

end RemoteFiles
