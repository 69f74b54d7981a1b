import RemoteFiles.Service.Memory
import Mathlib.Tactic.SplitIfs

/-!
# The files of a store

A store is seen through the content that it has for each path.  The lemmas here say what an
accepted request does to that, for every path (`file?_of_write`, `file?_of_delete`), and what any
request does whose answer is known (`file?_of_accepted`, `file?_of_refused`).  Nothing is assumed
about the order of the files or about the directories that they are in.
-/

namespace RemoteFiles.Store

variable {s s' : Store} {path target : String} {token : Option String} {body : Payload}

/-! ### Lists of files -/

theorem lookup_cons_eq_ite (path target : String) (data : ByteArray)
    (files : List (String × ByteArray)) :
    ((target, data) :: files).lookup path =
      if path = target then some data else files.lookup path := by
  rw [List.lookup_cons]
  by_cases h : path = target
  · rw [if_pos h, beq_iff_eq.mpr h]
  · rw [if_neg h, beq_false_of_ne h]

theorem lookup_insertBy (path target : String) (data : ByteArray)
    (files : List (String × ByteArray)) :
    (insertBy (·.1) (target, data) files).lookup path =
      if path = target then some data else files.lookup path := by
  induction files with
  | nil => exact lookup_cons_eq_ite path target data []
  | cons file files ih =>
    obtain ⟨other, content⟩ := file
    rw [insertBy]
    by_cases hsame : other = target
    · -- the old content of the target is replaced
      rw [if_pos hsame, lookup_cons_eq_ite, lookup_cons_eq_ite, hsame]
      split_ifs <;> rfl
    rw [if_neg hsame]
    split_ifs with hbefore htarget htarget
    · rw [lookup_cons_eq_ite, if_pos htarget]
    · rw [lookup_cons_eq_ite, if_neg htarget]
    · rw [lookup_cons_eq_ite, ih, if_pos htarget, if_neg (fun h => hsame (h.symm.trans htarget))]
    · rw [lookup_cons_eq_ite, ih, if_neg htarget, lookup_cons_eq_ite]

theorem lookup_filter (keep : String → Bool) (path : String) (files : List (String × ByteArray)) :
    (files.filter fun file => keep file.1).lookup path =
      if keep path then files.lookup path else none := by
  induction files with
  | nil => split_ifs <;> rfl
  | cons file files ih =>
    obtain ⟨other, content⟩ := file
    rw [List.filter_cons, lookup_cons_eq_ite]
    by_cases hsame : path = other
    · subst hsame
      rw [if_pos (rfl : path = path)]
      split_ifs with hkeep
      · rw [lookup_cons_eq_ite, if_pos rfl]
      · rw [ih, if_neg hkeep]
    · rw [if_neg hsame, ← ih]
      split_ifs with hkeep
      · rw [lookup_cons_eq_ite, if_neg hsame]
      · rfl

/-! ### Requests -/

theorem receive_files (s : Store) (verb : Verb) (target : String) (token : Option String) :
    (s.receive verb target token).2.files = s.files := by
  unfold receive
  dsimp only
  split <;> rfl

/-- A request that is accepted is carried out on the files that were there. -/
theorem carryOut_of_submit {r : Request} (h : s.submit r token = (.ok body, s')) :
    ∃ s₀ : Store, s₀.files = s.files ∧ s₀.carryOut r = (.ok body, s') := by
  have hfiles := s.receive_files r.verb r.target token
  rw [submit] at h
  generalize s.receive r.verb r.target token = received at h hfiles
  obtain ⟨⟨refusal⟩ | ⟨⟩, s₀⟩ := received
  · cases h
  · exact ⟨s₀, hfiles, h⟩

theorem file?_of_read (h : s.submit (.read target) token = (.ok body, s')) (path : String) :
    s'.file? path = s.file? path := by
  obtain ⟨s₀, hfiles, hread⟩ := carryOut_of_submit h
  obtain ⟨-, rfl⟩ := Prod.mk.inj hread
  rw [file?, hfiles, file?]

/-- Reading a file gives its content. -/
theorem data_of_read {data : ByteArray} (h : s.submit (.read target) token = (.ok body, s'))
    (hdata : s.file? target = some data) : body.data = data := by
  obtain ⟨s₀, hfiles, hread⟩ := carryOut_of_submit h
  have hcontent : s₀.contentOf target = .ok body := (Prod.mk.inj hread).1
  have hdata' : s₀.file? target = some data := by rw [file?, hfiles, ← file?, hdata]
  rw [contentOf, hdata'] at hcontent
  rw [← Except.ok.inj hcontent]

/-- Writing a content changes the target alone. -/
theorem file?_of_write {content : Payload}
    (h : s.submit (.write target (some content)) token = (.ok body, s')) (path : String) :
    s'.file? path = if path = target then some content.data else s.file? path := by
  obtain ⟨s₀, hfiles, hwrite⟩ := carryOut_of_submit h
  rw [carryOut, store] at hwrite
  dsimp only at hwrite
  split_ifs at hwrite
  · obtain ⟨-, rfl⟩ := Prod.mk.inj hwrite
    rw [file?, setFile, lookup_insertBy, hfiles, file?]
  · cases hwrite

/-- What a delete of the target takes away: a file alone, or all that is in a directory. -/
def takes (s : Store) (target path : String) : Bool :=
  if (s.file? target).isSome then path == target else isBelow (directoryKey target) path

theorem takes_congr (h : s'.file? target = s.file? target) (path : String) :
    s'.takes target path = s.takes target path := by
  rw [takes, h, takes]

theorem file?_of_delete (h : s.submit (.delete target) token = (.ok body, s')) (path : String) :
    s'.file? path = if s.takes target path then none else s.file? path := by
  obtain ⟨s₀, hfiles, hdelete⟩ := carryOut_of_submit h
  have hfile : ∀ path, s₀.file? path = s.file? path := fun path => by rw [file?, hfiles, file?]
  rw [carryOut, remove, hfile] at hdelete
  rw [takes]
  cases hdata : s.file? target with
  | some data =>
    rw [hdata] at hdelete
    obtain ⟨-, rfl⟩ := Prod.mk.inj hdelete
    rw [file?, lookup_filter (· != target), hfiles, ← file?]
    by_cases hsame : path = target <;> simp [hsame]
  | none =>
    rw [hdata] at hdelete
    dsimp only at hdelete
    split_ifs at hdelete
    · obtain ⟨-, rfl⟩ := Prod.mk.inj hdelete
      rw [file?, lookup_filter (!isBelow (directoryKey target) ·), hfiles, ← file?]
      cases isBelow (directoryKey target) path <;> rfl
    · cases hdelete

/-! ### Any request -/

/-- The content that a request stores at a path if it is accepted. -/
def stored? (path : String) : Request → Option ByteArray
  | .write target (some content) => if path = target then some content.data else none
  | .write target none =>
    if path = target ∧ target.toList.getLast? ≠ some '/' then some .empty else none
  | .update target content => if path = target then some content.data else none
  | .read _ | .delete _ => none

theorem file?_of_makeDirectory (h : s.submit (.write target none) token = (.ok body, s'))
    (path : String) :
    s'.file? path = (stored? path (.write target none)).or (s.file? path) := by
  obtain ⟨s₀, hfiles, hwrite⟩ := carryOut_of_submit h
  have hfile : s₀.file? path = s.file? path := by rw [file?, hfiles, file?]
  rw [carryOut, store] at hwrite
  dsimp only at hwrite
  split_ifs at hwrite with hparent hslash
  · -- a directory is made, and no file
    obtain ⟨-, rfl⟩ := Prod.mk.inj hwrite
    rw [stored?, if_neg (fun hpath => hpath.2 hslash), Option.none_or]
    exact hfile
  · obtain ⟨-, rfl⟩ := Prod.mk.inj hwrite
    rw [file?, setFile, lookup_insertBy, ← file?, hfile, stored?]
    by_cases hpath : path = target
    · rw [if_pos hpath, if_pos ⟨hpath, hslash⟩, Option.some_or]
    · rw [if_neg hpath, if_neg (fun h => hpath h.1), Option.none_or]
  · cases hwrite

theorem file?_of_update {content : Payload}
    (h : s.submit (.update target content) token = (.ok body, s')) (path : String) :
    s'.file? path = if path = target then some content.data else s.file? path := by
  obtain ⟨s₀, hfiles, hupdate⟩ := carryOut_of_submit h
  rw [carryOut, replace] at hupdate
  cases hdata : s₀.file? target with
  | some data =>
    rw [hdata] at hupdate
    obtain ⟨-, rfl⟩ := Prod.mk.inj hupdate
    rw [file?, setFile, lookup_insertBy, hfiles, file?]
  | none =>
    rw [hdata] at hupdate
    cases hupdate

/-- A file that is there after an accepted request was stored by it, or was there before. -/
theorem file?_of_accepted {r : Request} {data : ByteArray}
    (h : s.submit r token = (.ok body, s')) (hdata : s'.file? path = some data) :
    (stored? path r).or (s.file? path) = some data := by
  cases r with
  | read target => rw [stored?, Option.none_or, ← file?_of_read h, hdata]
  | write target content =>
    cases content with
    | none => rw [← file?_of_makeDirectory h, hdata]
    | some content =>
      rw [file?_of_write h] at hdata
      rw [stored?, ← hdata]
      split_ifs <;> rfl
  | update target content =>
    rw [file?_of_update h] at hdata
    rw [stored?, ← hdata]
    split_ifs <;> rfl
  | delete target =>
    rw [file?_of_delete h] at hdata
    rw [stored?, Option.none_or]
    split_ifs at hdata
    exact hdata

/-- A request that is admitted but not carried out leaves the store as it is. -/
theorem eq_of_carryOut_error {r : Request} {refusal : Refusal}
    (h : s.carryOut r = (.error refusal, s')) : s' = s := by
  cases r with
  | read target => exact (Prod.mk.inj h).2.symm
  | write target content =>
    simp only [carryOut, store] at h
    split at h
    · cases h
    · exact (Prod.mk.inj h).2.symm
  | update target content =>
    simp only [carryOut, replace] at h
    split at h
    · cases h
    · exact (Prod.mk.inj h).2.symm
  | delete target =>
    simp only [carryOut, remove] at h
    split at h
    · cases h
    · split at h
      · cases h
      · exact (Prod.mk.inj h).2.symm

/-- A request that is refused changes no file. -/
theorem file?_of_refused {r : Request} {refusal : Refusal}
    (h : s.submit r token = (.error refusal, s')) (path : String) :
    s'.file? path = s.file? path := by
  have hfiles := s.receive_files r.verb r.target token
  rw [submit] at h
  generalize s.receive r.verb r.target token = received at h hfiles
  obtain ⟨⟨refusal'⟩ | ⟨⟩, s₀⟩ := received
  · obtain ⟨-, rfl⟩ := Prod.mk.inj h
    rw [file?, hfiles, file?]
  · rw [eq_of_carryOut_error h, file?, hfiles, file?]

/-- A probe changes no file. -/
theorem file?_of_probe (s : Store) (token : Option String) (path : String) :
    (s.probe token).2.file? path = s.file? path := by
  have hfiles := s.receive_files .read "/" token
  rw [probe]
  generalize s.receive .read "/" token = received at hfiles ⊢
  obtain ⟨⟨refusal⟩ | ⟨⟩, s₀⟩ := received
  · rw [file?, hfiles, file?]
  · dsimp only
    split <;> rw [file?, hfiles, file?]

end RemoteFiles.Store
