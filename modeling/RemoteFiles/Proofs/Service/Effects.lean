import RemoteFiles.Proofs.Client.Recording
import RemoteFiles.Proofs.Service.Files

/-!
# What requests do to a store

The files and the directories of a store are its tree; the rest of it only says which calls came
and which will fail.  A request that is accepted does to the tree what carrying it out does
(`tree_of_accepted`), and one that is refused does nothing to it (`tree_of_refused`), whichever
the reason is.

A store is open (`IsOpen`) if nothing but its tree decides about a request.  It stays so, and what
it accepts is said here for the requests that read, write and delete a file.
-/

namespace RemoteFiles

namespace Store

/-- The files and the directories. -/
def tree (s : Store) : List (String × ByteArray) × List String := (s.files, s.directories)

/-- The store once requests were carried out in order. -/
def carryOutAll (s : Store) (rs : List Request) : Store :=
  rs.foldl (fun s r => (s.carryOut r).2) s

variable {s s' : Store} {r : Request} {token : Option String}

theorem file?_of_tree_eq (h : s.tree = s'.tree) (path : String) : s.file? path = s'.file? path :=
  congrArg (List.lookup path) (Prod.mk.inj h).1

theorem receive_tree (s : Store) (verb : Verb) (target : String) (token : Option String) :
    (s.receive verb target token).2.tree = s.tree := by
  unfold receive
  dsimp only
  split <;> rfl

/-- What is carried out on a tree does not hang on the rest of the store. -/
theorem carryOut_tree_congr (h : s.tree = s'.tree) (r : Request) :
    (s.carryOut r).2.tree = (s'.carryOut r).2.tree := by
  obtain ⟨hfiles, hdirectories⟩ := Prod.mk.inj h
  have hfile := file?_of_tree_eq h
  cases r with
  | read target => exact h
  | write target content =>
    simp only [carryOut, store, hdirectories]
    split
    · cases content with
      | none =>
        dsimp only
        split
        · simp only [tree, addDirectory, hfiles, hdirectories]
        · simp only [tree, setFile, hfiles, hdirectories]
      | some content => simp only [tree, setFile, hfiles, hdirectories]
    · exact h
  | update target content =>
    simp only [carryOut, replace, hfile]
    split
    · simp only [tree, setFile, hfiles, hdirectories]
    · exact h
  | delete target =>
    simp only [carryOut, remove, hfile, hdirectories]
    split
    · simp only [tree, hfiles]
    · split
      · simp only [tree, hfiles]
      · exact h

theorem carryOutAll_tree_congr (h : s.tree = s'.tree) (rs : List Request) :
    (s.carryOutAll rs).tree = (s'.carryOutAll rs).tree := by
  induction rs generalizing s s' with
  | nil => exact h
  | cons r rs ih => exact ih (carryOut_tree_congr h r)

theorem tree_of_accepted {body : Payload} (h : s.submit r token = (.ok body, s')) :
    s'.tree = (s.carryOut r).2.tree := by
  have htree := s.receive_tree r.verb r.target token
  rw [submit] at h
  generalize s.receive r.verb r.target token = received at h htree
  obtain ⟨⟨refusal⟩ | ⟨⟩, s₀⟩ := received
  · cases h
  · rw [← carryOut_tree_congr htree r]
    exact congrArg (fun out => out.2.tree) h.symm

/-- A request that is refused changes no file and no directory. -/
theorem tree_of_refused {refusal : Refusal} (h : s.submit r token = (.error refusal, s')) :
    s'.tree = s.tree := by
  have htree := s.receive_tree r.verb r.target token
  rw [submit] at h
  generalize s.receive r.verb r.target token = received at h htree
  obtain ⟨⟨refusal'⟩ | ⟨⟩, s₀⟩ := received
  · obtain ⟨-, rfl⟩ := Prod.mk.inj h
    exact htree
  · rw [eq_of_carryOut_error h]
    exact htree

/-- A probe changes no file and no directory. -/
theorem tree_of_probe (s : Store) (token : Option String) : (s.probe token).2.tree = s.tree := by
  have htree := s.receive_tree .read "/" token
  rw [probe]
  generalize s.receive .read "/" token = received at htree ⊢
  obtain ⟨⟨refusal⟩ | ⟨⟩, s₀⟩ := received
  · exact htree
  · dsimp only
    split <;> exact htree

/-- A request that makes no directory, and deletes files alone, leaves the directories as they
are. -/
theorem directories_of_accepted {body : Payload} (h : s.submit r token = (.ok body, s'))
    (hmake : ∀ target, r ≠ .write target none)
    (hdelete : ∀ target, r = .delete target → (s.file? target).isSome) :
    s'.directories = s.directories := by
  have htree : s'.directories = (s.carryOut r).2.directories :=
    congrArg Prod.snd (tree_of_accepted h)
  rw [htree]
  cases r with
  | read target => rfl
  | write target content =>
    cases content with
    | none => exact absurd rfl (hmake target)
    | some content =>
      simp only [carryOut, store]
      split <;> rfl
  | update target content =>
    simp only [carryOut, replace]
    split <;> rfl
  | delete target =>
    obtain ⟨data, hdata⟩ := Option.isSome_iff_exists.mp (hdelete target rfl)
    simp only [carryOut, remove, hdata]

/-! ### Open stores -/

/-- No failure is laid up for a later call, and everyone may use the store. -/
structure IsOpen (s : Store) : Prop where
  failures_eq : s.failures = []
  access_eq : s.access = none

namespace IsOpen

variable {target : String} (h : s.IsOpen)
include h

theorem receive_eq (verb : Verb) (target : String) (token : Option String) :
    s.receive verb target token =
      (.ok (), { s with record := ⟨verb, target, token⟩ :: s.record }) := by
  rw [receive, h.failures_eq, takeFailure, checkAccess, h.access_eq]

/-- A store is open whatever is carried out. -/
theorem carried (r : Request) : (s.carryOut r).2.IsOpen := by
  obtain ⟨hfailures, haccess⟩ := h
  cases r with
  | read target => exact ⟨hfailures, haccess⟩
  | write target content =>
    simp only [carryOut, store]
    split
    · cases content with
      | none =>
        dsimp only
        split <;> exact ⟨hfailures, haccess⟩
      | some content => exact ⟨hfailures, haccess⟩
    · exact ⟨hfailures, haccess⟩
  | update target content =>
    simp only [carryOut, replace]
    split <;> exact ⟨hfailures, haccess⟩
  | delete target =>
    simp only [carryOut, remove]
    split
    · exact ⟨hfailures, haccess⟩
    · split <;> exact ⟨hfailures, haccess⟩

theorem of_submit {outcome : Outcome} (hsubmit : s.submit r token = (outcome, s')) :
    s'.IsOpen := by
  have hrecorded : IsOpen { s with record := ⟨r.verb, r.target, token⟩ :: s.record } :=
    ⟨h.failures_eq, h.access_eq⟩
  rw [submit, h.receive_eq] at hsubmit
  have hcarried := hrecorded.carried r
  rwa [show carryOut _ r = (outcome, s') from hsubmit] at hcarried

theorem submit_read {data : ByteArray} (hdata : s.file? target = some data)
    (token : Option String) :
    (s.submit (.read target) token).1 = .ok ⟨data, some "application/octet-stream"⟩ := by
  rw [submit, h.receive_eq]
  rw [file?] at hdata
  simp only [carryOut, contentOf, file?, hdata]

theorem submit_write (hparent : parentKey target ∈ s.directories) (content : Payload)
    (token : Option String) :
    (s.submit (.write target (some content)) token).1 = .ok (writeReceipt target) := by
  rw [submit, h.receive_eq]
  simp only [carryOut, store, List.contains_iff_mem.mpr hparent, if_true]

theorem submit_delete (hfile : (s.file? target).isSome) (token : Option String) :
    (s.submit (.delete target) token).1 = .ok .empty := by
  obtain ⟨data, hdata⟩ := Option.isSome_iff_exists.mp hfile
  rw [submit, h.receive_eq]
  rw [file?] at hdata
  simp only [carryOut, remove, file?, hdata]

end IsOpen

end Store

/-! ### Requests in a log -/

/-- The request that was carried out. -/
def Interaction.carriedOut? : Interaction → Option Request
  | .submitted r _ (.ok _) => some r
  | _ => none

/-- The requests that were carried out, in order. -/
def carriedOut (log : List Interaction) : List Request := log.filterMap Interaction.carriedOut?

end RemoteFiles
