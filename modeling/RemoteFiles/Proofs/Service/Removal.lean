import RemoteFiles.Proofs.Path.Targets
import RemoteFiles.Proofs.Service.Effects

/-!
# What a delete removes

A delete of a store removes the file at its target and nothing else, if there is one.  Otherwise it
removes the directory at its target with all that is in it, unless that is the root.  If there is
neither, or the call is refused before it gets to the tree (`Store.Refuses`), it fails and leaves
the tree as it is (`delete_removes`).

What is in a directory is told by the beginning of its path.  The path of a directory ends with a
slash, and so its names are the first ones of everything in it (`prefix_slash_iff`): a path that
goes on with other letters where the slash is expected is a sibling.
-/

namespace RemoteFiles

/-! ### What is in a directory -/

/-- What begins with a directory and a slash has the pieces of the directory, and more. -/
theorem Path.prefix_slash_iff {dir path : List Char} :
    dir ++ ['/'] <+: path ↔ ∃ rest, rest ≠ [] ∧ path.splitOn '/' = dir.splitOn '/' ++ rest := by
  constructor
  · rintro ⟨more, rfl⟩
    refine ⟨more.splitOn '/', List.splitOn_ne_nil '/' more, ?_⟩
    rw [List.append_assoc, List.singleton_append, List.splitOn_append_cons_self]
  · rintro ⟨rest, hne, hpieces⟩
    obtain ⟨first, others, hdir⟩ := List.exists_cons_of_ne_nil (List.splitOn_ne_nil '/' dir)
    have hbehind : path = dir ++ behindSlashes rest := by
      calc path = ['/'].intercalate (path.splitOn '/') := (List.intercalate_splitOn '/').symm
        _ = first ++ behindSlashes others ++ behindSlashes rest := by
          rw [hpieces, hdir, List.cons_append, intercalate_cons, behindSlashes_append,
            List.append_assoc]
        _ = ['/'].intercalate (dir.splitOn '/') ++ behindSlashes rest := by
          rw [hdir, intercalate_cons]
        _ = dir ++ behindSlashes rest := by rw [List.intercalate_splitOn]
    rw [hbehind, behindSlashes_eq_intercalate hne]
    exact ⟨['/'].intercalate rest, by simp⟩

namespace Store

variable {s s' : Store} {target path key : String} {token : Option String}

/-- What begins with the path of a directory: the directory itself, and what is in it. -/
def InDirectory (target path : String) : Prop :=
  (directoryKey target).toList <+: path.toList

instance (target path : String) : Decidable (InDirectory target path) :=
  inferInstanceAs (Decidable (_ <+: _))

theorem isBelow_iff : isBelow (directoryKey target) path = true ↔ InDirectory target path :=
  List.isPrefixOf_iff_prefix

/-- The path of a directory ends with a slash. -/
theorem exists_directoryKey_eq (target : String) : ∃ dir, directoryKey target = dir ++ "/" := by
  rw [directoryKey]
  split
  · rename_i hslash
    obtain ⟨cs, hcs⟩ := List.getLast?_eq_some_iff.mp hslash
    refine ⟨String.ofList cs, String.toList_inj.mp ?_⟩
    rw [hcs, String.toList_append, String.toList_ofList]
    rfl
  · exact ⟨target, rfl⟩

/-- The names of a directory are the first names of everything in it, and of nothing else. -/
theorem inDirectory_iff {dir : String} (hkey : directoryKey target = dir ++ "/") (path : String) :
    InDirectory target path ↔
      ∃ rest, rest ≠ [] ∧ Path.pieces path = Path.pieces dir ++ rest := by
  have htext : (directoryKey target).toList = dir.toList ++ ['/'] := by
    rw [hkey, String.toList_append]
    rfl
  rw [InDirectory, htext, Path.prefix_slash_iff, Path.pieces, Path.pieces]
  constructor
  · rintro ⟨rest, hne, hpieces⟩
    exact ⟨rest.map String.ofList, by simpa using hne, by rw [hpieces, List.map_append]⟩
  · rintro ⟨rest, hne, hpieces⟩
    obtain ⟨first, more, hsplit, hfirst, rfl⟩ := List.map_eq_append_iff.mp hpieces
    have hinj : Function.Injective String.ofList := fun _ _ => String.ofList_injective
    rw [(List.map_injective_iff.mpr hinj) hfirst] at hsplit
    exact ⟨more, by simpa using hne, hsplit⟩

/-- The root is in no directory but itself. -/
theorem directoryKey_of_inDirectory_root (h : InDirectory target "/") :
    directoryKey target = "/" := by
  obtain ⟨dir, hdir⟩ := exists_directoryKey_eq target
  rw [InDirectory, hdir, String.toList_append] at h
  have hlength := h.length_le
  have hnil : dir.toList = [] := by
    rw [List.length_append] at hlength
    exact List.eq_nil_of_length_eq_zero (by simpa using hlength)
  rw [hdir, String.toList_eq_nil_iff.mp hnil]
  rfl

/-! ### Calls that are refused -/

/-- A failure is laid up for the call, or the access rule does not accept its authorization. -/
def Refuses (s : Store) (verb : Verb) (target : String) (token : Option String) : Prop :=
  (∃ refusal, ((verb, target), refusal) ∈ s.failures) ∨
    ∃ rule, s.access = some rule ∧ (rule.accepted = none ∨ rule.accepted ≠ token)

theorem takeFailure_eq_none_iff {call : Verb × String}
    {failures : List ((Verb × String) × Refusal)} :
    takeFailure call failures = none ↔ ∀ refusal, (call, refusal) ∉ failures := by
  induction failures with
  | nil => simp [takeFailure]
  | cons failure rest ih =>
    obtain ⟨other, refusal⟩ := failure
    rw [takeFailure]
    by_cases hcall : other = call
    · subst hcall
      rw [if_pos rfl]
      exact iff_of_false (Option.some_ne_none _) fun h => h refusal List.mem_cons_self
    · rw [if_neg hcall, Option.map_eq_none_iff, ih]
      simp [Ne.symm hcall]

theorem checkAccess_eq_ok_iff :
    s.checkAccess token = .ok () ↔
      ¬∃ rule, s.access = some rule ∧ (rule.accepted = none ∨ rule.accepted ≠ token) := by
  rw [checkAccess]
  cases s.access with
  | none => simp
  | some rule =>
    by_cases haccepted : rule.accepted.isSome ∧ rule.accepted = token
    · dsimp only
      rw [if_pos haccepted]
      refine iff_of_true rfl ?_
      rintro ⟨_, ⟨⟩, hnone | hne⟩
      · rw [hnone] at haccepted
        exact Bool.false_ne_true haccepted.1
      · exact hne haccepted.2
    · dsimp only
      rw [if_neg haccepted]
      refine iff_of_false (fun h => by cases h) (not_not_intro ⟨rule, rfl, ?_⟩)
      by_contra hrule
      obtain ⟨hsome, htoken⟩ := not_or.mp hrule
      exact haccepted ⟨Option.isSome_iff_ne_none.mpr hsome, not_not.mp htoken⟩

/-- A call is admitted exactly if nothing refuses it. -/
theorem receive_eq_ok_iff {verb : Verb} :
    (s.receive verb target token).1 = .ok () ↔ ¬s.Refuses verb target token := by
  rw [Refuses, not_or, ← checkAccess_eq_ok_iff, not_exists, ← takeFailure_eq_none_iff, receive]
  dsimp only
  cases takeFailure (verb, target) s.failures with
  | none => exact (and_iff_right rfl).symm
  | some failure => exact iff_of_false (fun h => by cases h) fun h => by cases h.1

/-- The answer to a request that is carried out does not hang on the rest of the store either. -/
theorem carryOut_outcome_congr (h : s.tree = s'.tree) (r : Request) :
    (s.carryOut r).1 = (s'.carryOut r).1 := by
  obtain ⟨hfiles, hdirectories⟩ := Prod.mk.inj h
  cases r with
  | read target =>
    simp only [carryOut, contentOf, file?, hasDirectory, listing, hfiles, hdirectories]
  | write target content =>
    simp only [carryOut, store, hdirectories]
    split <;> rfl
  | update target content =>
    simp only [carryOut, replace, file?, hfiles]
    split <;> rfl
  | delete target =>
    simp only [carryOut, remove, file?, hfiles, hdirectories]
    split
    · rfl
    · split <;> rfl

/-- A request is accepted exactly if nothing refuses it and it can be carried out. -/
theorem submit_isOk_iff {r : Request} :
    (s.submit r token).1.isOk = true ↔
      ¬s.Refuses r.verb r.target token ∧ (s.carryOut r).1.isOk = true := by
  have htree := s.receive_tree r.verb r.target token
  rw [← receive_eq_ok_iff, submit]
  generalize s.receive r.verb r.target token = received at htree ⊢
  obtain ⟨⟨refusal⟩ | ⟨⟩, s₀⟩ := received
  · exact iff_of_false Bool.false_ne_true fun h => by cases h.1
  · rw [carryOut_outcome_congr htree.symm]
    exact (and_iff_right rfl).symm

theorem isOk_carryOut_of_accepted {r : Request} {body : Payload}
    (h : s.submit r token = (.ok body, s')) : (s.carryOut r).1.isOk = true := by
  have haccepted : (s.submit r token).1.isOk = true := by
    rw [h]
    rfl
  exact (submit_isOk_iff.mp haccepted).2

/-! ### Deletes -/

/-- There is a file at the target, or a directory that is not the root. -/
def HasRemovable (s : Store) (target : String) : Prop :=
  (s.file? target).isSome ∨ directoryKey target ≠ "/" ∧ directoryKey target ∈ s.directories

/-- The files and directories after the file at the target was removed, by those before. -/
structure WithoutFile (s s' : Store) (target : String) : Prop where
  files : ∀ path, s'.file? path = if path = target then none else s.file? path
  directories_eq : s'.directories = s.directories

/-- The files and directories after a directory that is not the root was removed with all that was
in it, by those before. -/
structure WithoutDirectory (s s' : Store) (target : String) : Prop where
  ne_root : directoryKey target ≠ "/"
  there : directoryKey target ∈ s.directories
  files : ∀ path, s'.file? path = if InDirectory target path then none else s.file? path
  directories : ∀ key, key ∈ s'.directories ↔ key ∈ s.directories ∧ ¬InDirectory target key

theorem remove_isOk_iff : (s.remove target).1.isOk = true ↔ s.HasRemovable target := by
  rw [HasRemovable, remove]
  cases s.file? target with
  | some data => exact iff_of_true rfl (.inl rfl)
  | none =>
    simp only [List.contains_iff_mem]
    split_ifs with hdirectory
    · exact iff_of_true rfl (.inr hdirectory)
    · exact iff_of_false Bool.false_ne_true (not_or.mpr ⟨Bool.false_ne_true, hdirectory⟩)

theorem directories_of_remove (hnone : s.file? target = none)
    (hok : (s.remove target).1.isOk = true) :
    (s.remove target).2.directories =
      s.directories.filter (!isBelow (directoryKey target) ·) := by
  rw [remove, hnone] at hok ⊢
  dsimp only at hok ⊢
  split_ifs at hok ⊢ with hdirectory
  · rfl
  · cases hok

variable {body : Payload}

theorem withoutFile_of_delete (h : s.submit (.delete target) token = (.ok body, s'))
    (hfile : (s.file? target).isSome) : s.WithoutFile s' target where
  files path := by
    rw [file?_of_delete h, takes, if_pos hfile]
    simp only [beq_iff_eq]
  directories_eq := by
    refine directories_of_accepted h (by simp) ?_
    rintro _ ⟨⟩
    exact hfile

theorem withoutDirectory_of_delete (h : s.submit (.delete target) token = (.ok body, s'))
    (hnone : s.file? target = none) : s.WithoutDirectory s' target := by
  have hok : (s.remove target).1.isOk = true := isOk_carryOut_of_accepted h
  have hdirectory : directoryKey target ≠ "/" ∧ directoryKey target ∈ s.directories := by
    refine (remove_isOk_iff.mp hok).resolve_left ?_
    rw [hnone]
    exact Bool.false_ne_true
  refine ⟨hdirectory.1, hdirectory.2, fun path => ?_, fun key => ?_⟩
  · rw [file?_of_delete h, takes, hnone]
    simp only [Option.isSome_none, Bool.false_eq_true, if_false, isBelow_iff]
  · have htree : s'.directories = (s.remove target).2.directories :=
      congrArg Prod.snd (tree_of_accepted h)
    rw [htree, directories_of_remove hnone hok, List.mem_filter, Bool.not_eq_true',
      Bool.eq_false_iff, Ne, isBelow_iff]

/-- No delete takes the root away. -/
theorem root_mem_of_delete {outcome : Outcome}
    (h : s.submit (.delete target) token = (outcome, s')) (hroot : "/" ∈ s.directories) :
    "/" ∈ s'.directories := by
  cases outcome with
  | error refusal =>
    have hkept : s'.directories = s.directories := congrArg Prod.snd (tree_of_refused h)
    rwa [hkept]
  | ok body =>
    cases hfile : s.file? target with
    | some data =>
      rwa [(withoutFile_of_delete h (Option.isSome_of_eq_some hfile)).directories_eq]
    | none =>
      have removed := withoutDirectory_of_delete h hfile
      refine (removed.directories "/").mpr ⟨hroot, fun hin => ?_⟩
      exact removed.ne_root (directoryKey_of_inDirectory_root hin)

/-- **Deletes**: in every store and for every target, a delete fails exactly if it is refused or
there is neither a file at the target nor a directory other than the root, and then it changes no
file and no directory.  Otherwise it removes the file and nothing else or, where there is no file,
the directory with all that is in it and nothing else.  The root stays.  What is in a directory is
what has its names, one after another, as its first names. -/
theorem delete_removes (s : Store) (target : String) (token : Option String) :
    let out := s.submit (.delete target) token
    (out.1.isOk = false ↔ s.Refuses .delete target token ∨ ¬s.HasRemovable target) ∧
    (out.1.isOk = false → out.2.tree = s.tree) ∧
    (out.1.isOk = true → (s.file? target).isSome → s.WithoutFile out.2 target) ∧
    (out.1.isOk = true → s.file? target = none → s.WithoutDirectory out.2 target) ∧
    ("/" ∈ s.directories → "/" ∈ out.2.directories) ∧
    ∃ dir, directoryKey target = dir ++ "/" ∧ ∀ path, InDirectory target path ↔
      ∃ rest, rest ≠ [] ∧ Path.pieces path = Path.pieces dir ++ rest := by
  obtain ⟨dir, hdir⟩ := exists_directoryKey_eq target
  have haccepted : (s.submit (.delete target) token).1.isOk = true ↔ _ := submit_isOk_iff
  obtain ⟨⟨outcome, s'⟩, hout⟩ : ∃ out, s.submit (.delete target) token = out := ⟨_, rfl⟩
  rw [hout] at haccepted ⊢
  refine ⟨?_, fun hfailed => ?_, fun hok hfile => ?_, fun hok hnone => ?_, root_mem_of_delete hout,
    dir, hdir, inDirectory_iff hdir⟩
  · rw [← Bool.not_eq_true, haccepted, ← remove_isOk_iff, Request.verb, Request.target, carryOut]
    tauto
  · cases outcome with
    | ok body => cases hfailed
    | error refusal => exact tree_of_refused hout
  · cases outcome with
    | ok body => exact withoutFile_of_delete hout hfile
    | error refusal => cases hok
  · cases outcome with
    | ok body => exact withoutDirectory_of_delete hout hnone
    | error refusal => cases hok

/-- Of a file and a directory with one name, the first delete removes the file and the second one
the directory; what begins with the same letters stays, and a third delete fails. -/
theorem delete_removes_of_twice :
    let s := ((Store.empty.insertFile "/d" ⟨#[49]⟩).insertFile "/d/x" ⟨#[50]⟩).insertFile "/dx/y"
      ⟨#[51]⟩
    let s₁ := (s.submit (.delete "/d") none).2
    let s₂ := (s₁.submit (.delete "/d") none).2
    s.WithoutFile s₁ "/d" ∧ s₁.WithoutDirectory s₂ "/d" ∧
      s₂.file? "/dx/y" = some ⟨#[51]⟩ ∧ "/dx/" ∈ s₂.directories ∧ "/" ∈ s₂.directories ∧
      (s₂.submit (.delete "/d") none).2.tree = s₂.tree := by
  intro s s₁ s₂
  obtain ⟨-, -, hfile, -⟩ := delete_removes s "/d" none
  obtain ⟨-, -, -, hdirectory, hroot, -⟩ := delete_removes s₁ "/d" none
  obtain ⟨-, hfailed, -⟩ := delete_removes s₂ "/d" none
  have removed := hdirectory (by decide +kernel) (by decide +kernel)
  refine ⟨hfile (by decide +kernel) (by decide +kernel), removed, ?_, ?_,
    hroot (by decide +kernel), hfailed (by decide +kernel)⟩
  · exact (removed.files "/dx/y").trans (by decide +kernel)
  · exact (removed.directories "/dx/").mpr (by decide +kernel)

end Store

end RemoteFiles
