import RemoteFiles.Proofs.Client.CutPaste
import RemoteFiles.Proofs.Service.Removal

/-!
# Stores without orphans

In a rooted store (`Store.IsRooted`) the root is a directory, the paths of directories end with a
slash, and every file and every directory is in a directory of the store.  A store that was built by
putting files into it is rooted, and it stays so whatever a client does with it and whatever calls
are made on it directly, for arbitrary paths and at every moment (`store_stays_rooted`).

The directory that a path is in is found in its text: it is the root, or the path up to a slash, and
then it is shorter (`parentKey_cases`).  So the directories above a path come to an end at the root
(`ancestors_closed`).  And what a delete removes with a directory is closed downwards: if the
directory that a path is in begins with the removed path, so does the path itself.
-/

namespace RemoteFiles

namespace Store

variable {s s' : Store} {path target key : String} {data : ByteArray} {token : Option String}

/-- Nothing in the store is without a directory that it is in. -/
structure IsRooted (s : Store) : Prop where
  root : "/" ∈ s.directories
  slash : ∀ key ∈ s.directories, Path.isDirectoryForm key = true
  directories : ∀ key ∈ s.directories, parentKey key ∈ s.directories
  files : ∀ path, (s.file? path).isSome → parentKey path ∈ s.directories

/-- A store into which files were put, one after another. -/
def holding (files : List (String × ByteArray)) : Store :=
  files.foldl (fun s file => s.insertFile file.1 file.2) empty

/-! ### The directory that a path is in -/

/-- The directory that a path is in is the root, or the path up to a slash before its end. -/
theorem parentKey_cases (path : String) :
    parentKey path = "/" ∨
      (parentKey path).toList <+: path.toList ∧
        (parentKey path).toList.length < path.toList.length ∧
        Path.isDirectoryForm (parentKey path) = true := by
  simp only [parentKey]
  have hname := List.head?_dropWhile_not (· == '/') path.toList.reverse
  have hpath : path.toList.reverse.dropWhile (· == '/') <:+ path.toList.reverse :=
    List.dropWhile_suffix _
  generalize path.toList.reverse.dropWhile (· == '/') = trimmed at hname hpath ⊢
  have hslash := List.head?_dropWhile_not (· != '/') trimmed
  have hkey : trimmed.dropWhile (· != '/') <:+ trimmed := List.dropWhile_suffix _
  generalize trimmed.dropWhile (· != '/') = key at hslash hkey ⊢
  cases key with
  | nil => exact .inl rfl
  | cons c cs =>
    simp only [List.head?_cons, bne_eq_false_iff_eq] at hslash
    subst hslash
    -- the last name of the path is not empty, so the slash before it is not the end
    have hshorter : ('/' :: cs).length < trimmed.length := by
      refine Nat.lt_of_le_of_ne hkey.length_le fun hlength => ?_
      rw [← hkey.eq_of_length hlength] at hname
      simp at hname
    dsimp only
    rw [Path.isDirectoryForm, String.toList_ofList]
    refine .inr ⟨?_, ?_, by simp⟩
    · have hbegins := List.reverse_prefix.mpr (hkey.trans hpath)
      rwa [List.reverse_reverse] at hbegins
    · have hlength := hpath.length_le
      rw [List.length_reverse] at hlength ⊢
      omega

/-- What is in a directory other than the root is removed with it, and so is all below. -/
theorem inDirectory_of_parentKey (hne : directoryKey target ≠ "/")
    (h : InDirectory target (parentKey path)) : InDirectory target path := by
  rcases parentKey_cases path with hroot | ⟨hbegins, -, -⟩
  · rw [hroot] at h
    exact absurd (directoryKey_of_inDirectory_root h) hne
  · exact List.IsPrefix.trans h hbegins

/-- The directories above a path are in one another, up to the root. -/
theorem ancestors_closed {budget : Nat} {path : String} (hbudget : path.toList.length ≤ budget) :
    (parentKey path = "/" ∨ parentKey path ∈ ancestors budget path) ∧
      ∀ key ∈ ancestors budget path, Path.isDirectoryForm key = true ∧
        (parentKey key = "/" ∨ parentKey key ∈ ancestors budget path) := by
  -- each step up is a step to a shorter path, so the budget is enough
  induction budget generalizing path with
  | zero =>
    have hempty : path = "" :=
      String.toList_eq_nil_iff.mp (List.eq_nil_of_length_eq_zero (Nat.le_zero.mp hbudget))
    rw [hempty]
    exact ⟨.inl rfl, fun key hkey => absurd hkey List.not_mem_nil⟩
  | succ budget ih =>
    rw [ancestors]
    by_cases hroot : parentKey path = "/"
    · rw [if_pos hroot]
      exact ⟨.inl hroot, fun key hkey => absurd hkey List.not_mem_nil⟩
    · obtain ⟨-, hshorter, hslash⟩ := (parentKey_cases path).resolve_left hroot
      have hbudget' : (parentKey path).toList.length ≤ budget := by omega
      obtain ⟨habove, hall⟩ := ih hbudget'
      have hmore : ∀ key, parentKey key = "/" ∨ parentKey key ∈ ancestors budget (parentKey path) →
          parentKey key = "/" ∨
            parentKey key ∈ parentKey path :: ancestors budget (parentKey path) :=
        fun key hkey => hkey.imp_right (List.mem_cons_of_mem _)
      rw [if_neg hroot]
      refine ⟨.inr List.mem_cons_self, List.forall_mem_cons.mpr ⟨⟨hslash, ?_⟩, ?_⟩⟩
      · exact hmore _ habove
      · intro key hkey
        exact ⟨(hall key hkey).1, hmore key (hall key hkey).2⟩

/-! ### Changes of the tree -/

theorem mem_insertBy_id {a b : String} {keys : List String} :
    b ∈ insertBy id a keys ↔ b = a ∨ b ∈ keys := by
  induction keys with
  | nil => simp [insertBy]
  | cons other keys ih =>
    rw [insertBy]
    split_ifs with hsame hbefore
    · obtain rfl : other = a := hsame
      simp
    · exact List.mem_cons
    · rw [List.mem_cons, ih, List.mem_cons]
      tauto

theorem mem_foldl_addDirectory {keys : List String} (s : Store) :
    key ∈ (keys.foldl addDirectory s).directories ↔ key ∈ keys ∨ key ∈ s.directories := by
  induction keys generalizing s with
  | nil => simp
  | cons other keys ih =>
    rw [List.foldl_cons, ih, addDirectory, mem_insertBy_id, List.mem_cons]
    tauto

theorem files_foldl_addDirectory (keys : List String) (s : Store) :
    (keys.foldl addDirectory s).files = s.files := by
  induction keys generalizing s with
  | nil => rfl
  | cons other keys ih => exact ih (s.addDirectory other)

theorem file?_setFile (s : Store) (target path : String) (data : ByteArray) :
    (s.setFile target data).file? path = if path = target then some data else s.file? path := by
  rw [file?, setFile, lookup_insertBy, file?]

theorem isRooted_empty : empty.IsRooted where
  root := List.mem_singleton_self _
  slash := List.forall_mem_singleton.mpr (by decide)
  directories := List.forall_mem_singleton.mpr (by decide)
  files _ hsome := absurd hsome Bool.false_ne_true

namespace IsRooted

theorem of_tree_eq (h : s.IsRooted) (htree : s'.tree = s.tree) : s'.IsRooted := by
  have hdirectories : s'.directories = s.directories := congrArg Prod.snd htree
  refine ⟨?_, ?_, ?_, fun path hsome => ?_⟩
  · exact hdirectories ▸ h.root
  · exact hdirectories ▸ h.slash
  · exact hdirectories ▸ h.directories
  · rw [file?_of_tree_eq htree] at hsome
    exact hdirectories ▸ h.files path hsome

variable (h : s.IsRooted)
include h

theorem setFile (hparent : parentKey target ∈ s.directories) (data : ByteArray) :
    (s.setFile target data).IsRooted where
  root := h.root
  slash := h.slash
  directories := h.directories
  files path hsome := by
    rw [file?_setFile] at hsome
    by_cases hpath : path = target
    · exact hpath ▸ hparent
    · rw [if_neg hpath] at hsome
      exact h.files path hsome

theorem addDirectory (hslash : Path.isDirectoryForm key = true)
    (hparent : parentKey key ∈ s.directories) : (s.addDirectory key).IsRooted where
  root := mem_insertBy_id.mpr (.inr h.root)
  slash other hother := by
    rcases mem_insertBy_id.mp hother with rfl | hother
    · exact hslash
    · exact h.slash other hother
  directories other hother := by
    refine mem_insertBy_id.mpr (.inr ?_)
    rcases mem_insertBy_id.mp hother with rfl | hother
    · exact hparent
    · exact h.directories other hother
  files path hsome := mem_insertBy_id.mpr (.inr (h.files path hsome))

theorem insertFile (path : String) (data : ByteArray) : (s.insertFile path data).IsRooted := by
  obtain ⟨hparent, hkeys⟩ := ancestors_closed (Nat.le_of_eq (String.length_toList (s := path)))
  rw [Store.insertFile]
  generalize ancestors path.length path = keys at hparent hkeys ⊢
  have hmem : ∀ key, key ∈ (keys.foldl Store.addDirectory s).directories ↔ _ :=
    fun key => mem_foldl_addDirectory s
  have hfiles := files_foldl_addDirectory keys s
  generalize keys.foldl Store.addDirectory s = above at hmem hfiles ⊢
  -- the root is there, and so is every directory above the path
  have hthere : ∀ key, key = "/" ∨ key ∈ keys → key ∈ above.directories := by
    rintro key (rfl | hkey)
    · exact (hmem "/").mpr (.inr h.root)
    · exact (hmem key).mpr (.inl hkey)
  have habove : above.IsRooted := by
    refine ⟨hthere _ (.inl rfl), fun key hkey => ?_, fun key hkey => ?_, fun other hsome => ?_⟩
    · rcases (hmem key).mp hkey with hkey | hkey
      · exact (hkeys key hkey).1
      · exact h.slash key hkey
    · rcases (hmem key).mp hkey with hkey | hkey
      · exact hthere _ (hkeys key hkey).2
      · exact (hmem _).mpr (.inr (h.directories key hkey))
    · rw [file?, hfiles] at hsome
      exact (hmem _).mpr (.inr (h.files other hsome))
  exact habove.setFile (hthere _ hparent) data

/-- A directory that stays keeps what it is in. -/
theorem of_withoutDirectory (removed : s.WithoutDirectory s' target) : s'.IsRooted := by
  have hparent : ∀ path, parentKey path ∈ s.directories → ¬InDirectory target path →
      parentKey path ∈ s'.directories := by
    intro path hmem hout
    refine (removed.directories _).mpr ⟨hmem, fun hin => ?_⟩
    exact hout (inDirectory_of_parentKey removed.ne_root hin)
  refine ⟨?_, fun key hkey => ?_, fun key hkey => ?_, fun path hsome => ?_⟩
  · refine (removed.directories "/").mpr ⟨h.root, fun hin => ?_⟩
    exact removed.ne_root (directoryKey_of_inDirectory_root hin)
  · exact h.slash key ((removed.directories key).mp hkey).1
  · obtain ⟨hmem, hout⟩ := (removed.directories key).mp hkey
    exact hparent key (h.directories key hmem) hout
  · rw [removed.files] at hsome
    by_cases hin : InDirectory target path
    · rw [if_pos hin] at hsome
      cases hsome
    · rw [if_neg hin] at hsome
      exact hparent path (h.files path hsome) hin

theorem of_withoutFile (removed : s.WithoutFile s' target) : s'.IsRooted := by
  obtain ⟨hfiles, hdirectories⟩ := removed
  refine ⟨?_, ?_, ?_, fun path hsome => ?_⟩
  · exact hdirectories ▸ h.root
  · exact hdirectories ▸ h.slash
  · exact hdirectories ▸ h.directories
  · rw [hfiles] at hsome
    by_cases hpath : path = target
    · rw [if_pos hpath] at hsome
      cases hsome
    · rw [if_neg hpath] at hsome
      exact hdirectories ▸ h.files path hsome

/-- What is written is in a directory of the store. -/
theorem store (target : String) (content : Option Payload) :
    (s.store target content).2.IsRooted := by
  simp only [Store.store]
  by_cases hcontains : s.directories.contains (parentKey target) = true
  · have hparent : parentKey target ∈ s.directories := List.contains_iff_mem.mp hcontains
    rw [if_pos hcontains]
    cases content with
    | some content => exact h.setFile hparent content.data
    | none =>
      dsimp only
      split_ifs with hslash
      · exact h.addDirectory (beq_iff_eq.mpr hslash) hparent
      · exact h.setFile hparent .empty
  · rw [if_neg hcontains]
    exact h

/-- What is replaced was there. -/
theorem replace (target : String) (content : Payload) : (s.replace target content).2.IsRooted := by
  rw [Store.replace]
  cases hfile : s.file? target with
  | none => exact h
  | some data => exact h.setFile (h.files target (Option.isSome_of_eq_some hfile)) content.data

/-! ### Calls -/

theorem submit (r : Request) (token : Option String) : (s.submit r token).2.IsRooted := by
  obtain ⟨⟨outcome, s'⟩, hout⟩ : ∃ out, s.submit r token = out := ⟨_, rfl⟩
  rw [hout]
  cases outcome with
  | error refusal => exact h.of_tree_eq (tree_of_refused hout)
  | ok body =>
    cases r with
    | read target => exact h.of_tree_eq (tree_of_accepted hout)
    | write target content => exact (h.store target content).of_tree_eq (tree_of_accepted hout)
    | update target content => exact (h.replace target content).of_tree_eq (tree_of_accepted hout)
    | delete target =>
      cases hfile : s.file? target with
      | none => exact h.of_withoutDirectory (withoutDirectory_of_delete hout hfile)
      | some data =>
        exact h.of_withoutFile (withoutFile_of_delete hout (Option.isSome_of_eq_some hfile))

theorem probe (token : Option String) : (s.probe token).2.IsRooted :=
  h.of_tree_eq (s.tree_of_probe token)

/-- Whatever passes between a client and the store leaves it rooted. -/
theorem after (log : List Interaction) : (s.after log).IsRooted := by
  induction log generalizing s with
  | nil => exact h
  | cons i log ih =>
    rw [Store.after]
    cases i with
    | submitted r token outcome => exact ih (h.submit r token)
    | probed token answer => exact ih (h.probe token)
    | announced | drew | fetched => exact ih h

end IsRooted

theorem isRooted_holding (files : List (String × ByteArray)) : (holding files).IsRooted := by
  have hbuilt : ∀ s : Store, s.IsRooted →
      (files.foldl (fun s file => s.insertFile file.1 file.2) s).IsRooted := by
    induction files with
    | nil => exact fun s h => h
    | cons file files ih => exact fun s h => ih _ (h.insertFile file.1 file.2)
  exact hbuilt empty isRooted_empty

end Store

/-! ### Runs of a client and direct calls -/

variable {τ : Type}

/-- Something that is done with a client and its store. -/
inductive Use
  /-- The client carries out an action. -/
  | act (a : Action)
  /-- A request is made of the store itself. -/
  | submit (r : Request) (token : Option String)
  /-- A probe is made of the store itself. -/
  | probe (token : Option String)
  /-- A file is put into the store. -/
  | insert (path : String) (data : ByteArray)

namespace Scene

/-- The scene with another store. -/
def withStore (x : Scene (Store × τ)) (s : Store) : Scene (Store × τ) :=
  { x with around := (s, x.around.2) }

/-- The scene once something was done. -/
def used (rest : Host (StateM τ)) (x : Scene (Store × τ)) : Use → Scene (Store × τ)
  | .act a => (episode rest.withStore a x).2
  | .submit r token => x.withStore (x.around.1.submit r token).2
  | .probe token => x.withStore (x.around.1.probe token).2
  | .insert path data => x.withStore (x.around.1.insertFile path data)

variable {rest : Host (StateM τ)} {x : Scene (Store × τ)}

theorem isRooted_used (h : x.around.1.IsRooted) (use : Use) :
    (x.used rest use).around.1.IsRooted := by
  cases use with
  | act a =>
    -- what the client has done to the store is what passed between them
    obtain ⟨-, hafter⟩ := (occurs_episode rest.withStore a x).answered
    rw [used, ← hafter]
    exact h.after _
  | submit r token => exact h.submit r token
  | probe token => exact h.probe token
  | insert path data => exact h.insertFile path data

theorem isRooted_foldl_used (h : x.around.1.IsRooted) (uses : List Use) :
    (uses.foldl (used rest) x).around.1.IsRooted := by
  induction uses generalizing x with
  | nil => exact h
  | cons use uses ih => exact ih (isRooted_used h use)

end Scene

/-- **No orphans**: a store that was built by putting files into it, with whatever failures and
rules, is rooted after every sequence of actions of a client, direct calls and further files; and it
is so at every moment of the next action, after each thing that passes between client and store. -/
theorem store_stays_rooted (rest : Host (StateM τ)) (files : List (String × ByteArray)) {s : Store}
    (hs : s.tree = (Store.holding files).tree) (c : Client) (t : τ) (uses : List Use) :
    let x := uses.foldl (Scene.used rest) ⟨c, (s, t)⟩
    x.around.1.IsRooted ∧
      ∀ a log, log <+: (episode rest.withStore a x).1.log → (x.around.1.after log).IsRooted := by
  intro x
  have hstart : s.IsRooted := (Store.isRooted_holding files).of_tree_eq hs
  have hx : x.around.1.IsRooted :=
    Scene.isRooted_foldl_used (x := ⟨c, (s, t)⟩) hstart uses
  exact ⟨hx, fun a log _ => hx.after log⟩

/-- Paths with double slashes and without a first one: a whole directory is deleted directly, and
the client is refused once by a failure that was laid up and then deletes a directory, too. -/
theorem store_stays_rooted_of_winding :
    let files := [("/a//b", ⟨#[49]⟩), ("c/d", ⟨#[50]⟩), ("/e/f", ⟨#[51]⟩)]
    let s := (Store.holding files).failNext .delete "/e" (.notFound "e")
    let uses := [.submit (.delete "/a//") none, .act (.perform (.remove "e")),
      .insert "//e" .empty, .act (.perform (.remove "e"))]
    let x := uses.foldl (Scene.used (Host.constant (.ok .empty) (.ok none)))
      ⟨.startingIn "/", (s, ())⟩
    s.tree = (Store.holding files).tree ∧ x.around.1.IsRooted ∧
      x.around.1.directories = ["/", "//", "c/"] ∧ Store.parentKey "//e" = "//" := by
  intro files s uses x
  have hs : s.tree = (Store.holding files).tree := rfl
  exact ⟨hs, (store_stays_rooted _ files hs _ () uses).1, by decide +kernel, by decide⟩

end RemoteFiles
