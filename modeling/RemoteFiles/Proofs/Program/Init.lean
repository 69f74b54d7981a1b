import RemoteFiles.Proofs.Config.Files
import RemoteFiles.Proofs.Program.World

/-!
# Writing a first configuration

Without `force`, a configuration is not written to a path that leads to something
(`writeConfig_of_there`).  Elsewhere, and always with `force`, it is saved
(`writeConfig_of_save`).

That something is there is looked up before the directories of the path are made, so a path that
goes through a missing directory and back again is taken for free although it leads to a file as
soon as it is written to.  `saved_files_and_first_configuration` says which files are kept, and
`first_configuration_keeps_files_not` has a file that is not.
-/

namespace RemoteFiles.Program

open Disk (Place Tree)
open Config (IsSaved LeadsBack save load)

variable {σ : Type} {w : Machine (StateM σ)} {c : Config} {path : Disk.Path} {s s' : World σ}
  {place : Place} {data : ByteArray} {force : Bool}

/-! ### What is done to the world -/

/-- What is there is left alone. -/
theorem writeConfig_of_there (hthere : (s.files.find path).isOk = true) :
    writeConfig w.inWorld c path false s = (.error (alreadyConfigured path), s) := by
  have hlook : w.inWorld.disk.isThere path s = (true, s) := by rw [← hthere]; rfl
  rw [writeConfig, bind_apply, hlook]
  rfl

/-- The rest of the world after a line was written to the terminal. -/
def afterSaying (w : Machine (StateM σ)) (line : String) (rest : σ) : σ := (w.say line rest).2

/-- Where nothing is, and with `force` anywhere, the configuration is saved; then it is said
where. -/
theorem writeConfig_of_save (hgo : force = true ∨ (s.files.find path).isOk = false) :
    writeConfig w.inWorld c path force s =
      match save c w.inWorld.disk path s with
      | (.error fault, s') => (.error fault.report, s')
      | (.ok (), s') =>
        (.ok (), { s' with rest := afterSaying w ("wrote " ++ path.display) s'.rest }) := by
  have hlook : w.inWorld.disk.isThere path s = ((s.files.find path).isOk, s) := rfl
  have hwrite : ((s.files.find path).isOk && !force) = false := by
    obtain hgo | hgo := hgo
    · rw [hgo, Bool.not_true, Bool.and_false]
    · rw [hgo, Bool.false_and]
  rw [writeConfig, bind_apply, hlook]
  dsimp only
  rw [hwrite, if_neg Bool.false_ne_true, bind_apply]
  rcases save c w.inWorld.disk path s with ⟨fault | _, s'⟩
  · rfl
  · rfl

/-- The outcome of writing a configuration is that of saving it, and so are the files. -/
theorem writeConfig_outcome (hgo : force = true ∨ (s.files.find path).isOk = false) :
    (writeConfig w.inWorld c path force s).1 =
        (save c w.inWorld.disk path s).1.mapError (·.report) ∧
      (writeConfig w.inWorld c path force s).2.files = (save c w.inWorld.disk path s).2.files := by
  rw [writeConfig_of_save hgo]
  rcases save c w.inWorld.disk path s with ⟨fault | _, s'⟩
  · exact ⟨rfl, rfl⟩
  · exact ⟨rfl, rfl⟩

/-- The files after a configuration was saved in a world. -/
theorem files_save (c : Config) (path : Disk.Path) (s : World σ) :
    (save c w.inWorld.disk path s).2.files = (save c Tree.disk path s.files).2 := by
  rw [Config.save_inWorld]
  rfl

theorem load_of_files (path : Disk.Path) (s : World σ) :
    load w.inWorld.disk path s = (Config.ofFile s.files path, s) := by
  rw [Config.load_inWorld, World.onFiles, Config.load_apply]

/-! ### Which files are kept -/

/-- Without `force` a file is replaced exactly if the path leads back to it. -/
theorem file?_writeConfig_ne_iff (hfile : s.files.file? place = some data) :
    (writeConfig w.inWorld c path false s).2.files.file? place ≠ some data ↔
      LeadsBack s.files path place ∧ ∃ text, c.toToml? = some text ∧ text.toUTF8 ≠ data := by
  by_cases hthere : (s.files.find path).isOk = true
  · rw [writeConfig_of_there hthere]
    refine iff_of_false (fun hchanged => hchanged hfile) fun hback => ?_
    rw [hback.1.1] at hthere
    cases hthere
  · rw [Bool.not_eq_true] at hthere
    rw [(writeConfig_outcome (.inr hthere)).2, files_save]
    exact Config.replaced_iff hthere hfile

/-- A configuration that was saved is loaded again, and no other file is touched; if it could not
be saved, no file is.  A first configuration is saved if `force` is given or nothing is there, and
without `force` it replaces the files that the path leads back to, and no others: there is none if
the path does not have two dots. -/
theorem saved_files_and_first_configuration (w : Machine (StateM σ)) (c : Config)
    (path : Disk.Path) (s : World σ) :
    (∀ s', save c w.inWorld.disk path s = (.ok (), s') →
      load w.inWorld.disk path s' = (.ok c, s') ∧ IsSaved c path s.files s'.files) ∧
    (∀ fault s', save c w.inWorld.disk path s = (.error fault, s') →
      ∀ place, s'.files.file? place = s.files.file? place) ∧
    (∀ force, force = true ∨ (s.files.find path).isOk = false →
      (writeConfig w.inWorld c path force s).1 =
          (save c w.inWorld.disk path s).1.mapError (·.report) ∧
        (writeConfig w.inWorld c path force s).2.files =
          (save c w.inWorld.disk path s).2.files) ∧
    ((s.files.find path).isOk = true →
      writeConfig w.inWorld c path false s = (.error (alreadyConfigured path), s)) ∧
    (∀ place data, s.files.file? place = some data →
      ((writeConfig w.inWorld c path false s).2.files.file? place ≠ some data ↔
        LeadsBack s.files path place ∧ ∃ text, c.toToml? = some text ∧ text.toUTF8 ≠ data)) ∧
    (s.files.IsRooted → Disk.upDots ∉ path.pieces →
      ∀ place data, s.files.file? place = some data →
        (writeConfig w.inWorld c path false s).2.files.file? place = some data) := by
  have hsaved : ∀ {result s'}, save c w.inWorld.disk path s = (result, s') →
      save c Tree.disk path s.files = (result, s'.files) := by
    intro result s' hsave
    rw [Config.save_inWorld] at hsave
    cases hsave
    rfl
  refine ⟨fun s' hsave => ?_, fun fault s' hsave => Config.file?_of_save_error (hsaved hsave),
    fun force => writeConfig_outcome, writeConfig_of_there,
    fun place data => file?_writeConfig_ne_iff, fun hrooted hdots place data hfile => ?_⟩
  · have hfiles := Config.isSaved_of_save (hsaved hsave)
    rw [load_of_files, hfiles.ofFile]
    exact ⟨rfl, hfiles⟩
  · by_contra hchanged
    exact Config.not_leadsBack hrooted hdots hfile ((file?_writeConfig_ne_iff hfile).mp hchanged).1

/-! ### A path that leads back -/

/-- Where a configuration is kept. -/
def keptPlace : Place := [Text.Glyph.ofString "kept.toml"]

/-- The name of a directory that is missing. -/
def newName : Disk.Piece := Text.Glyph.ofString "new"

/-- A world with a configuration in its only file. -/
def keptWorld : World Unit where
  files := ⟨[], [(keptPlace, .file "[auth]\nusername = \"kept\"\n".toUTF8)]⟩
  sent := []
  rest := ()

/-- A path in the missing directory. -/
def newPath : Disk.Path := .ofString "new/config.toml"

/-- A path through the missing directory to the file. -/
def backPath : Disk.Path := .ofString "new/../kept.toml"

/-- The files with the directory that was missing. -/
def madeTree : Tree := keptWorld.files.put [newName] .directory

theorem makeParents_newPath :
    Config.makeParents Tree.disk newPath keptWorld.files = (.ok (), madeTree) := by
  with_unfolding_all rfl

theorem makeParents_backPath :
    Config.makeParents Tree.disk backPath keptWorld.files = (.ok (), madeTree) := by
  with_unfolding_all rfl

theorem exists_toToml?_standard :
    ∃ text, Config.standard.toToml? = some text ∧
      text.toUTF8 ≠ "[auth]\nusername = \"kept\"\n".toUTF8 :=
  ⟨_, rfl, by decide +kernel⟩

/-- In a new directory a configuration is saved next to the one that is kept, which is not written
again. -/
theorem saved_files_and_first_configuration_of_newPath :
    ∃ s', save .standard bareMachine.inWorld.disk newPath keptWorld = (.ok (), s') ∧
      load bareMachine.inWorld.disk newPath s' = (.ok .standard, s') ∧
      (writeConfig bareMachine.inWorld .standard newPath false keptWorld).2.files = s'.files ∧
      s'.files.file? keptPlace = keptWorld.files.file? keptPlace ∧
      writeConfig bareMachine.inWorld .standard (.ofString "kept.toml") false keptWorld =
        (.error (alreadyConfigured (.ofString "kept.toml")), keptWorld) := by
  have hrooted : keptWorld.files.IsRooted := by
    intro place piece hnode
    have hplace : place ++ [piece] = keptPlace := by
      by_contra hother
      refine hnode ?_
      simp [Tree.node?, keptWorld, Ne.symm hother]
    obtain rfl : place = [] := by
      simpa [keptPlace] using congrArg List.dropLast hplace
    exact Tree.node?_root _
  have hdots : Disk.upDots ∉ newPath.pieces := by decide
  have hfree : (keptWorld.files.find newPath).isOk = false := by decide
  obtain ⟨text, htext, -⟩ := exists_toToml?_standard
  obtain ⟨t', hwrite⟩ : ∃ t', madeTree.write newPath text.toUTF8 = .ok t' := ⟨_, rfl⟩
  have hsave : save .standard bareMachine.inWorld.disk newPath keptWorld =
      (.ok (), { keptWorld with files := t' }) := by
    rw [Config.save_inWorld, World.onFiles, Config.save_apply, makeParents_newPath]
    simp only [htext, hwrite]
  obtain ⟨hload, -, hgo, -, -, hkept⟩ :=
    saved_files_and_first_configuration bareMachine .standard newPath keptWorld
  obtain ⟨-, -, -, hrefused, -⟩ :=
    saved_files_and_first_configuration bareMachine .standard (.ofString "kept.toml") keptWorld
  have hfiles := (hgo false (.inr hfree)).2
  rw [hsave] at hfiles
  refine ⟨_, hsave, (hload _ hsave).1, hfiles, ?_, hrefused (by decide)⟩
  rw [← hfiles]
  exact hkept hrooted hdots _ _ rfl

/-- A path through a missing directory and back replaces the configuration that it leads to. -/
theorem first_configuration_keeps_files_not :
    ¬ ∀ (c : Config) (path : Disk.Path) (s : World Unit) (place : Place) (data : ByteArray),
      s.files.file? place = some data →
      (writeConfig bareMachine.inWorld c path false s).2.files.file? place = some data := by
  intro h
  have hback : LeadsBack keptWorld.files backPath keptPlace :=
    ⟨by decide, madeTree, makeParents_backPath, by decide⟩
  exact (file?_writeConfig_ne_iff rfl).mpr ⟨hback, exists_toToml?_standard⟩
    (h .standard backPath keptWorld keptPlace _ rfl)

end RemoteFiles.Program
