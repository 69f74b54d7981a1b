import RemoteFiles.Config.File
import RemoteFiles.Proofs.Config.Saved
import RemoteFiles.Proofs.Disk.Changes

/-!
# Configuration files

A configuration that was saved is loaded again, and no other file is touched; one that could not be
saved leaves every file as it was (`isSaved_of_save`, `file?_of_save_error`).

A path can lead to a file only after the directories that it is in were made, although that file
was there before (`LeadsBack`): it goes through a missing directory and, by two dots, out of it.
To save to such a path replaces a file at a path where there seemed to be none (`replaced_iff`).
-/

namespace RemoteFiles.Config

open Disk (Place Tree)
open Disk.Tree (disk Extending Extends)

variable {c : Config} {path : Disk.Path} {t t₁ t' : Tree} {place : Place} {data : ByteArray}

/-! ### Loading -/

theorem decodeUtf8?_toUTF8 (text : String) : Text.decodeUtf8? text.toUTF8 = some text :=
  dif_pos text.isValidUTF8

theorem ofToml_of_toToml? {text : String} (h : c.toToml? = some text) : ofToml text = .ok c := by
  have hbound : c.timeout.toNat < numberBound := by
    by_contra hnot
    rw [toToml?, if_neg hnot] at h
    cases h
  rw [toToml?, if_pos hbound, Option.some_inj] at h
  rw [← h]
  exact ofToml_tomlText hbound

/-- What the configuration in a file is, or the standard one if there is no such file. -/
def ofFile (t : Tree) (path : Disk.Path) : Except ConfigFileFault Config :=
  if (t.find path).isOk then
    match t.readText path with
    | .error fault => .error (.notRead path fault)
    | .ok text => (ofToml text).mapError (.notParsed path)
  else .ok standard

/-- Loading gives what is in the file, and changes nothing. -/
theorem load_apply (path : Disk.Path) (t : Tree) : load disk path t = (ofFile t path, t) := by
  rw [load, bind_apply, Tree.disk_isThere, ofFile]
  dsimp only
  by_cases hthere : (t.find path).isOk
  · rw [if_pos hthere, if_pos hthere, bind_apply, Tree.disk_readText]
    dsimp only
    cases t.readText path with
    | error fault => rfl
    | ok text =>
      dsimp only
      cases ofToml text <;> rfl
  · rw [if_neg hthere, if_neg hthere, pure_apply]

/-- The text of a configuration is loaded as that configuration. -/
theorem ofFile_of_find {text : String} (htext : c.toToml? = some text)
    (hfind : t.find path = .ok (.file text.toUTF8)) : ofFile t path = .ok c := by
  have hread : t.readText path = .ok text := by
    rw [Tree.readText, Tree.read, hfind]
    dsimp only
    rw [decodeUtf8?_toUTF8]
  rw [ofFile, if_pos (by rw [hfind]; rfl), hread]
  dsimp only
  rw [ofToml_of_toToml? htext]
  rfl

/-! ### Saving -/

theorem extending_makeParents (path : Disk.Path) : Extending (makeParents disk path) := by
  unfold makeParents
  split
  · exact .pure _
  · refine (Extending.makeDirectories _).bind fun result => ?_
    cases result with
    | ok => exact .pure _
    | error fault => exact .pure _

/-- To save is to make directories, and then to write. -/
theorem save_apply (c : Config) (path : Disk.Path) (t : Tree) :
    c.save disk path t =
      match makeParents disk path t with
      | (.error fault, t₁) => (.error fault, t₁)
      | (.ok (), t₁) =>
        match c.toToml? with
        | none => (.error .notWritable, t₁)
        | some text =>
          match t₁.write path text.toUTF8 with
          | .ok t' => (.ok (), t')
          | .error fault => (.error (.notWritten path fault), t₁) := by
  rw [save, bind_apply]
  rcases makeParents disk path t with ⟨fault | _, t₁⟩
  · rfl
  · dsimp only
    cases c.toToml? with
    | none => rfl
    | some text =>
      dsimp only
      rw [bind_apply]
      dsimp only [disk, Tree.attempt]
      cases t₁.write path text.toUTF8 <;> rfl

/-- Saving either fails after some directories were made, or it makes the directories of the path
and writes the text of the configuration. -/
theorem save_cases (c : Config) (path : Disk.Path) (t : Tree) :
    ∃ t₁, Extends t t₁ ∧
      ((∃ fault, c.save disk path t = (.error fault, t₁)) ∨
        ∃ text t', makeParents disk path t = (.ok (), t₁) ∧ c.toToml? = some text ∧
          t₁.write path text.toUTF8 = .ok t' ∧ c.save disk path t = (.ok (), t')) := by
  have hextends := extending_makeParents path t
  rw [save_apply]
  rcases hmade : makeParents disk path t with ⟨fault | _, t₁⟩
  all_goals rw [hmade] at hextends
  · exact ⟨t₁, hextends, .inl ⟨fault, rfl⟩⟩
  · refine ⟨t₁, hextends, ?_⟩
    cases htext : c.toToml? with
    | none => exact .inl ⟨.notWritable, rfl⟩
    | some text =>
      cases hwrite : t₁.write path text.toUTF8 with
      | error fault => exact .inl ⟨.notWritten path fault, by simp only [hwrite]⟩
      | ok t' => exact .inr ⟨text, t', rfl, rfl, hwrite, by simp only [hwrite]⟩

/-- If a configuration could not be saved, every file is as it was. -/
theorem file?_of_save_error {fault : ConfigFileFault} (h : c.save disk path t = (.error fault, t'))
    (place : Place) : t'.file? place = t.file? place := by
  obtain ⟨t₁, hextends, ⟨_, hsave⟩ | ⟨_, _, -, -, -, hsave⟩⟩ := save_cases c path t
  · rw [h, Prod.mk.injEq] at hsave
    rw [hsave.2]
    exact hextends.file?_eq place
  · rw [h] at hsave
    cases hsave

/-- The text of the configuration is in the file that the path leads to, and the other files are as
they were before. -/
def IsSaved (c : Config) (path : Disk.Path) (before after : Tree) : Prop :=
  ∃ text place, c.toToml? = some text ∧ after.follow path = .ok place ∧
    ∀ other, after.file? other = if other = place then some text.toUTF8 else before.file? other

theorem isSaved_of_save (h : c.save disk path t = (.ok (), t')) : IsSaved c path t t' := by
  obtain ⟨t₁, hextends, ⟨_, hsave⟩ | ⟨text, t₂, -, htext, hwrite, hsave⟩⟩ := save_cases c path t
  · rw [h] at hsave
    cases hsave
  · rw [h, Prod.mk.injEq] at hsave
    obtain ⟨place, -, hfollow, hfiles⟩ := Tree.exists_of_write hwrite
    rw [← hsave.2] at hfollow hfiles
    refine ⟨text, place, htext, hfollow, fun other => ?_⟩
    rw [hfiles, hextends.file?_eq]

theorem IsSaved.ofFile (h : IsSaved c path t t') : ofFile t' path = .ok c := by
  obtain ⟨text, place, htext, hfollow, hfiles⟩ := h
  have hfile : t'.file? place = some text.toUTF8 := by rw [hfiles, if_pos rfl]
  exact ofFile_of_find htext (Tree.find_of_follow hfollow (Tree.file?_eq_some_iff.mp hfile))

/-! ### Files that are replaced -/

/-- The path leads to nothing, but to this place as soon as the directories that it is in were
made. -/
def LeadsBack (t : Tree) (path : Disk.Path) (place : Place) : Prop :=
  (t.find path).isOk = false ∧
    ∃ t₁, makeParents disk path t = (.ok (), t₁) ∧ t₁.follow path = .ok place

/-- Without two dots, no path leads back to a file. -/
theorem not_leadsBack (hrooted : t.IsRooted) (hdots : Disk.upDots ∉ path.pieces)
    (hfile : t.file? place = some data) : ¬LeadsBack t path place := by
  rintro ⟨hfree, t₁, hmade, hfollow⟩
  have hextends := extending_makeParents path t
  rw [hmade] at hextends
  have hnode := Tree.file?_eq_some_iff.mp hfile
  have hfollow := hextends.follow_eq hrooted hdots hfollow (by simp [hnode])
  rw [Tree.find_of_follow hfollow hnode] at hfree
  cases hfree

/-- If a path leads to nothing, saving to it replaces the files that it leads back to, and no
others. -/
theorem replaced_iff (hfree : (t.find path).isOk = false) (hfile : t.file? place = some data) :
    (c.save disk path t).2.file? place ≠ some data ↔
      LeadsBack t path place ∧ ∃ text, c.toToml? = some text ∧ text.toUTF8 ≠ data := by
  constructor
  · intro hchanged
    obtain ⟨t₁, hextends, ⟨fault, hsave⟩ | ⟨text, t', hmade, htext, hwrite, hsave⟩⟩ :=
      save_cases c path t
    · rw [hsave, hextends.file?_eq, hfile] at hchanged
      exact absurd rfl hchanged
    · obtain ⟨written, hfollow, -, hfiles⟩ := Tree.exists_of_write hwrite
      rw [hsave, hfiles] at hchanged
      split at hchanged
      · rename_i hplace
        rw [← hplace] at hfollow
        exact ⟨⟨hfree, t₁, hmade, hfollow⟩, text, htext, fun hsame => hchanged (by rw [hsame])⟩
      · rw [hextends.file?_eq, hfile] at hchanged
        exact absurd rfl hchanged
  · rintro ⟨⟨-, t₁, hmade, hfollow⟩, text, htext, hother⟩
    have hextends := extending_makeParents path t
    rw [hmade] at hextends
    obtain ⟨t', hwrite⟩ : ∃ t', t₁.write path text.toUTF8 = .ok t' :=
      Tree.exists_write hfollow (by rw [hextends.file?_eq, hfile]; rfl)
    obtain ⟨written, hwritten, -, hfiles⟩ := Tree.exists_of_write hwrite
    rw [hfollow, Except.ok.injEq] at hwritten
    have hsave : c.save disk path t = (.ok (), t') := by
      rw [save_apply, hmade]
      simp only [htext, hwrite]
    rw [hsave, hfiles, if_pos hwritten, Ne, Option.some_inj]
    exact hother

end RemoteFiles.Config
