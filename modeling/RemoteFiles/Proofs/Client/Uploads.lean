import RemoteFiles.Proofs.Client.Places
import RemoteFiles.Proofs.Disk.Names

/-!
# Uploads

An upload reads the local file first and asks the service for one thing at most: to write what was
read at the working directory followed by the last name of the local path (`Episode.Uploads`).  The
last name of a path is plain (`Disk.Path.Names.isPlain`), and joining a plain name to a directory
in normal form writes it behind the directory, so the two views of a path agree
(`upload_writes_once`).

Without such a name, and without the content of the file, nothing is asked for and only the number
of the next operation changes.
-/

namespace RemoteFiles

open RemoteFiles.Path (IsPlain)

namespace Episode

/-- The name that an upload has told. -/
def uploadedName? : Episode → Option String
  | ⟨.perform (.upload _), _, _, .ok name, _⟩ => some name
  | _ => none

/-- What passed in an episode, apart from the announcements of its beginning and its end. -/
def Passed (e : Episode) (log : List Interaction) : Prop :=
  ∃ beginning ending, e.log = .announced beginning :: (log ++ [.announced ending])

/-- The episode ended with an error and changed nothing but the number of the next operation. -/
structure Fails (e : Episode) (error : OperationError) : Prop where
  error_eq : e.error? = some error
  after_eq : e.after = { e.before with nextId := e.before.nextId + 1 }

/-- How the upload of a local file goes whose path ends in a name. -/
inductive Uploads (e : Episode) (path : Disk.Path) (name : String) : Prop
  /-- The file cannot be read, and nothing is asked for. -/
  | unreadable (fault : DiskFault) (passed : e.Passed [.fetched path (.error fault)])
      (failed : e.Fails (.localFile fault))
  /-- The file was read, and what was read is written; the name is told if the write is accepted. -/
  | written (data : ByteArray) (nonce : String) (token : Option String) (outcome : Outcome)
      (passed : e.Passed [.fetched path (.ok data), .drew nonce,
        .submitted (.write (e.before.directory ++ name) (some (.ofBytes data))) token outcome])
      (told : e.uploadedName? = if outcome.isOk then some name else none)

end Episode

variable {σ : Type} {h : Host (StateM σ)} {x y : Scene σ} {e : Episode} {path : Disk.Path}

/-- The plan for a local path with a last name. -/
theorem planUpload_of_names {name : String} (hname : path.Names name) (directory : String) :
    Operation.planUpload directory path =
      .readFile path fun data => Operation.finish
        (.write (Path.join directory name) (some (.ofBytes data))) name := by
  rw [Operation.planUpload, Disk.Path.names_iff.mp hname]
  simp only [String.ofList_toList]

/-- The plan for a local path without a last name. -/
theorem planUpload_of_not_names (hname : ∀ name, ¬path.Names name) (directory : String) :
    Operation.planUpload directory path = .fail (.noFileName path) := by
  cases hlast : path.fileName?.bind Text.Glyph.toString? with
  | none => rw [Operation.planUpload, hlast]
  | some cs =>
    have htext : path.Names (String.ofList cs) := by
      rw [Disk.Path.names_iff, hlast, String.toList_ofList]
    exact absurd htext (hname _)

namespace Occurs

theorem fails_of_not_names (occurs : Occurs h x e y) (hop : e.action = .perform (.upload path))
    (hname : ∀ name, ¬path.Names name) : e.Passed [] ∧ e.Fails (.noFileName path) := by
  cases occurs with
  | @performed op log result z course =>
    cases hop
    have hplan : (Operation.upload path).plan x.client.workspace = .fail (.noFileName path) :=
      planUpload_of_not_names hname _
    rw [hplan] at course
    cases course
    exact ⟨⟨_, _, rfl⟩, rfl, rfl⟩
  | _ => cases hop

theorem uploads_of_names (occurs : Occurs h x e y) (hop : e.action = .perform (.upload path))
    (hx : x.client.workspace.IsNormal) {name : String} (hname : path.Names name) :
    e.Uploads path name := by
  cases occurs with
  | @performed op log result z course =>
    cases hop
    have hplan : (Operation.upload path).plan x.client.workspace =
        .readFile path fun data => Operation.finish
          (.write (x.client.directory ++ name) (some (.ofBytes data))) name := by
      rw [Client.directory, ← hx.directory.join_of_isPlain hname.isPlain]
      exact planUpload_of_names hname _
    rw [hplan] at course
    -- the file comes first, so the write has its content in every course that gets that far
    cases course with
    | unreadable read => exact .unreadable _ ⟨_, _, rfl⟩ ⟨rfl, rfl⟩
    | fetched read rest =>
      cases rest with
      | refused sent => exact .written _ _ _ _ ⟨_, _, rfl⟩ rfl
      | accepted sent rest =>
        cases rest with
        | done => exact .written _ _ _ _ ⟨_, _, rfl⟩ rfl
  | _ => cases hop

end Occurs

/-- **Uploads**: in every run, from any directory, an upload of a local path that ends in a name
first reads the file.  If that fails, the error is that of the local file and nothing is asked for;
else just what was read is written at the working directory followed by this name, which is plain,
and the name is told if the write is accepted.  A path without a last name gives an error of its
own, and nothing is read or asked for.  Every path that is a text is of one of these two kinds. -/
theorem upload_writes_once (h : Host (StateM σ)) (directory : String) (s : σ)
    (actions : List Action) {earlier later : List Episode} {e : Episode} {path : Disk.Path}
    (hrun : (run h actions ⟨.startingIn directory, s⟩).1 = earlier ++ e :: later)
    (hop : e.action = .perform (.upload path)) :
    (∀ name, path.Names name → IsPlain name.toList ∧ e.Uploads path name) ∧
      ((path.IsNameless ∨ ∀ name, ¬path.Names name) →
        e.Passed [] ∧ e.Fails (.noFileName path)) ∧
      ∀ text, path = .ofString text → path.IsNameless ∨ ∃ name, path.Names name := by
  obtain ⟨x, y, occurs, hnormal⟩ := run_invariant h (P := fun _ c => c.workspace.IsNormal)
    (fun hx occurs => occurs.isNormal hx) actions ⟨.startingIn directory, s⟩ []
    (Client.isNormal_startingIn directory) hrun
  refine ⟨fun name hname => ⟨hname.isPlain, occurs.uploads_of_names hop hnormal hname⟩,
    fun hnone => occurs.fails_of_not_names hop ?_, ?_⟩
  · obtain hnameless | hnone := hnone
    · exact fun name => hnameless.not_names
    · exact hnone
  · rintro text rfl
    exact Disk.Path.nameless_or_names text

/-- A host on which every local file holds one byte. -/
def byteHost : Host (StateM Unit) :=
  { Host.constant (.ok .empty) (.ok none) with
    disk := { (Host.constant (.ok .empty) (.ok none)).disk with
      read := fun _ => pure (.ok ⟨#[7]⟩) } }

/-- The name behind a slash and before a dot that leads nowhere is taken; behind two dots there is
none. -/
theorem upload_writes_once_of_winding :
    ∃ e₁ e₂, (run byteHost [.perform (.upload (.ofString "../a b//c/.")),
          .perform (.upload (.ofString "c/.././"))] ⟨.startingIn "x/../y", ()⟩).1 =
        [e₁] ++ e₂ :: [] ∧
      e₁.before.directory = "/y/" ∧ e₁.Uploads (.ofString "../a b//c/.") "c" ∧
      e₂.Passed [] ∧ e₂.Fails (.noFileName (.ofString "c/.././")) := by
  obtain ⟨e₁, e₂, hrun, hfirst, hsecond, hdirectory⟩ : ∃ e₁ e₂,
      (run byteHost [.perform (.upload (.ofString "../a b//c/.")),
          .perform (.upload (.ofString "c/.././"))] ⟨.startingIn "x/../y", ()⟩).1 =
        [e₁] ++ e₂ :: [] ∧
      e₁.action = .perform (.upload (.ofString "../a b//c/.")) ∧
      e₂.action = .perform (.upload (.ofString "c/.././")) ∧
      e₁.before.directory = "/y/" :=
    ⟨_, _, rfl, rfl, rfl, by decide +kernel⟩
  have hname : (Disk.Path.ofString "../a b//c/.").Names "c" :=
    Disk.Path.names_iff.mpr (by decide)
  have hnone : (Disk.Path.ofString "c/.././").IsNameless :=
    Disk.Path.fileName?_eq_none_iff.mp (by decide)
  have hrun' : (run byteHost [.perform (.upload (.ofString "../a b//c/.")),
      .perform (.upload (.ofString "c/.././"))] ⟨.startingIn "x/../y", ()⟩).1 =
        [] ++ e₁ :: [e₂] := hrun
  exact ⟨e₁, e₂, hrun, hdirectory,
    ((upload_writes_once _ _ _ _ hrun' hfirst).1 "c" hname).2,
    (upload_writes_once _ _ _ _ hrun hsecond).2.1 (.inl hnone)⟩

end RemoteFiles
