import RemoteFiles.Proofs.Client.Schedule
import RemoteFiles.Proofs.Path.Joins

/-!
# Names that lead to one place

Three paths can be made of a name seen from a directory: that of the directory that it names, that
of an entry, and that of an entry written as a directory.  They have the same segments, and the root
and the slash at the end are all in which they could differ.  `paths_agree` says that the first and
the last are the same, so that a client that makes a directory by a name goes there and lists it by
that name; that the path of an entry is this one, perhaps without its last slash; and that such a
path does not depend on the directory any more.

A path is written with a last slash where its name was, and at the root
(`isDirectoryForm_join_iff`).  It stays as it is because it is a target, and a target begins at the
root and has nothing in it that could be dropped (`IsWritten.join_eq`).
-/

namespace RemoteFiles

namespace Path

variable {dir name : String}

/-! ### The slash at the end -/

theorem join_eq_root_iff (dir name : String) :
    join dir name = "/" ↔ segments (combine dir name) = [] := by
  constructor
  · intro hroot
    rw [← joinDirectory_eq_root_iff, joinDirectory, hroot]
    rfl
  · intro hnil
    rw [join, hnil]
    rfl

/-- A path of an entry has a slash at its end if its name was written with one, or at the root. -/
theorem isDirectoryForm_join_iff (dir name : String) :
    isDirectoryForm (join dir name) = true ↔ IsDirectoryName name ∨ join dir name = "/" := by
  rw [isDirectoryForm_join, join_eq_root_iff, or_comm]

/-- The directory that a name leads to is its entry, with a slash where there was none. -/
theorem resolve_eq_join (dir name : String) :
    resolve dir name =
      if IsDirectoryName name ∨ join dir name = "/" then join dir name
      else join dir name ++ "/" := by
  rw [← joinDirectory_eq_resolve, joinDirectory]
  simp only [isDirectoryForm_join_iff]

end Path

/-! ### What is asked for -/

variable {σ α : Type}

/-- A plan that begins with a request sends it. -/
theorem Course.exchanges_of_submit {h : Host (StateM σ)} {r : Request}
    {undo : Workspace → Workspace} {next : Payload → Plan α} {x y : Scene σ}
    {log : List Interaction} {result : Except OperationError α}
    (hc : Course h (.submit r undo next) x log result y) :
    ∃ outcome later, exchanges log = (r, outcome) :: later := by
  cases hc with
  | accepted => exact ⟨_, _, rfl⟩
  | refused => exact ⟨_, _, rfl⟩

/-- An operation for which one request is scheduled sends it if its plan begins with one. -/
theorem Occurs.sent_eq {h : Host (StateM σ)} {op : Operation} {x y : Scene σ} {c : Client}
    {log : List Interaction} {result : Except OperationError op.Result} {r first : Request}
    {undo : Workspace → Workspace} {next : Payload → Plan op.Result}
    (occurs : Occurs h x ⟨.perform op, x.client, log, result, c⟩ y)
    (hplan : op.plan x.client.workspace = .submit first undo next)
    (hschedule : ∀ content data, op.schedule x.client.workspace content data = [r]) :
    (exchanges log).map Prod.fst = [r] := by
  have hsent : ∃ outcome later, exchanges log = (first, outcome) :: later := by
    cases occurs with
    | performed course =>
      rw [hplan] at course
      rw [← List.cons_append, exchanges_announced]
      exact course.exchanges_of_submit
  obtain ⟨outcome, later, hsent⟩ := hsent
  have hprefix := occurs.conforms.1.in_order
  rw [Operation.scheduled, hschedule, hsent, List.map_cons, List.cons_prefix_cons,
    List.prefix_nil] at hprefix
  rw [hsent, List.map_cons, hprefix.1, hprefix.2]

theorem sent_episode_eq (h : Host (StateM σ)) {op : Operation} {x : Scene σ} {r first : Request}
    {undo : Workspace → Workspace} {next : Payload → Plan op.Result}
    (hplan : op.plan x.client.workspace = .submit first undo next)
    (hschedule : ∀ content data, op.schedule x.client.workspace content data = [r]) :
    (exchanges (episode h (.perform op) x).1.log).map Prod.fst = [r] := by
  obtain ⟨log, result, y, hepisode, occurs, -⟩ := episode_spec h (.perform op) x
  rw [hepisode]
  exact occurs.sent_eq hplan hschedule

open RemoteFiles.Path in
/-- **One name, one place**: for all directories and names, whatever dots, slashes and empty parts
they have, the directory of a name and its entry written as a directory are the same path; the path
of the entry has a slash at its end exactly if the name is empty or has one, or at the root, and
otherwise lacks nothing but the slash; and from anywhere it is the path of itself.  So a client
makes by a name the directory that it lists by the name, and to which it goes. -/
theorem paths_agree :
    (∀ dir name : String, joinDirectory dir name = resolve dir name ∧
      resolve dir name =
        (if IsDirectoryName name ∨ join dir name = "/" then join dir name
          else join dir name ++ "/") ∧
      (isDirectoryForm (join dir name) = true ↔ IsDirectoryName name ∨ join dir name = "/")) ∧
    (∀ dir name elsewhere : String, join elsewhere (join dir name) = join dir name) ∧
    ∀ {σ : Type} (h : Host (StateM σ)) (x : Scene σ) (name : String),
      let place := resolve x.client.directory name
      let sent := fun op => (exchanges (episode h (.perform op) x).1.log).map Prod.fst
      sent (.makeDirectory (some name)) = [.write place none] ∧
        sent (.list (some name)) = [.read place] ∧
        (episode h (.perform (.changeDirectory name)) x).2.client.directory = place := by
  refine ⟨fun dir name => ?_, fun dir name elsewhere => ?_, fun h x name => ⟨?_, ?_, rfl⟩⟩
  · exact ⟨joinDirectory_eq_resolve dir name, resolve_eq_join dir name,
      isDirectoryForm_join_iff dir name⟩
  · exact (isWritten_join dir name).join_eq elsewhere
  · refine sent_episode_eq h rfl fun content data => ?_
    rw [← joinDirectory_eq_resolve]
    rfl
  · exact sent_episode_eq h rfl fun content data => rfl

/-- A name that climbs above the root and comes back to it. -/
example : Path.join "/a/" "../../." = "/" ∧ Path.joinDirectory "/a/" "../../." = "/" ∧
    Path.join "/a/" "b//../c" = "/a/c" ∧ Path.resolve "/a/" "b//../c" = "/a/c/" := by decide

end RemoteFiles
