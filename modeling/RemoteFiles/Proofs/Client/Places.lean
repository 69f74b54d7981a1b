import RemoteFiles.Proofs.Client.Run
import RemoteFiles.Proofs.Path.Joins

/-!
# Where a client stands and what it asks for

Whatever names and paths a client is given, it stands in a directory in normal form, and every
request is made on a path that is written from plain names (`targets_stay_normal`).  A target is
made from the working directory when an operation begins, except that a paste deletes at the origin
of what it pastes: that path has waited on the clipboard, across all changes of directory.  So the
invariant of runs is about the directory and the origins together (`Workspace.IsNormal`).
-/

namespace RemoteFiles

open RemoteFiles.Path (IsNormalDirectory IsTarget IsWritten)

/-- The working directory is in normal form, and everything on the clipboard comes from a path that
is written from plain names. -/
structure Workspace.IsNormal (w : Workspace) : Prop where
  directory : IsNormalDirectory w.directory
  origins : ∀ clipping ∈ w.clipboard.toList, ∀ source, clipping.origin = some source →
    IsWritten source

/-! ### Workspaces -/

namespace Workspace.IsNormal

variable {w : Workspace} (hw : w.IsNormal)
include hw

/-- Another directory in normal form. -/
theorem withDirectory {directory : String} (h : IsNormalDirectory directory) :
    Workspace.IsNormal { w with directory := directory } :=
  ⟨h, hw.origins⟩

/-- A clipboard with nothing on it that was not there before. -/
theorem withClipboard {b : Clipboard} (h : b.toList ⊆ w.clipboard.toList) :
    Workspace.IsNormal { w with clipboard := b } :=
  ⟨hw.directory, fun clipping hmem => hw.origins clipping (h hmem)⟩

/-- One more clipping behind the others, from a path that is written from plain names. -/
theorem enqueue {clipping : Clipping}
    (h : ∀ source, clipping.origin = some source → IsWritten source) :
    Workspace.IsNormal { w with clipboard := w.clipboard.enqueue clipping } := by
  refine ⟨hw.directory, fun clipping' hmem => ?_⟩
  rw [Clipboard.toList_enqueue, List.mem_append, List.mem_singleton] at hmem
  rcases hmem with hmem | rfl
  · exact hw.origins clipping' hmem
  · exact h

end Workspace.IsNormal

/-! ### The plans -/

/-- Each request of a plan is made on a path that is written from plain names, and the workspace is
normal when the plan ends. -/
abbrev Plan.StaysNormal {α : Type} (past : List Interaction) (w : Workspace) (p : Plan α) : Prop :=
  p.Meets (fun _ r => IsWritten r.target) (fun _ _ w' _ => w'.IsNormal) past w

namespace Operation

variable {α : Type} {w : Workspace} {past : List Interaction}

/-- A last step that makes one request on a target. -/
theorem single_staysNormal {target : String} (htarget : IsTarget target) (r : String → Request)
    (hr : ∀ target, (r target).target = target) (a : Payload → α) (hw : w.IsNormal) :
    (Plan.submit (r target) id fun body => .done (a body)).StaysNormal past w := by
  refine .submit (fun _ => ?_) (fun _ _ _ _ => hw) fun _ _ _ => .done fun _ => hw
  rw [hr]
  exact htarget.isWritten

theorem planList_staysNormal {directory : String} (h : IsTarget directory) (hw : w.IsNormal) :
    (planList directory).StaysNormal past w := by
  refine .submit (fun _ => h.isWritten) (fun _ _ _ _ => hw) fun nonce token body => ?_
  split
  · exact .done fun _ => hw
  · exact .fail fun _ => hw

theorem planCopy_staysNormal (name : String) (newName : Option String) (isCut : Bool)
    (hw : w.IsNormal) :
    (planCopy w.directory name newName isCut).StaysNormal past w := by
  have hsource : IsTarget (Path.join w.directory name) := .entry w.directory name
  unfold planCopy
  generalize Path.join w.directory name = source at hsource ⊢
  refine .submit (fun _ => hsource.isWritten) (fun _ _ _ _ => hw) fun nonce token content => ?_
  cases newName with
  | none =>
    -- the path that was read is the origin of what is queued
    have horigin : ∀ origin, some source = some origin → IsWritten origin := by
      intro origin heq
      rw [← Option.some.inj heq]
      exact hsource.isWritten
    exact .change (.done fun _ => hw.enqueue horigin)
  | some newName =>
    have hdestination : IsTarget (Path.join w.directory newName) := .entry w.directory newName
    dsimp only
    generalize Path.join w.directory newName = destination at hdestination ⊢
    refine .submit (fun _ => hdestination.isWritten) (fun _ _ _ _ => hw)
      fun nonce' token' receipt => ?_
    split
    · exact single_staysNormal hsource .delete (fun _ => rfl) _ hw
    · exact .done fun _ => hw

theorem planPaste_staysNormal (hw : w.IsNormal) : (planPaste w).StaysNormal past w := by
  unfold planPaste
  split
  · exact .done fun _ => hw
  · rename_i clipping rest hdequeue
    have hrestore : rest.restore clipping = w.clipboard := Clipboard.restore_of_dequeue? hdequeue
    have hlist : w.clipboard.toList = clipping :: rest.toList := by
      rw [← hrestore, Clipboard.toList_restore]
    have hrest : Workspace.IsNormal { w with clipboard := rest } :=
      hw.withClipboard (by rw [hlist]; exact List.subset_cons_self _ _)
    have horigin := hw.origins clipping (by rw [hlist]; exact List.mem_cons_self)
    have hdestination : IsTarget (Path.join w.directory clipping.name) :=
      .entry w.directory clipping.name
    generalize Path.join w.directory clipping.name = destination at hdestination ⊢
    refine .change (.submit (fun _ => hdestination.isWritten) (fun _ _ _ _ => ?_)
      fun nonce token receipt => ?_)
    · -- the write was refused, and the clipping is back where it was
      exact hw.withClipboard (by rw [hrestore]; exact List.Subset.refl _)
    · split
      · rename_i source hcut hsome
        have hsource : IsTarget source := Path.isTarget_iff.mpr (horigin source hsome)
        split
        · exact .done fun _ => hrest
        · exact single_staysNormal hsource .delete (fun _ => rfl) _ hrest
      · exact .done fun _ => hrest

theorem planMove_staysNormal {source destination : String} (hsource : IsTarget source)
    (hdestination : IsTarget destination) (hw : w.IsNormal) :
    (planMove source destination).StaysNormal past w := by
  unfold planMove
  split
  · exact .done fun _ => hw
  · refine .submit (fun _ => hsource.isWritten) (fun _ _ _ _ => hw) fun nonce token content => ?_
    refine .submit (fun _ => hdestination.isWritten) (fun _ _ _ _ => hw)
      fun nonce' token' receipt => ?_
    exact single_staysNormal hsource .delete (fun _ => rfl) _ hw

theorem planUpload_staysNormal (path : Disk.Path) (hw : w.IsNormal) :
    (planUpload w.directory path).StaysNormal past w := by
  unfold planUpload
  split
  · exact .fail fun _ => hw
  · refine .readFile (fun _ _ => hw) fun data => ?_
    exact single_staysNormal (.entry w.directory _) (.write · (some (.ofBytes data)))
      (fun _ => rfl) _ hw

/-- Every operation makes its requests on paths that are written from plain names, and leaves a
normal workspace. -/
theorem plan_staysNormal (op : Operation) (hw : w.IsNormal) : (op.plan w).StaysNormal past w := by
  cases op with
  | list path =>
    cases path with
    | none => exact planList_staysNormal hw.directory.isTarget hw
    | some path => exact planList_staysNormal (.directory w.directory path) hw
  | changeDirectory path =>
    have hnext := Path.isNormalDirectory_resolve w.directory path
    exact .change (.done fun _ => hw.withDirectory hnext)
  | copy name newName isCut => exact planCopy_staysNormal name newName isCut hw
  | paste => exact planPaste_staysNormal hw
  | move oldName newName =>
    exact planMove_staysNormal (.entry w.directory oldName) (.entry w.directory newName) hw
  | upload path => exact planUpload_staysNormal path hw
  | remove name =>
    exact single_staysNormal (.entry w.directory name) .delete (fun _ => rfl) _ hw
  | makeDirectory name =>
    exact single_staysNormal (.entryDirectory w.directory (name.getD "")) (.write · none)
      (fun _ => rfl) _ hw
  | uploadBytes name data =>
    exact single_staysNormal (.entry w.directory name) (.write · (some (.ofBytes data)))
      (fun _ => rfl) _ hw
  | download name =>
    exact single_staysNormal (.entry w.directory name) .read (fun _ => rfl) _ hw
  | update name content =>
    exact single_staysNormal (.entry w.directory name) (.update · content) (fun _ => rfl) _ hw

end Operation

/-! ### The runs -/

variable {σ : Type} {h : Host (StateM σ)} {x y : Scene σ} {e : Episode}

theorem Client.isNormal_startingIn (directory : String) :
    (Client.startingIn directory).workspace.IsNormal :=
  ⟨Path.isNormalDirectory_normalize directory, fun _ hmem => absurd hmem List.not_mem_nil⟩

theorem Occurs.after_eq (occurs : Occurs h x e y) : e.after = y.client := by
  cases occurs <;> rfl

/-- Whatever occurs in a normal workspace leaves a normal one. -/
theorem Occurs.isNormal (occurs : Occurs h x e y) (hx : x.client.workspace.IsNormal) :
    y.client.workspace.IsNormal := by
  cases occurs with
  | @performed op log result y course =>
    have hplan : (op.plan x.client.workspace).StaysNormal (x.begins op) x.client.workspace :=
      Operation.plan_staysNormal op hx
    exact course.end_of_meets hplan
  | cleared => exact hx.withClipboard (List.nil_subset _)
  | inquired asked | inquiredQuietly asked =>
    have hworkspace := asked.workspace_eq
    exact hworkspace ▸ hx
  | challenged | tokenMade => exact hx

/-- In a normal workspace, requests are made on paths that are written from plain names. -/
theorem Occurs.isWritten_target (occurs : Occurs h x e y) (hx : x.client.workspace.IsNormal)
    {r : Request} {token : Option String} {outcome : Outcome}
    (hmem : .submitted r token outcome ∈ e.log) : IsWritten r.target := by
  obtain ⟨before, after, hlog⟩ := List.append_of_mem hmem
  cases haction : e.action with
  | perform op =>
    exact occurs.request_of_meets haction (Operation.plan_staysNormal op hx) hlog
  | _ =>
    -- nothing else sends requests
    cases occurs <;> simp at haction hmem

/-- **Places**: in every run, from any directory and with any names, the client stands in a
directory in normal form before and after each episode, what waits on its clipboard comes from paths
that are written from plain names, and so is the target of every request written. -/
theorem targets_stay_normal (h : Host (StateM σ)) (directory : String) (s : σ)
    (actions : List Action) :
    (run h actions ⟨.startingIn directory, s⟩).2.client.workspace.IsNormal ∧
      ∀ e ∈ (run h actions ⟨.startingIn directory, s⟩).1,
        e.before.workspace.IsNormal ∧ e.after.workspace.IsNormal ∧
          ∀ r token outcome, .submitted r token outcome ∈ e.log → IsWritten r.target := by
  have hstart := Client.isNormal_startingIn directory
  constructor
  · exact run_invariant_end h (P := fun _ c => c.workspace.IsNormal)
      (fun hx occurs => occurs.isNormal hx) actions ⟨.startingIn directory, s⟩ [] hstart
  · intro e hmem
    obtain ⟨earlier, later, hrun⟩ := List.append_of_mem hmem
    obtain ⟨x, y, occurs, hx⟩ := run_invariant h (P := fun _ c => c.workspace.IsNormal)
      (fun hx occurs => occurs.isNormal hx) actions ⟨.startingIn directory, s⟩ [] hstart hrun
    refine ⟨?_, ?_, fun r token outcome => occurs.isWritten_target hx⟩
    · rw [occurs.before_eq]
      exact hx
    · rw [occurs.after_eq]
      exact occurs.isNormal hx

/-- What was cut by a winding path is deleted by a straight one, though the client has moved on. -/
theorem targets_stay_normal_of_winding :
    ∃ e₁ e₂ e₃ x token outcome,
      run (.constant (.ok .empty) (.ok none))
          [.perform (.copy "x/../y//" none true), .perform (.changeDirectory "/d/./e"),
            .perform .paste]
          ⟨.startingIn "b/.././/c", ()⟩ = ([e₁, e₂, e₃], x) ∧
        e₃ ∈ [e₁, e₂, e₃] ∧ e₃.before.directory = "/d/e/" ∧
        .submitted (.delete "/c/y/") token outcome ∈ e₃.log ∧
        IsNormalDirectory "/d/e/" ∧ IsWritten "/c/y/" := by
  obtain ⟨e₁, e₂, e₃, x, hrun, hdirectory, hlog⟩ : ∃ e₁ e₂ e₃ x,
      run (.constant (.ok .empty) (.ok none))
          [.perform (.copy "x/../y//" none true), .perform (.changeDirectory "/d/./e"),
            .perform .paste]
          ⟨.startingIn "b/.././/c", ()⟩ = ([e₁, e₂, e₃], x) ∧
        e₃.before.directory = "/d/e/" ∧
        .submitted (.delete "/c/y/") none (.ok .empty) ∈ e₃.log :=
    ⟨_, _, _, _, rfl, by decide +kernel, by decide +kernel⟩
  have hall := (targets_stay_normal (.constant (.ok .empty) (.ok none)) "b/.././/c" ()
    [.perform (.copy "x/../y//" none true), .perform (.changeDirectory "/d/./e"),
      .perform .paste]).2
  rw [hrun] at hall
  have hmem : e₃ ∈ [e₁, e₂, e₃] := by simp
  obtain ⟨hbefore, -, htargets⟩ := hall e₃ hmem
  refine ⟨e₁, e₂, e₃, x, none, .ok .empty, hrun, hmem, hdirectory, hlog, ?_, ?_⟩
  · exact hdirectory ▸ hbefore.directory
  · exact htargets _ _ _ hlog

end RemoteFiles
