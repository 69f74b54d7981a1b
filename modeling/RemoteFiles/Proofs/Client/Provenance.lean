import RemoteFiles.Proofs.Client.Run

/-!
# Where deleted content went

Copying, pasting and moving delete only what they have just written elsewhere, and what they
wrote is what was read at the place that they delete (`delete_after_write`).  For a paste the
reading is done by an earlier operation, the one that put the content on the clipboard; that
everything on the clipboard has such an operation behind it (`AllQueued`) is the invariant of
runs that carries the proof.

Each operation is looked at once, by a condition on its plan: `plan_deletes` says what its deletes
have before them and what it does to the clipboard.
-/

namespace RemoteFiles

/-- A read of a path was answered with a content. -/
def Fetched (source : String) (content : Payload) (log : List Interaction) : Prop :=
  ∃ token, .submitted (.read source) token (.ok content) ∈ log

/-- The operations that may delete a place after writing another one. -/
def Operation.isTransfer : Operation → Bool
  | .copy _ _ _ | .paste | .move _ _ => true
  | _ => false

/-- The episode copied or cut a file to the clipboard: it read the content at the origin of the
clipping and put the clipping behind all that waited. -/
structure Episode.Queues (e : Episode) (clipping : Clipping) : Prop where
  action_eq : ∃ name, e.action = .perform (.copy name none clipping.isCut)
  completed : e.error? = none
  enqueued : e.after.clipboard = e.before.clipboard.enqueue clipping
  fetched : ∃ source, clipping.origin = some source ∧ Fetched source clipping.content e.log

/-- The clipping is the oldest on the clipboard and holds this content of this path. -/
structure Clipboard.Offers (b : Clipboard) (clipping : Clipping) (source : String)
    (content : Payload) : Prop where
  oldest : ∃ rest, b.dequeue? = some (clipping, rest)
  origin_eq : clipping.origin = some source
  content_eq : clipping.content = content

/-! ### The plans -/

/-- Where a transfer begun in the workspace `w` has the content of a path from: a paste takes it
from the clipboard, the others have read it. -/
def Operation.Took (w : Workspace) (source : String) (content : Payload)
    (past : List Interaction) : Operation → Prop
  | .paste => ∃ clipping, w.clipboard.Offers clipping source content
  | _ => Fetched source content past

/-- Before a transfer deletes a path, it has written what it took from there to another one. -/
def Operation.Deletes (op : Operation) (w : Workspace) (past : List Interaction) (r : Request) :
    Prop :=
  op.isTransfer = true → ∀ source, r = .delete source →
    ∃ start rest destination content token receipt, destination ≠ source ∧
      past = start ++ .submitted (.write destination (some content)) token (.ok receipt) :: rest ∧
      op.Took w source content start

/-- What an operation begun in the workspace `w` has done to the clipboard: it left nothing on
it that was not there, or it was a copy that put there what it had read. -/
def Operation.KeepsClipboard (op : Operation) (w : Workspace) (past : List Interaction)
    (result : Except OperationError op.Result) (w' : Workspace) (_ : Auth.Session) : Prop :=
  w'.clipboard.toList ⊆ w.clipboard.toList ∨
    ∃ name clipping source, op = .copy name none clipping.isCut ∧ result.isOk = true ∧
      w'.clipboard = w.clipboard.enqueue clipping ∧ clipping.origin = some source ∧
      Fetched source clipping.content past

theorem toList_of_dequeue? {b rest : Clipboard} {clipping : Clipping}
    (h : b.dequeue? = some (clipping, rest)) : b.toList = clipping :: rest.toList := by
  rw [← Clipboard.restore_of_dequeue? h, Clipboard.toList_restore]

theorem Clipboard.Offers.mem {b : Clipboard} {clipping : Clipping} {source : String}
    {content : Payload} (offers : b.Offers clipping source content) : clipping ∈ b.toList := by
  obtain ⟨rest, hdequeue⟩ := offers.oldest
  rw [toList_of_dequeue? hdequeue]
  exact List.mem_cons_self

section
variable {op : Operation} {w w' : Workspace} {past : List Interaction}

theorem keepsClipboard_same (result : Except OperationError op.Result) (session : Auth.Session)
    (h : w'.clipboard = w.clipboard) : op.KeepsClipboard w past result w' session :=
  .inl (by rw [h]; exact List.Subset.refl _)

/-- A request that is no delete needs nothing before it. -/
theorem deletes_of_ne {r : Request} (h : ∀ source, r ≠ .delete source) : op.Deletes w past r :=
  fun _ source hr => absurd hr (h source)

theorem deletes_of_not_transfer {r : Request} (h : op.isTransfer = false) :
    op.Deletes w past r :=
  fun htransfer => absurd htransfer (by rw [h]; decide)

theorem Operation.Took.append {source : String} {content : Payload}
    (h : op.Took w source content past) (more : List Interaction) :
    op.Took w source content (past ++ more) := by
  cases op with
  | paste => exact h
  | _ =>
    obtain ⟨token, hread⟩ := h
    exact ⟨token, List.mem_append_left _ hread⟩

theorem deletes_after_write {source destination nonce nonce' : String} {content receipt : Payload}
    {token : Option String} (hne : destination ≠ source)
    (htook : op.Took w source content past) :
    op.Deletes w
      (past ++ [.drew nonce, .submitted (.write destination (some content)) token (.ok receipt)] ++
        [.drew nonce'])
      (.delete source) := by
  intro _ source' hr
  obtain rfl : source = source' := by injection hr
  refine ⟨past ++ [.drew nonce], [.drew nonce'], destination, content, token, receipt, hne, ?_,
    htook.append _⟩
  simp

/-- A plan of one request keeps the clipboard; only its deletes need something before them. -/
theorem finish_deletes (r : Request) (a : op.Result)
    (hr : ∀ nonce, op.Deletes w (past ++ [.drew nonce]) r)
    (h : w'.clipboard.toList ⊆ w.clipboard.toList) :
    (Operation.finish r a).Meets (op.Deletes w) (op.KeepsClipboard w) past w' :=
  .submit hr (fun _ _ _ _ => .inl h) fun _ _ _ => .done fun _ => .inl h

end

theorem planList_deletes (directory : String) (path : Option String) (w : Workspace)
    (past : List Interaction) :
    (Operation.planList directory).Meets (Operation.Deletes (.list path) w)
      (Operation.KeepsClipboard (.list path) w) past w := by
  refine .submit (fun _ => deletes_of_not_transfer rfl)
    (fun _ _ _ _ => keepsClipboard_same _ _ rfl) fun nonce token body => ?_
  split
  · exact .done fun _ => keepsClipboard_same _ _ rfl
  · exact .fail fun _ => keepsClipboard_same _ _ rfl

theorem planCopy_deletes (name : String) (newName : Option String) (isCut : Bool) (w : Workspace)
    (past : List Interaction) :
    (Operation.planCopy w.directory name newName isCut).Meets
      (Operation.Deletes (.copy name newName isCut) w)
      (Operation.KeepsClipboard (.copy name newName isCut) w) past w := by
  unfold Operation.planCopy
  generalize Path.join w.directory name = source
  refine .submit (fun _ => deletes_of_ne (by simp)) (fun _ _ _ _ => keepsClipboard_same _ _ rfl)
    fun nonce token content => ?_
  cases newName with
  | none =>
    refine .change (.done fun session => ?_)
    exact .inr ⟨name, _, source, rfl, rfl, rfl, rfl, token, by simp⟩
  | some newName =>
    generalize Path.join w.directory newName = destination
    refine .submit (fun _ => deletes_of_ne (by simp))
      (fun _ _ _ _ => keepsClipboard_same _ _ rfl) fun nonce' token' receipt => ?_
    split_ifs with hcut
    · refine finish_deletes _ _ (fun _ => ?_) (List.Subset.refl _)
      exact deletes_after_write hcut.2 ⟨token, by simp⟩
    · exact .done fun _ => keepsClipboard_same _ _ rfl

theorem planPaste_deletes (w : Workspace) (past : List Interaction) :
    (Operation.planPaste w).Meets (Operation.Deletes .paste w) (Operation.KeepsClipboard .paste w)
      past w := by
  unfold Operation.planPaste
  split
  · exact .done fun _ => keepsClipboard_same _ _ rfl
  · rename_i clipping rest hdequeue
    generalize Path.join w.directory clipping.name = destination
    have hrest : rest.toList ⊆ w.clipboard.toList := by
      rw [toList_of_dequeue? hdequeue]
      exact List.subset_cons_self _ _
    refine .change (.submit (fun _ => deletes_of_ne (by simp)) (fun _ _ _ _ => ?_)
      fun nonce token receipt => ?_)
    · -- the write was refused, and the clipping is back where it was
      exact keepsClipboard_same _ _ (Clipboard.restore_of_dequeue? hdequeue)
    · split
      · rename_i source hcut horigin
        split_ifs with hsame
        · exact .done fun _ => .inl hrest
        · refine finish_deletes _ _ (fun _ => ?_) hrest
          exact deletes_after_write (Ne.symm hsame) ⟨clipping, ⟨rest, hdequeue⟩, horigin, rfl⟩
      · exact .done fun _ => .inl hrest

theorem planMove_deletes (source destination oldName newName : String) (w : Workspace)
    (past : List Interaction) :
    (Operation.planMove source destination).Meets
      (Operation.Deletes (.move oldName newName) w)
      (Operation.KeepsClipboard (.move oldName newName) w) past w := by
  unfold Operation.planMove
  split_ifs with hsame
  · exact .done fun _ => keepsClipboard_same _ _ rfl
  · refine .submit (fun _ => deletes_of_ne (by simp))
      (fun _ _ _ _ => keepsClipboard_same _ _ rfl) fun nonce token content => ?_
    refine .submit (fun _ => deletes_of_ne (by simp))
      (fun _ _ _ _ => keepsClipboard_same _ _ rfl) fun nonce' token' receipt => ?_
    refine finish_deletes _ _ (fun _ => ?_) (List.Subset.refl _)
    exact deletes_after_write (Ne.symm hsame) ⟨token, by simp⟩

theorem planUpload_deletes (directory : String) (path : Disk.Path) (w : Workspace)
    (past : List Interaction) :
    (Operation.planUpload directory path).Meets (Operation.Deletes (.upload path) w)
      (Operation.KeepsClipboard (.upload path) w) past w := by
  unfold Operation.planUpload
  split
  · exact .fail fun _ => keepsClipboard_same _ _ rfl
  · refine .readFile (fun _ _ => keepsClipboard_same _ _ rfl) fun data => ?_
    exact finish_deletes _ _ (fun _ => deletes_of_not_transfer rfl) (List.Subset.refl _)

theorem plan_deletes (op : Operation) (w : Workspace) (past : List Interaction) :
    (op.plan w).Meets (op.Deletes w) (op.KeepsClipboard w) past w := by
  cases op with
  | list path => exact planList_deletes _ path w past
  | changeDirectory path => exact .change (.done fun _ => keepsClipboard_same _ _ rfl)
  | copy name newName isCut => exact planCopy_deletes name newName isCut w past
  | paste => exact planPaste_deletes w past
  | move oldName newName => exact planMove_deletes _ _ oldName newName w past
  | upload path => exact planUpload_deletes _ path w past
  | remove name | makeDirectory name | uploadBytes name data =>
    exact finish_deletes _ _ (fun _ => deletes_of_not_transfer rfl) (List.Subset.refl _)
  | download name | update name content =>
    exact .submit (fun _ => deletes_of_not_transfer rfl)
      (fun _ _ _ _ => keepsClipboard_same _ _ rfl)
      fun _ _ _ => .done fun _ => keepsClipboard_same _ _ rfl

/-! ### The runs -/

/-- Everything on the clipboard was put there by an earlier episode that had read it. -/
def AllQueued (past : List Episode) (c : Client) : Prop :=
  ∀ clipping ∈ c.clipboard.toList, ∃ e ∈ past, e.Queues clipping

namespace AllQueued

variable {σ : Type} {h : Host (StateM σ)} {past : List Episode} {x y : Scene σ} {e : Episode}

theorem startingIn (directory : String) : AllQueued [] (.startingIn directory) := by
  intro clipping hmem
  exact absurd hmem List.not_mem_nil

/-- An episode after which nothing is on the clipboard that was not there before. -/
theorem append_of_subset {c c' : Client} (hq : AllQueued past c)
    (hsub : c'.clipboard.toList ⊆ c.clipboard.toList) (e : Episode) :
    AllQueued (past ++ [e]) c' := by
  intro clipping hmem
  obtain ⟨e', hpast, queues⟩ := hq clipping (hsub hmem)
  exact ⟨e', List.mem_append_left _ hpast, queues⟩

theorem append_of_queues {c c' : Client} (hq : AllQueued past c) {clipping : Clipping}
    (hc' : c'.clipboard = c.clipboard.enqueue clipping) (queues : e.Queues clipping) :
    AllQueued (past ++ [e]) c' := by
  intro clipping' hmem
  rw [hc', Clipboard.toList_enqueue, List.mem_append, List.mem_singleton] at hmem
  rcases hmem with hmem | rfl
  · obtain ⟨e', hpast, queues'⟩ := hq clipping' hmem
    exact ⟨e', List.mem_append_left _ hpast, queues'⟩
  · exact ⟨e, by simp, queues⟩

/-- Whatever occurs, the clipboard holds nothing that was not queued. -/
theorem step (hq : AllQueued past x.client) (occurs : Occurs h x e y) :
    AllQueued (past ++ [e]) y.client := by
  have same : ∀ {c'}, c'.clipboard = x.client.clipboard → AllQueued (past ++ [e]) c' :=
    fun hc => hq.append_of_subset (by rw [hc]; exact List.Subset.refl _) e
  cases occurs with
  | @performed op log result y course =>
    have hend := course.end_of_meets (plan_deletes op x.client.workspace (x.begins op))
    rcases hend with hsub | ⟨name, clipping, source, rfl, hok, hboard, horigin, token, hread⟩
    · exact hq.append_of_subset hsub _
    · refine hq.append_of_queues hboard
        ⟨⟨name, rfl⟩, ?_, hboard, source, horigin, token, ?_⟩
      · cases result with
        | ok a => rfl
        | error error => cases hok
      · rcases List.mem_append.mp hread with hfirst | hlog
        · simp [Scene.begins] at hfirst
        · simp [hlog]
  | cleared => exact hq.append_of_subset (List.nil_subset _) _
  | inquired asked | inquiredQuietly asked =>
    exact same (congrArg Workspace.clipboard asked.workspace_eq)
  | challenged | tokenMade => exact same rfl

end AllQueued

/-- Whenever a copy, a paste or a move deletes a path, it has before that written another one
successfully, with the content that was read at the deleted path: by the operation itself before
its write or, for a paste, by the earlier copy or cut that queued what it pastes. -/
theorem delete_after_write {σ : Type} (h : Host (StateM σ)) (directory : String) (s : σ)
    (actions : List Action) {earlier later : List Episode} {e : Episode} {op : Operation}
    {before after : List Interaction} {source : String} {token : Option String}
    {outcome : Outcome}
    (hrun : (run h actions ⟨.startingIn directory, s⟩).1 = earlier ++ e :: later)
    (hop : e.action = .perform op) (htransfer : op.isTransfer = true)
    (hlog : e.log = before ++ .submitted (.delete source) token outcome :: after) :
    ∃ start rest destination content token receipt, destination ≠ source ∧
      before =
        start ++ .submitted (.write destination (some content)) token (.ok receipt) :: rest ∧
      (op ≠ .paste ∧ Fetched source content start ∨
        op = .paste ∧ ∃ clipping, e.before.clipboard.Offers clipping source content ∧
          ∃ e' ∈ earlier, e'.Queues clipping) := by
  obtain ⟨x, y, occurs, hqueued⟩ := run_invariant h (P := AllQueued)
    (fun hq occurs => hq.step occurs) actions ⟨.startingIn directory, s⟩ []
    (AllQueued.startingIn directory) hrun
  rw [List.nil_append] at hqueued
  have hdeletes := occurs.request_of_meets hop (plan_deletes op x.client.workspace _) hlog
  obtain ⟨start, rest, destination, content, token', receipt, hne, hbefore, htook⟩ :=
    hdeletes htransfer source rfl
  refine ⟨start, rest, destination, content, token', receipt, hne, hbefore, ?_⟩
  cases op with
  | paste =>
    obtain ⟨clipping, offers⟩ := htook
    rw [occurs.before_eq]
    exact .inr ⟨rfl, clipping, offers, hqueued clipping offers.mem⟩
  | copy name newName isCut => exact .inl ⟨by simp, htook⟩
  | move oldName newName => exact .inl ⟨by simp, htook⟩
  | _ => cases htransfer

/-- What is cut in one directory and pasted in another was read by the cut. -/
theorem delete_after_write_of_cut_pasted :
    ∃ e₁ e₂ e₃ before after,
      (run (.constant (.ok .empty) (.ok none))
        [.perform (.copy "a" none true), .perform (.changeDirectory "b"), .perform .paste]
        ⟨.startingIn "/", ()⟩).1 = [e₁, e₂, e₃] ∧
      e₃.log = before ++ .submitted (.delete "/a") none (.ok .empty) :: after ∧
      ∃ content clipping, e₃.before.clipboard.Offers clipping "/a" content ∧
        ∃ e' ∈ [e₁, e₂], e'.Queues clipping := by
  obtain ⟨e₁, e₂, e₃, hrun, hop, hlog⟩ : ∃ e₁ e₂ e₃,
      (run (.constant (.ok .empty) (.ok none))
        [.perform (.copy "a" none true), .perform (.changeDirectory "b"), .perform .paste]
        ⟨.startingIn "/", ()⟩).1 = [e₁, e₂, e₃] ∧
      e₃.action = .perform .paste ∧
      e₃.log = [.announced (.began 3 .paste), .drew "0",
        .submitted (.write "/b/a" (some .empty)) none (.ok .empty), .drew "0"] ++
        .submitted (.delete "/a") none (.ok .empty) :: [.announced (.completed 3 .paste)] :=
    ⟨_, _, _, rfl, rfl, by decide +kernel⟩
  have hrun' : _ = [e₁, e₂] ++ e₃ :: [] := hrun
  obtain ⟨start, rest, destination, content, token, receipt, hne, hbefore, hread | hpaste⟩ :=
    delete_after_write _ _ _ _ hrun' hop rfl hlog
  · exact absurd rfl hread.1
  · exact ⟨e₁, e₂, e₃, _, _, hrun, hlog, content, hpaste.2⟩

end RemoteFiles
